/-
Images that were cut off.

A reader sees its bytes from the front and never asks how many there are behind what it takes.
So more bytes behind the same ones change nothing, except that a reader for which the bytes ran
out may go on.  An image that was cut off can therefore not be read: the reader would read the
same from the whole image and leave a part of it, but it reads all of it.

* `Image.Stable`: more bytes change nothing, unless the bytes ran out.  `Image.Stable.bind`: so it
  is for a reader of parts, if it is so for the readers of the parts.
* `Image.stable_getSnapshot`: the reader of snapshots is stable.
* `Snapshot.decode_of_isPrefix`: no part of an image that is cut off at its end is read.

Design notes: nothing here depends on how a snapshot is written, so a cut inside of a number, of
a text or between two sequences needs no case of its own.  That an image is read to its last byte
is known from reading it back (`Image.reads_getSnapshot`).
-/
import StackLang.Proofs.Image

namespace StackLang

namespace Image

variable {α β : Type}

/-! ### Stable readers -/

/-- With more bytes behind, the reader takes the same and leaves so much more, or fails in the
same way, unless it was for the end of the bytes that it failed. -/
def Stable (get : Reader α) : Prop :=
  ∀ bytes more,
    (∀ x rest, get bytes = .ok (x, rest) → get (bytes ++ more) = .ok (x, rest ++ more)) ∧
      ∀ e, get bytes = .error e → e ≠ .endOfData → get (bytes ++ more) = .error e

theorem stable_pure (x : α) : Stable (pure x : Reader α) := by
  intro bytes more
  constructor
  · rintro y rest ⟨⟩
    rfl
  · rintro e ⟨⟩

theorem stable_throw (e : ImageError) : Stable (throw e : Reader α) := by
  intro bytes more
  constructor
  · rintro x rest ⟨⟩
  · rintro e' ⟨⟩ -
    rfl

theorem Stable.bind {get : Reader α} {next : α → Reader β} (hget : Stable get)
    (hnext : ∀ x, Stable (next x)) : Stable (get >>= next) := by
  intro bytes more
  obtain ⟨hok, herror⟩ := hget bytes more
  rw [bind_apply, bind_apply]
  rcases hbytes : get bytes with e | ⟨x, rest⟩
  · -- the first reader failed, so only its error can come up again
    constructor
    · rintro y rest' ⟨⟩
    · rintro e' ⟨⟩ hne
      rw [herror e hbytes hne]
  · rw [hok x rest hbytes]
    exact hnext x rest more

/-! ### The readers of an image -/

theorem stable_getByte : Stable getByte := by
  intro bytes more
  rcases bytes with _ | ⟨byte, rest⟩
  · constructor
    · rintro x rest ⟨⟩
    · rintro e ⟨⟩ hne
      exact absurd rfl hne
  · constructor
    · rintro x rest' ⟨⟩
      rfl
    · rintro e ⟨⟩

theorem stable_getBytes (count : Nat) : Stable (getBytes count) := by
  intro bytes more
  by_cases hshort : bytes.length < count
  · rw [getBytes, if_pos hshort]
    constructor
    · rintro x rest ⟨⟩
    · rintro e ⟨⟩ hne
      exact absurd rfl hne
  · have hle : count ≤ bytes.length := Nat.not_lt.mp hshort
    have hlong : ¬ (bytes ++ more).length < count := by
      rw [List.length_append]
      omega
    rw [getBytes, getBytes, if_neg hshort, if_neg hlong, List.take_append_of_le_length hle,
      List.drop_append_of_le_length hle]
    constructor
    · rintro x rest ⟨⟩
      rfl
    · rintro e ⟨⟩

theorem stable_getNat (top groups : Nat) : Stable (getNat top groups) := by
  induction groups with
  | zero => exact stable_throw .badNumber
  | succ groups ih =>
    rw [getNat]
    refine stable_getByte.bind fun byte => ?_
    split
    · split
      · exact stable_throw .badNumber
      · exact stable_pure _
    · exact ih.bind fun high => stable_pure _

theorem stable_getItems {get : Reader α} (h : Stable get) (count : Nat) (items : Array α) :
    Stable (getItems get count items) := by
  induction count generalizing items with
  | zero => exact stable_pure items
  | succ count ih => exact h.bind fun item => ih (items.push item)

theorem stable_getArray {get : Reader α} (h : Stable get) : Stable (getArray get) :=
  (stable_getNat 1 10).bind fun count => stable_getItems h count #[]

theorem stable_getString : Stable getString := by
  refine (stable_getNat 1 10).bind fun count => (stable_getBytes count).bind fun bytes => ?_
  split
  · exact stable_pure _
  · exact stable_throw .badText

theorem stable_getBinary32 : Stable getBinary32 := by
  intro bytes more
  unfold getBinary32
  split
  · constructor
    · rintro x rest ⟨⟩
      rfl
    · rintro e ⟨⟩
  · constructor
    · rintro x rest ⟨⟩
    · rintro e ⟨⟩ hne
      exact absurd rfl hne

theorem stable_getBool : Stable getBool := by
  refine stable_getByte.bind fun byte => ?_
  split
  · exact stable_pure false
  · split
    · exact stable_pure true
    · exact stable_throw .badBool

theorem stable_getCategory : Stable getCategory := by
  refine (stable_getNat 15 5).bind fun choice => ?_
  split
  · exact stable_pure _
  · exact stable_pure _
  · exact stable_pure _
  · exact stable_pure _
  · exact stable_throw .badChoice

theorem stable_getValue : Stable getValue := by
  refine (stable_getNat 15 5).bind fun choice => ?_
  split
  · exact stable_pure _
  · exact stable_getBinary32.bind fun x => stable_pure _
  · exact stable_getString.bind fun text => stable_pure _
  · exact stable_getBool.bind fun b => stable_pure _
  · exact stable_throw .badChoice

theorem stable_getSnapshot : Stable getSnapshot :=
  (stable_getArray stable_getString).bind fun _ =>
    (stable_getArray stable_getCategory).bind fun _ =>
      (stable_getArray stable_getValue).bind fun _ =>
        (stable_getArray stable_getValue).bind fun _ =>
          (stable_getNat 1 10).bind fun _ => stable_pure _

end Image

/-- **An image that was cut off is not read.**  If all its lengths could be written, what is
missing is noticed as such: the bytes end too early. -/
theorem Snapshot.decode_of_isPrefix {s : Snapshot} {bytes : Bytes} (h : bytes <+: s.encode)
    (hne : bytes ≠ s.encode) :
    ∃ e, Snapshot.decode bytes = .error e ∧ (s.Writable → e = .endOfData) := by
  obtain ⟨more, hmore⟩ := h
  have hcut : more ≠ [] := by
    rintro rfl
    exact hne (by simpa using hmore)
  obtain ⟨hok, herror⟩ := Image.stable_getSnapshot bytes more
  -- the whole image is read to its end, or not at all
  obtain ⟨hwhole, hnone⟩ := Image.reads_getSnapshot s []
  rw [List.append_nil, ← hmore] at hwhole hnone
  rcases hget : Image.getSnapshot bytes with e | ⟨s', rest⟩
  · have hdecode : Snapshot.decode bytes = .error e := by
      rw [Snapshot.decode, StateT.run, hget]
      rfl
    refine ⟨e, hdecode, fun hwritable => ?_⟩
    by_contra hother
    have hsame := herror e hget hother
    rw [hwhole hwritable] at hsame
    cases hsame
  · have hsame := hok s' rest hget
    exfalso
    by_cases hwritable : s.Writable
    · rw [hwhole hwritable, Except.ok.injEq, Prod.mk.injEq] at hsame
      exact hcut (List.append_eq_nil_iff.mp hsame.2.symm).2
    · obtain ⟨e, he⟩ := hnone hwritable
      rw [he] at hsame
      cases hsame

/-- A number and a boolean under names of which one is not ASCII, with a text as a constant. -/
def Snapshot.stored : Snapshot where
  names := ⟨#["größe", "b"], #[.float, .boolean]⟩
  constants := ⟨#[.string "text"]⟩
  slots := ⟨#[.number ⟨0x3fc00000⟩, .boolean true], 300⟩

/-- The image of this session ends too early, if it is cut off inside of a character of the first
name or between the two groups of the capacity, which is one byte in front of its end. -/
theorem Snapshot.decode_of_isPrefix_stored :
    (Snapshot.stored.encode.take 5 <+: Snapshot.stored.encode ∧
      Snapshot.stored.encode.take 5 ≠ Snapshot.stored.encode ∧
      Snapshot.decode (Snapshot.stored.encode.take 5) = .error .endOfData) ∧
    Snapshot.stored.encode.take 30 <+: Snapshot.stored.encode ∧
      Snapshot.stored.encode.take 30 ≠ Snapshot.stored.encode ∧
      Snapshot.decode (Snapshot.stored.encode.take 30) = .error .endOfData := by
  have hread : Snapshot.decode (Snapshot.stored.encode ++ []) = .ok .stored := by decide +kernel
  have hwritable : Snapshot.stored.Writable := Snapshot.decode_encode_append_iff.mp hread
  have hname : Snapshot.stored.encode.take 5 ≠ Snapshot.stored.encode := by decide +kernel
  have hcapacity : Snapshot.stored.encode.take 30 ≠ Snapshot.stored.encode := by decide +kernel
  obtain ⟨e, he, hend⟩ := Snapshot.decode_of_isPrefix (List.take_prefix 5 _) hname
  obtain ⟨e', he', hend'⟩ := Snapshot.decode_of_isPrefix (List.take_prefix 30 _) hcapacity
  rw [hend hwritable] at he
  rw [hend' hwritable] at he'
  exact ⟨⟨List.take_prefix 5 _, hname, he⟩, List.take_prefix 30 _, hcapacity, he'⟩

end StackLang
