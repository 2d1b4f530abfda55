/-
Images are read back.

`Image.Reads fits get bytes x` says that the reader `get` takes `x` from the head of any text
that starts with `bytes`, exactly if `fits` holds, and fails otherwise.  A reader of parts
reads what a writer wrote part after part (`Reads.bind`), so each writer needs one lemma.

* `Image.reads_getNat`: a number is read back exactly if it fits the groups that the reader
  accepts.
* `Image.reads_getArray`: a sequence is read back if its length fits and its items do.
* `Image.reads_getSnapshot`: a snapshot is read back exactly if all its lengths can be written.
* `Snapshot.decode_encode_append_iff`: the same for whole images, whatever follows them.
* `Snapshot.eq_of_decode_encode`: an image that can be read at all is read back.
-/
import Mathlib.Tactic.Common
import StackLang.Session.Image

namespace StackLang

namespace Image

variable {α β : Type}

/-! ### Readers of parts -/

/-- From bytes that start with the given ones the reader takes `x` and leaves the rest, if
`fits` holds, and fails otherwise. -/
def Reads (fits : Prop) (get : Reader α) (bytes : Bytes) (x : α) : Prop :=
  ∀ rest, (fits → get (bytes ++ rest) = .ok (x, rest)) ∧
    (¬ fits → ∃ e, get (bytes ++ rest) = .error e)

theorem reads_of_eq {get : Reader α} {bytes : Bytes} {x : α}
    (h : ∀ rest, get (bytes ++ rest) = .ok (x, rest)) : Reads True get bytes x :=
  fun rest => ⟨fun _ => h rest, fun hnot => absurd trivial hnot⟩

theorem reads_pure (x : α) : Reads True (pure x) [] x :=
  reads_of_eq fun _ => rfl

theorem Reads.congr {fits fits' : Prop} {get : Reader α} {bytes : Bytes} {x : α}
    (h : Reads fits get bytes x) (hiff : fits ↔ fits') : Reads fits' get bytes x :=
  propext hiff ▸ h

/-- The second reader goes on with what the first one leaves. -/
theorem bind_apply (get : Reader α) (next : α → Reader β) (bytes : Bytes) :
    (get >>= next) bytes =
      match get bytes with
      | .ok (x, rest) => next x rest
      | .error e => .error e := by
  change StateT.bind get next _ = _
  rw [StateT.bind]
  cases get bytes with
  | ok pair => rfl
  | error e => rfl

theorem Reads.bind {fits₁ fits₂ : Prop} {get : Reader α} {next : α → Reader β}
    {bytes₁ bytes₂ : Bytes} {x : α} {y : β} (h₁ : Reads fits₁ get bytes₁ x)
    (h₂ : Reads fits₂ (next x) bytes₂ y) :
    Reads (fits₁ ∧ fits₂) (get >>= next) (bytes₁ ++ bytes₂) y := by
  intro rest
  rw [List.append_assoc, bind_apply]
  constructor
  · rintro ⟨hfits₁, hfits₂⟩
    rw [(h₁ _).1 hfits₁]
    exact (h₂ rest).1 hfits₂
  · intro hnot
    -- the first part that does not fit is the one at which reading fails
    by_cases hfits₁ : fits₁
    · rw [(h₁ _).1 hfits₁]
      exact (h₂ rest).2 fun hfits₂ => hnot ⟨hfits₁, hfits₂⟩
    · obtain ⟨e, he⟩ := (h₁ (bytes₂ ++ rest)).2 hfits₁
      rw [he]
      exact ⟨e, rfl⟩

/-- A reader that takes no more bytes than another one. -/
theorem Reads.bind_pure {fits : Prop} {get : Reader α} {next : α → Reader β} {bytes : Bytes}
    {x : α} {y : β} (h : Reads fits get bytes x) (hnext : next x = pure y) :
    Reads fits (get >>= next) bytes y := by
  have hpure : Reads True (next x) [] y := by
    rw [hnext]
    exact reads_pure y
  have hbind := h.bind hpure
  rw [List.append_nil] at hbind
  exact hbind.congr (and_iff_left trivial)

theorem reads_throw {fits : Prop} (hnot : ¬ fits) (e : ImageError) (bytes : Bytes) (x : α) :
    Reads fits (throw e) bytes x :=
  fun _ => ⟨fun hfits => absurd hfits hnot, fun _ => ⟨e, rfl⟩⟩

/-! ### Numbers -/

/-- The first number that does not fit `groups + 1` groups of seven bits, of which the last
one is at most `top`. -/
def bound (top : Nat) : Nat → Nat
  | 0 => top + 1
  | groups + 1 => 128 * bound top groups

theorem le_bound (top groups : Nat) : groups ≠ 0 → 128 ≤ bound top groups := by
  intro hne
  obtain ⟨groups, rfl⟩ := Nat.exists_eq_succ_of_ne_zero hne
  have hpos : 0 < bound top groups := by
    induction groups with
    | zero => exact Nat.succ_pos top
    | succ groups ih => exact Nat.mul_pos (by decide) (ih (Nat.succ_ne_zero _))
  exact Nat.le_mul_of_pos_right 128 hpos

theorem reads_getByte (byte : UInt8) : Reads True getByte [byte] byte :=
  reads_of_eq fun _ => rfl

/-- A last group. -/
theorem reads_getNat_of_lt {top groups n : Nat} (h : n < 128) :
    Reads (groups = 0 → n ≤ top) (getNat top (groups + 1)) [UInt8.ofNat n] n := by
  have hbyte : (UInt8.ofNat n).toNat = n := by
    rw [UInt8.toNat_ofNat']
    omega
  rw [getNat, ← List.append_nil [UInt8.ofNat n]]
  refine ((reads_getByte _).bind ?_).congr (and_iff_right trivial)
  rw [hbyte, if_pos h]
  split
  · rename_i hbad
    exact reads_throw (fun hfits => absurd (hfits hbad.1) (by omega)) _ _ _
  · rename_i hgood
    exact (reads_pure n).congr (by rw [true_iff]; omega)

/-- A group with more to come. -/
theorem reads_getNat_cons {fits : Prop} {top groups n : Nat} {bytes : Bytes}
    (hhigh : Reads fits (getNat top groups) bytes (n / 128)) :
    Reads fits (getNat top (groups + 1)) (UInt8.ofNat (128 + n % 128) :: bytes) n := by
  have hbyte : (UInt8.ofNat (128 + n % 128)).toNat = 128 + n % 128 := by
    rw [UInt8.toNat_ofNat']
    omega
  rw [getNat, ← List.singleton_append]
  refine ((reads_getByte _).bind ?_).congr (and_iff_right trivial)
  rw [hbyte, if_neg (by omega)]
  have hvalue : 128 + n % 128 - 128 + 128 * (n / 128) = n := by omega
  exact hhigh.bind_pure (congrArg pure hvalue)

/-- A number is read back exactly if it fits the groups. -/
theorem reads_getNat {top : Nat} (htop : top < 128) (groups n : Nat) :
    Reads (n < bound top groups) (getNat top (groups + 1)) (putNat n) n := by
  induction groups generalizing n with
  | zero =>
    rw [putNat]
    split
    · rename_i hsmall
      exact (reads_getNat_of_lt hsmall).congr (by rw [bound]; omega)
    · rename_i hlarge
      -- no group is left for the high digits
      exact reads_getNat_cons (reads_throw (by rw [bound]; omega) _ _ _)
  | succ groups ih =>
    rw [putNat]
    split
    · rename_i hsmall
      -- a number of one group fits whatever the last group may be
      have hle := le_bound top (groups + 1) (Nat.succ_ne_zero _)
      exact (reads_getNat_of_lt hsmall).congr (by omega)
    · rename_i hlarge
      refine (reads_getNat_cons (ih (n / 128))).congr ?_
      rw [bound]
      omega

/-- The first number that does not fit 64 bits. -/
def limit64 : Nat := 0x10000000000000000

theorem reads_getNat64 (n : Nat) : Reads (n < limit64) getNat64 (putNat n) n := by
  have hbound : bound 1 9 = limit64 := by decide
  rw [← hbound]
  exact reads_getNat (by decide) 9 n

theorem reads_getNat32 {n : Nat} (h : n < 128) : Reads True getNat32 (putNat n) n := by
  have hle := le_bound 15 4 (by decide)
  exact (reads_getNat (by decide) 4 n).congr (iff_true_intro (by omega))

/-! ### Sequences and texts -/

theorem reads_getItems {fits : α → Prop} {get : Reader α} {put : α → Bytes}
    (h : ∀ x, Reads (fits x) get (put x) x) (items : List α) (before : Array α) :
    Reads (∀ x ∈ items, fits x) (getItems get items.length before) (items.flatMap put)
      (before.toList ++ items).toArray := by
  induction items generalizing before with
  | nil =>
    rw [List.append_nil]
    exact (reads_pure before).congr (by simp)
  | cons x items ih =>
    have hitems := ih (before.push x)
    rw [Array.toList_push, List.append_assoc, List.singleton_append] at hitems
    rw [List.length_cons, getItems, List.flatMap_cons]
    exact ((h x).bind hitems).congr List.forall_mem_cons.symm

theorem reads_getArray {fits : α → Prop} {get : Reader α} {put : α → Bytes}
    (h : ∀ x, Reads (fits x) get (put x) x) (items : Array α) :
    Reads (items.size < limit64 ∧ ∀ x ∈ items.toList, fits x) (getArray get)
      (putArray put items) items :=
  (reads_getNat64 items.size).bind (reads_getItems h items.toList #[])

theorem reads_getBytes (bytes : Bytes) : Reads True (getBytes bytes.length) bytes bytes := by
  refine reads_of_eq fun rest => ?_
  have hle : ¬ (bytes ++ rest).length < bytes.length := by
    rw [List.length_append]
    omega
  rw [getBytes, if_neg hle, List.take_left, List.drop_left]

theorem ofUtf8?_utf8 (text : String) : Text.ofUtf8? (Text.utf8 text) = some text := by
  rw [Text.ofUtf8?, Text.utf8, String.fromUTF8?, Array.toArray_toList,
    String.toUTF8_eq_toByteArray, dif_pos text.isValidUTF8]
  rfl

theorem reads_getString (text : String) :
    Reads ((Text.utf8 text).length < limit64) getString (putString text) text := by
  refine ((reads_getNat64 _).bind ?_).congr (and_iff_left trivial)
  refine (reads_getBytes (Text.utf8 text)).bind_pure ?_
  rw [ofUtf8?_utf8]

/-! ### Values, categories and snapshots -/

theorem reads_getBinary32 (x : Binary32) : Reads True getBinary32 (putBinary32 x) x := by
  refine reads_of_eq fun rest => ?_
  have hlt := x.bits.toNat_lt
  have hvalue : x.bits.toNat % 256 + x.bits.toNat / 0x100 % 256 * 0x100 +
      x.bits.toNat / 0x10000 % 256 * 0x10000 +
      x.bits.toNat / 0x1000000 % 256 * 0x1000000 = x.bits.toNat := by
    omega
  simp only [putBinary32, List.cons_append, List.nil_append, getBinary32, UInt8.toNat_ofNat',
    Nat.reducePow, hvalue, UInt32.ofNat_toNat]

theorem reads_getBool (b : Bool) : Reads True getBool [if b then 1 else 0] b := by
  cases b with
  | false => exact reads_of_eq fun _ => rfl
  | true => exact reads_of_eq fun _ => rfl

theorem reads_getCategory (category : Category) :
    Reads True getCategory (putCategory category) category := by
  cases category with
  | float | string | boolean | unknown => exact (reads_getNat32 (by decide)).bind_pure rfl

/-- Whether the length of the text of a value, if it is one, can be written. -/
def Writable : Value → Prop
  | .string text => (Text.utf8 text).length < limit64
  | .empty | .number _ | .boolean _ => True

theorem reads_getValue (value : Value) :
    Reads (Writable value) getValue (putValue value) value := by
  cases value with
  | empty => exact (reads_getNat32 (by decide)).bind_pure rfl
  | number x =>
    refine ((reads_getNat32 (by decide)).bind ?_).congr (and_iff_left trivial)
    exact (reads_getBinary32 x).bind_pure rfl
  | string text =>
    refine ((reads_getNat32 (by decide)).bind ?_).congr (and_iff_right trivial)
    exact (reads_getString text).bind_pure rfl
  | boolean b =>
    refine ((reads_getNat32 (by decide)).bind ?_).congr (and_iff_left trivial)
    exact (reads_getBool b).bind_pure rfl

end Image

/-- All lengths of the snapshot can be written. -/
structure Snapshot.Writable (s : Snapshot) : Prop where
  names : s.names.names.size < Image.limit64 ∧
    ∀ name ∈ s.names.names.toList, (Text.utf8 name).length < Image.limit64
  categories : s.names.categories.size < Image.limit64
  constants : s.constants.values.size < Image.limit64 ∧
    ∀ value ∈ s.constants.values.toList, Image.Writable value
  values : s.slots.values.size < Image.limit64 ∧
    ∀ value ∈ s.slots.values.toList, Image.Writable value

/-- A snapshot is read back from its image, whatever follows, exactly if all its lengths can
be written. -/
theorem Image.reads_getSnapshot (s : Snapshot) :
    Reads s.Writable getSnapshot s.encode s := by
  have hcapacity : Reads True getNat64 (putNat s.slots.capacity.toNat) s.slots.capacity.toNat :=
    (reads_getNat64 _).congr (iff_true_intro s.slots.capacity.toNat_lt)
  have hcategories : Reads (s.names.categories.size < limit64) (getArray getCategory)
      (putArray putCategory s.names.categories) s.names.categories :=
    (reads_getArray reads_getCategory _).congr (and_iff_left fun _ _ => trivial)
  have hcapacity' : UInt64.ofNat s.slots.capacity.toNat = s.slots.capacity :=
    UInt64.ofNat_toNat
  rw [getSnapshot, Snapshot.encode]
  simp only [List.append_assoc]
  refine Reads.congr ((reads_getArray reads_getString _).bind (hcategories.bind
    ((reads_getArray reads_getValue _).bind ((reads_getArray reads_getValue _).bind
      (hcapacity.bind_pure ?_))))) ?_
  · rw [hcapacity']
  · constructor
    · rintro ⟨hnames, hcategories, hconstants, hvalues, -⟩
      exact ⟨hnames, hcategories, hconstants, hvalues⟩
    · rintro ⟨hnames, hcategories, hconstants, hvalues⟩
      exact ⟨hnames, hcategories, hconstants, hvalues, trivial⟩

/-- A snapshot is read back from its image exactly if all its lengths can be written. -/
theorem Snapshot.decode_encode_append_iff {s : Snapshot} {rest : Bytes} :
    Snapshot.decode (s.encode ++ rest) = .ok s ↔ s.Writable := by
  have hreads := Image.reads_getSnapshot s rest
  by_cases hwritable : s.Writable
  · have hget : Image.getSnapshot.run (s.encode ++ rest) = .ok (s, rest) := hreads.1 hwritable
    refine iff_of_true ?_ hwritable
    rw [Snapshot.decode, hget]
    rfl
  · obtain ⟨e, he⟩ := hreads.2 hwritable
    have hget : Image.getSnapshot.run (s.encode ++ rest) = .error e := he
    refine iff_of_false (fun h => ?_) hwritable
    rw [Snapshot.decode, hget] at h
    cases h

/-- An image that can be read at all is read back. -/
theorem Snapshot.eq_of_decode_encode {s s' : Snapshot} (h : Snapshot.decode s.encode = .ok s') :
    s' = s := by
  have hreads := Image.reads_getSnapshot s []
  rw [List.append_nil] at hreads
  rw [Snapshot.decode] at h
  by_cases hwritable : s.Writable
  · have hget : Image.getSnapshot.run s.encode = .ok (s, []) := hreads.1 hwritable
    rw [hget] at h
    cases h
    rfl
  · obtain ⟨e, he⟩ := hreads.2 hwritable
    have hget : Image.getSnapshot.run s.encode = .error e := he
    rw [hget] at h
    cases h

end StackLang
