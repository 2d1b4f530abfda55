/-
Images whose parts fit together.

An image has the names, their categories and the values of the slots one after the other, and
its reader does not compare them.  A session that takes an image over trusts them.  So it is in
order exactly if they fit together, and then no input meets a value of the wrong type.  An image
whose parts do not fit together is taken over all the same.

* `Snapshot.Linked`: the names are distinct, and each has one category, which is that of its
  value.
* `Session.WellFormed`: the same for a session and what its slots hold.
  `Session.wellFormed_eval` is the step and `Session.wellFormed_evalAll` the induction over
  inputs.
* `Session.linked_snapshot`: what a session stores fits together.
* `Session.restoreImage_wellFormed_iff`: which images leave a session in order, and what follows.
* `Session.restoreImage_mislabeled`: an image that is taken over and leads to a value of the
  wrong type.

Design notes: nothing is assumed about the number of names in an image, or about its constants.
-/
import StackLang.Proofs.Growth
import StackLang.Proofs.Requests

namespace StackLang

/-! ### Parts that fit together -/

/-- No name stands twice, and every name has one category, which is that of the value stored for
it. -/
structure Snapshot.Linked (snapshot : Snapshot) : Prop where
  distinct : snapshot.names.names.toList.Nodup
  size_eq : snapshot.names.categories.size = snapshot.names.size
  category_eq : ∀ position < snapshot.names.size, snapshot.names.categories[position]? =
    some (.ofValue (snapshot.slots.values[position]?.getD .empty))

instance (snapshot : Snapshot) : Decidable snapshot.Linked :=
  decidable_of_iff
    (snapshot.names.names.toList.Nodup ∧ snapshot.names.categories.size = snapshot.names.size ∧
      ∀ position < snapshot.names.size, snapshot.names.categories[position]? =
        some (.ofValue (snapshot.slots.values[position]?.getD .empty)))
    ⟨fun ⟨hdistinct, hsize, hcategory⟩ => ⟨hdistinct, hsize, hcategory⟩,
      fun h => ⟨h.distinct, h.size_eq, h.category_eq⟩⟩

namespace Session

/-- No name stands twice, and every name has one category, which is that of the value that its
slot holds. -/
structure WellFormed (s : Session) : Prop where
  distinct : s.names.names.toList.Nodup
  tracks : s.names.Tracks s.slots

variable {s s' : Session} {snapshot : Snapshot}

/-- With all stored slots within the capacity, a session is in order exactly if its snapshot
is. -/
theorem wellFormed_iff_linked (hbounded : s.slots.Bounded) :
    s.WellFormed ↔ s.snapshot.Linked := by
  constructor
  · intro h
    refine ⟨h.distinct, h.tracks.size_eq, fun position hposition => ?_⟩
    rw [show s.snapshot.slots = s.slots from rfl, ← hbounded.held_eq]
    exact h.tracks.category_eq position hposition
  · intro h
    refine ⟨h.distinct, h.size_eq, fun position hposition => ?_⟩
    rw [hbounded.held_eq]
    exact h.category_eq position hposition

/-! ### Inputs keep a session in order -/

theorem wellFormed_new (config : Config) : (new config).WellFormed :=
  ⟨List.nodup_nil, (consistent_new config).tracks⟩

theorem wellFormed_execute {program : Program} {unit : CodeUnit} (out : Sink)
    (hcompile : CodeUnit.ofProgram s.names s.constants program = (unit, []))
    (h : s.WellFormed) :
    (s.execute unit out).2.1.WellFormed ∧
      ∀ e, (s.execute unit out).1 = .error (.run e) → e.isExpected := by
  obtain ⟨htracks, hexpected⟩ := tracks_execute out hcompile h.tracks
  refine ⟨⟨?_, htracks⟩, hexpected⟩
  obtain ⟨code, hemits, -⟩ := emitsAll_of_ofProgram hcompile
  have hdistinct : unit.names.names.toList.Nodup :=
    hemits.keeps (fun _ _ _ _ _ => NameTable.nodup_of_declare) h.distinct
  -- the names are the old ones or those of the unit
  rcases execute_cases s unit out with
    ⟨e, -, hexecute⟩ | ⟨top, m, hexecute⟩ | ⟨e, m, -, hexecute⟩
  · rw [hexecute]
    exact h.distinct
  · rw [hexecute]
    exact hdistinct
  · rw [hexecute]
    dsimp only
    rw [names_reconcile]
    exact hdistinct

/-- An input keeps a session in order, whatever becomes of it, and only expected errors of a run
come of it. -/
theorem wellFormed_eval (h : s.WellFormed) (source : String) (out : Sink) :
    (s.eval source out).2.1.WellFormed ∧
      ∀ e, (s.eval source out).1 = .error (.run e) → e.isExpected := by
  rw [eval]
  cases hcompile : s.compile source with
  | error e =>
    refine ⟨h, fun e' he => ?_⟩
    cases he
    exact absurd hcompile compile_ne_run
  | ok unit => exact wellFormed_execute out (ofProgram_of_compile hcompile) h

theorem wellFormed_evalAll (h : s.WellFormed) (inputs : List (String × Sink)) :
    (s.evalAll inputs).WellFormed := by
  induction inputs generalizing s with
  | nil => exact h
  | cons input inputs ih => exact ih (wellFormed_eval h input.1 input.2).1

/-- What a session stores fits together, whatever its inputs were. -/
theorem linked_snapshot (config : Config) (inputs : List (String × Sink)) :
    ((new config).evalAll inputs).snapshot.Linked := by
  obtain ⟨hkept, -, -⟩ := kept_evalAll (kept_new config) inputs
  exact (wellFormed_iff_linked hkept.fits.bounded).mp
    (wellFormed_evalAll (wellFormed_new config) inputs)

/-! ### Images that are taken over -/

/-- A session that has taken over a snapshot is in order exactly if the snapshot was. -/
theorem wellFormed_restore_iff (h : s.restore snapshot = .ok () s') :
    s'.WellFormed ↔ snapshot.Linked := by
  obtain ⟨hle, rfl⟩ := eq_of_restore_eq_ok h
  refine Iff.trans (wellFormed_iff_linked ?_) ?_
  · exact hle
  · -- the capacity is no part of what has to fit together
    exact ⟨fun h => ⟨h.distinct, h.size_eq, h.category_eq⟩,
      fun h => ⟨h.distinct, h.size_eq, h.category_eq⟩⟩

/-- **A session is as good as the image that it takes over.**  If a session takes over an image,
it is in order then exactly if the parts of the image fit together: no name stands twice, and
every name has one category, which is that of its value.  In that case it stays in order
whatever its inputs are, and no input leads to a value of the wrong type or to any other
unexpected error.  The parts of every image that a session has stored fit together. -/
theorem restoreImage_wellFormed_iff {image : Bytes}
    (h : World.restoreImage s image = .ok () s') :
    ∃ snapshot, Snapshot.decode image = .ok snapshot ∧
      (s'.WellFormed ↔ snapshot.Linked) ∧
      (snapshot.Linked → ∀ inputs, (s'.evalAll inputs).WellFormed ∧
        ∀ source out e, ((s'.evalAll inputs).eval source out).1 = .error (.run e) →
          e.isExpected) ∧
      ∀ config inputs, image = ((new config).evalAll inputs).snapshot.encode →
        snapshot.Linked := by
  rw [World.restoreImage] at h
  split at h
  · rename_i snapshot hdecode
    have hiff := wellFormed_restore_iff h
    refine ⟨snapshot, hdecode, hiff, ?_, ?_⟩
    · intro hlinked inputs
      have hwell := wellFormed_evalAll (hiff.mpr hlinked) inputs
      exact ⟨hwell, fun source out => (wellFormed_eval hwell source out).2⟩
    · rintro config inputs rfl
      rw [Snapshot.eq_of_decode_encode hdecode]
      exact linked_snapshot config inputs
  · cases h

/-- Whether two restorations end alike can be decided. -/
instance : DecidableEq (EStateM.Result SessionError Session Unit)
  | .ok _ s, .ok _ s' => decidable_of_iff (s = s') (by simp)
  | .error e s, .error e' s' => decidable_of_iff (e = e' ∧ s = s') (by simp)
  | .ok _ _, .error _ _ => isFalse fun h => by cases h
  | .error _ _, .ok _ _ => isFalse fun h => by cases h

/-- The image of a variable `x` that holds the string `s` and is recorded as one. -/
def labeledImage : Bytes :=
  [1, 1, 0x78, 1, 1, 0, 1, 2, 1, 0x73, 8]

/-- A new session takes over the image with the right record and is in order.  It refuses to add
a number to the string, and no input ever leads to an unexpected error. -/
theorem restoreImage_labeled :
    ∃ s', World.restoreImage (new {}) labeledImage = .ok () s' ∧ s'.WellFormed ∧
      (s'.eval "x + 1" {}).1 =
        .error (.diagnostics [.compiling ⟨.invalidOperands .plus .string .float, ⟨1, 3⟩⟩]) ∧
      ∀ inputs source out e,
        ((s'.evalAll inputs).eval source out).1 = .error (.run e) → e.isExpected := by
  have hrestore : World.restoreImage (new {}) labeledImage =
      .ok ()
        { config := {}, names := ⟨#["x"], #[.string]⟩, slots := ⟨#[.string "s"], 65536⟩ } := by
    decide +kernel
  obtain ⟨snapshot, hdecode, hiff, hlater, -⟩ := restoreImage_wellFormed_iff hrestore
  have hsnapshot : Snapshot.decode labeledImage =
      .ok ⟨⟨#["x"], #[.string]⟩, {}, ⟨#[.string "s"], 8⟩⟩ := by
    decide +kernel
  have hlinked : snapshot.Linked := by
    rw [hsnapshot] at hdecode
    cases hdecode
    decide
  exact ⟨_, hrestore, hiff.mpr hlinked, by decide +kernel,
    fun inputs => (hlater hlinked inputs).2⟩

/-- The same image with the record of a number. -/
def mislabeledImage : Bytes :=
  [1, 1, 0x78, 1, 0, 0, 1, 2, 1, 0x73, 8]

/-- The image of a name that stands twice, without values. -/
def doubledImage : Bytes :=
  [2, 1, 0x78, 1, 0x78, 2, 3, 3, 0, 0, 8]

/-- A new session takes over the image with the wrong record, and the next input finds a string
where code for a number was compiled.  It takes over a name that stands twice as well. -/
theorem restoreImage_mislabeled :
    (∃ s', World.restoreImage (new {}) mislabeledImage = .ok () s' ∧ ¬ s'.WellFormed ∧
      (s'.eval "x + 1" {}).1 = .error (.run (.typeMismatch 10 .add .number .string))) ∧
    ∃ s', World.restoreImage (new {}) doubledImage = .ok () s' ∧
      ¬ s'.names.names.toList.Nodup := by
  constructor
  · refine ⟨{ config := {}, names := ⟨#["x"], #[.float]⟩, slots := ⟨#[.string "s"], 65536⟩ },
      by decide +kernel, fun h => ?_, by decide +kernel⟩
    have hcategory := h.tracks.category_eq 0 (by decide)
    revert hcategory
    decide
  · exact ⟨{ config := {}, names := ⟨#["x", "x"], #[.unknown, .unknown]⟩, slots := ⟨#[], 65536⟩ },
      by decide +kernel, by decide⟩

end Session

end StackLang
