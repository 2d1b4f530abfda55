/-
Sessions never lose track of their variables.

What the compiler knows of a variable is a record in the name table, and the value is in a
slot.  A run may stop between the two: at a division by zero, at a full sink, at the step
limit, at a slot beyond the capacity.  Then the records are set anew from the slots.  So the
records are always true, and code that was compiled against them never meets a value of the
wrong type.

* `Session.tracks_reconcile`: records set anew are true.
* `Session.tracks_execute`: the run of a compiled unit leaves true records, however it ends, and
  has expected errors only.
* `Consistent`: the records are true, and the tables have the shape that sessions give them.
* `RunError.isExpected`: the errors of runs that inputs can lead to.
* `Session.compile_eq_ok_iff`, `Session.ofProgram_of_compile`: the program behind a unit that
  compiled.
* `Session.eq_of_restore_eq_ok`, `Session.eq_of_restore_eq_error`: what a restoration leaves.
* `Session.consistent_eval`, `Session.consistent_restore`: what each operation of a session
  preserves.

Design notes: a table that was not built by declarations may have more names than words can
name.  Setting the records anew does not reach these, but neither does anything else
(`NameTable.TracksBeyond`), so records that were true stay true in any table.
-/
import StackLang.Proofs.Simulation
import StackLang.Session.Basic

namespace StackLang

/-! ### Name tables as sessions build them -/

namespace NameTable

variable {names names' : NameTable} {slots : Slots}

/-- Every name has one category, and every name can be named by an operand. -/
structure Regular (names : NameTable) : Prop where
  size_eq : names.categories.size = names.size
  addressable : names.size ≤ UInt32.size

theorem Regular.declare {name : String} {category : Category} {slot : UInt32}
    (h : names.Regular) (hdeclare : names.declare name category = some (slot, names')) :
    names'.Regular := by
  rcases declare_cases hdeclare with ⟨-, rfl⟩ | ⟨-, hslot, rfl⟩
  · refine ⟨?_, h.addressable⟩
    rw [size_setCategory, ← h.size_eq]
    exact Array.size_setIfInBounds
  · have hlt := slot.toNat_lt
    refine ⟨?_, ?_⟩
    · rw [size, Array.size_push, Array.size_push, h.size_eq]
      rfl
    · rw [size, Array.size_push]
      rw [hslot] at hlt
      exact hlt

/-- Every name has one category, and that of a name which no operand can name is the category
of the value that its slot holds. -/
structure TracksBeyond (names : NameTable) (slots : Slots) : Prop where
  size_eq : names.categories.size = names.size
  category_eq : ∀ position < names.size, UInt32.size ≤ position →
    names.categories[position]? = some (.ofValue (slots.held position))

theorem Tracks.beyond (h : names.Tracks slots) : names.TracksBeyond slots :=
  ⟨h.size_eq, fun position hposition _ => h.category_eq position hposition⟩

theorem Regular.beyond (h : names.Regular) (slots : Slots) : names.TracksBeyond slots := by
  refine ⟨h.size_eq, fun position hposition hword => ?_⟩
  have := h.addressable
  omega

/-- A declaration changes nothing at positions that no operand can name. -/
theorem TracksBeyond.declare {name : String} {category : Category} {slot : UInt32}
    (h : names.TracksBeyond slots) (hdeclare : names.declare name category = some (slot, names')) :
    names'.TracksBeyond slots := by
  have hlt := slot.toNat_lt
  rcases declare_cases hdeclare with ⟨-, rfl⟩ | ⟨-, hslot, rfl⟩
  · refine ⟨?_, fun position hposition hword => ?_⟩
    · rw [size_setCategory, ← h.size_eq]
      exact Array.size_setIfInBounds
    · have hne : slot.toNat ≠ position := by
        rw [UInt32.size] at hword
        omega
      rw [NameTable.setCategory, Array.getElem?_setIfInBounds, if_neg hne]
      exact h.category_eq position hposition hword
  · have hregular : names.Regular := ⟨h.size_eq, by rw [← hslot]; exact Nat.le_of_lt hlt⟩
    exact (hregular.declare hdeclare).beyond slots

theorem TracksBeyond.keptByStore (names : NameTable) (slot : UInt32) :
    Machine.KeptByStore names.TracksBeyond slot := by
  intro slots slots' value h hset
  refine ⟨h.size_eq, fun position hposition hword => ?_⟩
  have hne : position ≠ slot.toNat := by
    have hlt := slot.toNat_lt
    rw [UInt32.size] at hword
    omega
  rw [Slots.held_of_set hset, if_neg hne]
  exact h.category_eq position hposition hword

end NameTable

/-- What declarations keep of a name table, the statements of a program keep. -/
theorem EmitsAll.keeps {P : NameTable → Prop}
    (hdeclare : ∀ ⦃names names' : NameTable⦄ ⦃name : String⦄ ⦃category : Category⦄
      ⦃slot : UInt32⦄, names.declare name category = some (slot, names') → P names → P names')
    {names names' : NameTable} {pool pool' : ConstantPool} {program : Program}
    {code : List Instruction} (h : EmitsAll names pool program code names' pool')
    (hnames : P names) : P names' := by
  induction h with
  | nil => exact hnames
  | cons first _ ih =>
    refine ih ?_
    cases first with
    | declare _ _ entry => exact hdeclare entry hnames
    | expr _ => exact hnames
    | print _ => exact hnames

/-! ### Records set anew -/

namespace Session

variable {names : NameTable} {slots : Slots}

theorem heldCategory_eq (slots : Slots) (slot : UInt32) :
    heldCategory slots slot = .ofValue (slots.held slot.toNat) := by
  rw [heldCategory, Slots.get?_eq_held]
  split
  · rfl
  · rename_i hge
    rw [Slots.held, if_neg hge]
    rfl

/-- One step of `reconcile`. -/
def reconcileSlot (slots : Slots) (names : NameTable) (position : Nat) : NameTable :=
  match index32 position with
  | some slot => names.setCategory slot (heldCategory slots slot)
  | none => names

theorem reconcileSlot_eq {position : Nat} (h : position < UInt32.size) (slots : Slots)
    (names : NameTable) :
    reconcileSlot slots names position =
      { names with
        categories := names.categories.setIfInBounds position
          (.ofValue (slots.held position)) } := by
  have hslot : (UInt32.ofNat position).toNat = position := UInt32.toNat_ofNat_of_lt' h
  have hindex : index32 position = some (UInt32.ofNat position) := index32_eq_some_iff.mpr hslot
  rw [reconcileSlot, hindex]
  dsimp only
  rw [heldCategory_eq, NameTable.setCategory, hslot]

theorem reconcileSlot_of_not_lt {position : Nat} (h : ¬ position < UInt32.size) (slots : Slots)
    (names : NameTable) : reconcileSlot slots names position = names := by
  have hindex : index32 position = none := if_neg h
  rw [reconcileSlot, hindex]

/-- After the first slots were gone through, those that have a record have a true one; the
names and all other records are as they were. -/
theorem reconcile_slots (slots : Slots) (names : NameTable) (count : Nat) :
    ((List.range count).foldl (reconcileSlot slots) names).names = names.names ∧
      ((List.range count).foldl (reconcileSlot slots) names).categories.size =
        names.categories.size ∧
      ∀ position < names.categories.size,
        ((List.range count).foldl (reconcileSlot slots) names).categories[position]? =
          if position < count ∧ position < UInt32.size then some (.ofValue (slots.held position))
          else names.categories[position]? := by
  induction count with
  | zero => exact ⟨rfl, rfl, fun position _ => (if_neg (by omega)).symm⟩
  | succ count ih =>
    -- one slot more is gone through; it is the last one that was not
    obtain ⟨hnames, hsize, hrecords⟩ := ih
    rw [List.range_succ, List.foldl_append, List.foldl_cons, List.foldl_nil]
    by_cases hword : count < UInt32.size
    · rw [reconcileSlot_eq hword]
      refine ⟨hnames, by rw [Array.size_setIfInBounds, hsize], fun position hposition => ?_⟩
      rw [Array.getElem?_setIfInBounds, hsize]
      by_cases heq : count = position
      · subst heq
        rw [if_pos rfl, if_pos hposition, if_pos ⟨Nat.lt_succ_self _, hword⟩]
      · rw [if_neg heq, hrecords position hposition]
        exact if_congr (by omega) rfl rfl
    · rw [reconcileSlot_of_not_lt hword]
      refine ⟨hnames, hsize, fun position hposition => ?_⟩
      rw [hrecords position hposition]
      exact if_congr (by omega) rfl rfl

theorem names_reconcile (slots : Slots) (names : NameTable) :
    (reconcile slots names).names = names.names :=
  (reconcile_slots slots names names.size).1

/-- Setting the records anew makes them true, if those that it does not reach are. -/
theorem tracks_reconcile_of_beyond (h : names.TracksBeyond slots) :
    (reconcile slots names).Tracks slots ∧ (reconcile slots names).size = names.size := by
  have hreconcile : reconcile slots names =
      (List.range names.size).foldl (reconcileSlot slots) names := rfl
  obtain ⟨-, hsize, hrecords⟩ := reconcile_slots slots names names.size
  have hsize' : (reconcile slots names).size = names.size := by
    rw [NameTable.size, names_reconcile]
    rfl
  refine ⟨⟨?_, ?_⟩, hsize'⟩
  · rw [hsize', hreconcile, hsize, h.size_eq]
  · intro position hposition
    rw [hsize'] at hposition
    rw [hreconcile, hrecords position (by rw [h.size_eq]; exact hposition)]
    by_cases hword : position < UInt32.size
    · rw [if_pos ⟨hposition, hword⟩]
    · rw [if_neg (fun h => hword h.2)]
      exact h.category_eq position hposition (Nat.not_lt.mp hword)

/-- Setting the records anew makes them true, whatever they were. -/
theorem tracks_reconcile (h : names.Regular) (slots : Slots) :
    (reconcile slots names).Tracks slots ∧ (reconcile slots names).size = names.size :=
  tracks_reconcile_of_beyond (h.beyond slots)

end Session

/-! ### What one operation preserves -/

/-- What is known of every variable is true, every name can be named by an operand, and
nothing is stored beyond the capacity. -/
structure Consistent (names : NameTable) (slots : Slots) : Prop where
  tracks : names.Tracks slots
  addressable : names.size ≤ UInt32.size
  bounded : slots.Bounded

/-- The errors of runs that inputs can lead to. -/
def RunError.isExpected : RunError → Bool
  | divisionByZero _ | slotOutOfRange _ _ _ | output _ | stepLimit _ => true
  | stackCheck (.overflow _ _) => true
  | _ => false

theorem RunError.isExpected_of_kind {e : RunError} (h : e.kind.isPossible) : e.isExpected := by
  cases e with
  | divisionByZero _ => rfl
  | slotOutOfRange _ _ _ => rfl
  | output _ => rfl
  | _ => cases h

theorem Consistent.regular {names : NameTable} {slots : Slots} (h : Consistent names slots) :
    names.Regular :=
  ⟨h.tracks.size_eq, h.addressable⟩

/-- The program of a source text, as far as it could be read. -/
def Program.ofSource (source : String) : Program :=
  match tokenize source with
  | .ok tokens => (ofTokens tokens).1
  | .error _ => []

namespace Session

variable {s : Session}

/-- A source text compiles exactly if it is read without errors as a program, and that
program compiles without errors. -/
theorem compile_eq_ok_iff {source : String} {unit : CodeUnit} :
    s.compile source = .ok unit ↔
      ∃ tokens program, tokenize source = .ok tokens ∧
        Program.ofTokens tokens = (program, []) ∧
        CodeUnit.ofProgram s.names s.constants program = (unit, []) := by
  constructor
  · intro h
    rw [compile] at h
    split at h
    · cases h
    · rename_i tokens htokens
      dsimp only at h
      split at h
      · rename_i hempty
        injection h with hunit
        obtain ⟨hread, herrors⟩ := List.append_eq_nil_iff.mp (List.isEmpty_iff.mp hempty)
        exact ⟨tokens, (Program.ofTokens tokens).1, htokens,
          Prod.ext rfl (List.map_eq_nil_iff.mp hread),
          Prod.ext hunit (List.map_eq_nil_iff.mp herrors)⟩
      · cases h
  · rintro ⟨tokens, program, htokens, hread, hunit⟩
    rw [compile, htokens]
    dsimp only
    rw [hread]
    dsimp only
    rw [hunit]
    rfl

/-- The program that a unit without errors was compiled from. -/
theorem ofProgram_of_compile {source : String} {unit : CodeUnit}
    (h : s.compile source = .ok unit) :
    CodeUnit.ofProgram s.names s.constants (Program.ofSource source) = (unit, []) := by
  obtain ⟨tokens, program, htokens, hread, hunit⟩ := compile_eq_ok_iff.mp h
  rw [Program.ofSource, htokens]
  dsimp only
  rw [hread]
  exact hunit

/-- Running a compiled unit leaves true records, however the run ends, and only expected errors
come of it. -/
theorem tracks_execute {program : Program} {unit : CodeUnit} (out : Sink)
    (hcompile : CodeUnit.ofProgram s.names s.constants program = (unit, []))
    (h : s.names.Tracks s.slots) :
    (s.execute unit out).2.1.names.Tracks (s.execute unit out).2.1.slots ∧
      ∀ e, (s.execute unit out).1 = .error (.run e) → e.isExpected := by
  obtain ⟨code, hemits, hcode⟩ := emitsAll_of_ofProgram hcompile
  rw [execute]
  rcases check_of_emitsAll s.config hemits hcode with ⟨-, hcheck⟩ | ⟨place, hoverflow⟩
  · rw [hcheck]
    dsimp only
    -- the records that are not set anew after a failure are not touched either
    have hnames : unit.names.TracksBeyond s.slots :=
      hemits.keeps (P := fun names => names.TracksBeyond s.slots)
        (fun _ _ _ _ _ hdeclare h => h.declare hdeclare) h.beyond
    have hbeyond : unit.names.TracksBeyond (Machine.left
        (Machine.run s.config unit { slots := s.slots, out := out })).slots :=
      Machine.keeps_run (fun slot _ => NameTable.TracksBeyond.keptByStore unit.names slot)
        s.config _ hnames
    -- however the run ends, it is the unlimited run or the limit that stopped it
    rcases Machine.run_limited hcheck { slots := s.slots, out := out } with
      hrun | ⟨limit, m', hrun⟩
    · -- without a limit it does what evaluation does, and fails in the same ways only
      have hcheck' : Machine.check s.config.unlimited unit = .ok () := hcheck
      rcases run_agrees_evaluate (m := { slots := s.slots, out := out }) hcompile h rfl
          hcheck' with
        ⟨m', scope', -, hmirrors, hrun'⟩ | ⟨e, m', scope', -, hpossible, hrun', -⟩
      · rw [hrun, hrun']
        exact ⟨hmirrors.tracks, fun _ he => by cases he⟩
      · rw [hrun, hrun'] at hbeyond ⊢
        refine ⟨(tracks_reconcile_of_beyond hbeyond).1, fun e' he => ?_⟩
        cases he
        exact RunError.isExpected_of_kind hpossible
    · rw [hrun] at hbeyond ⊢
      refine ⟨(tracks_reconcile_of_beyond hbeyond).1, fun e' he => ?_⟩
      cases he
      rfl
  · -- nothing was run, and nothing was taken over
    rw [hoverflow]
    refine ⟨h, fun e' he => ?_⟩
    cases he
    rfl

/-- Running a compiled unit keeps the session consistent, however the run ends, and only
expected errors come of it. -/
theorem consistent_execute {program : Program} {unit : CodeUnit} (out : Sink)
    (hcompile : CodeUnit.ofProgram s.names s.constants program = (unit, []))
    (h : Consistent s.names s.slots) :
    Consistent (s.execute unit out).2.1.names (s.execute unit out).2.1.slots ∧
      ∀ e, (s.execute unit out).1 = .error (.run e) → e.isExpected := by
  obtain ⟨htracks, hexpected⟩ := tracks_execute out hcompile h.tracks
  obtain ⟨code, hemits, -⟩ := emitsAll_of_ofProgram hcompile
  have hregular : unit.names.Regular :=
    hemits.keeps (fun _ _ _ _ _ hdeclare h => h.declare hdeclare) h.regular
  have hbounded : (Machine.left
      (Machine.run s.config unit { slots := s.slots, out := out })).slots.Bounded :=
    Machine.keeps_run (fun slot _ => Slots.keptByStore_bounded slot) s.config _ h.bounded
  have hshape : (s.execute unit out).2.1.names.size ≤ UInt32.size ∧
      (s.execute unit out).2.1.slots.Bounded := by
    rw [execute]
    split
    · exact ⟨h.addressable, h.bounded⟩
    · split
      · rename_i top m hrun
        rw [hrun] at hbounded
        exact ⟨hregular.addressable, hbounded⟩
      · rename_i e m hrun
        rw [hrun] at hbounded
        refine ⟨?_, hbounded⟩
        dsimp only
        rw [(tracks_reconcile hregular m.slots).2]
        exact hregular.addressable
  exact ⟨⟨htracks, hshape.1, hshape.2⟩, hexpected⟩

theorem compile_ne_run {source : String} {e : RunError} :
    s.compile source ≠ .error (.run e) := by
  intro h
  rw [compile] at h
  split at h
  · cases h
  · dsimp only at h
    split at h
    · cases h
    · cases h

/-- An input keeps the session consistent, whatever becomes of it, and only expected errors
of a run come of it. -/
theorem consistent_eval (source : String) (out : Sink) (h : Consistent s.names s.slots) :
    Consistent (s.eval source out).2.1.names (s.eval source out).2.1.slots ∧
      ∀ e, (s.eval source out).1 = .error (.run e) → e.isExpected := by
  rw [eval]
  cases hcompile : s.compile source with
  | error e =>
    refine ⟨h, fun e' he => ?_⟩
    cases he
    exact absurd hcompile compile_ne_run
  | ok unit =>
    exact consistent_execute out (ofProgram_of_compile hcompile) h

theorem restore_of_le {snapshot : Snapshot}
    (h : snapshot.slots.size ≤ s.slots.capacity.toNat) :
    s.restore snapshot =
      .ok () { s with
        names := snapshot.names
        constants := snapshot.constants
        slots := { snapshot.slots with capacity := s.slots.capacity } } := by
  rw [restore, Slots.setCapacity_of_le h]

theorem restore_of_lt {snapshot : Snapshot}
    (h : s.slots.capacity.toNat < snapshot.slots.size) :
    s.restore snapshot = .error (.imageCapacity snapshot.slots.size s.slots.capacity) s := by
  rw [restore, Slots.setCapacity_of_lt h]

/-- A snapshot that is taken over fits, and the session keeps its own capacity. -/
theorem eq_of_restore_eq_ok {snapshot : Snapshot} {s' : Session}
    (h : s.restore snapshot = .ok () s') :
    snapshot.slots.size ≤ s.slots.capacity.toNat ∧
      s' = { s with
        names := snapshot.names
        constants := snapshot.constants
        slots := { snapshot.slots with capacity := s.slots.capacity } } := by
  rcases Nat.lt_or_ge s.slots.capacity.toNat snapshot.slots.size with hlt | hle
  · rw [restore_of_lt hlt] at h
    cases h
  · rw [restore_of_le hle] at h
    cases h
    exact ⟨hle, rfl⟩

/-- A snapshot that is refused changes nothing. -/
theorem eq_of_restore_eq_error {snapshot : Snapshot} {s' : Session} {e : SessionError}
    (h : s.restore snapshot = .error e s') :
    e = .imageCapacity snapshot.slots.size s.slots.capacity ∧ s' = s := by
  rcases Nat.lt_or_ge s.slots.capacity.toNat snapshot.slots.size with hlt | hle
  · rw [restore_of_lt hlt] at h
    cases h
    exact ⟨rfl, rfl⟩
  · rw [restore_of_le hle] at h
    cases h

/-- A snapshot brought back is consistent under any capacity that it is accepted for. -/
theorem consistent_restore {snapshot : Snapshot} {s' : Session}
    (hsnapshot : Consistent snapshot.names snapshot.slots)
    (h : s.restore snapshot = .ok () s') : Consistent s'.names s'.slots := by
  obtain ⟨hle, rfl⟩ := eq_of_restore_eq_ok h
  have hbounded : Slots.Bounded { snapshot.slots with capacity := s.slots.capacity } := hle
  refine ⟨⟨hsnapshot.tracks.size_eq, fun position hposition => ?_⟩, hsnapshot.addressable,
    hbounded⟩
  -- both capacities are beyond what is stored, so the same values are seen
  rw [hbounded.held_eq, ← hsnapshot.bounded.held_eq]
  exact hsnapshot.tracks.category_eq position hposition

theorem consistent_new (config : Config) :
    Consistent (Session.new config).names (Session.new config).slots :=
  ⟨⟨rfl, fun _ h => absurd h (Nat.not_lt_zero _)⟩, Nat.zero_le _, Nat.zero_le _⟩

end Session

end StackLang
