/-
What an input leaves alone.

An input that compiles replaces the whole name table of its session, its stores go through
numbers of slots, and after a run that failed every record is made anew.  A variable that the
program does not declare comes through all of this with its slot, its value and its record.

* `Program.targets`: the names that a program declares.
* `NameTable.Entry`: a name at a position, with its record.
* `EmitsStmt.entry`, `EmitsAll.entry`: compilation keeps the entry of a name that is not
  declared, and emits no store to its slot.
* `Session.execute_frame`: nor does a run touch it, however it ends.
* `Session.eval_frame`: what this makes of an input, whatever becomes of it.

Design notes: an entry is found by its position and not by its name, so the statements hold for
tables in which a name stands twice as well.  Only the record of the variable itself has to be
true; what is known of other variables does not matter.
-/
import StackLang.Proofs.Growth

namespace StackLang

/-- The name that a statement declares. -/
def Stmt.target? : Stmt → Option String
  | declare ⟨.ident name, _⟩ _ => some name
  | _ => none

/-- The names that a program declares. -/
def Program.targets (program : Program) : List String :=
  program.filterMap Stmt.target?

theorem Program.not_mem_targets_cons {stmt : Stmt} {program : Program} {name : String} :
    name ∉ targets (stmt :: program) ↔ stmt.target? ≠ some name ∧ name ∉ program.targets := by
  simp [targets, List.mem_filterMap]

/-! ### Entries of the name table -/

namespace NameTable

/-- The name stands at the position, with the category as its record. -/
structure Entry (names : NameTable) (position : Nat) (name : String) (category : Category) :
    Prop where
  name_eq : names.names[position]? = some name
  category_eq : names.categories[position]? = some category

variable {names names' : NameTable} {position : Nat} {name other : String}
  {category category' : Category} {slot : UInt32}

theorem getElem?_of_idxOf? (h : names.names.toList.idxOf? name = some position) :
    names.names[position]? = some name := by
  obtain ⟨hlt, hname, -⟩ := List.idxOf?_eq_some_iff.mp h
  rw [← Array.getElem?_toList, List.getElem?_eq_getElem hlt, hname]

/-- A declaration keeps the entries of all other names, and its slot is none of theirs. -/
theorem Entry.declare (h : names.Entry position name category)
    (hdeclare : names.declare other category' = some (slot, names')) (hne : other ≠ name) :
    names'.Entry position name category ∧ slot.toNat ≠ position := by
  obtain ⟨hname, hcategory⟩ := h
  rcases declare_cases hdeclare with ⟨hfound, rfl⟩ | ⟨-, hslot, rfl⟩
  · have hslot : slot.toNat ≠ position := by
      intro heq
      have hother := getElem?_of_idxOf? hfound
      rw [heq, hname] at hother
      exact hne (Option.some.inj hother).symm
    refine ⟨⟨hname, ?_⟩, hslot⟩
    rw [setCategory, Array.getElem?_setIfInBounds, if_neg hslot, hcategory]
  · obtain ⟨hlt, -⟩ := Array.getElem?_eq_some_iff.mp hname
    obtain ⟨hlt', -⟩ := Array.getElem?_eq_some_iff.mp hcategory
    refine ⟨⟨?_, ?_⟩, ?_⟩
    · rw [Array.getElem?_push, if_neg (Nat.ne_of_lt hlt), hname]
    · rw [Array.getElem?_push, if_neg (Nat.ne_of_lt hlt'), hcategory]
    · rw [hslot]
      exact Nat.ne_of_gt hlt

/-- Records made anew are as they were where they were true. -/
theorem Entry.reconcile {slots : Slots}
    (h : names.Entry position name (.ofValue (slots.held position))) :
    (Session.reconcile slots names).Entry position name (.ofValue (slots.held position)) := by
  obtain ⟨hname, hcategory⟩ := h
  obtain ⟨hlt, -⟩ := Array.getElem?_eq_some_iff.mp hcategory
  refine ⟨?_, ?_⟩
  · rw [Session.names_reconcile, hname]
  · have hrecord := (Session.reconcile_slots slots names names.size).2.2 position hlt
    rw [hcategory, ite_self] at hrecord
    exact hrecord

end NameTable

/-! ### Compilation -/

section

variable {names names' : NameTable} {pool pool' : ConstantPool} {code : List Instruction}
  {position : Nat} {name : String} {category : Category}

theorem Emits.store_not_mem {x : Expr} {category : Category}
    (h : Emits names pool x code category pool') (slot : UInt32) : .store slot ∉ code := by
  induction h with
  | number _ | bool _ | string _ _ | ident _ _ => simp
  | unary _ _ ih => simpa using ih
  | binary _ _ _ ih₁ ih₂ => simpa using ⟨ih₁, ih₂⟩

/-- A statement keeps the entry of a name that it does not declare, and has no store to its
slot. -/
theorem EmitsStmt.entry {stmt : Stmt} (h : EmitsStmt names pool stmt code names' pool')
    (hentry : names.Entry position name category) (hfree : stmt.target? ≠ some name) :
    names'.Entry position name category ∧
      ∀ slot, .store slot ∈ code → slot.toNat ≠ position := by
  cases h with
  | @declare _ _ _ t other _ _ _ slot' value htoken hdeclare =>
    have hne : other ≠ name := by
      rintro rfl
      obtain ⟨token, pos⟩ := t
      subst htoken
      exact hfree rfl
    obtain ⟨hentry', hslot'⟩ := hentry.declare hdeclare hne
    refine ⟨hentry', ?_⟩
    intro slot hslot
    rcases List.mem_append.mp hslot with hmem | hmem
    · exact absurd hmem (value.store_not_mem slot)
    · cases List.mem_singleton.mp hmem
      exact hslot'
  | expr value =>
    exact ⟨hentry, fun slot hslot => absurd hslot (value.store_not_mem slot)⟩
  | print value =>
    refine ⟨hentry, fun slot hslot => ?_⟩
    rcases List.mem_append.mp hslot with hmem | hmem
    · exact absurd hmem (value.store_not_mem slot)
    · simp at hmem

theorem EmitsAll.entry {program : Program} (h : EmitsAll names pool program code names' pool')
    (hentry : names.Entry position name category) (hfree : name ∉ program.targets) :
    names'.Entry position name category ∧
      ∀ slot, .store slot ∈ code → slot.toNat ≠ position := by
  induction h with
  | nil => exact ⟨hentry, by simp⟩
  | cons first _ ih =>
    obtain ⟨hstmt, hprogram⟩ := Program.not_mem_targets_cons.mp hfree
    obtain ⟨hfirst, hstores₁⟩ := first.entry hentry hstmt
    obtain ⟨hothers, hstores₂⟩ := ih hfirst hprogram
    refine ⟨hothers, fun slot hslot => ?_⟩
    rcases List.mem_append.mp hslot with hmem | hmem
    · exact hstores₁ slot hmem
    · exact hstores₂ slot hmem

end

/-! ### Runs -/

namespace Slots

theorem capacity_of_set {slots slots' : Slots} {slot : UInt32} {value : Value}
    (h : slots.set slot value = .ok () slots') : slots'.capacity = slots.capacity := by
  obtain ⟨-, rfl⟩ := eq_of_set_eq_ok h
  rfl

/-- A store to another slot keeps what a slot holds. -/
theorem keptByStore_held {slot : UInt32} {position : Nat} (hne : slot.toNat ≠ position)
    (capacity : UInt64) (value : Value) :
    Machine.KeptByStore (fun slots => slots.capacity = capacity ∧ slots.held position = value)
      slot := by
  rintro slots slots' stored ⟨hcapacity, hheld⟩ hset
  refine ⟨(capacity_of_set hset).trans hcapacity, ?_⟩
  rw [held_of_set hset, if_neg (Ne.symm hne), hheld]

end Slots

/-! ### Sessions -/

/-- A name that is there keeps its slot when the table grows, and gets none if it had none. -/
theorem Grown.resolve_eq {names names' : NameTable} {constants constants' : ConstantPool}
    (h : Grown names constants names' constants') {name : String} {position : Nat}
    (hname : names.names[position]? = some name) : names'.resolve name = names.resolve name := by
  have hmem : name ∈ names.names.toList := (Array.mem_of_getElem? hname).val
  obtain ⟨first, hfirst⟩ := Option.isSome_iff_exists.mp (List.isSome_idxOf?.mpr hmem)
  have hfirst' : names'.names.toList.idxOf? name = some first :=
    h.names.findIdx?_eq_some hfirst
  rw [NameTable.resolve_eq_bind, NameTable.resolve_eq_bind, hfirst, hfirst']

namespace Session

variable {s : Session} {position : Nat} {name : String}

/-- However the run of a compiled unit ends, a variable that its program does not declare has
its entry and its value, and the tables have grown. -/
theorem execute_frame {program : Program} {unit : CodeUnit} (out : Sink)
    (hcompile : CodeUnit.ofProgram s.names s.constants program = (unit, []))
    (hentry : s.names.Entry position name (.ofValue (s.slots.held position)))
    (hfree : name ∉ program.targets) :
    let s' := (s.execute unit out).2.1
    s'.names.Entry position name (.ofValue (s.slots.held position)) ∧
      s'.slots.capacity = s.slots.capacity ∧ s'.slots.held position = s.slots.held position ∧
      s.Precedes s' := by
  obtain ⟨code, hemits, hcode⟩ := emitsAll_of_ofProgram hcompile
  obtain ⟨hentry', hstores⟩ := hemits.entry hentry hfree
  have hgrown := CodeUnit.grown_ofProgram s.names s.constants program
  rw [hcompile] at hgrown
  -- no store of the unit is to the slot of the variable
  have hothers : ∀ slot, (decodeAll unit.code).Stores slot → slot.toNat ≠ position := by
    intro slot hslot
    rw [hcode, decodeAll_assemble] at hslot
    exact hstores slot (Decoded.mem_of_stores hslot)
  have hkept := Machine.keeps_run
    (fun slot hslot => Slots.keptByStore_held (hothers slot hslot) s.slots.capacity
      (s.slots.held position)) s.config { slots := s.slots, out := out } ⟨rfl, rfl⟩
  rw [execute]
  split
  · exact ⟨hentry, rfl, rfl, .refl _ _⟩
  · split
    · rename_i top m hrun
      rw [hrun] at hkept
      exact ⟨hentry', hkept.1, hkept.2, hgrown⟩
    · rename_i e m hrun
      rw [hrun] at hkept
      obtain ⟨hcapacity, hheld⟩ := hkept
      rw [← hheld] at hentry' ⊢
      refine ⟨hentry'.reconcile, hcapacity, rfl, ⟨?_, hgrown.constants⟩⟩
      rw [names_reconcile]
      exact hgrown.names

/-- **What an input leaves alone.**  Whatever becomes of an input (errors of its text, a refusal
by the stack check, a success, a failure at any instruction, a full output), a variable that its
program does not declare keeps its slot, its value and its record, if the record was that of its
value before. -/
theorem eval_frame (s : Session) (source : String) (out : Sink) {slot : UInt32} {name : String}
    (hname : s.names.name? slot = some name)
    (hrecord : s.names.categories[slot.toNat]? = some (heldCategory s.slots slot))
    (hfree : name ∉ (Program.ofSource source).targets) :
    let s' := (s.eval source out).2.1
    s'.names.name? slot = some name ∧ s'.names.resolve name = s.names.resolve name ∧
      s'.slots.get? slot = s.slots.get? slot ∧
      s'.names.categories[slot.toNat]? = s.names.categories[slot.toNat]? := by
  rw [eval]
  cases hcompile : s.compile source with
  | error e => exact ⟨hname, rfl, rfl, rfl⟩
  | ok unit =>
    have hentry : s.names.Entry slot.toNat name (.ofValue (s.slots.held slot.toNat)) := by
      rw [← heldCategory_eq]
      exact ⟨hname, hrecord⟩
    obtain ⟨hentry', hcapacity, hheld, hgrown⟩ :=
      execute_frame out (ofProgram_of_compile hcompile) hentry hfree
    refine ⟨hentry'.name_eq, hgrown.resolve_eq hname, ?_,
      hentry'.category_eq.trans hentry.category_eq.symm⟩
    rw [Slots.get?_eq_held, Slots.get?_eq_held, hcapacity, hheld]

/-- A number `a` and a string `b`. -/
def numberAndString : Session where
  config := {}
  names := ⟨#["a", "b"], #[.float, .string]⟩
  constants := ⟨#[.string "x"]⟩
  slots := ⟨#[.number ⟨0x3f800000⟩, .string "x"], 65536⟩

/-- The string is declared anew as a boolean, and a division by zero comes in front of the store
to a new variable: the records of both change, and nothing of the number does. -/
theorem eval_frame_numberAndString :
    let source := "var b = true var c = a / 0"
    let s' := (numberAndString.eval source {}).2.1
    numberAndString.names.name? 0 = some "a" ∧ "a" ∉ (Program.ofSource source).targets ∧
      (numberAndString.eval source {}).1 = .error (.run (.divisionByZero 17)) ∧
      s'.names = ⟨#["a", "b", "c"], #[.float, .boolean, .unknown]⟩ ∧
      s'.names.name? 0 = some "a" ∧
      s'.slots.get? 0 = numberAndString.slots.get? 0 ∧
      s'.names.categories[(0 : UInt32).toNat]? =
        numberAndString.names.categories[(0 : UInt32).toNat]? := by
  intro source s'
  have hname : numberAndString.names.name? 0 = some "a" := by decide
  have hfree : "a" ∉ (Program.ofSource source).targets := by decide +kernel
  obtain ⟨hname', -, hvalue, hrecord⟩ :=
    eval_frame numberAndString source {} hname (by decide) hfree
  exact ⟨hname, hfree, by decide +kernel, by decide +kernel, hname', hvalue, hrecord⟩

end Session

end StackLang
