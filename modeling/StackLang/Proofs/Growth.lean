/-
Tables only grow.

The tables of a session are copied for every input, extended by its compilation, and taken
over when the code was run, also if the run failed.  Whatever becomes of the inputs, a name
keeps its slot and a constant its position, and the tables stay in order.

* `Orderly`: no name stands twice, every name has one category, every constant is a string.
* `Grown`: later tables have the earlier ones in front.
* `Emitter.Advances`: what the compiler does to the tables, errors or not;
  `Emitter.advances_stmt` is the step and `Emitter.advances_program` the induction over a
  program.
* `Session.Kept`: the tables are in order, and there are no more stored slots than names and
  no more than the capacity.  `Session.kept_eval` is the step and `Session.kept_evalAll` the
  induction over a history.
* `Session.evalAll_kept_and_grown`: what holds after any inputs, what of it holds for ever, and
  that all code compiled then refers to entries of its tables.

Design notes: a category may change, so tables that grow are compared by their names.
-/
import StackLang.Proofs.Codec
import StackLang.Proofs.Soundness

namespace StackLang

/-! ### Tables in order -/

/-- No name stands twice, every name has one category, every constant is a string, and an
operand can name any of them. -/
structure Orderly (names : NameTable) (constants : ConstantPool) : Prop where
  distinct : names.names.toList.Nodup
  regular : names.Regular
  strings : ∀ value ∈ constants.values.toList, ∃ text, value = .string text
  addressable : constants.size ≤ UInt32.size

/-- The later tables have the names and the constants of the earlier ones in front. -/
structure Grown (names : NameTable) (constants : ConstantPool) (names' : NameTable)
    (constants' : ConstantPool) : Prop where
  names : names.names.toList <+: names'.names.toList
  constants : constants.values.toList <+: constants'.values.toList

section

variable {names names' names'' : NameTable} {constants constants' constants'' : ConstantPool}
  {slot index : UInt32}

theorem orderly_empty : Orderly {} {} where
  distinct := List.nodup_nil
  regular := ⟨rfl, Nat.zero_le _⟩
  strings := fun _ h => absurd h List.not_mem_nil
  addressable := Nat.zero_le _

theorem Grown.refl (names : NameTable) (constants : ConstantPool) :
    Grown names constants names constants :=
  ⟨List.prefix_refl _, List.prefix_refl _⟩

theorem Grown.trans (h : Grown names constants names' constants')
    (h' : Grown names' constants' names'' constants'') :
    Grown names constants names'' constants'' :=
  ⟨h.names.trans h'.names, h.constants.trans h'.constants⟩

theorem Grown.size_le (h : Grown names constants names' constants') :
    names.size ≤ names'.size ∧ constants.size ≤ constants'.size := by
  have hnames := h.names.length_le
  have hconstants := h.constants.length_le
  rw [Array.length_toList, Array.length_toList] at hnames hconstants
  exact ⟨hnames, hconstants⟩

/-- A name keeps its slot. -/
theorem Grown.resolve (h : Grown names constants names' constants') {name : String}
    (hslot : names.resolve name = some slot) : names'.resolve name = some slot := by
  rw [NameTable.resolve_eq_some_iff] at hslot ⊢
  exact h.names.findIdx?_eq_some hslot

/-- A constant keeps its position. -/
theorem Grown.extends (h : Grown names constants names' constants') :
    constants.Extends constants' := by
  intro index value hvalue
  obtain ⟨more, hmore⟩ := h.constants
  rw [ConstantPool.get?, ← Array.getElem?_toList] at hvalue ⊢
  obtain ⟨hlt, -⟩ := List.getElem?_eq_some_iff.mp hvalue
  rw [← hmore, List.getElem?_append_left hlt]
  exact hvalue

/-- A declaration puts a new name behind all others, and its slot is one of the table. -/
theorem grown_declare {name : String} {category : Category}
    (h : names.declare name category = some (slot, names')) (constants : ConstantPool) :
    Grown names constants names' constants ∧ slot.toNat < names'.size := by
  rcases NameTable.declare_cases h with ⟨hfound, rfl⟩ | ⟨-, hslot, rfl⟩
  · have hlt := NameTable.lt_size_of_idxOf? hfound
    exact ⟨⟨List.prefix_refl _, List.prefix_refl _⟩, hlt⟩
  · refine ⟨⟨?_, List.prefix_refl _⟩, ?_⟩
    · rw [Array.toList_push]
      exact List.prefix_append _ _
    · rw [NameTable.size, Array.size_push, hslot]
      exact Nat.lt_succ_self _

theorem Orderly.declare {name : String} {category : Category} (h : Orderly names constants)
    (hdeclare : names.declare name category = some (slot, names')) :
    Orderly names' constants :=
  ⟨NameTable.nodup_of_declare hdeclare h.distinct, h.regular.declare hdeclare, h.strings,
    h.addressable⟩

/-- A new constant comes behind all others, and its index is one of the pool. -/
theorem grown_push {value : Value} (h : constants.push value = some (index, constants'))
    (names : NameTable) :
    Grown names constants names constants' ∧ index.toNat < constants'.size := by
  obtain ⟨index', hindex, hpair⟩ := Option.map_eq_some_iff.mp h
  cases hpair
  have hsize := index32_eq_some_iff.mp hindex
  refine ⟨⟨List.prefix_refl _, ?_⟩, ?_⟩
  · rw [Array.toList_push]
    exact List.prefix_append _ _
  · rw [ConstantPool.size, Array.size_push, hsize]
    exact Nat.lt_succ_self _

theorem Orderly.push {text : String} (h : Orderly names constants)
    (hpush : constants.push (.string text) = some (index, constants')) :
    Orderly names constants' := by
  obtain ⟨index', hindex, hpair⟩ := Option.map_eq_some_iff.mp hpush
  cases hpair
  have hsize := index32_eq_some_iff.mp hindex
  have hword := index.toNat_lt
  refine ⟨h.distinct, h.regular, ?_, ?_⟩
  · intro value hvalue
    rw [Array.toList_push, List.mem_append, List.mem_singleton] at hvalue
    rcases hvalue with hold | hnew
    · exact h.strings value hold
    · exact ⟨text, hnew⟩
  · rw [hsize] at hword
    rw [ConstantPool.size, Array.size_push]
    exact hword

end

/-! ### What compilation does to the tables -/

/-- The operand, if it names an entry of a table with that many entries, does so within it. -/
def Instruction.Within (names constants : Nat) : Instruction → Prop
  | pushConst index => index.toNat < constants
  | store slot | load slot => slot.toNat < names
  | pushNumber _ | pushBool _ | binary _ | unary _ | print => True

theorem Instruction.Within.mono {names names' constants constants' : Nat} {i : Instruction}
    (h : i.Within names constants) (hnames : names ≤ names') (hconstants : constants ≤ constants') :
    i.Within names' constants' := by
  cases i with
  | pushConst index => exact Nat.lt_of_lt_of_le h hconstants
  | store slot | load slot => exact Nat.lt_of_lt_of_le h hnames
  | pushNumber _ | pushBool _ | binary _ | unary _ | print => trivial

namespace Emitter

/-- The tables are in order, and the code so far refers to entries of them. -/
structure Sound (e : Emitter) : Prop where
  orderly : Orderly e.names e.constants
  within : ∀ i ∈ e.code.toList, i.Within e.names.size e.constants.size

/-- The second emitter has the tables of the first one in front of its own, and is sound if
the first one is. -/
structure Advances (e e' : Emitter) : Prop where
  grown : Grown e.names e.constants e'.names e'.constants
  sound : e.Sound → e'.Sound

variable {e e₁ e₂ : Emitter}

theorem Advances.refl (e : Emitter) : e.Advances e :=
  ⟨.refl _ _, id⟩

theorem Advances.trans (h₁ : e.Advances e₁) (h₂ : e₁.Advances e₂) : e.Advances e₂ :=
  ⟨h₁.grown.trans h₂.grown, fun h => h₂.sound (h₁.sound h)⟩

theorem advances_emit {i : Instruction} (hi : i.Within e.names.size e.constants.size) :
    e.Advances (e.emit i) := by
  refine ⟨.refl _ _, fun h => ⟨h.orderly, ?_⟩⟩
  intro j hj
  rw [emit, Array.toList_push, List.mem_append, List.mem_singleton] at hj
  rcases hj with hold | rfl
  · exact h.within j hold
  · exact hi

theorem advances_fail (e : Emitter) (fault : CompileFault) (t : Located) :
    e.Advances (e.fail fault t) :=
  ⟨.refl _ _, fun h => ⟨h.orderly, h.within⟩⟩

/-- Code that refers to entries of tables does so when the tables have grown. -/
theorem advances_tables {names : NameTable} {constants : ConstantPool}
    (hgrown : Grown e.names e.constants names constants)
    (horderly : Orderly e.names e.constants → Orderly names constants) :
    e.Advances { e with names, constants } := by
  refine ⟨hgrown, fun h => ⟨horderly h.orderly, ?_⟩⟩
  obtain ⟨hnames, hconstants⟩ := hgrown.size_le
  intro i hi
  exact (h.within i hi).mono hnames hconstants

theorem advances_literal (e : Emitter) (t : Located) : e.Advances (e.literal t) := by
  rw [literal]
  split
  · exact advances_emit trivial
  · exact advances_emit trivial
  · split
    · rename_i index constants hpush
      obtain ⟨hgrown, hindex⟩ := grown_push hpush e.names
      exact (advances_tables hgrown fun h => h.push hpush).trans (advances_emit hindex)
    · exact advances_fail _ _ _
  · split
    · rename_i slot hslot
      have hlt := NameTable.lt_size_of_idxOf? (NameTable.resolve_eq_some_iff.mp hslot)
      exact advances_emit hlt
    · exact advances_fail _ _ _
  · exact advances_fail _ _ _

theorem advances_selected {α : Type} (e : Emitter) (op : Located) (make : α → Instruction)
    (hmake : ∀ a, (make a).Within e.names.size e.constants.size)
    (selection : Except CompileFault α) : e.Advances (e.selected op make selection) := by
  cases selection with
  | ok operation => exact advances_emit (hmake operation)
  | error fault => exact advances_fail e fault op

theorem advances_expr (e : Emitter) (x : Expr) : e.Advances (e.expr x) := by
  induction x generalizing e with
  | literal t => exact advances_literal e t
  | unary op operand ih =>
    have hoperation := advances_selected (e.expr operand) op .unary fun _ => trivial
    exact (ih e).trans (hoperation _)
  | binary left op right ih₁ ih₂ =>
    have hoperation := advances_selected ((e.expr left).expr right) op .binary fun _ => trivial
    exact ((ih₁ e).trans (ih₂ _)).trans (hoperation _)

theorem advances_declare (e : Emitter) (t : Located) : e.Advances (e.declare t) := by
  rw [declare]
  split
  · split
    · rename_i slot names hdeclare
      obtain ⟨hgrown, hslot⟩ := grown_declare hdeclare e.constants
      exact (advances_tables hgrown fun h => h.declare hdeclare).trans (advances_emit hslot)
    · exact advances_fail _ _ _
  · exact advances_fail _ _ _

theorem advances_stmt (e : Emitter) (stmt : Stmt) : e.Advances (e.stmt stmt) := by
  cases stmt with
  | declare t init => exact (advances_expr e init).trans (advances_declare _ t)
  | expr x => exact advances_expr e x
  | print x => exact (advances_expr e x).trans (advances_emit trivial)

theorem advances_program (e : Emitter) (program : Program) :
    e.Advances (e.program program) := by
  induction program generalizing e with
  | nil => exact .refl e
  | cons stmt program ih => exact (advances_stmt e stmt).trans (ih (e.stmt stmt))

end Emitter

/-- Compilation only extends the tables, whatever they are and whatever errors there are. -/
theorem CodeUnit.grown_ofProgram (names : NameTable) (constants : ConstantPool)
    (program : Program) :
    Grown names constants (ofProgram names constants program).1.names
      (ofProgram names constants program).1.constants :=
  (Emitter.advances_program { names, constants } program).grown

/-- Compilation against tables in order extends them in order, and the code it gives decodes
to instructions that refer to entries of the new tables.  Errors do not matter. -/
theorem CodeUnit.ofProgram_spec {names : NameTable} {constants : ConstantPool}
    (h : Orderly names constants) (program : Program) :
    Grown names constants (ofProgram names constants program).1.names
        (ofProgram names constants program).1.constants ∧
      Orderly (ofProgram names constants program).1.names
        (ofProgram names constants program).1.constants ∧
      ∃ code, (ofProgram names constants program).1.code = assemble code ∧
        ∀ i ∈ code, i.Within (ofProgram names constants program).1.names.size
          (ofProgram names constants program).1.constants.size := by
  have hadvances := Emitter.advances_program { names, constants } program
  have hsound := hadvances.sound ⟨h, fun _ hi => absurd hi List.not_mem_nil⟩
  exact ⟨grown_ofProgram names constants program, hsound.orderly, _, rfl, hsound.within⟩

/-! ### What a run does to the slots -/

theorem Decoded.mem_of_stores {offset : Nat} {code : List Instruction} {slot : UInt32}
    (h : (prepend offset code done).Stores slot) : .store slot ∈ code := by
  induction code generalizing offset with
  | nil => exact h.elim
  | cons i code ih =>
    rcases h with rfl | h
    · exact List.mem_cons_self
    · exact List.mem_cons_of_mem _ (ih h)

namespace Slots

/-- The slots have the capacity, and there are no more stored ones than it allows and than
the given number. -/
structure Fits (capacity : UInt64) (count : Nat) (slots : Slots) : Prop where
  capacity_eq : slots.capacity = capacity
  bounded : slots.Bounded
  size_le : slots.size ≤ count

theorem Fits.mono {capacity : UInt64} {count count' : Nat} {slots : Slots}
    (h : slots.Fits capacity count) (hcount : count ≤ count') : slots.Fits capacity count' :=
  ⟨h.capacity_eq, h.bounded, Nat.le_trans h.size_le hcount⟩

theorem keptByStore_fits {capacity : UInt64} {count : Nat} {slot : UInt32}
    (hslot : slot.toNat < count) : Machine.KeptByStore (Fits capacity count) slot := by
  intro slots slots' value h hset
  have hbounded := keptByStore_bounded slot h.bounded hset
  have hsize := h.size_le
  obtain ⟨-, rfl⟩ := eq_of_set_eq_ok hset
  refine ⟨h.capacity_eq, hbounded, ?_⟩
  rw [size, size_store]
  rw [size] at hsize
  omega

end Slots

/-! ### Histories of a session -/

namespace Session

variable {s : Session}

/-- The tables are in order, and there are no more stored slots than names and no more than
the capacity. -/
structure Kept (s : Session) : Prop where
  orderly : Orderly s.names s.constants
  fits : s.slots.Fits s.config.slotCapacity s.names.size

/-- The tables of the second session have those of the first in front. -/
def Precedes (s s' : Session) : Prop :=
  Grown s.names s.constants s'.names s'.constants

theorem kept_new (config : Config) : (new config).Kept :=
  ⟨orderly_empty, rfl, Nat.zero_le _, Nat.zero_le _⟩

theorem regular_reconcile {names : NameTable} (h : names.Regular) (slots : Slots) :
    (reconcile slots names).Regular := by
  obtain ⟨htracks, hsize⟩ := tracks_reconcile h slots
  refine ⟨htracks.size_eq, ?_⟩
  rw [hsize]
  exact h.addressable

/-- However the run of a unit ends, the tables are the old ones or those of the unit. -/
theorem kept_execute (h : s.Kept) (program : Program) (out : Sink) :
    let unit := (CodeUnit.ofProgram s.names s.constants program).1
    (s.execute unit out).2.1.Kept ∧ s.Precedes (s.execute unit out).2.1 ∧
      (s.execute unit out).2.1.config = s.config := by
  intro unit
  obtain ⟨hgrown, horderly, code, hcode, hwithin⟩ := CodeUnit.ofProgram_spec h.orderly program
  -- a store of the unit is to the slot of a name of the unit
  have hstores : ∀ slot, (decodeAll unit.code).Stores slot → slot.toNat < unit.names.size := by
    intro slot hslot
    rw [show unit.code = assemble code from hcode, decodeAll_assemble] at hslot
    exact hwithin _ (Decoded.mem_of_stores hslot)
  have hfits := Machine.keeps_run
    (fun slot hslot => Slots.keptByStore_fits (hstores slot hslot)) s.config
    { slots := s.slots, out := out } (h.fits.mono hgrown.size_le.1)
  rw [execute]
  split
  · exact ⟨h, .refl _ _, rfl⟩
  · split
    · rename_i top m hrun
      rw [hrun] at hfits
      exact ⟨⟨horderly, hfits⟩, hgrown, rfl⟩
    · rename_i e m hrun
      rw [hrun] at hfits
      have hnames := names_reconcile m.slots unit.names
      have hregular := regular_reconcile horderly.regular m.slots
      refine ⟨⟨⟨?_, hregular, horderly.strings, horderly.addressable⟩, ?_⟩, ⟨?_, ?_⟩, rfl⟩
      · rw [hnames]
        exact horderly.distinct
      · rw [NameTable.size, hnames]
        exact hfits
      · rw [hnames]
        exact hgrown.names
      · exact hgrown.constants

/-- An input keeps a session well, whatever becomes of it, and its tables only grow. -/
theorem kept_eval (h : s.Kept) (source : String) (out : Sink) :
    (s.eval source out).2.1.Kept ∧ s.Precedes (s.eval source out).2.1 ∧
      (s.eval source out).2.1.config = s.config := by
  rw [eval]
  cases hcompile : s.compile source with
  | error e => exact ⟨h, .refl _ _, rfl⟩
  | ok unit =>
    have hexecute := kept_execute h (Program.ofSource source) out
    rw [ofProgram_of_compile hcompile] at hexecute
    exact hexecute

/-- The session after inputs, each with the output it writes to. -/
def evalAll (s : Session) (inputs : List (String × Sink)) : Session :=
  inputs.foldl (fun s input => (s.eval input.1 input.2).2.1) s

theorem kept_evalAll (h : s.Kept) (inputs : List (String × Sink)) :
    (s.evalAll inputs).Kept ∧ s.Precedes (s.evalAll inputs) ∧
      (s.evalAll inputs).config = s.config := by
  induction inputs generalizing s with
  | nil => exact ⟨h, .refl _ _, rfl⟩
  | cons input inputs ih =>
    obtain ⟨hfirst, hgrown, hconfig⟩ := kept_eval h input.1 input.2
    obtain ⟨hkept, hgrown', hconfig'⟩ := ih hfirst
    exact ⟨hkept, hgrown.trans hgrown', hconfig'.trans hconfig⟩

/-- **Tables are in order and only grow.**  After any inputs to a new session, whatever became
of them, the names are distinct and have one category each, every constant is a string, and no
more slots are stored than there are names and than the capacity allows.  Further inputs leave
every name its slot and every constant its position.  Whatever program is compiled then, with
errors or without, the code decodes, and its operands are entries of the tables of the unit. -/
theorem evalAll_kept_and_grown (config : Config) (inputs : List (String × Sink)) :
    let s := (new config).evalAll inputs
    (s.names.names.toList.Nodup ∧ s.names.categories.size = s.names.size ∧
      (∀ value ∈ s.constants.values.toList, ∃ text, value = .string text) ∧
      s.slots.size ≤ config.slotCapacity.toNat ∧ s.slots.size ≤ s.names.size) ∧
    (∀ later, s.names.names.toList <+: (s.evalAll later).names.names.toList ∧
      s.constants.values.toList <+: (s.evalAll later).constants.values.toList ∧
      (∀ name slot, s.names.resolve name = some slot →
        (s.evalAll later).names.resolve name = some slot) ∧
      ∀ index value, s.constants.get? index = some value →
        (s.evalAll later).constants.get? index = some value) ∧
    ∀ program,
      let unit := (CodeUnit.ofProgram s.names s.constants program).1
      ∃ lines, (decodeAll unit.code).lines = .ok lines ∧
        ∀ line ∈ lines, line.2.Within unit.names.size unit.constants.size := by
  intro s
  obtain ⟨hkept, -, hconfig⟩ := kept_evalAll (kept_new config) inputs
  refine ⟨⟨hkept.orderly.distinct, hkept.orderly.regular.size_eq, hkept.orderly.strings, ?_,
    hkept.fits.size_le⟩, ?_, ?_⟩
  · have hbounded := hkept.fits.bounded
    rw [Slots.Bounded, hkept.fits.capacity_eq, hconfig] at hbounded
    exact hbounded
  · intro later
    obtain ⟨-, hgrown, -⟩ := kept_evalAll hkept later
    exact ⟨hgrown.names, hgrown.constants, fun _ _ h => hgrown.resolve h,
      fun _ _ h => hgrown.extends h⟩
  · intro program unit
    obtain ⟨-, -, code, hcode, hwithin⟩ := CodeUnit.ofProgram_spec hkept.orderly program
    refine ⟨Decoded.located 0 code, ?_, ?_⟩
    · rw [show unit.code = assemble code from hcode, lines_decodeAll_assemble]
    · intro line hline
      have hmem := List.mem_map_of_mem (f := Prod.snd) hline
      rw [Decoded.map_snd_located] at hmem
      exact hwithin _ hmem

/-- The first input fills the only slot, a full output stops the second one between a
declaration and its store, and the third one is no program. -/
def crampedInputs : List (String × Sink) :=
  [("var a = \"x\"", {}), ("print a var b = \"y\"", { room := some 1 }), ("var = b", {})]

theorem evalAll_crampedInputs :
    let s := (new { slotCapacity := 1 }).evalAll crampedInputs
    s.names = ⟨#["a", "b"], #[.string, .unknown]⟩ ∧ s.slots.values = #[.string "x"] ∧
      s.names.resolve "b" = some 1 ∧ s.constants.get? 1 = some (.string "y") ∧
      ∀ later, (s.evalAll later).names.resolve "b" = some 1 ∧
        (s.evalAll later).constants.get? 1 = some (.string "y") := by
  intro s
  have hname : s.names.resolve "b" = some 1 := by decide +kernel
  have hconstant : s.constants.get? 1 = some (.string "y") := by decide +kernel
  obtain ⟨-, hgrown, -⟩ := evalAll_kept_and_grown { slotCapacity := 1 } crampedInputs
  refine ⟨by decide +kernel, by decide +kernel, hname, hconstant, fun later => ?_⟩
  obtain ⟨-, -, hresolve, hget⟩ := hgrown later
  exact ⟨hresolve _ _ hname, hget _ _ hconstant⟩

end Session

end StackLang
