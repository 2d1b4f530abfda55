/-
What a program without errors compiles to.

The compiler goes on after an error, and reads what it knows of an operand off the
instruction it emitted last.  For a program without errors neither matters: its code, the
category of each value and the tables follow from its structure alone.

* `Emits`, `EmitsStmt`, `EmitsAll`: the code of an expression, a statement and a sequence of
  statements, with the tables before and after.
* `Emitter.emits_of_errors_eq_nil`: what the compiler emits for an expression without errors,
  and that the category it reads off the last instruction is that of the value.
* `emitsAll_of_ofProgram`, `EmitsAll.ofProgram`: a whole program compiles to a unit without
  errors exactly if the unit is what the structure of the program gives.

Design notes: the relations have no rule for an error, so that an induction on them has one
case for each shape of a correct program.
-/
import Mathlib.Tactic.Common
import StackLang.Compile.Emitter

namespace StackLang

/-- The code of an expression whose names are found in `names`, the category of its value,
and the constant pool before and after. -/
inductive Emits (names : NameTable) :
    ConstantPool → Expr → List Instruction → Category → ConstantPool → Prop where
  | number {pool : ConstantPool} {t : Located} {value : Binary32}
      (token : t.token = .number value) :
      Emits names pool (.literal t) [.pushNumber value] .float pool
  | bool {pool : ConstantPool} {t : Located} {value : Bool} (token : t.token = .bool value) :
      Emits names pool (.literal t) [.pushBool value] .boolean pool
  | string {pool pool' : ConstantPool} {t : Located} {value : String} {index : UInt32}
      (token : t.token = .string value) (entry : pool.push (.string value) = some (index, pool')) :
      Emits names pool (.literal t) [.pushConst index] .string pool'
  | ident {pool : ConstantPool} {t : Located} {name : String} {slot : UInt32}
      (token : t.token = .ident name) (found : names.resolve name = some slot) :
      Emits names pool (.literal t) [.load slot] (names.category slot) pool
  | unary {pool pool' : ConstantPool} {op : Located} {operand : Expr}
      {code : List Instruction} {category : Category} {operation : UnaryOp}
      (value : Emits names pool operand code category pool')
      (selected : UnaryOp.select op.token category = .ok operation) :
      Emits names pool (.unary op operand) (code ++ [.unary operation]) operation.category pool'
  | binary {pool pool₁ pool₂ : ConstantPool} {left right : Expr} {op : Located}
      {code₁ code₂ : List Instruction} {category₁ category₂ : Category} {operation : BinaryOp}
      (first : Emits names pool left code₁ category₁ pool₁)
      (second : Emits names pool₁ right code₂ category₂ pool₂)
      (selected : BinaryOp.select op.token category₁ category₂ = .ok operation) :
      Emits names pool (.binary left op right) (code₁ ++ code₂ ++ [.binary operation])
        operation.category pool₂

/-- The code of a statement, and the tables before and after. -/
inductive EmitsStmt : NameTable → ConstantPool → Stmt → List Instruction → NameTable →
    ConstantPool → Prop where
  | declare {names names' : NameTable} {pool pool' : ConstantPool} {t : Located} {name : String}
      {init : Expr} {code : List Instruction} {category : Category} {slot : UInt32}
      (value : Emits names pool init code category pool') (token : t.token = .ident name)
      (entry : names.declare name category = some (slot, names')) :
      EmitsStmt names pool (.declare t init) (code ++ [.store slot]) names' pool'
  | expr {names : NameTable} {pool pool' : ConstantPool} {x : Expr} {code : List Instruction}
      {category : Category} (value : Emits names pool x code category pool') :
      EmitsStmt names pool (.expr x) code names pool'
  | print {names : NameTable} {pool pool' : ConstantPool} {x : Expr} {code : List Instruction}
      {category : Category} (value : Emits names pool x code category pool') :
      EmitsStmt names pool (.print x) (code ++ [.print]) names pool'

/-- The code of a sequence of statements, and the tables before and after. -/
inductive EmitsAll : NameTable → ConstantPool → Program → List Instruction → NameTable →
    ConstantPool → Prop where
  | nil {names : NameTable} {pool : ConstantPool} : EmitsAll names pool [] [] names pool
  | cons {names names₁ names₂ : NameTable} {pool pool₁ pool₂ : ConstantPool} {stmt : Stmt}
      {program : Program} {code₁ code₂ : List Instruction}
      (first : EmitsStmt names pool stmt code₁ names₁ pool₁)
      (others : EmitsAll names₁ pool₁ program code₂ names₂ pool₂) :
      EmitsAll names pool (stmt :: program) (code₁ ++ code₂) names₂ pool₂

namespace Emitter

/-! ### One emission -/

/-- From `e` to `e'` no error was there or came up, the given code was emitted, and the
tables became the given ones. -/
structure Emitted (e e' : Emitter) (code : List Instruction) (names : NameTable)
    (pool : ConstantPool) : Prop where
  errors_eq : e.errors = []
  code_eq : e'.code.toList = e.code.toList ++ code
  names_eq : e'.names = names
  constants_eq : e'.constants = pool

theorem errors_fail_ne_nil (e : Emitter) (fault : CompileFault) (t : Located) :
    (e.fail fault t).errors ≠ [] :=
  List.append_ne_nil_of_right_ne_nil _ (List.cons_ne_nil _ _)

theorem Emitted.emit {e e' : Emitter} {code : List Instruction} {names : NameTable}
    {pool : ConstantPool} (h : Emitted e e' code names pool) (i : Instruction) :
    Emitted e (e'.emit i) (code ++ [i]) names pool where
  errors_eq := h.errors_eq
  code_eq := by
    rw [Emitter.emit, Array.toList_push, h.code_eq, List.append_assoc]
  names_eq := h.names_eq
  constants_eq := h.constants_eq

theorem Emitted.trans {e e₁ e₂ : Emitter} {code₁ code₂ : List Instruction}
    {names₁ names₂ : NameTable} {pool₁ pool₂ : ConstantPool}
    (h₁ : Emitted e e₁ code₁ names₁ pool₁) (h₂ : Emitted e₁ e₂ code₂ names₂ pool₂) :
    Emitted e e₂ (code₁ ++ code₂) names₂ pool₂ where
  errors_eq := h₁.errors_eq
  code_eq := by
    rw [h₂.code_eq, h₁.code_eq, List.append_assoc]
  names_eq := h₂.names_eq
  constants_eq := h₂.constants_eq

theorem emitted_self {e : Emitter} (h : e.errors = []) : Emitted e e [] e.names e.constants :=
  ⟨h, (List.append_nil _).symm, rfl, rfl⟩

/-- Without an error, the operation of an operator was selected and emitted. -/
theorem selected_of_errors_eq_nil {α : Type} {e : Emitter} {op : Located}
    {make : α → Instruction} {selection : Except CompileFault α}
    (h : (e.selected op make selection).errors = []) :
    ∃ operation, selection = .ok operation ∧ e.errors = [] ∧
      e.selected op make selection = e.emit (make operation) := by
  cases selection with
  | error fault => exact absurd h (errors_fail_ne_nil e fault op)
  | ok operation => exact ⟨operation, rfl, h, rfl⟩

/-! ### Expressions -/

theorem literal_of_errors_eq_nil {e : Emitter} {t : Located} (h : (e.literal t).errors = []) :
    ∃ code category pool, Emits e.names e.constants (.literal t) code category pool ∧
      Emitted e (e.literal t) code e.names pool ∧ (e.literal t).category = category := by
  rw [literal] at h ⊢
  -- a token that is no literal leaves an error, and so does a table without room
  split at h
  · rename_i value htoken
    exact ⟨_, _, _, .number htoken, ⟨h, Array.toList_push, rfl, rfl⟩, rfl⟩
  · rename_i value htoken
    exact ⟨_, _, _, .bool htoken, ⟨h, Array.toList_push, rfl, rfl⟩, rfl⟩
  · rename_i value htoken
    split at h
    · rename_i index pool hpush
      exact ⟨_, _, pool, .string htoken hpush, ⟨h, Array.toList_push, rfl, rfl⟩, rfl⟩
    · exact absurd h (errors_fail_ne_nil _ _ _)
  · rename_i name htoken
    split at h
    · rename_i slot hslot
      exact ⟨_, _, _, .ident htoken hslot, ⟨h, Array.toList_push, rfl, rfl⟩, rfl⟩
    · exact absurd h (errors_fail_ne_nil _ _ _)
  · exact absurd h (errors_fail_ne_nil _ _ _)

/-- An expression without errors is emitted as its structure says, and the category read off
the instruction emitted last is that of its value. -/
theorem emits_of_errors_eq_nil {e : Emitter} {x : Expr} (h : (e.expr x).errors = []) :
    ∃ code category pool, Emits e.names e.constants x code category pool ∧
      Emitted e (e.expr x) code e.names pool ∧ (e.expr x).category = category := by
  induction x generalizing e with
  | literal t => exact literal_of_errors_eq_nil h
  | unary op operand ih =>
    rw [expr] at h ⊢
    obtain ⟨operation, hselect, herrors, hemit⟩ := selected_of_errors_eq_nil h
    obtain ⟨code, category, pool, hemits, hemitted, hcategory⟩ := ih herrors
    rw [hcategory] at hselect
    rw [hemit]
    exact ⟨_, _, _, .unary hemits hselect, hemitted.emit _, rfl⟩
  | binary left op right ih₁ ih₂ =>
    rw [expr] at h ⊢
    -- errors stay, so from the last step backwards none was there
    obtain ⟨operation, hselect, herrors, hemit⟩ := selected_of_errors_eq_nil h
    obtain ⟨code₂, category₂, pool₂, hemits₂, hemitted₂, hcategory₂⟩ := ih₂ herrors
    obtain ⟨code₁, category₁, pool₁, hemits₁, hemitted₁, hcategory₁⟩ := ih₁ hemitted₂.errors_eq
    rw [hcategory₁, hcategory₂] at hselect
    rw [hemitted₁.names_eq, hemitted₁.constants_eq] at hemits₂
    rw [hemitted₁.names_eq] at hemitted₂
    rw [hemit]
    exact ⟨_, _, _, .binary hemits₁ hemits₂ hselect, (hemitted₁.trans hemitted₂).emit _, rfl⟩

/-! ### Statements -/

theorem declare_of_errors_eq_nil {e : Emitter} {t : Located} (h : (e.declare t).errors = []) :
    ∃ name slot names, t.token = .ident name ∧
      e.names.declare name e.category = some (slot, names) ∧
      Emitted e (e.declare t) [.store slot] names e.constants := by
  rw [declare] at h ⊢
  split at h
  · rename_i name htoken
    split at h
    · rename_i slot names hdeclare
      exact ⟨name, slot, names, htoken, hdeclare, h, Array.toList_push, rfl, rfl⟩
    · exact absurd h (errors_fail_ne_nil _ _ _)
  · exact absurd h (errors_fail_ne_nil _ _ _)

theorem emitsStmt_of_errors_eq_nil {e : Emitter} {stmt : Stmt} (h : (e.stmt stmt).errors = []) :
    ∃ code names pool, EmitsStmt e.names e.constants stmt code names pool ∧
      Emitted e (e.stmt stmt) code names pool := by
  cases stmt with
  | declare t init =>
    rw [Emitter.stmt] at h ⊢
    obtain ⟨name, slot, names, htoken, hdeclare, hstore⟩ := declare_of_errors_eq_nil h
    obtain ⟨code, category, pool, hemits, hemitted, hcategory⟩ :=
      emits_of_errors_eq_nil hstore.errors_eq
    rw [hemitted.names_eq, hcategory] at hdeclare
    rw [hemitted.constants_eq] at hstore
    exact ⟨_, _, _, .declare hemits htoken hdeclare, hemitted.trans hstore⟩
  | expr x =>
    obtain ⟨code, category, pool, hemits, hemitted, -⟩ := emits_of_errors_eq_nil h
    exact ⟨_, _, _, .expr hemits, hemitted⟩
  | print x =>
    rw [Emitter.stmt] at h ⊢
    obtain ⟨code, category, pool, hemits, hemitted, -⟩ :=
      emits_of_errors_eq_nil (show (e.expr x).errors = [] from h)
    exact ⟨_, _, _, .print hemits, hemitted.emit _⟩

/-- Errors stay: a program without errors has none after any of its statements. -/
theorem emitsAll_of_errors_eq_nil {e : Emitter} {program : Program}
    (h : (e.program program).errors = []) :
    ∃ code names pool, EmitsAll e.names e.constants program code names pool ∧
      Emitted e (e.program program) code names pool := by
  induction program generalizing e with
  | nil => exact ⟨_, _, _, .nil, emitted_self h⟩
  | cons stmt program ih =>
    rw [Emitter.program, List.foldl_cons] at h ⊢
    obtain ⟨code₂, names₂, pool₂, hemits₂, hemitted₂⟩ := ih h
    obtain ⟨code₁, names₁, pool₁, hemits₁, hemitted₁⟩ :=
      emitsStmt_of_errors_eq_nil hemitted₂.errors_eq
    rw [hemitted₁.names_eq, hemitted₁.constants_eq] at hemits₂
    exact ⟨_, _, _, .cons hemits₁ hemits₂, hemitted₁.trans hemitted₂⟩

end Emitter

/-- A program without errors compiles to the code that its structure gives, with the tables
extended accordingly. -/
theorem emitsAll_of_ofProgram {names : NameTable} {pool : ConstantPool} {program : Program}
    {unit : CodeUnit} (h : CodeUnit.ofProgram names pool program = (unit, [])) :
    ∃ code, EmitsAll names pool program code unit.names unit.constants ∧
      unit.code = assemble code := by
  rw [CodeUnit.ofProgram] at h
  obtain ⟨rfl, herrors⟩ := Prod.mk.inj h
  obtain ⟨code, names', pool', hemits, hemitted⟩ := Emitter.emitsAll_of_errors_eq_nil herrors
  refine ⟨code, ?_, ?_⟩
  · rw [Emitter.unit, hemitted.names_eq, hemitted.constants_eq]
    exact hemits
  · rw [Emitter.unit, hemitted.code_eq]
    rfl

/-! ### Code that follows from the structure is what the compiler emits -/

theorem EmitsAll.append {names names₁ names₂ : NameTable} {pool pool₁ pool₂ : ConstantPool}
    {program₁ program₂ : Program} {code₁ code₂ : List Instruction}
    (h₁ : EmitsAll names pool program₁ code₁ names₁ pool₁)
    (h₂ : EmitsAll names₁ pool₁ program₂ code₂ names₂ pool₂) :
    EmitsAll names pool (program₁ ++ program₂) (code₁ ++ code₂) names₂ pool₂ := by
  induction h₁ with
  | nil => exact h₂
  | cons first _ ih =>
    rw [List.append_assoc]
    exact .cons first (ih h₂)

/-- The compiler emits the code that the structure of an expression gives, without an error,
and reads the category of its value off the instruction emitted last. -/
theorem Emits.emitted {names : NameTable} {pool pool' : ConstantPool} {x : Expr}
    {code : List Instruction} {category : Category} (h : Emits names pool x code category pool')
    {e : Emitter} (herrors : e.errors = []) (hnames : e.names = names)
    (hpool : e.constants = pool) :
    Emitter.Emitted e (e.expr x) code names pool' ∧ (e.expr x).errors = [] ∧
      (e.expr x).category = category := by
  induction h generalizing e with
  | number htoken =>
    subst hnames hpool
    rw [Emitter.expr, Emitter.literal, htoken]
    exact ⟨(Emitter.emitted_self herrors).emit _, herrors, rfl⟩
  | bool htoken =>
    subst hnames hpool
    rw [Emitter.expr, Emitter.literal, htoken]
    exact ⟨(Emitter.emitted_self herrors).emit _, herrors, rfl⟩
  | string htoken hentry =>
    subst hnames hpool
    rw [Emitter.expr, Emitter.literal, htoken]
    dsimp only
    rw [hentry]
    exact ⟨⟨herrors, Array.toList_push, rfl, rfl⟩, herrors, rfl⟩
  | ident htoken hfound =>
    subst hnames hpool
    rw [Emitter.expr, Emitter.literal, htoken]
    dsimp only
    rw [hfound]
    exact ⟨(Emitter.emitted_self herrors).emit _, herrors, rfl⟩
  | unary _ hselect ih =>
    obtain ⟨hoperand, herrors', hcategory⟩ := ih herrors hnames hpool
    rw [Emitter.expr, hcategory, hselect]
    exact ⟨hoperand.emit _, herrors', rfl⟩
  | binary _ _ hselect ih₁ ih₂ =>
    obtain ⟨hleft, herrors₁, hcategory₁⟩ := ih₁ herrors hnames hpool
    obtain ⟨hright, herrors₂, hcategory₂⟩ := ih₂ herrors₁ hleft.names_eq hleft.constants_eq
    rw [Emitter.expr, hcategory₁, hcategory₂, hselect]
    exact ⟨(hleft.trans hright).emit _, herrors₂, rfl⟩

theorem EmitsStmt.emitted {names names' : NameTable} {pool pool' : ConstantPool} {stmt : Stmt}
    {code : List Instruction} (h : EmitsStmt names pool stmt code names' pool') {e : Emitter}
    (herrors : e.errors = []) (hnames : e.names = names) (hpool : e.constants = pool) :
    Emitter.Emitted e (e.stmt stmt) code names' pool' ∧ (e.stmt stmt).errors = [] := by
  cases h with
  | declare value htoken hentry =>
    obtain ⟨hvalue, herrors', hcategory⟩ := value.emitted herrors hnames hpool
    rw [Emitter.stmt, Emitter.declare, htoken]
    dsimp only
    rw [hvalue.names_eq, hcategory, hentry]
    refine ⟨hvalue.trans ⟨herrors', Array.toList_push, rfl, hvalue.constants_eq⟩, herrors'⟩
  | expr value =>
    obtain ⟨hvalue, herrors', -⟩ := value.emitted herrors hnames hpool
    exact ⟨hvalue, herrors'⟩
  | print value =>
    obtain ⟨hvalue, herrors', -⟩ := value.emitted herrors hnames hpool
    exact ⟨hvalue.emit _, herrors'⟩

theorem EmitsAll.emitted {names names' : NameTable} {pool pool' : ConstantPool}
    {program : Program} {code : List Instruction}
    (h : EmitsAll names pool program code names' pool') {e : Emitter} (herrors : e.errors = [])
    (hnames : e.names = names) (hpool : e.constants = pool) :
    Emitter.Emitted e (e.program program) code names' pool' ∧ (e.program program).errors = [] := by
  induction h generalizing e with
  | nil =>
    subst hnames hpool
    exact ⟨Emitter.emitted_self herrors, herrors⟩
  | cons first _ ih =>
    obtain ⟨hfirst, herrors₁⟩ := first.emitted herrors hnames hpool
    obtain ⟨hothers, herrors₂⟩ := ih herrors₁ hfirst.names_eq hfirst.constants_eq
    rw [Emitter.program, List.foldl_cons]
    exact ⟨hfirst.trans hothers, herrors₂⟩

/-- A program that has code by its structure compiles to it without errors. -/
theorem EmitsAll.ofProgram {names names' : NameTable} {pool pool' : ConstantPool}
    {program : Program} {code : List Instruction}
    (h : EmitsAll names pool program code names' pool') :
    CodeUnit.ofProgram names pool program = (⟨assemble code, pool', names'⟩, []) := by
  obtain ⟨hemitted, herrors⟩ := h.emitted (e := { names, constants := pool }) rfl rfl rfl
  rw [CodeUnit.ofProgram, Emitter.unit, herrors, hemitted.code_eq, hemitted.names_eq,
    hemitted.constants_eq]
  rfl

end StackLang
