/-
Categories by structure.

The compiler has no typed form of a program: it reads what it knows of an operand off the
instruction it emitted last, and every emission and every error overwrites that record.  Here
the same code is given by a translation that keeps no such record.  It goes through an
expression once and gives each node its category, its code and its errors from those of its
operands.

* `BinaryOp.rule?`, `UnaryOp.rule?`: the operations of the language, each with the category of
  its result.
* `Verdict`: what the check of one node by itself says.
* `Expr.attributes`, `Stmt.translate`, `Program.translate`: the translation by structure.
* `Emitter.follow`: what the compiler does upon a verdict, and that it knows the category of
  the node afterwards (`Emitter.Appended.follow`).
* `Emitter.appended_expr`, `Emitter.appended_stmt`, `Emitter.appended_program`: the compiler
  appends what the translation gives, whatever it emitted or recorded before.
* `ofProgram_eq_translate`: both give the same code, the same errors in the same order, and the
  same tables, for every program and all tables.
* `ofProgram_append`: so two programs compiled as one are the two compiled one after the other,
  since the second depends on nothing but the tables that the first one leaves.

Design notes: a node whose own check fails has an unknown category and no code of its own.  The
code of its operands stays, and so do their errors, which come in front of its own.
-/
import StackLang.Compile.Emitter
import StackLang.Proofs.Codec

namespace StackLang

/-! ### Checks of one node -/

/-- The operation of a sign between two operands of a category, and the category of its
result. -/
def BinaryOp.rule? : Token → Category → Option (BinaryOp × Category)
  | .plus, .float => some (.add, .float)
  | .minus, .float => some (.sub, .float)
  | .star, .float => some (.mul, .float)
  | .slash, .float => some (.div, .float)
  | .equal, .float => some (.equal, .boolean)
  | .notEqual, .float => some (.notEqual, .boolean)
  | .less, .float => some (.less, .boolean)
  | .lessEqual, .float => some (.lessEqual, .boolean)
  | .greater, .float => some (.greater, .boolean)
  | .greaterEqual, .float => some (.greaterEqual, .boolean)
  | .plus, .string => some (.addString, .string)
  | .minus, .string => some (.subString, .string)
  | .and, .boolean => some (.and, .boolean)
  | .or, .boolean => some (.or, .boolean)
  | _, _ => none

/-- The operation of a sign in front of its operand, and the category of operand and
result. -/
def UnaryOp.rule? : Token → Option (UnaryOp × Category)
  | .minus => some (.negate, .float)
  | .bang => some (.not, .boolean)
  | _ => none

/-- What the check of a node by itself says: the instruction of the node and the category of
its value, or a fault. -/
abbrev Verdict := Except CompileFault (Instruction × Category)

namespace Verdict

/-- The check of a literal or a name, and the constants after it. -/
def literal (names : NameTable) (constants : ConstantPool) : Token → Verdict × ConstantPool
  | .number value => (.ok (.pushNumber value, .float), constants)
  | .bool value => (.ok (.pushBool value, .boolean), constants)
  | .string value =>
    match constants.push (.string value) with
    | some (index, constants) => (.ok (.pushConst index, .string), constants)
    | none => (.error (.tableFull .constants), constants)
  | .ident name =>
    match names.resolve name with
    | some slot => (.ok (.load slot, names.category slot), constants)
    | none => (.error (.undefinedVariable name), constants)
  | token => (.error (.unexpectedToken token), constants)

/-- The check of an operator in front of an operand of the given category. -/
def unary (op : Token) (operand : Category) : Verdict :=
  match UnaryOp.rule? op with
  | some (operation, category) =>
    if operand = category then .ok (.unary operation, category)
    else .error (.invalidOperand op category operand)
  | none => .error (.unexpectedToken op)

/-- The check of an operator between operands of the given categories. -/
def binary (op : Token) (left right : Category) : Verdict :=
  if left ≠ right ∨ left = .unknown then .error (.invalidOperands op left right)
  else
    match BinaryOp.rule? op left with
    | some (operation, category) => .ok (.binary operation, category)
    | none => .error (.unsupportedOperator op left)

end Verdict

/-! ### Translation by structure -/

/-- What a node gets from its operands and its own check. -/
structure Attributes where
  category : Category
  code : List Instruction
  errors : List CompileError
  constants : ConstantPool

/-- The attributes of a node at the given place, from the code, the errors and the constants of
its operands and the verdict on the node itself. -/
def Attributes.node (code : List Instruction) (errors : List CompileError)
    (constants : ConstantPool) (pos : Pos) : Verdict → Attributes
  | .ok (i, category) => ⟨category, code ++ [i], errors, constants⟩
  | .error fault => ⟨.unknown, code, errors ++ [⟨fault, pos⟩], constants⟩

/-- The attributes of an expression whose names are found in `names`. -/
def Expr.attributes (names : NameTable) (constants : ConstantPool) : Expr → Attributes
  | literal t =>
    let (verdict, constants) := Verdict.literal names constants t.token
    .node [] [] constants t.pos verdict
  | unary op operand =>
    let value := operand.attributes names constants
    .node value.code value.errors value.constants op.pos (.unary op.token value.category)
  | binary left op right =>
    let first := left.attributes names constants
    let second := right.attributes names first.constants
    .node (first.code ++ second.code) (first.errors ++ second.errors) second.constants op.pos
      (.binary op.token first.category second.category)

/-- The code and the errors of a piece of program, and the tables after it. -/
structure Translation where
  code : List Instruction
  errors : List CompileError
  names : NameTable
  constants : ConstantPool

/-- The translation of an expression, which changes no names. -/
def Attributes.translation (a : Attributes) (names : NameTable) : Translation :=
  ⟨a.code, a.errors, names, a.constants⟩

/-- The translation of a statement.  A declaration records the category of its value, which is
the unknown one if the check of the value failed. -/
def Stmt.translate (names : NameTable) (constants : ConstantPool) : Stmt → Translation
  | declare t init =>
    let value := init.attributes names constants
    match t.token with
    | .ident name =>
      match names.declare name value.category with
      | some (slot, names) => ⟨value.code ++ [.store slot], value.errors, names, value.constants⟩
      | none =>
        ⟨value.code, value.errors ++ [⟨.tableFull .names, t.pos⟩], names, value.constants⟩
    | token =>
      ⟨value.code, value.errors ++ [⟨.unexpectedToken token, t.pos⟩], names, value.constants⟩
  | expr x => (x.attributes names constants).translation names
  | print x =>
    let value := x.attributes names constants
    ⟨value.code ++ [.print], value.errors, names, value.constants⟩

/-- The translation of a sequence of statements. -/
def Program.translate (names : NameTable) (constants : ConstantPool) : Program → Translation
  | [] => ⟨[], [], names, constants⟩
  | stmt :: program =>
    let first := stmt.translate names constants
    let others := translate first.names first.constants program
    ⟨first.code ++ others.code, first.errors ++ others.errors, others.names, others.constants⟩

namespace Emitter

/-! ### The compiler upon a verdict -/

/-- Emits the instruction of a verdict, or records its fault at the place of a token. -/
def follow (e : Emitter) (t : Located) : Verdict → Emitter
  | .ok (i, _) => e.emit i
  | .error fault => e.fail fault t

theorem literal_eq_follow (e : Emitter) (t : Located) :
    e.literal t =
      { e with constants := (Verdict.literal e.names e.constants t.token).2 }.follow t
        (Verdict.literal e.names e.constants t.token).1 := by
  rw [literal]
  split
  · rename_i value htoken
    simp only [htoken, Verdict.literal, follow]
  · rename_i value htoken
    simp only [htoken, Verdict.literal, follow]
  · rename_i value htoken
    cases hpush : e.constants.push (.string value) with
    | none => simp only [htoken, hpush, Verdict.literal, follow]
    | some entry => simp only [htoken, hpush, Verdict.literal, follow]
  · rename_i name htoken
    cases hslot : e.names.resolve name with
    | none => simp only [htoken, hslot, Verdict.literal, follow]
    | some slot => simp only [htoken, hslot, Verdict.literal, follow]
  · simp only [Verdict.literal, follow]

theorem selected_unary_eq_follow (e : Emitter) (op : Located) (operand : Category) :
    e.selected op .unary (UnaryOp.select op.token operand) =
      e.follow op (.unary op.token operand) := by
  cases op with
  | mk token pos => cases token <;> cases operand <;> rfl

theorem selected_binary_eq_follow (e : Emitter) (op : Located) (left right : Category) :
    e.selected op .binary (BinaryOp.select op.token left right) =
      e.follow op (.binary op.token left right) := by
  cases op with
  | mk token pos => cases left <;> cases right <;> cases token <;> rfl

/-- What is known of the value of an instruction that was emitted last. -/
def known (names : NameTable) : Instruction → Category
  | .load slot => names.category slot
  | i => i.category

theorem category_emit (e : Emitter) (i : Instruction) :
    (e.emit i).category = known e.names i := by
  cases i <;> rfl

theorem known_literal {names : NameTable} {constants : ConstantPool} {token : Token}
    {i : Instruction} {category : Category}
    (h : (Verdict.literal names constants token).1 = .ok (i, category)) :
    known names i = category := by
  rw [Verdict.literal.eq_def] at h
  split at h
  · cases h
    rfl
  · cases h
    rfl
  · split at h
    · cases h
      rfl
    · cases h
  · split at h
    · cases h
      rfl
    · cases h
  · cases h

theorem known_unary {names : NameTable} {op : Token} {operand : Category} {i : Instruction}
    {category : Category} (h : Verdict.unary op operand = .ok (i, category)) :
    known names i = category := by
  cases op <;> cases operand <;> cases h <;> rfl

theorem known_binary {names : NameTable} {op : Token} {left right : Category} {i : Instruction}
    {category : Category} (h : Verdict.binary op left right = .ok (i, category)) :
    known names i = category := by
  cases left <;> cases right <;> cases op <;> cases h <;> rfl

/-! ### What the compiler appends -/

/-- From `e` to `e'` the code and the errors of a translation were appended, and the tables
became those of the translation. -/
structure Appended (e e' : Emitter) (t : Translation) : Prop where
  code_eq : e'.code.toList = e.code.toList ++ t.code
  errors_eq : e'.errors = e.errors ++ t.errors
  names_eq : e'.names = t.names
  constants_eq : e'.constants = t.constants

section

variable {e e₁ e₂ : Emitter} {t t₁ t₂ : Translation}

theorem Appended.refl (e : Emitter) : Appended e e ⟨[], [], e.names, e.constants⟩ :=
  ⟨by simp, by simp, rfl, rfl⟩

theorem Appended.trans (h₁ : Appended e e₁ t₁) (h₂ : Appended e₁ e₂ t₂) :
    Appended e e₂ ⟨t₁.code ++ t₂.code, t₁.errors ++ t₂.errors, t₂.names, t₂.constants⟩ where
  code_eq := by simp [h₂.code_eq, h₁.code_eq]
  errors_eq := by simp [h₂.errors_eq, h₁.errors_eq]
  names_eq := h₂.names_eq
  constants_eq := h₂.constants_eq

theorem Appended.emit (h : Appended e e₁ t) (i : Instruction) :
    Appended e (e₁.emit i) { t with code := t.code ++ [i] } where
  code_eq := by simp [Emitter.emit, h.code_eq]
  errors_eq := h.errors_eq
  names_eq := h.names_eq
  constants_eq := h.constants_eq

theorem Appended.fail (h : Appended e e₁ t) (fault : CompileFault) (token : Located) :
    Appended e (e₁.fail fault token)
      { t with errors := t.errors ++ [⟨fault, token.pos⟩] } where
  code_eq := h.code_eq
  errors_eq := by simp [Emitter.fail, h.errors_eq]
  names_eq := h.names_eq
  constants_eq := h.constants_eq

/-- Upon the verdict on a node the compiler appends what the node gets, and then knows the
category that the node gets. -/
theorem Appended.follow {names : NameTable} {code : List Instruction}
    {errors : List CompileError} {constants : ConstantPool} {verdict : Verdict}
    (h : Appended e e₁ ⟨code, errors, names, constants⟩) (token : Located)
    (hknown : ∀ i category, verdict = .ok (i, category) → known names i = category) :
    let a := Attributes.node code errors constants token.pos verdict
    Appended e (e₁.follow token verdict) (a.translation names) ∧
      (e₁.follow token verdict).category = a.category := by
  rcases verdict with fault | ⟨i, category⟩
  · exact ⟨h.fail fault token, rfl⟩
  · refine ⟨h.emit i, ?_⟩
    have hnames : e₁.names = names := h.names_eq
    show (e₁.emit i).category = category
    rw [category_emit, hnames]
    exact hknown i category rfl

/-! ### Expressions, statements and programs -/

/-- Whatever was emitted or recorded before, the compiler appends the code and the errors that
the structure of an expression gives, and then knows its category. -/
theorem appended_expr (e : Emitter) (x : Expr) :
    let a := x.attributes e.names e.constants
    Appended e (e.expr x) (a.translation e.names) ∧ (e.expr x).category = a.category := by
  induction x generalizing e with
  | literal token =>
    rw [expr, literal_eq_follow]
    have hconstants : Appended e
        { e with constants := (Verdict.literal e.names e.constants token.token).2 }
        ⟨[], [], e.names, (Verdict.literal e.names e.constants token.token).2⟩ :=
      ⟨by simp, by simp, rfl, rfl⟩
    exact hconstants.follow token fun _ _ => known_literal
  | unary op operand ih =>
    obtain ⟨hoperand, hcategory⟩ := ih e
    rw [expr, hcategory, selected_unary_eq_follow]
    exact hoperand.follow op fun _ _ => known_unary
  | binary left op right ih₁ ih₂ =>
    obtain ⟨hleft, hcategory₁⟩ := ih₁ e
    obtain ⟨hright, hcategory₂⟩ := ih₂ (e.expr left)
    -- the right operand starts from the tables that the left one leaves
    have hnames : (e.expr left).names = e.names := hleft.names_eq
    have hconstants : (e.expr left).constants = (left.attributes e.names e.constants).constants :=
      hleft.constants_eq
    rw [hnames, hconstants] at hright hcategory₂
    rw [expr, hcategory₁, hcategory₂, selected_binary_eq_follow]
    exact (hleft.trans hright).follow op fun _ _ => known_binary

theorem appended_declare (e : Emitter) (token : Located) (init : Expr) :
    Appended e ((e.expr init).declare token)
      (Stmt.translate e.names e.constants (.declare token init)) := by
  obtain ⟨hinit, hcategory⟩ := appended_expr e init
  have hnames : (e.expr init).names = e.names := hinit.names_eq
  rw [declare, hnames, hcategory, Stmt.translate]
  obtain ⟨token, pos⟩ := token
  cases token with
  | ident name =>
    cases hdeclare : e.names.declare name (init.attributes e.names e.constants).category with
    | none =>
      simp only [hdeclare]
      exact hinit.fail _ _
    | some entry =>
      simp only [hdeclare]
      exact ⟨by simp [emit, hinit.code_eq, Attributes.translation], hinit.errors_eq, rfl,
        hinit.constants_eq⟩
  | _ => exact hinit.fail _ _

theorem appended_stmt (e : Emitter) (stmt : Stmt) :
    Appended e (e.stmt stmt) (stmt.translate e.names e.constants) := by
  cases stmt with
  | declare token init => exact appended_declare e token init
  | expr x => exact (appended_expr e x).1
  | print x => exact (appended_expr e x).1.emit .print

/-- No statement depends on what the compiler knew when the one before it was done. -/
theorem appended_program (e : Emitter) (program : Program) :
    Appended e (e.program program) (program.translate e.names e.constants) := by
  induction program generalizing e with
  | nil => exact .refl e
  | cons stmt program ih =>
    have hfirst := appended_stmt e stmt
    have hothers := ih (e.stmt stmt)
    rw [hfirst.names_eq, hfirst.constants_eq] at hothers
    exact hfirst.trans hothers

end

/-! ### A fresh start -/

/-- All that was emitted and recorded so far, and the tables. -/
def translation (e : Emitter) : Translation :=
  ⟨e.code.toList, e.errors, e.names, e.constants⟩

theorem translation_program (names : NameTable) (constants : ConstantPool) (program : Program) :
    (Emitter.program { names, constants } program).translation =
      program.translate names constants := by
  have happended := appended_program { names, constants } program
  simp only [translation, happended.code_eq, happended.errors_eq, happended.names_eq,
    happended.constants_eq]
  rfl

/-- The compiler appends what it gives with the same tables and nothing in front. -/
theorem appended_fresh (e : Emitter) (program : Program) :
    Appended e (e.program program)
      (Emitter.program { names := e.names, constants := e.constants } program).translation := by
  rw [translation_program]
  exact appended_program e program

theorem program_append (e : Emitter) (first second : Program) :
    e.program (first ++ second) = (e.program first).program second :=
  List.foldl_append

end Emitter

/-- **The category read off the last instruction is that of the structure.**  For all tables and
every program, with errors or without, and whatever tokens stand in it, the compiler gives the
code, the errors in their order and the extended tables of the translation by structure.  Its
code is read as exactly the instructions of the translation. -/
theorem ofProgram_eq_translate (names : NameTable) (constants : ConstantPool)
    (program : Program) :
    let t := program.translate names constants
    CodeUnit.ofProgram names constants program =
        (⟨assemble t.code, t.constants, t.names⟩, t.errors) ∧
      (decodeAll (CodeUnit.ofProgram names constants program).1.code).lines =
        .ok (Decoded.located 0 t.code) := by
  intro t
  have happended := Emitter.appended_program { names, constants } program
  have hunit : CodeUnit.ofProgram names constants program =
      (⟨assemble t.code, t.constants, t.names⟩, t.errors) := by
    simp only [CodeUnit.ofProgram, Emitter.unit, happended.code_eq, happended.errors_eq,
      happended.names_eq, happended.constants_eq]
    rfl
  refine ⟨hunit, ?_⟩
  rw [hunit]
  exact lines_decodeAll_assemble t.code

/-- `var x = -"a"` and `print x + y`: the sign fails, so `x` is recorded as unknown; the error of
`y` comes in front of the one of the sum; and the code of what did not fail stays. -/
example :
    let t := Program.translate {} {}
      [.declare ⟨.ident "x", ⟨1, 5⟩⟩
          (.unary ⟨.minus, ⟨1, 9⟩⟩ (.literal ⟨.string "a", ⟨1, 10⟩⟩)),
        .print (.binary (.literal ⟨.ident "x", ⟨2, 7⟩⟩) ⟨.plus, ⟨2, 9⟩⟩
          (.literal ⟨.ident "y", ⟨2, 11⟩⟩))]
    t.code = [.pushConst 0, .store 0, .load 0, .print] ∧
      t.errors = [⟨.invalidOperand .minus .float .string, ⟨1, 9⟩⟩,
        ⟨.undefinedVariable "y", ⟨2, 11⟩⟩,
        ⟨.invalidOperands .plus .unknown .unknown, ⟨2, 9⟩⟩] ∧
      t.names = ⟨#["x"], #[.unknown]⟩ ∧ t.constants = ⟨#[.string "a"]⟩ := by
  decide +kernel

/-- **Programs compiled as one are compiled one after the other.**  For all tables and any two
programs, with errors or without, the code of both is the code of the first in front of the code
that the second has with the tables of the first; the tables are those that the second leaves,
and the errors are those of the first in front of those of the second. -/
theorem ofProgram_append (names : NameTable) (constants : ConstantPool) (first second : Program) :
    let unit₁ := (CodeUnit.ofProgram names constants first).1
    let errors₁ := (CodeUnit.ofProgram names constants first).2
    let unit₂ := (CodeUnit.ofProgram unit₁.names unit₁.constants second).1
    let errors₂ := (CodeUnit.ofProgram unit₁.names unit₁.constants second).2
    CodeUnit.ofProgram names constants (first ++ second) =
      (⟨unit₁.code ++ unit₂.code, unit₂.constants, unit₂.names⟩, errors₁ ++ errors₂) := by
  intro unit₁ errors₁ unit₂ errors₂
  have happended :=
    Emitter.appended_fresh (Emitter.program { names, constants } first) second
  have hcode : unit₁.code ++ unit₂.code = _ := (assemble_append _ _).symm
  rw [CodeUnit.ofProgram, Emitter.program_append, Emitter.unit, happended.code_eq,
    happended.errors_eq, happended.names_eq, happended.constants_eq, hcode]
  rfl

end StackLang
