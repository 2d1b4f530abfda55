/-
Programs evaluated directly.

The meaning of a program without the help of a compiler and a stack machine: statements in
their order, variables by name, the left operand before the right one, and for every operator
the meaning that the types of the two values at hand give it.

* `Token.onValues`, `Token.onValue`: the meaning of an operator on values.
* `Expr.evaluate`, `Stmt.evaluate`, `Program.evaluate`: the value of an expression, and what
  statements do.
* `Behavior`: what can be seen of a run from outside, for the machine (`Behavior.ofRun`) and
  for direct evaluation (`Behavior.ofEvaluation`).
* `BinaryOp.apply_of_select`, `UnaryOp.apply_of_select`: the operation that the compiler
  selects for the categories of two values does to these values what the operator means.

Design notes: nothing is known before the values exist, so evaluation has failures that no
compiled program can run into: a name that was never declared, a token without a meaning, and
an operator that is not defined for its operands.
-/
import Mathlib.Tactic.Common
import StackLang.Compile.Emitter
import StackLang.Machine.Run

namespace StackLang

/-- The kinds of errors of a run. -/
inductive ErrorKind where
  | unknownOpcode
  | decode
  | divisionByZero
  | stackOverflow
  | stackUnderflow
  | typeMismatch
  | constantOutOfRange
  | slotOutOfRange
  | output
  | stepLimit
  | stackCheck
deriving DecidableEq, Repr

/-- The kind of the error. -/
def RunError.kind : RunError → ErrorKind
  | unknownOpcode _ _ => .unknownOpcode
  | decode _ => .decode
  | divisionByZero _ => .divisionByZero
  | stackOverflow _ _ => .stackOverflow
  | stackUnderflow _ => .stackUnderflow
  | typeMismatch _ _ _ _ => .typeMismatch
  | constantOutOfRange _ _ => .constantOutOfRange
  | slotOutOfRange _ _ _ => .slotOutOfRange
  | output _ => .output
  | stepLimit _ => .stepLimit
  | stackCheck _ => .stackCheck

/-- Why evaluation stops. -/
inductive Failure where
  /-- A variable that was never declared. -/
  | undefinedVariable (name : String)
  /-- A token that makes no sense where it stands. -/
  | unexpectedToken (token : Token)
  /-- An error that a run can have too. -/
  | run (kind : ErrorKind)
deriving DecidableEq, Repr

/-! ### Operators -/

namespace Token

/-- The meaning of an operator between numbers. -/
def onNumbers : Token → Binary32 → Binary32 → Except Failure Value
  | plus, left, right => .ok (.number (left.add right))
  | minus, left, right => .ok (.number (left.sub right))
  | star, left, right => .ok (.number (left.mul right))
  | slash, left, right =>
    if right.isZero then .error (.run .divisionByZero) else .ok (.number (left.div right))
  | equal, left, right => .ok (.boolean (left.eq right))
  | notEqual, left, right => .ok (.boolean (!left.eq right))
  | less, left, right => .ok (.boolean (left.lt right))
  | lessEqual, left, right => .ok (.boolean (left.le right))
  | greater, left, right => .ok (.boolean (right.lt left))
  | greaterEqual, left, right => .ok (.boolean (right.le left))
  | _, _, _ => .error (.run .typeMismatch)

/-- The meaning of an operator between strings.  The difference drops the spaces at the end
of the left one. -/
def onStrings : Token → String → String → Except Failure Value
  | plus, left, right => .ok (.string (left ++ right))
  | minus, left, right => .ok (.string (trimSpaces left ++ right))
  | _, _, _ => .error (.run .typeMismatch)

/-- The meaning of an operator between booleans. -/
def onBooleans : Token → Bool → Bool → Except Failure Value
  | and, left, right => .ok (.boolean (left && right))
  | or, left, right => .ok (.boolean (left || right))
  | _, _, _ => .error (.run .typeMismatch)

/-- The meaning of an operator between two values, which depends on their types. -/
def onValues (op : Token) : Value → Value → Except Failure Value
  | .number left, .number right => op.onNumbers left right
  | .string left, .string right => op.onStrings left right
  | .boolean left, .boolean right => op.onBooleans left right
  | _, _ => .error (.run .typeMismatch)

/-- The meaning of an operator in front of a value. -/
def onValue : Token → Value → Except Failure Value
  | minus, .number value => .ok (.number value.neg)
  | bang, .boolean value => .ok (.boolean !value)
  | _, _ => .error (.run .typeMismatch)

end Token

/-! ### Expressions and statements -/

/-- The variables, their values, the output, and the values of the expression statements so
far.  The position of a variable among the names is its slot. -/
structure Scope where
  names : List String
  slots : Slots
  out : Sink
  values : List Value := []

/-- Computations in a scope. -/
abbrev Evaluation := EStateM Failure Scope

namespace Scope

/-- The value of a variable. -/
def lookup (scope : Scope) (name : String) : Except Failure Value :=
  match scope.names.idxOf? name with
  | none => .error (.undefinedVariable name)
  | some slot =>
    if slot < scope.slots.capacity.toNat then .ok (scope.slots.values[slot]?.getD .empty)
    else .error (.run .slotOutOfRange)

/-- Gives a variable a value.  A new variable comes behind all others. -/
def assign (name : String) (value : Value) : Evaluation Unit := fun scope =>
  let names := if name ∈ scope.names then scope.names else scope.names ++ [name]
  let slot := names.idxOf name
  if slot < scope.slots.capacity.toNat then
    let slots := { scope.slots with values := Slots.store scope.slots.values slot value }
    .ok () { scope with names, slots }
  else .error (.run .slotOutOfRange) scope

/-- Writes a value and a line feed. -/
def print (value : Value) : Evaluation Unit := fun scope =>
  match Sink.writeText (value.text ++ "\n") scope.out with
  | .ok () out => .ok () { scope with out }
  | .error _ out => .error (.run .output) { scope with out }

/-- Keeps the value of an expression statement. -/
def keep (value : Value) : Evaluation Unit := fun scope =>
  .ok () { scope with values := scope.values ++ [value] }

end Scope

/-- The value of an expression. -/
def Expr.evaluate (scope : Scope) : Expr → Except Failure Value
  | literal t =>
    match t.token with
    | .number value => .ok (.number value)
    | .string value => .ok (.string value)
    | .bool value => .ok (.boolean value)
    | .ident name => scope.lookup name
    | token => .error (.unexpectedToken token)
  | unary op operand => do
    let value ← operand.evaluate scope
    op.token.onValue value
  | binary left op right => do
    let value₁ ← left.evaluate scope
    let value₂ ← right.evaluate scope
    op.token.onValues value₁ value₂

/-- Goes on with the value of an expression. -/
def Expr.andThen (x : Expr) (act : Value → Evaluation Unit) : Evaluation Unit := fun scope =>
  match x.evaluate scope with
  | .ok value => act value scope
  | .error failure => .error failure scope

/-- What a statement does. -/
def Stmt.evaluate : Stmt → Evaluation Unit
  | declare t init =>
    init.andThen fun value =>
      match t.token with
      | .ident name => Scope.assign name value
      | token => throw (.unexpectedToken token)
  | expr value => value.andThen Scope.keep
  | print value => value.andThen Scope.print

/-- What the statements of a program do, one after the other. -/
def Program.evaluate : Program → Evaluation Unit
  | [] => pure ()
  | stmt :: program => do
    stmt.evaluate
    Program.evaluate program

/-! ### What can be seen from outside -/

/-- The output, the slots, and the values that were left in the order they came up with the
last of them, or the first error. -/
structure Behavior where
  out : Sink
  slots : Slots
  outcome : Except Failure (Option Value × List Value)
deriving DecidableEq

/-- What can be seen of a run of the machine. -/
def Behavior.ofRun : EStateM.Result RunError Machine (Option Value) → Behavior
  | .ok top m => ⟨m.out, m.slots, .ok (top, m.stack.reverse)⟩
  | .error e m => ⟨m.out, m.slots, .error (.run e.kind)⟩

/-- What can be seen of an evaluation. -/
def Behavior.ofEvaluation : EStateM.Result Failure Scope Unit → Behavior
  | .ok () scope => ⟨scope.out, scope.slots, .ok (scope.values.getLast?, scope.values)⟩
  | .error failure scope => ⟨scope.out, scope.slots, .error failure⟩

/-! ### Selected operations mean what the operators mean -/

theorem BinaryOp.on?_of_select {op : Token} {left right : Category} {operation : BinaryOp}
    (h : BinaryOp.select op left right = .ok operation) :
    left = right ∧ left ≠ .unknown ∧ BinaryOp.on? left op = some operation := by
  rw [select] at h
  split at h
  · rename_i heq
    split at h
    · rename_i hon
      cases h
      exact ⟨heq.1, heq.2, hon⟩
    · cases h
  · cases h

/-- The operation selected for the categories of two values has the result that the operator
has on these values, in the category that the compiler expects, or both fail at a division by
zero. -/
theorem BinaryOp.apply_of_select {op : Token} {left right : Value} {operation : BinaryOp}
    (h : BinaryOp.select op (.ofValue left) (.ofValue right) = .ok operation) :
    (∃ value, operation.apply left right = .ok value ∧ op.onValues left right = .ok value ∧
        Category.ofValue value = operation.category) ∨
      (operation.apply left right = .error .divisionByZero ∧
        op.onValues left right = .error (.run .divisionByZero)) := by
  obtain ⟨heq, hne, hon⟩ := on?_of_select h
  -- both values have the type of the left one, and the operators are those of that type
  cases left with
  | empty => exact absurd rfl hne
  | number a =>
    cases right <;> cases heq
    rename_i b
    cases op with
    | slash =>
      -- the only operation that can fail
      cases hon
      by_cases hzero : b.isZero
      · exact .inr ⟨if_pos ⟨rfl, hzero⟩, if_pos hzero⟩
      · exact .inl ⟨_, if_neg fun h => hzero h.2, if_neg hzero, rfl⟩
    | _ => cases hon <;> exact .inl ⟨_, rfl, rfl, rfl⟩
  | string a =>
    cases right <;> cases heq
    cases op <;> cases hon <;> exact .inl ⟨_, rfl, rfl, rfl⟩
  | boolean a =>
    cases right <;> cases heq
    cases op <;> cases hon <;> exact .inl ⟨_, rfl, rfl, rfl⟩

theorem UnaryOp.apply_of_select {op : Token} {operand : Value} {operation : UnaryOp}
    (h : UnaryOp.select op (.ofValue operand) = .ok operation) :
    ∃ value, operation.apply operand = .ok value ∧ op.onValue operand = .ok value ∧
      Category.ofValue value = operation.category := by
  rw [select] at h
  split at h
  · cases h
  · rename_i operation' htoken
    split at h
    · rename_i hcategory
      cases h
      cases op <;> cases htoken <;> cases operand <;> cases hcategory <;>
        exact ⟨_, rfl, rfl, rfl⟩
    · cases h

end StackLang
