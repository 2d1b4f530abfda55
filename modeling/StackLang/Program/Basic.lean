/-
Programs.

* **`Expr`**: literals, names, and operators applied to expressions.
* **`Stmt`**: a declaration, a bare expression, or a print statement.
* **`Program`**: statements in the order of the source text.
* **`Program.text`**: a program with every application of an operator in parentheses, one
  statement on each line.

Design notes.

* Every node keeps the token it came from with its place, so that later messages can point
  at the source.  Which tokens can stand where is not part of the type: an operator position
  may hold any token, and it is the compiler that refuses one that makes no sense there.
-/
import StackLang.Token.Basic

namespace StackLang

/-- An expression. -/
inductive Expr where
  /-- A number, string, boolean or name. -/
  | literal (token : Located)
  /-- An operator in front of its operand. -/
  | unary (op : Located) (operand : Expr)
  /-- An operator between its operands. -/
  | binary (left : Expr) (op : Located) (right : Expr)
deriving DecidableEq, Repr, Inhabited

/-- The expression with parentheses around every application of an operator. -/
def Expr.text : Expr → String
  | literal token => token.token.text
  | unary op operand => "(" ++ op.token.text ++ " " ++ operand.text ++ ")"
  | binary left op right => "(" ++ left.text ++ " " ++ op.token.text ++ " " ++ right.text ++ ")"

/-- A statement. -/
inductive Stmt where
  /-- Declares a variable, or assigns a new value to one. -/
  | declare (name : Located) (init : Expr)
  /-- An expression; its value stays on the stack. -/
  | expr (value : Expr)
  /-- Writes a value. -/
  | print (value : Expr)
deriving DecidableEq, Repr, Inhabited

/-- The statement as a line of text. -/
def Stmt.text : Stmt → String
  | declare name init => "var " ++ name.token.text ++ " = " ++ init.text
  | expr value => value.text
  | print value => "print " ++ value.text

/-- Statements in the order of the source text. -/
abbrev Program := List Stmt

/-- The program with one statement on each line. -/
def Program.text (program : Program) : String :=
  "\n".intercalate (program.map Stmt.text)

end StackLang
