/-
Binding powers.

* **`Power`**: how tightly an operator binds its operands, weakest first.
* **`Token.power`**: the power of a token between two operands; tokens that are no such
  operator have the lowest.
* **`Token.opening`**: what a token at the start of an expression announces.
-/
import StackLang.Token.Basic

namespace StackLang

/-- How tightly an operator binds its operands. -/
inductive Power where
  | lowest
  | disjunction
  | conjunction
  | equality
  | comparison
  | sum
  | product
  | negation
deriving DecidableEq, Repr

namespace Power

/-- Position in the order of powers. -/
def rank : Power → Nat
  | lowest => 0
  | disjunction => 1
  | conjunction => 2
  | equality => 3
  | comparison => 4
  | sum => 5
  | product => 6
  | negation => 7

instance : LT Power :=
  ⟨fun a b => a.rank < b.rank⟩

instance (a b : Power) : Decidable (a < b) :=
  inferInstanceAs (Decidable (a.rank < b.rank))

end Power

/-- The power of a token between two operands. -/
def Token.power : Token → Power
  | or => .disjunction
  | and => .conjunction
  | equal | notEqual => .equality
  | less | greater | lessEqual | greaterEqual => .comparison
  | plus | minus => .sum
  | star | slash => .product
  | _ => .lowest

/-- What a token at the start of an expression announces. -/
inductive Opening where
  /-- The token is an expression of its own. -/
  | operand
  /-- An expression in parentheses follows. -/
  | group
  /-- The operand of the token follows. -/
  | operator
  /-- No expression starts with the token. -/
  | none
deriving DecidableEq, Repr

/-- What the token announces at the start of an expression. -/
def Token.opening : Token → Opening
  | number _ | string _ | bool _ | ident _ => .operand
  | leftParen => .group
  | minus | bang => .operator
  | _ => .none

end StackLang
