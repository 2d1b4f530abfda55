/-
The depth of a parser.

The parser counts the levels that are left to an expression, and gets them back because it goes on
with the number it had.  Here the levels are counted the other way: a parser carries the number of
levels that are taken, each start of an expression and each operator adds one, and behind an
expression the number is set back.

* `Counting`: a parser with the number of levels taken.
* `Counting.climb_extend_eq`: it reads what the parser reads that has the other levels left.
* `Counting.expression_eq`: an expression is read in the same way, and leaves the depth as it was.
-/
import StackLang.Program.Parser

namespace StackLang

/-- A parser, and the levels that the expressions around the current token have taken. -/
structure Counting where
  parser : Parser
  depth : Nat
deriving DecidableEq, Repr

namespace Counting

mutual

/-- Reads an expression whose operators bind more tightly than `floor`.  The levels that its
operators took are still taken behind it. -/
def climb (floor : Power) (c : Counting) : Option Expr × Counting :=
  let p := c.parser
  let depth := c.depth + 1
  if c.depth < Parser.maxNesting then
    match p.peek.opening with
    | .operand => extend floor (.literal p.current) ⟨p.advance, depth⟩
    | .group =>
      match climb .lowest ⟨p.advance, depth⟩ with
      | (none, q) => (none, ⟨q.parser.expect .rightParen .unclosedGroup, depth⟩)
      | (some inner, q) => extend floor inner ⟨q.parser.expect .rightParen .unclosedGroup, depth⟩
    | .operator =>
      match climb .negation ⟨p.advance, depth⟩ with
      | (none, q) => (none, ⟨q.parser, depth⟩)
      | (some operand, q) => extend floor (.unary p.current operand) ⟨q.parser, depth⟩
    | .none => (none, ⟨(p.record (.noExpression p.peek)).advance, depth⟩)
  else (none, ⟨p.abandon, depth⟩)
termination_by Parser.maxNesting - c.depth

/-- Goes on behind an expression with the operators that bind more tightly than `floor`. -/
def extend (floor : Power) (left : Expr) (c : Counting) : Option Expr × Counting :=
  let p := c.parser
  let depth := c.depth + 1
  if floor < p.peek.power then
    if c.depth < Parser.maxNesting then
      match climb p.peek.power ⟨p.advance, depth⟩ with
      | (none, q) => (none, ⟨q.parser, depth⟩)
      | (some right, q) => extend floor (.binary left p.current right) ⟨q.parser, depth⟩
    else (none, ⟨p.abandon, depth⟩)
  else (some left, c)
termination_by Parser.maxNesting - c.depth

end

/-- Reads an expression and sets the depth back behind it. -/
def expression (c : Counting) (floor : Power) : Option Expr × Counting :=
  let (e, q) := c.climb floor
  (e, { q with depth := c.depth })

/-- What was read, without the depth. -/
def uncounted (result : Option Expr × Counting) : Option Expr × Parser :=
  (result.1, result.2.parser)

/-- The levels that are taken and those that are left are all together the same. -/
theorem climb_extend_eq (levels : Nat) :
    (∀ floor p depth, Parser.maxNesting - depth = levels →
      uncounted (climb floor ⟨p, depth⟩) = Parser.climb levels floor p) ∧
      ∀ floor left p depth, Parser.maxNesting - depth = levels →
        uncounted (extend floor left ⟨p, depth⟩) = Parser.extend levels floor left p := by
  induction levels with
  | zero =>
    constructor
    · intro floor p depth hlevels
      rw [climb, if_neg (by simp only; omega)]
      rfl
    · intro floor left p depth hlevels
      rw [extend, Parser.extend]
      split
      · rw [if_neg (by simp only; omega)]
        rfl
      · rfl
  | succ levels ih =>
    obtain ⟨hclimb, hextend⟩ := ih
    constructor
    · intro floor p depth hlevels
      have hlt : depth < Parser.maxNesting := by omega
      rw [climb, Parser.climb, if_pos hlt]
      have hleft : Parser.maxNesting - (depth + 1) = levels := by omega
      cases p.peek.opening with
      | operand => exact hextend floor _ _ _ hleft
      | group =>
        have hinner := hclimb .lowest p.advance (depth + 1) hleft
        dsimp only
        rw [← hinner]
        cases hresult : climb .lowest ⟨p.advance, depth + 1⟩ with
        | mk inner q =>
          cases inner with
          | none => rfl
          | some inner => exact hextend floor _ _ _ hleft
      | operator =>
        have hoperand := hclimb .negation p.advance (depth + 1) hleft
        dsimp only
        rw [← hoperand]
        cases hresult : climb .negation ⟨p.advance, depth + 1⟩ with
        | mk operand q =>
          cases operand with
          | none => rfl
          | some operand => exact hextend floor _ _ _ hleft
      | none => rfl
    · intro floor left p depth hlevels
      have hlt : depth < Parser.maxNesting := by omega
      have hleft : Parser.maxNesting - (depth + 1) = levels := by omega
      rw [extend, Parser.extend]
      dsimp only
      by_cases hpower : floor < p.peek.power
      · have hright := hclimb p.peek.power p.advance (depth + 1) hleft
        rw [if_pos hpower, if_pos hlt, if_pos hpower, ← hright]
        cases hresult : climb p.peek.power ⟨p.advance, depth + 1⟩ with
        | mk right q =>
          cases right with
          | none => rfl
          | some right => exact hextend floor _ _ _ hleft
      · rw [if_neg hpower, if_neg hpower]
        rfl

/-- Behind an expression the depth is what it was, and what was read is what is read with the other
levels left. -/
theorem expression_eq (c : Counting) (floor : Power) :
    (c.expression floor).2.depth = c.depth ∧
      uncounted (c.expression floor) =
        Parser.climb (Parser.maxNesting - c.depth) floor c.parser := by
  have hclimb := (climb_extend_eq (Parser.maxNesting - c.depth)).1 floor c.parser c.depth rfl
  rw [← hclimb]
  exact ⟨rfl, rfl⟩

end Counting

end StackLang
