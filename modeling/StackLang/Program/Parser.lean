/-
From tokens to programs.

* **`Parser`**: the tokens still to be read, and the errors recorded so far.
* **`Parser.climb`**, **`Parser.extend`**: an expression by precedence climbing.  `climb`
  reads an operand and `extend` goes on with the operators behind it that bind more tightly
  than asked.
* **`Parser.statement`**: one statement.
* **`Parser.program`**: all statements, with the errors recorded on the way.

An error does not stop the parser: it is recorded, reading goes on with the next token, and
a statement that could not be completed is left out.

Design notes.

* Expressions may take at most `maxNesting` levels.  Every start of an expression takes one,
  and so does every operator between operands; they are given back at the end of the
  expression they belong to.  So the levels that are left decrease in every call, and the
  recursion is on them.
* An expression that runs out of levels is reported once.  What is left of the text is given
  up, and nothing is recorded after that.
* The end of the text is not stored as a token: `stop` is its place, and past the last token
  the parser sees the end token there again and again.
-/
import StackLang.Program.Basic
import StackLang.Program.Power

namespace StackLang

/-- What can be wrong with a sequence of tokens as a program. -/
inductive SyntaxFault where
  /-- No expression starts with this token. -/
  | noExpression (token : Token)
  /-- A parenthesis is not closed. -/
  | unclosedGroup
  /-- A declaration has no name. -/
  | missingName
  /-- A declaration has no assignment sign. -/
  | missingAssign
  /-- An expression takes too many levels. -/
  | tooDeep
deriving DecidableEq, Repr

/-- The wording of a fault. -/
def SyntaxFault.message : SyntaxFault → String
  | noExpression token => "no prefix rule for token '" ++ token.text ++ "'"
  | unclosedGroup => "expected ')' after expression"
  | missingName => "expected identifier after 'var'"
  | missingAssign => "expected '=' after variable name"
  | tooDeep => "expression nested too deeply"

/-- A fault and the place of the token at which it was found. -/
structure SyntaxError where
  fault : SyntaxFault
  pos : Pos
deriving DecidableEq, Repr

/-- The wording of the error with its place in front. -/
def SyntaxError.text (e : SyntaxError) : String :=
  e.pos.label e.fault.message

/-- The tokens still to be read, and the errors recorded so far. -/
structure Parser where
  /-- The tokens in front of the end of the text. -/
  pending : List Located
  /-- The place of the end of the text. -/
  stop : Pos
  errors : List SyntaxError := []
  /-- Whether the text was given up. -/
  abandoned : Bool := false
deriving DecidableEq, Repr

namespace Parser

/-- The levels that one expression may take. -/
def maxNesting : Nat := 256

/-! ### Reading tokens -/

/-- The place of the last token, or of the first character where there is none. -/
def lastPos (tokens : List Located) : Pos :=
  match tokens.getLast? with
  | some t => t.pos
  | none => .start

/-- A parser in front of a sequence of tokens.  The text ends at the first end token, or at
the last token where there is none. -/
def ofTokens (tokens : List Located) : Parser where
  pending := tokens.takeWhile (·.token != .eof)
  stop :=
    match tokens.find? (·.token == .eof) with
    | some t => t.pos
    | none => lastPos tokens

/-- The token at which the parser stands. -/
def current (p : Parser) : Located :=
  p.pending.headD ⟨.eof, p.stop⟩

/-- The token at which the parser stands, without its place. -/
def peek (p : Parser) : Token :=
  p.current.token

/-- Passes over the current token; the end of the text is never passed. -/
def advance (p : Parser) : Parser :=
  { p with pending := p.pending.tail }

/-- Records a fault at the current token, unless the text was given up. -/
def record (p : Parser) (fault : SyntaxFault) : Parser :=
  if p.abandoned then p else { p with errors := p.errors ++ [⟨fault, p.current.pos⟩] }

/-- Passes over the given token, or records a fault where another one stands. -/
def expect (p : Parser) (token : Token) (fault : SyntaxFault) : Parser :=
  if p.peek = token then p.advance else p.record fault

/-- Gives up the rest of the text because an expression is too deep. -/
def abandon (p : Parser) : Parser :=
  { p.record .tooDeep with pending := [], abandoned := true }

/-! ### Expressions -/

mutual

/-- Reads an expression whose operators bind more tightly than `floor`, with the given
number of levels left. -/
def climb : Nat → Power → Parser → Option Expr × Parser
  | 0, _, p => (none, p.abandon)
  | levels + 1, floor, p =>
    match p.peek.opening with
    | .operand => extend levels floor (.literal p.current) p.advance
    | .group =>
      match climb levels .lowest p.advance with
      | (none, q) => (none, q.expect .rightParen .unclosedGroup)
      | (some inner, q) => extend levels floor inner (q.expect .rightParen .unclosedGroup)
    | .operator =>
      match climb levels .negation p.advance with
      | (none, q) => (none, q)
      | (some operand, q) => extend levels floor (.unary p.current operand) q
    | .none => (none, (p.record (.noExpression p.peek)).advance)

/-- Goes on behind an expression with the operators that bind more tightly than `floor`. -/
def extend : Nat → Power → Expr → Parser → Option Expr × Parser
  | 0, floor, left, p => if floor < p.peek.power then (none, p.abandon) else (some left, p)
  | levels + 1, floor, left, p =>
    if floor < p.peek.power then
      match climb levels p.peek.power p.advance with
      | (none, q) => (none, q)
      | (some right, q) => extend levels floor (.binary left p.current right) q
    else (some left, p)

end

/-- Reads an expression with all levels left. -/
def expression (p : Parser) (floor : Power) : Option Expr × Parser :=
  climb maxNesting floor p

/-! ### Statements -/

/-- Reads the name of a declaration. -/
def declaredName (p : Parser) : Option Located × Parser :=
  match p.peek with
  | .ident _ => (some p.current, p.advance)
  | _ => (none, p.record .missingName)

/-- Reads a declaration.  The assignment sign and the value are read even without a name. -/
def declaration (p : Parser) : Option Stmt × Parser :=
  let (name, p) := p.advance.declaredName
  let (init, p) := (p.expect .assign .missingAssign).expression .lowest
  match name, init with
  | some name, some init => (some (.declare name init), p)
  | _, _ => (none, p)

/-- Reads one statement. -/
def statement (p : Parser) : Option Stmt × Parser :=
  match p.peek with
  | .var => p.declaration
  | .print =>
    let (value, p) := p.advance.expression .lowest
    (value.map .print, p)
  | _ =>
    let (value, p) := p.expression .lowest
    (value.map .expr, p)

/-! ### Every statement makes progress -/

@[simp]
theorem length_advance (p : Parser) : p.advance.pending.length = p.pending.length - 1 :=
  List.length_tail

@[simp]
theorem pending_record (p : Parser) (fault : SyntaxFault) :
    (p.record fault).pending = p.pending := by
  rw [record]
  split <;> rfl

@[simp]
theorem pending_abandon (p : Parser) : p.abandon.pending = [] :=
  rfl

theorem length_expect (p : Parser) (token : Token) (fault : SyntaxFault) :
    (p.expect token fault).pending.length ≤ p.pending.length := by
  rw [expect]
  split
  · rw [length_advance]
    omega
  · exact Nat.le_of_eq (congrArg List.length (pending_record p fault))

/-- Reading an expression passes over at least one token, if there is one, and going on
behind an expression never goes back. -/
theorem length_climb_extend (levels : Nat) :
    (∀ floor p, (climb levels floor p).2.pending.length ≤ p.pending.length - 1) ∧
      ∀ floor left p, (extend levels floor left p).2.pending.length ≤ p.pending.length := by
  induction levels with
  | zero =>
    refine ⟨fun floor p => ?_, fun floor left p => ?_⟩
    · rw [climb]
      exact Nat.zero_le _
    · rw [extend]
      split
      · exact Nat.zero_le _
      · exact Nat.le_refl _
  | succ levels ih =>
    obtain ⟨hclimb, hextend⟩ := ih
    refine ⟨fun floor p => ?_, fun floor left p => ?_⟩
    · rw [climb]
      split
      · exact Nat.le_trans (hextend _ _ _) (Nat.le_of_eq (length_advance p))
      · have hinner := hclimb .lowest p.advance
        rw [length_advance] at hinner
        split
        · rename_i q heq
          rw [heq] at hinner
          dsimp only at hinner ⊢
          have := length_expect q .rightParen .unclosedGroup
          omega
        · rename_i inner q heq
          rw [heq] at hinner
          dsimp only at hinner ⊢
          have := length_expect q .rightParen .unclosedGroup
          have := hextend floor inner (q.expect .rightParen .unclosedGroup)
          omega
      · have hoperand := hclimb .negation p.advance
        rw [length_advance] at hoperand
        split
        · rename_i q heq
          rw [heq] at hoperand
          dsimp only at hoperand ⊢
          omega
        · rename_i operand q heq
          rw [heq] at hoperand
          dsimp only at hoperand ⊢
          have := hextend floor (.unary p.current operand) q
          omega
      · exact Nat.le_of_eq (by rw [length_advance, pending_record])
    · rw [extend]
      split
      · have hright := hclimb p.peek.power p.advance
        rw [length_advance] at hright
        split
        · rename_i q heq
          rw [heq] at hright
          dsimp only at hright ⊢
          omega
        · rename_i right q heq
          rw [heq] at hright
          dsimp only at hright ⊢
          have := hextend floor (.binary left p.current right) q
          omega
      · exact Nat.le_refl _

theorem length_expression (p : Parser) (floor : Power) :
    (p.expression floor).2.pending.length ≤ p.pending.length - 1 :=
  (length_climb_extend maxNesting).1 floor p

theorem length_declaredName (p : Parser) :
    p.declaredName.2.pending.length ≤ p.pending.length := by
  rw [declaredName]
  split
  · rw [length_advance]
    omega
  · exact Nat.le_of_eq (congrArg List.length (pending_record p .missingName))

theorem length_declaration (p : Parser) :
    p.declaration.2.pending.length ≤ p.pending.length - 1 := by
  have hname := length_declaredName p.advance
  have hassign := length_expect p.advance.declaredName.2 .assign .missingAssign
  have hinit := length_expression
    (p.advance.declaredName.2.expect .assign .missingAssign) .lowest
  rw [length_advance] at hname
  simp only [declaration]
  split <;> dsimp only <;> omega

/-- A statement passes over at least one token, if there is one. -/
theorem length_statement (p : Parser) :
    p.statement.2.pending.length ≤ p.pending.length - 1 := by
  rw [statement]
  split
  · exact length_declaration p
  · have := length_expression p.advance .lowest
    rw [length_advance] at this
    dsimp only
    omega
  · exact length_expression p .lowest

/-! ### Programs -/

/-- Reads statements up to the end of the text. -/
def statements (p : Parser) : Program × Parser :=
  if _h : p.pending = [] then ([], p)
  else
    have : p.statement.2.pending.length < p.pending.length := by
      have hpos : 0 < p.pending.length := List.length_pos_iff.mpr _h
      have := length_statement p
      omega
    let (program, q) := statements p.statement.2
    (p.statement.1.toList ++ program, q)
termination_by p.pending.length

/-- Reads a program up to the end of the text, and hands over the errors recorded so far. -/
def program (p : Parser) : (Program × List SyntaxError) × Parser :=
  let (program, q) := p.statements
  ((program, q.errors), { q with errors := [] })

end Parser

/-- The program that a sequence of tokens is, as far as it could be read, and its errors. -/
def Program.ofTokens (tokens : List Located) : Program × List SyntaxError :=
  (Parser.ofTokens tokens).program.1

end StackLang
