/-
The grammar of programs.

The grammar is stated over sequences of tokens, without a parser: which sequences spell an
expression, a statement or a program, and which one they spell.

* `Token.Joins`: the operators between two operands, with their powers.
* `Spells`: the spellings of expressions.
* `SpellsStmt`: the spellings of statements.
* `SpellsProgram`: statements one after the other, nothing between them.

Design notes.

* A spelling carries the least rank that its operators outside of parentheses may have.  At
  the power `p` it is `p.rank + 1`.  The left operand of an operator may hold operators of
  the same rank and the right one may not, so that operators of one rank group to the left.
* Parentheses leave no trace in an expression, so the levels that a spelling takes are not a
  function of what it spells and are counted in the spelling itself.
* Nothing ends a statement but the start of the next one.  A minus sign behind an expression
  is an operator of that expression, so it starts no statement other than the first.
-/
import Mathlib.Data.List.Forall2
import StackLang.Program.Parser

namespace StackLang

/-! ### Tokens in their roles -/

/-- The token is an expression of its own. -/
inductive Token.IsOperand : Token → Prop
  | number (value : Binary32) : IsOperand (.number value)
  | string (value : String) : IsOperand (.string value)
  | bool (value : Bool) : IsOperand (.bool value)
  | ident (name : String) : IsOperand (.ident name)

/-- The token stands in front of one operand. -/
inductive Token.IsSign : Token → Prop
  | minus : IsSign .minus
  | bang : IsSign .bang

/-- The token stands between two operands and binds them with the given power. -/
inductive Token.Joins : Token → Power → Prop
  | or : Joins .or .disjunction
  | and : Joins .and .conjunction
  | equal : Joins .equal .equality
  | notEqual : Joins .notEqual .equality
  | less : Joins .less .comparison
  | greater : Joins .greater .comparison
  | lessEqual : Joins .lessEqual .comparison
  | greaterEqual : Joins .greaterEqual .comparison
  | plus : Joins .plus .sum
  | minus : Joins .minus .sum
  | star : Joins .star .product
  | slash : Joins .slash .product

/-! ### Spellings -/

/-- `Spells least base tokens e chain top`: the tokens spell the expression `e`, and the
operators in them outside of parentheses have at least the rank `least`.

A spelling that starts on top of `base` levels takes the level `base + 1`, and each of the
`chain` operators that it applies one after the other takes one level more.  What stands in
parentheses, behind a sign or to the right of an operator starts on top of the levels taken
so far.  The highest level taken is `top`. -/
inductive Spells : Nat → Nat → List Located → Expr → Nat → Nat → Prop
  | operand {least base : Nat} {t : Located} (ht : t.token.IsOperand) :
    Spells least base [t] (.literal t) 0 (base + 1)
  | group {least base chain top : Nat} {l r : Located} {ts : List Located} {e : Expr}
      (hl : l.token = .leftParen) (hr : r.token = .rightParen)
      (h : Spells (Power.lowest.rank + 1) (base + 1) ts e chain top) :
    Spells least base (l :: ts ++ [r]) e 0 (max (base + 1) top)
  | unary {least base chain top : Nat} {op : Located} {ts : List Located} {e : Expr}
      (hop : op.token.IsSign)
      (h : Spells (Power.negation.rank + 1) (base + 1) ts e chain top) :
    Spells least base (op :: ts) (.unary op e) 0 (max (base + 1) top)
  | binary {least base chain chain' top top' : Nat} {op : Located} {ts ts' : List Located}
      {left right : Expr} {power : Power} (hop : op.token.Joins power)
      (hleast : least ≤ power.rank) (hleft : Spells power.rank base ts left chain top)
      (hright : Spells (power.rank + 1) (base + 1 + (chain + 1)) ts' right chain' top') :
    Spells least base (ts ++ op :: ts') (.binary left op right) (chain + 1)
      (max top (max (base + 1 + (chain + 1)) top'))

/-- The tokens spell an expression of their own, within the levels that one may take. -/
def SpellsExpr (ts : List Located) (e : Expr) : Prop :=
  ∃ chain top, Spells (Power.lowest.rank + 1) 0 ts e chain top ∧ top ≤ Parser.maxNesting

/-- The tokens spell a statement. -/
inductive SpellsStmt : List Located → Stmt → Prop
  | declare {var name assign : Located} {ts : List Located} {init : Expr} {text : String}
      (hvar : var.token = .var) (hname : name.token = .ident text)
      (hassign : assign.token = .assign) (h : SpellsExpr ts init) :
    SpellsStmt (var :: name :: assign :: ts) (.declare name init)
  | print {print : Located} {ts : List Located} {value : Expr} (hprint : print.token = .print)
      (h : SpellsExpr ts value) :
    SpellsStmt (print :: ts) (.print value)
  | expr {ts : List Located} {value : Expr} (h : SpellsExpr ts value) :
    SpellsStmt ts (.expr value)

/-- The tokens spell the statements of a program one after the other, and none of them
starts with a minus sign unless it is the first. -/
def SpellsProgram (ts : List Located) (program : Program) : Prop :=
  ∃ parts : List (List Located), parts.flatten = ts ∧ List.Forall₂ SpellsStmt parts program ∧
    ∀ part ∈ parts.tail, ∀ t ∈ part.head?, t.token ≠ .minus

/-! ### The roles in the tables of the parser -/

namespace Token

variable {t : Token} {power : Power}

theorem opening_eq_operand_iff : t.opening = .operand ↔ t.IsOperand := by
  constructor
  · intro h
    cases t with
    | number value => exact .number value
    | string value => exact .string value
    | bool value => exact .bool value
    | ident name => exact .ident name
    | _ => cases h
  · intro h
    cases h <;> rfl

theorem opening_eq_group_iff : t.opening = .group ↔ t = .leftParen := by
  constructor
  · intro h
    cases t with
    | leftParen => rfl
    | _ => cases h
  · rintro rfl
    rfl

theorem opening_eq_operator_iff : t.opening = .operator ↔ t.IsSign := by
  constructor
  · intro h
    cases t with
    | minus => exact .minus
    | bang => exact .bang
    | _ => cases h
  · intro h
    cases h <;> rfl

/-- A token that starts an expression is no operator between two operands, the minus sign
apart. -/
theorem eq_minus_or_power_eq (h : t.opening ≠ .none) : t = .minus ∨ t.power = .lowest := by
  cases t with
  | minus => exact .inl rfl
  | number _ | string _ | bool _ | ident _ | leftParen | bang => exact .inr rfl
  | _ => exact absurd rfl h

theorem Joins.power_eq (h : t.Joins power) : t.power = power := by
  cases h <;> rfl

theorem joins_of_power (h : t.power ≠ .lowest) : t.Joins t.power := by
  cases t with
  | or => exact .or
  | and => exact .and
  | equal => exact .equal
  | notEqual => exact .notEqual
  | less => exact .less
  | greater => exact .greater
  | lessEqual => exact .lessEqual
  | greaterEqual => exact .greaterEqual
  | plus => exact .plus
  | minus => exact .minus
  | star => exact .star
  | slash => exact .slash
  | _ => exact absurd rfl h

end Token

theorem Power.rank_le (power : Power) : power.rank ≤ Power.negation.rank := by
  cases power <;> decide

theorem Power.rank_eq_zero_iff {power : Power} : power.rank = 0 ↔ power = .lowest := by
  cases power <;> decide

/-! ### Spellings and their first tokens -/

/-- A spelling may be asked to have operators of less rank. -/
theorem Spells.mono {least least' base chain top : Nat} {ts : List Located} {e : Expr}
    (h : Spells least base ts e chain top) (hle : least' ≤ least) :
    Spells least' base ts e chain top := by
  cases h with
  | operand ht => exact .operand ht
  | group hl hr hinner => exact .group hl hr hinner
  | unary hop hoperand => exact .unary hop hoperand
  | binary hop hleast hleft hright => exact .binary hop (Nat.le_trans hle hleast) hleft hright

theorem Spells.head {least base chain top : Nat} {ts : List Located} {e : Expr}
    (h : Spells least base ts e chain top) :
    ∃ t ts', ts = t :: ts' ∧ t.token.opening ≠ .none := by
  induction h with
  | operand ht =>
    refine ⟨_, _, rfl, ?_⟩
    rw [Token.opening_eq_operand_iff.mpr ht]
    decide
  | group hl _ _ _ =>
    refine ⟨_, _, rfl, ?_⟩
    rw [hl]
    decide
  | unary hop _ _ =>
    refine ⟨_, _, rfl, ?_⟩
    rw [Token.opening_eq_operator_iff.mpr hop]
    decide
  | binary _ _ _ _ ihleft _ =>
    obtain ⟨t, ts', rfl, ht⟩ := ihleft
    exact ⟨t, _, rfl, ht⟩

theorem SpellsStmt.head {ts : List Located} {stmt : Stmt} (h : SpellsStmt ts stmt) :
    ∃ t ts', ts = t :: ts' ∧ (t.token = .minus ∨ t.token.power = .lowest) := by
  cases h with
  | declare hvar hname hassign _ =>
    refine ⟨_, _, rfl, .inr ?_⟩
    rw [hvar]
    rfl
  | print hprint _ =>
    refine ⟨_, _, rfl, .inr ?_⟩
    rw [hprint]
    rfl
  | expr hvalue =>
    obtain ⟨_, _, hspells, -⟩ := hvalue
    obtain ⟨t, ts', hts, hopening⟩ := hspells.head
    exact ⟨t, ts', hts, Token.eq_minus_or_power_eq hopening⟩

/-! ### Programs from their first statements -/

theorem spellsProgram_nil : SpellsProgram [] [] :=
  ⟨[], rfl, .nil, fun _ h => absurd h List.not_mem_nil⟩

theorem SpellsProgram.cons {ts rest : List Located} {stmt : Stmt} {program : Program}
    (hstmt : SpellsStmt ts stmt) (hrest : SpellsProgram rest program)
    (hnext : ∀ t ∈ rest.head?, t.token ≠ .minus) :
    SpellsProgram (ts ++ rest) (stmt :: program) := by
  obtain ⟨parts, rfl, hparts, htail⟩ := hrest
  refine ⟨ts :: parts, rfl, .cons hstmt hparts, fun part hpart => ?_⟩
  -- the first of the other statements starts where the first statement ends
  cases hparts with
  | nil => exact absurd hpart List.not_mem_nil
  | cons hfirst hothers =>
    rcases List.mem_cons.mp hpart with rfl | hmem
    · obtain ⟨t, ts', rfl, -⟩ := hfirst.head
      exact hnext
    · exact htail part hmem

theorem SpellsProgram.cases {ts : List Located} {program : Program}
    (h : SpellsProgram ts program) :
    (ts = [] ∧ program = []) ∨
      ∃ first rest stmt program', ts = first ++ rest ∧ program = stmt :: program' ∧
        SpellsStmt first stmt ∧ SpellsProgram rest program' ∧
        ∀ t ∈ rest.head?, t.token.power = .lowest := by
  obtain ⟨parts, rfl, hparts, htail⟩ := h
  cases hparts with
  | nil => exact .inl ⟨rfl, rfl⟩
  | @cons first stmt parts program' hstmt hothers =>
    -- what starts a statement but the first is no minus sign, so it is no operator
    refine .inr ⟨first, parts.flatten, stmt, program', rfl, rfl, hstmt,
      ⟨parts, rfl, hothers, fun part hpart => htail part (List.mem_of_mem_tail hpart)⟩, ?_⟩
    cases hothers with
    | nil =>
      intro t ht
      cases ht
    | @cons second _ parts _ hsecond _ =>
      have hminus := htail second List.mem_cons_self
      obtain ⟨t, ts', rfl, ht⟩ := hsecond.head
      intro t' ht'
      cases ht'
      exact ht.resolve_left (hminus t rfl)

/-- Programs are spelled one after the other, unless the second starts with a minus sign. -/
theorem SpellsProgram.append {ts ts' : List Located} {program program' : Program}
    (h : SpellsProgram ts program) (h' : SpellsProgram ts' program')
    (hnext : ∀ t ∈ ts'.head?, t.token ≠ .minus) :
    SpellsProgram (ts ++ ts') (program ++ program') := by
  induction program generalizing ts with
  | nil =>
    rcases h.cases with ⟨rfl, -⟩ | ⟨_, _, _, _, -, hprogram, -⟩
    · exact h'
    · cases hprogram
  | cons stmt program ih =>
    rcases h.cases with ⟨-, hprogram⟩ | ⟨first, rest, _, _, rfl, hprogram, hfirst, hrest, hpower⟩
    · cases hprogram
    · cases hprogram
      rw [List.append_assoc]
      refine .cons hfirst (ih hrest) ?_
      -- behind the first statement comes the next one, or the second program
      cases rest with
      | nil => exact hnext
      | cons t rest =>
        rintro t' ⟨⟩ hminus
        have hlowest := hpower t rfl
        rw [hminus] at hlowest
        cases hlowest

end StackLang
