/-
The order of the errors of a parser.

An error names the place of the token at which it was recorded.  Tokens may stand at any places,
so that the places of errors say nothing about the order of these tokens.  But a parser never looks
at places: it does the same with its tokens numbered, and then an error names the number of its
token.  These numbers never decrease.

* `Parser.moved`: a parser with all its places moved.
* `Parser.climb_extend_moved`, `Parser.statements_moved`: what a moved parser reads is what the
  parser reads, moved.
* `Parser.numbered`: a parser in front of the same tokens, with their numbers for lines.
* `Parser.InOrder`: the lines of the errors and of the tokens to come never decrease.  Each step
  of a parser keeps that (`Step.inOrder`), and so does every run (`Moves.inOrder`).
-/
import StackLang.Proofs.Parsing
import StackLang.Proofs.Places

namespace StackLang

/-- The error at another place. -/
def SyntaxError.moved (move : Pos → Pos) (e : SyntaxError) : SyntaxError :=
  ⟨e.fault, move e.pos⟩

namespace Parser

/-! ### Moved parsers -/

/-- The parser with its tokens, its end and its errors at other places. -/
def moved (move : Pos → Pos) (p : Parser) : Parser where
  pending := p.pending.map (Located.moved move)
  stop := move p.stop
  errors := p.errors.map (SyntaxError.moved move)
  abandoned := p.abandoned

section

variable (move : Pos → Pos)

@[simp]
theorem current_moved (p : Parser) : (p.moved move).current = p.current.moved move := by
  cases hpending : p.pending with
  | nil => simp [current, moved, hpending, Located.moved]
  | cons t ts => simp [current, moved, hpending]

@[simp]
theorem peek_moved (p : Parser) : (p.moved move).peek = p.peek := by
  rw [peek, current_moved]
  rfl

@[simp]
theorem advance_moved (p : Parser) : (p.moved move).advance = p.advance.moved move := by
  simp [advance, moved]

@[simp]
theorem record_moved (p : Parser) (fault : SyntaxFault) :
    (p.moved move).record fault = (p.record fault).moved move := by
  have hpos : (p.moved move).current.pos = move p.current.pos := by
    rw [current_moved]
    rfl
  by_cases h : p.abandoned = true
  · rw [record, record, if_pos h, if_pos (show (p.moved move).abandoned = true from h)]
  · rw [record, record, if_neg h, if_neg (show ¬(p.moved move).abandoned = true from h), hpos]
    simp [moved, SyntaxError.moved]

@[simp]
theorem expect_moved (p : Parser) (token : Token) (fault : SyntaxFault) :
    (p.moved move).expect token fault = (p.expect token fault).moved move := by
  rw [expect, expect, peek_moved]
  split
  · exact advance_moved move p
  · exact record_moved move p fault

@[simp]
theorem abandon_moved (p : Parser) : (p.moved move).abandon = p.abandon.moved move := by
  rw [abandon, abandon, record_moved]
  rfl

/-- An expression and the parser behind it, moved. -/
def movedResult (result : Option Expr × Parser) : Option Expr × Parser :=
  (result.1.map (Expr.moved move), result.2.moved move)

/-- Places make no difference to reading: what is read with all places moved is what is read, with
its places moved. -/
theorem climb_extend_moved (levels : Nat) :
    (∀ floor p, climb levels floor (p.moved move) = movedResult move (climb levels floor p)) ∧
      ∀ floor left p, extend levels floor (left.moved move) (p.moved move) =
        movedResult move (extend levels floor left p) := by
  induction levels with
  | zero =>
    constructor
    · intro floor p
      simp [climb, movedResult]
    · intro floor left p
      rw [extend, extend, peek_moved]
      split
      · simp [movedResult]
      · rfl
  | succ levels ih =>
    obtain ⟨hclimb, hextend⟩ := ih
    constructor
    · intro floor p
      rw [climb, climb, peek_moved, current_moved, advance_moved]
      cases p.peek.opening with
      | operand => exact hextend floor (.literal p.current) p.advance
      | group =>
        simp only [hclimb]
        cases hinner : climb levels .lowest p.advance with
        | mk inner q =>
          cases inner with
          | none => simp [movedResult]
          | some inner =>
            simp only [movedResult, Option.map_some, expect_moved]
            exact hextend floor inner _
      | operator =>
        simp only [hclimb]
        cases hoperand : climb levels .negation p.advance with
        | mk operand q =>
          cases operand with
          | none => rfl
          | some operand => exact hextend floor (.unary p.current operand) q
      | none => simp [movedResult]
    · intro floor left p
      rw [extend, extend, peek_moved, current_moved, advance_moved]
      split
      · simp only [hclimb]
        cases hright : climb levels p.peek.power p.advance with
        | mk right q =>
          cases right with
          | none => rfl
          | some right => exact hextend floor (.binary left p.current right) q
      · rfl

theorem expression_moved (p : Parser) (floor : Power) :
    (p.moved move).expression floor = movedResult move (p.expression floor) :=
  (climb_extend_moved move maxNesting).1 floor p

theorem declaredName_moved (p : Parser) :
    (p.moved move).declaredName =
      (p.declaredName.1.map (Located.moved move), p.declaredName.2.moved move) := by
  rw [declaredName, declaredName, peek_moved, current_moved, advance_moved, record_moved]
  split <;> rfl

theorem declaration_moved (p : Parser) :
    (p.moved move).declaration =
      (p.declaration.1.map (Stmt.moved move), p.declaration.2.moved move) := by
  simp only [declaration, advance_moved, declaredName_moved, expect_moved, expression_moved,
    movedResult]
  cases p.advance.declaredName.1 with
  | none => rfl
  | some name =>
    cases ((p.advance.declaredName.2.expect .assign .missingAssign).expression .lowest).1 with
    | none => rfl
    | some init => rfl

theorem statement_moved (p : Parser) :
    (p.moved move).statement = (p.statement.1.map (Stmt.moved move), p.statement.2.moved move) := by
  rw [statement, statement, peek_moved]
  split
  · exact declaration_moved move p
  · simp only [advance_moved, expression_moved, movedResult]
    cases (p.advance.expression .lowest).1 with
    | none => rfl
    | some value => rfl
  · simp only [expression_moved, movedResult]
    cases (p.expression .lowest).1 with
    | none => rfl
    | some value => rfl

theorem statements_moved (p : Parser) :
    (p.moved move).statements = (p.statements.1.moved move, p.statements.2.moved move) := by
  fun_induction statements p with
  | case1 p hempty =>
    have hmoved : (p.moved move).pending = [] := by simp [moved, hempty]
    rw [statements_of_pending_eq_nil hmoved]
    rfl
  | case2 p hpending hlt program q heq ih =>
    have hmoved : (p.moved move).pending ≠ [] := by simpa [moved] using hpending
    rw [statements_of_pending_ne_nil hmoved, statement_moved, ih, heq]
    simp [Program.moved, Option.toList_map]

end

/-! ### Numbered tokens -/

/-- A parser in front of the same tokens, which finds the number of a token in the place of its
line. -/
def numbered (p : Parser) : Parser where
  pending := p.pending.mapIdx fun i t => ⟨t.token, ⟨i, 0⟩⟩
  stop := ⟨p.pending.length, 0⟩

/-- The place of the token with the given number, and of the end of the text behind the tokens. -/
def placeOf (p : Parser) (i : Nat) : Pos :=
  (p.pending[i]?.map Located.pos).getD p.stop

theorem moved_numbered {p : Parser} (hp : p.Clean) :
    p.numbered.moved (fun pos => p.placeOf pos.line) = p := by
  have hpending : (p.numbered.pending).map (Located.moved fun pos => p.placeOf pos.line) =
      p.pending := by
    refine List.ext_getElem (by simp [numbered]) fun i hi hi' => ?_
    simp [numbered, placeOf, Located.moved, hi']
  have hstop : p.placeOf p.pending.length = p.stop := by simp [placeOf]
  rw [moved, hpending]
  show Parser.mk p.pending (p.placeOf p.pending.length) [] false = p
  rw [hstop, ← hp.errors_eq, ← hp.abandoned_eq]

/-! ### Errors in order -/

/-- The lines of the errors, of the tokens to come and of the end never decrease. -/
def InOrder (p : Parser) : Prop :=
  (p.errors.map (·.pos.line) ++ (p.pending.map (·.pos.line) ++ [p.stop.line])).Pairwise (· ≤ ·)

/-- The current token is the first of the tokens to come, or it is the end. -/
theorem exists_lines (p : Parser) :
    ∃ lines, p.pending.map (·.pos.line) ++ [p.stop.line] = p.current.pos.line :: lines := by
  cases hpending : p.pending with
  | nil => exact ⟨[], by simp [current, hpending]⟩
  | cons t ts => exact ⟨_, by rw [current, hpending]; rfl⟩

theorem InOrder.advance {p : Parser} (h : p.InOrder) : p.advance.InOrder := by
  refine h.sublist ?_
  exact (List.Sublist.refl _).append
    (((List.tail_sublist p.pending).map _).append (List.Sublist.refl _))

/-- An error is recorded at the next of the tokens to come. -/
theorem InOrder.record {p : Parser} (h : p.InOrder) (fault : SyntaxFault) :
    (p.record fault).InOrder := by
  rw [Parser.record]
  split
  · exact h
  · obtain ⟨lines, hlines⟩ := p.exists_lines
    simp only [InOrder, hlines] at h
    simp only [InOrder, List.map_append, List.map_cons, List.map_nil, hlines, List.append_assoc,
      List.singleton_append]
    rw [List.pairwise_append] at h ⊢
    obtain ⟨herrors, hrest, hacross⟩ := h
    refine ⟨herrors, List.pairwise_cons.mpr ⟨?_, hrest⟩, ?_⟩
    · intro line hline
      rcases List.mem_cons.mp hline with rfl | hmem
      · exact Nat.le_refl _
      · exact List.rel_of_pairwise_cons hrest hmem
    · intro line hline line' hline'
      rcases List.mem_cons.mp hline' with rfl | hmem
      · exact hacross line hline _ List.mem_cons_self
      · exact hacross line hline line' hmem

theorem InOrder.abandon {p : Parser} (h : p.InOrder) : p.abandon.InOrder := by
  refine (h.record .tooDeep).sublist ?_
  refine (List.Sublist.refl _).append ?_
  have hstop : (p.record .tooDeep).stop = p.abandon.stop := rfl
  rw [hstop]
  exact List.sublist_append_right _ _

theorem Step.inOrder {p q : Parser} (hstep : Step p q) (h : p.InOrder) : q.InOrder := by
  cases hstep with
  | advance => exact h.advance
  | record => exact h.record _
  | abandon => exact h.abandon

theorem Moves.inOrder {p q : Parser} (hmoves : Moves p q) (h : p.InOrder) : q.InOrder := by
  induction hmoves with
  | refl => exact h
  | tail _ hstep ih => exact hstep.inOrder ih

theorem inOrder_numbered (p : Parser) : p.numbered.InOrder := by
  have hlines : p.numbered.pending.map (·.pos.line) = List.range p.pending.length := by
    refine List.ext_getElem (by simp [numbered]) fun i hi hi' => ?_
    simp [numbered]
  have hall : p.numbered.pending.map (·.pos.line) ++ [p.numbered.stop.line] =
      List.range (p.pending.length + 1) := by
    rw [hlines, List.range_succ]
    rfl
  rw [InOrder, hall]
  exact List.pairwise_le_range

/-- The numbers of the tokens at which errors are recorded never decrease. -/
theorem Moves.errors_inOrder {p q : Parser} (hmoves : Moves p.numbered q) :
    (q.errors.map (·.pos.line)).Pairwise (· ≤ ·) :=
  (List.pairwise_append.mp (hmoves.inOrder p.inOrder_numbered)).1

end Parser

end StackLang
