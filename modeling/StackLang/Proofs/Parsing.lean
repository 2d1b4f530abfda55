/-
The parser reads the grammar.

* `Parser.Moves`: what the parser can do at all, step by step.  Whatever it reads, it only
  passes over tokens, records faults and gives up the text.
* `Parser.Clean`: no fault was recorded.  Steps never mend a fault, so behind a clean parser
  there are only clean ones.
* `Parser.climbFinds_and_extendFinds`: what a clean parser has read as an expression spells it.
* `Parser.climb_of_spells`: what spells an expression is read as that expression.
* `ofTokens_eq_iff_spellsProgram`: tokens are read as a program without errors exactly if
  they spell that program.

Design notes.

* Climbing goes on behind an expression that is already read, so what it has found
  (`Parser.Found`) speaks of the tokens of that expression as well.
* The operators that one climb applies one after the other never become stronger.  So the
  expression read so far is always a possible left operand of the operator behind it.
-/
import Mathlib.Logic.Relation
import StackLang.Proofs.Grammar

namespace StackLang

namespace Parser

variable {p q : Parser} {t : Located} {ts : List Located}

/-! ### The steps of a parser -/

/-- One step of a parser.  That an expression is too deep is recorded only where the text is given
up. -/
inductive Step : Parser → Parser → Prop
  | advance (p : Parser) : Step p p.advance
  | record (p : Parser) {fault : SyntaxFault} (h : fault ≠ .tooDeep) : Step p (p.record fault)
  | abandon (p : Parser) : Step p p.abandon

/-- Some steps of a parser. -/
abbrev Moves : Parser → Parser → Prop :=
  Relation.ReflTransGen Step

theorem moves_advance (p : Parser) : Moves p p.advance :=
  .single (.advance p)

theorem moves_record (p : Parser) (fault : SyntaxFault) (h : fault ≠ .tooDeep) :
    Moves p (p.record fault) :=
  .single (.record p h)

theorem moves_abandon (p : Parser) : Moves p p.abandon :=
  .single (.abandon p)

theorem moves_expect (p : Parser) (token : Token) (fault : SyntaxFault)
    (h : fault ≠ .tooDeep) : Moves p (p.expect token fault) := by
  rw [expect]
  split
  · exact moves_advance p
  · exact moves_record p fault h

theorem moves_climb_extend (levels : Nat) :
    (∀ floor p, Moves p (climb levels floor p).2) ∧
      ∀ floor left p, Moves p (extend levels floor left p).2 := by
  induction levels with
  | zero =>
    constructor
    · intro floor p
      rw [climb]
      exact moves_abandon p
    · intro floor left p
      rw [extend]
      split
      · exact moves_abandon p
      · exact .refl
  | succ levels ih =>
    obtain ⟨hclimb, hextend⟩ := ih
    constructor
    · intro floor p
      rw [climb]
      split
      · exact (moves_advance p).trans (hextend _ _ _)
      · have hinner := (moves_advance p).trans (hclimb .lowest p.advance)
        split
        · rename_i q heq
          rw [heq] at hinner
          exact hinner.trans (moves_expect q _ .unclosedGroup (by simp))
        · rename_i inner q heq
          rw [heq] at hinner
          exact (hinner.trans (moves_expect q _ .unclosedGroup (by simp))).trans (hextend _ _ _)
      · have hoperand := (moves_advance p).trans (hclimb .negation p.advance)
        split
        · rename_i q heq
          rw [heq] at hoperand
          exact hoperand
        · rename_i operand q heq
          rw [heq] at hoperand
          exact hoperand.trans (hextend _ _ _)
      · exact (moves_record p (.noExpression _) (by simp)).trans (moves_advance _)
    · intro floor left p
      rw [extend]
      split
      · have hright := (moves_advance p).trans (hclimb p.peek.power p.advance)
        split
        · rename_i q heq
          rw [heq] at hright
          exact hright
        · rename_i right q heq
          rw [heq] at hright
          exact hright.trans (hextend _ _ _)
      · exact .refl

theorem moves_expression (p : Parser) (floor : Power) : Moves p (p.expression floor).2 :=
  (moves_climb_extend maxNesting).1 floor p

theorem moves_declaredName (p : Parser) : Moves p p.declaredName.2 := by
  rw [declaredName]
  split
  · exact moves_advance p
  · exact moves_record p .missingName (by simp)

theorem moves_declaration (p : Parser) : Moves p p.declaration.2 := by
  have hname := (moves_advance p).trans (moves_declaredName p.advance)
  have hassign := hname.trans
    (moves_expect p.advance.declaredName.2 .assign .missingAssign (by simp))
  have hinit := hassign.trans (moves_expression _ .lowest)
  simp only [declaration]
  split
  · exact hinit
  · exact hinit

theorem moves_statement (p : Parser) : Moves p p.statement.2 := by
  rw [statement]
  split
  · exact moves_declaration p
  · exact (moves_advance p).trans (moves_expression p.advance .lowest)
  · exact moves_expression p .lowest

theorem statements_of_pending_eq_nil (h : p.pending = []) : p.statements = ([], p) := by
  rw [statements, dif_pos h]

theorem statements_of_pending_ne_nil (h : p.pending ≠ []) :
    p.statements = (p.statement.1.toList ++ p.statement.2.statements.1,
      p.statement.2.statements.2) := by
  rw [statements, dif_neg h]

theorem moves_statements (p : Parser) : Moves p p.statements.2 := by
  fun_induction statements p with
  | case1 p hempty => exact .refl
  | case2 p hpending hlt program q heq ih =>
    rw [heq] at ih
    exact (moves_statement p).trans ih

/-! ### Clean parsers -/

/-- No fault was recorded, and the text was not given up. -/
structure Clean (p : Parser) : Prop where
  errors_eq : p.errors = []
  abandoned_eq : p.abandoned = false

@[simp]
theorem abandoned_record (p : Parser) (fault : SyntaxFault) :
    (p.record fault).abandoned = p.abandoned := by
  rw [record]
  split <;> rfl

/-- Recording leaves an error, unless the text was given up without one. -/
theorem errors_record_ne_nil (h : p.abandoned = true → p.errors ≠ []) (fault : SyntaxFault) :
    (p.record fault).errors ≠ [] := by
  rw [record]
  split
  · rename_i habandoned
    exact h habandoned
  · exact List.append_ne_nil_of_right_ne_nil _ (List.cons_ne_nil _ _)

theorem not_clean_record (p : Parser) (fault : SyntaxFault) : ¬(p.record fault).Clean := by
  rintro ⟨herrors, habandoned⟩
  rw [abandoned_record] at habandoned
  refine errors_record_ne_nil (fun h => ?_) fault herrors
  rw [habandoned] at h
  cases h

theorem not_clean_abandon (p : Parser) : ¬p.abandon.Clean := by
  rintro ⟨-, habandoned⟩
  cases habandoned

theorem Step.clean (h : Step p q) (hq : q.Clean) : p.Clean := by
  cases h with
  | advance => exact ⟨hq.errors_eq, hq.abandoned_eq⟩
  | record => exact absurd hq (not_clean_record p _)
  | abandon => exact absurd hq (not_clean_abandon p)

/-- Behind a clean parser there are only clean ones. -/
theorem Moves.clean (h : Moves p q) (hq : q.Clean) : p.Clean := by
  induction h with
  | refl => exact hq
  | tail _ hstep ih => exact ih (hstep.clean hq)

theorem Step.errors_ne_nil_of_abandoned (h : Step p q)
    (hp : p.abandoned = true → p.errors ≠ []) : q.abandoned = true → q.errors ≠ [] := by
  cases h with
  | advance => exact hp
  | record => exact fun _ => errors_record_ne_nil hp _
  | abandon => exact fun _ => errors_record_ne_nil hp .tooDeep

/-- A text is not given up without an error. -/
theorem Moves.errors_ne_nil_of_abandoned (h : Moves p q) (hp : p.abandoned = false) :
    q.abandoned = true → q.errors ≠ [] := by
  induction h with
  | refl =>
    intro habandoned
    rw [hp] at habandoned
    cases habandoned
  | tail _ hstep ih => exact hstep.errors_ne_nil_of_abandoned ih

theorem Moves.clean_of_errors_eq_nil (h : Moves p q) (hp : p.abandoned = false)
    (hq : q.errors = []) : q.Clean := by
  refine ⟨hq, ?_⟩
  cases habandoned : q.abandoned with
  | false => rfl
  | true => exact absurd hq (h.errors_ne_nil_of_abandoned hp habandoned)

/-! ### The current token -/

theorem pending_eq_cons (h : p.peek ≠ .eof) : p.pending = p.current :: p.advance.pending := by
  rw [peek, current] at h
  rw [current, advance]
  cases hpending : p.pending with
  | nil =>
    rw [hpending] at h
    exact absurd rfl h
  | cons t ts => rfl

/-- The parser with other tokens in front of it. -/
def facing (p : Parser) (tokens : List Located) : Parser :=
  { p with pending := tokens }

theorem facing_pending (p : Parser) : p.facing p.pending = p :=
  rfl

@[simp]
theorem current_facing_cons (p : Parser) (t : Located) (ts : List Located) :
    (p.facing (t :: ts)).current = t :=
  rfl

@[simp]
theorem peek_facing_cons (p : Parser) (t : Located) (ts : List Located) :
    (p.facing (t :: ts)).peek = t.token :=
  rfl

@[simp]
theorem advance_facing_cons (p : Parser) (t : Located) (ts : List Located) :
    (p.facing (t :: ts)).advance = p.facing ts :=
  rfl

theorem expect_facing_cons {token : Token} {fault : SyntaxFault} (h : t.token = token) :
    (p.facing (t :: ts)).expect token fault = p.facing ts := by
  rw [expect, peek_facing_cons, if_pos h, advance_facing_cons]

/-- Where the right token was asked for, it stood there and was passed over. -/
theorem expect_of_clean {token : Token} {fault : SyntaxFault}
    (h : (p.expect token fault).Clean) : p.peek = token ∧ p.expect token fault = p.advance := by
  rw [expect] at h ⊢
  split at h
  · rename_i hpeek
    exact ⟨hpeek, if_pos hpeek⟩
  · exact absurd h (not_clean_record p fault)

/-! ### What is read spells an expression -/

/-- Behind the tokens `done`, the parser has read more of `p` and all together spells an
expression on top of `base` levels.  No operator that binds more tightly than `floor` is
left. -/
def Found (floor : Power) (base : Nat) (done : List Located) (p : Parser)
    (result : Option Expr × Parser) : Prop :=
  ∃ e ts chain top, result.1 = some e ∧ p.pending = ts ++ result.2.pending ∧
    Spells (floor.rank + 1) base (done ++ ts) e chain top ∧ top ≤ maxNesting ∧
    result.2.peek.power.rank ≤ floor.rank

theorem Found.of_pending {floor : Power} {base : Nat} {done consumed : List Located}
    {result : Option Expr × Parser} (h : Found floor base (done ++ consumed) q result)
    (hp : p.pending = consumed ++ q.pending) : Found floor base done p result := by
  obtain ⟨e, ts, chain, top, hresult, hpending, hspells, htop, hnext⟩ := h
  refine ⟨e, consumed ++ ts, chain, top, hresult, ?_, ?_, htop, hnext⟩
  · rw [hp, hpending, List.append_assoc]
  · rw [← List.append_assoc]
    exact hspells

/-- What a climb of so many levels reads, it finds. -/
def ClimbFinds (levels : Nat) : Prop :=
  ∀ floor p base, base + levels = maxNesting → (climb levels floor p).2.Clean →
    Found floor base [] p (climb levels floor p)

/-- What is read behind a possible left operand of the operator there, is found. -/
def ExtendFinds (levels : Nat) : Prop :=
  ∀ floor left p base done chain top, base + 1 + chain + levels = maxNesting →
    Spells (max (floor.rank + 1) p.peek.power.rank) base done left chain top →
    top ≤ maxNesting → (extend levels floor left p).2.Clean →
    Found floor base done p (extend levels floor left p)

theorem found_of_not_lt {floor : Power} {left : Expr} {base chain top : Nat}
    {done : List Located} (hnot : ¬floor < p.peek.power)
    (hleft : Spells (max (floor.rank + 1) p.peek.power.rank) base done left chain top)
    (htop : top ≤ maxNesting) : Found floor base done p (some left, p) := by
  refine ⟨left, [], chain, top, rfl, rfl, ?_, htop, Nat.not_lt.mp hnot⟩
  rw [List.append_nil]
  exact hleft.mono (Nat.le_max_left _ _)

theorem pending_of_lt_power {floor : Power} (h : floor < p.peek.power) :
    p.peek.Joins p.peek.power ∧ p.pending = p.current :: p.advance.pending := by
  have hpower : p.peek.power ≠ .lowest := by
    intro hlowest
    rw [hlowest] at h
    exact Nat.not_lt_zero _ h
  refine ⟨Token.joins_of_power hpower, pending_eq_cons fun heof => hpower ?_⟩
  rw [heof]
  rfl

theorem extendFinds_zero : ExtendFinds 0 := by
  intro floor left p base done chain top _ hleft htop hclean
  rw [extend] at hclean ⊢
  split at hclean
  · exact absurd hclean (not_clean_abandon p)
  · rename_i hnot
    rw [if_neg hnot]
    exact found_of_not_lt hnot hleft htop

theorem extendFinds_succ {levels : Nat} (hclimb : ClimbFinds levels)
    (hextend : ExtendFinds levels) : ExtendFinds (levels + 1) := by
  intro floor left p base done chain top hlevels hleft htop hclean
  rw [extend] at hclean ⊢
  split at hclean
  · rename_i hlt
    rw [if_pos hlt]
    obtain ⟨hjoins, hpending⟩ := pending_of_lt_power hlt
    have hright := hclimb p.peek.power p.advance (base + 1 + (chain + 1)) (by omega)
    cases hresult : climb levels p.peek.power p.advance with
    | mk right q =>
      rw [hresult] at hclean hright
      cases right with
      | none =>
        -- a clean climb always ends with an expression
        obtain ⟨_, _, _, _, hnone, -⟩ := hright hclean
        cases hnone
      | some right =>
        have hq : q.Clean := ((moves_climb_extend levels).2 _ _ q).clean hclean
        obtain ⟨_, ts, chain', top', hsome, hadvance, hspells, htop', hnext⟩ := hright hq
        cases hsome
        -- the operator behind the right operand is not stronger than this one
        have hrank : floor.rank < p.peek.power.rank := hlt
        have hbinary : Spells p.peek.power.rank base (done ++ p.current :: ts)
            (.binary left p.current right) (chain + 1) _ :=
          .binary hjoins (Nat.le_refl _) (hleft.mono (Nat.le_max_right _ _)) hspells
        have hfound := hextend floor _ q base _ (chain + 1) _ (by omega)
          (hbinary.mono (Nat.max_le.mpr ⟨hrank, hnext⟩)) (by omega) hclean
        refine hfound.of_pending ?_
        rw [hpending, hadvance]
        rfl
  · rename_i hnot
    rw [if_neg hnot]
    exact found_of_not_lt hnot hleft htop

theorem climbFinds_zero : ClimbFinds 0 := by
  intro floor p base _ hclean
  rw [climb] at hclean
  exact absurd hclean (not_clean_abandon p)

theorem pending_of_opening (h : p.peek.opening ≠ .none) :
    p.pending = p.current :: p.advance.pending := by
  refine pending_eq_cons fun heof => h ?_
  rw [heof]
  rfl

/-- An expression in parentheses, and what goes on behind it. -/
theorem found_group {levels base : Nat} {floor : Power} (hclimb : ClimbFinds levels)
    (hextend : ExtendFinds levels) (hlevels : base + (levels + 1) = maxNesting)
    (hopening : p.peek.opening = .group) (hclean : (climb (levels + 1) floor p).2.Clean) :
    Found floor base [] p (climb (levels + 1) floor p) := by
  have hpending : p.pending = p.current :: p.advance.pending :=
    pending_of_opening (by rw [hopening]; decide)
  have hinner := hclimb .lowest p.advance (base + 1) (by omega)
  rw [climb, hopening] at hclean ⊢
  dsimp only at hclean ⊢
  cases hresult : climb levels .lowest p.advance with
  | mk inner q =>
    rw [hresult] at hclean hinner
    cases inner with
    | none =>
      obtain ⟨_, _, _, _, hnone, -⟩ :=
        hinner ((moves_expect q _ .unclosedGroup (by simp)).clean hclean)
      cases hnone
    | some inner =>
      -- the parenthesis was there, for else a fault would have been recorded
      have hexpect := ((moves_climb_extend levels).2 _ _ _).clean hclean
      obtain ⟨hpeek, heq⟩ := expect_of_clean hexpect
      obtain ⟨_, ts, chain, top, hsome, hadvance, hspells, htop, -⟩ :=
        hinner ((moves_expect q _ .unclosedGroup (by simp)).clean hexpect)
      cases hsome
      have hq : q.pending = q.current :: q.advance.pending :=
        pending_eq_cons (by rw [hpeek]; decide)
      dsimp only at hclean ⊢
      rw [heq] at hclean ⊢
      have hfound : Found floor base ([] ++ (p.current :: ts ++ [q.current])) q.advance _ :=
        hextend floor inner q.advance base _ 0 _ (by omega)
          (.group (Token.opening_eq_group_iff.mp hopening) hpeek hspells) (by omega) hclean
      refine hfound.of_pending ?_
      rw [hpending, hadvance, hq]
      simp only [List.cons_append, List.append_assoc, List.nil_append]

/-- A sign with its operand, and what goes on behind it. -/
theorem found_unary {levels base : Nat} {floor : Power} (hclimb : ClimbFinds levels)
    (hextend : ExtendFinds levels) (hlevels : base + (levels + 1) = maxNesting)
    (hopening : p.peek.opening = .operator) (hclean : (climb (levels + 1) floor p).2.Clean) :
    Found floor base [] p (climb (levels + 1) floor p) := by
  have hpending : p.pending = p.current :: p.advance.pending :=
    pending_of_opening (by rw [hopening]; decide)
  have hoperand := hclimb .negation p.advance (base + 1) (by omega)
  rw [climb, hopening] at hclean ⊢
  dsimp only at hclean ⊢
  cases hresult : climb levels .negation p.advance with
  | mk operand q =>
    rw [hresult] at hclean hoperand
    cases operand with
    | none =>
      obtain ⟨_, _, _, _, hnone, -⟩ := hoperand hclean
      cases hnone
    | some operand =>
      obtain ⟨_, ts, chain, top, hsome, hadvance, hspells, htop, -⟩ :=
        hoperand (((moves_climb_extend levels).2 _ _ q).clean hclean)
      cases hsome
      have hfound : Found floor base ([] ++ p.current :: ts) q _ :=
        hextend floor _ q base _ 0 _ (by omega)
          (.unary (Token.opening_eq_operator_iff.mp hopening) hspells) (by omega) hclean
      refine hfound.of_pending ?_
      rw [hpending, hadvance]
      rfl

theorem climbFinds_succ {levels : Nat} (hclimb : ClimbFinds levels)
    (hextend : ExtendFinds levels) : ClimbFinds (levels + 1) := by
  intro floor p base hlevels hclean
  cases hopening : p.peek.opening with
  | operand =>
    have hpending : p.pending = p.current :: p.advance.pending :=
      pending_of_opening (by rw [hopening]; decide)
    rw [climb, hopening] at hclean ⊢
    have hfound : Found floor base ([] ++ [p.current]) p.advance _ :=
      hextend floor _ p.advance base _ 0 (base + 1) (by omega)
        (.operand (Token.opening_eq_operand_iff.mp hopening)) (by omega) hclean
    exact hfound.of_pending hpending
  | group => exact found_group hclimb hextend hlevels hopening hclean
  | operator => exact found_unary hclimb hextend hlevels hopening hclean
  | none =>
    rw [climb, hopening] at hclean
    exact absurd ((moves_advance _).clean hclean) (not_clean_record p _)

theorem climbFinds_and_extendFinds (levels : Nat) : ClimbFinds levels ∧ ExtendFinds levels := by
  induction levels with
  | zero => exact ⟨climbFinds_zero, extendFinds_zero⟩
  | succ levels ih =>
    obtain ⟨hclimb, hextend⟩ := ih
    exact ⟨climbFinds_succ hclimb hextend, extendFinds_succ hclimb hextend⟩

/-! ### What is read spells a program -/

/-- What is read as an expression without a fault spells it, and no operator stands behind
it. -/
theorem spells_expression (h : (p.expression .lowest).2.Clean) :
    ∃ e ts, (p.expression .lowest).1 = some e ∧ SpellsExpr ts e ∧
      p.pending = ts ++ (p.expression .lowest).2.pending ∧
      (p.expression .lowest).2.peek.power = .lowest := by
  obtain ⟨e, ts, chain, top, hresult, hpending, hspells, htop, hnext⟩ :=
    (climbFinds_and_extendFinds maxNesting).1 .lowest p 0 (Nat.zero_add _) h
  exact ⟨e, ts, hresult, ⟨chain, top, hspells, htop⟩, hpending,
    Power.rank_eq_zero_iff.mp (Nat.le_zero.mp hnext)⟩

theorem declaredName_of_clean (h : p.declaredName.2.Clean) :
    ∃ text, p.peek = .ident text ∧ p.declaredName = (some p.current, p.advance) := by
  rw [declaredName] at h ⊢
  split at h
  · rename_i text hpeek
    exact ⟨text, hpeek, rfl⟩
  · exact absurd h (not_clean_record p _)

theorem spells_declaration (hvar : p.peek = .var) (h : p.declaration.2.Clean) :
    ∃ stmt ts, p.declaration.1 = some stmt ∧ SpellsStmt ts stmt ∧
      p.pending = ts ++ p.declaration.2.pending ∧ p.declaration.2.peek.power = .lowest := by
  -- with or without a name, the parser ends behind the value
  have hsame : p.declaration.2 =
      ((p.advance.declaredName.2.expect .assign .missingAssign).expression .lowest).2 := by
    simp only [declaration]
    split <;> rfl
  rw [hsame] at h ⊢
  have hassign := (moves_expression _ _).clean h
  obtain ⟨text, hname, hdeclared⟩ :=
    declaredName_of_clean ((moves_expect _ _ .missingAssign (by simp)).clean hassign)
  rw [declaration, hdeclared]
  rw [hdeclared] at h hassign
  dsimp only at h hassign ⊢
  obtain ⟨hpeek, hexpect⟩ := expect_of_clean hassign
  rw [hexpect] at h ⊢
  obtain ⟨init, ts, hinit, hspells, hpending, hnext⟩ := spells_expression h
  rw [hinit]
  refine ⟨_, _, rfl, .declare hvar hname hpeek hspells, ?_, hnext⟩
  have hne : p.advance.peek ≠ .eof := by
    rw [hname]
    intro heof
    cases heof
  rw [pending_eq_cons (by rw [hvar]; decide), pending_eq_cons hne,
    pending_eq_cons (by rw [hpeek]; decide), hpending]
  rfl

/-- What is read as a statement without a fault spells it, and no operator stands behind
it. -/
theorem spells_statement (h : p.statement.2.Clean) :
    ∃ stmt ts, p.statement.1 = some stmt ∧ SpellsStmt ts stmt ∧
      p.pending = ts ++ p.statement.2.pending ∧ p.statement.2.peek.power = .lowest := by
  rw [statement] at h ⊢
  split at h
  · rename_i hvar
    exact spells_declaration hvar h
  · rename_i hprint
    obtain ⟨value, ts, hvalue, hspells, hpending, hnext⟩ := spells_expression h
    refine ⟨.print value, p.current :: ts, ?_, .print hprint hspells, ?_, hnext⟩
    · dsimp only
      rw [hvalue]
      rfl
    · rw [pending_eq_cons (by rw [hprint]; decide), hpending]
      rfl
  · obtain ⟨value, ts, hvalue, hspells, hpending, hnext⟩ := spells_expression h
    refine ⟨.expr value, ts, ?_, .expr hspells, hpending, hnext⟩
    dsimp only
    rw [hvalue]
    rfl

theorem spells_statements (h : p.statements.2.Clean) :
    SpellsProgram p.pending p.statements.1 := by
  fun_induction statements p with
  | case1 p hempty =>
    rw [hempty]
    exact spellsProgram_nil
  | case2 p hpending hlt program q heq ih =>
    have hrest := moves_statements p.statement.2
    rw [heq] at ih hrest
    obtain ⟨stmt, ts, hstmt, hspells, hsplit, hnext⟩ := spells_statement (hrest.clean h)
    rw [hsplit, hstmt]
    -- a minus sign behind the statement would have been read as an operator of it
    refine SpellsProgram.cons hspells (ih h) ?_
    intro t ht hminus
    obtain ⟨ts', hts'⟩ := List.head?_eq_some_iff.mp ht
    rw [← facing_pending p.statement.2, hts', peek_facing_cons, hminus] at hnext
    cases hnext

/-! ### What spells an expression is read -/

section

variable {levels : Nat} {floor : Power} {left : Expr}

theorem climb_operand (h : p.peek.IsOperand) :
    climb (levels + 1) floor p = extend levels floor (.literal p.current) p.advance := by
  rw [climb, Token.opening_eq_operand_iff.mpr h]

theorem climb_group {inner : Expr} (h : p.peek = .leftParen)
    (hinner : climb levels .lowest p.advance = (some inner, q)) (hq : q.peek = .rightParen) :
    climb (levels + 1) floor p = extend levels floor inner q.advance := by
  rw [climb, Token.opening_eq_group_iff.mpr h]
  dsimp only
  rw [hinner]
  dsimp only
  rw [expect, if_pos hq]

theorem climb_unary {operand : Expr} (h : p.peek.IsSign)
    (hoperand : climb levels .negation p.advance = (some operand, q)) :
    climb (levels + 1) floor p = extend levels floor (.unary p.current operand) q := by
  rw [climb, Token.opening_eq_operator_iff.mpr h]
  dsimp only
  rw [hoperand]

theorem extend_of_not_lt (h : ¬floor < p.peek.power) :
    extend levels floor left p = (some left, p) := by
  cases levels with
  | zero => rw [extend, if_neg h]
  | succ levels => rw [extend, if_neg h]

theorem extend_binary {right : Expr} (h : floor < p.peek.power)
    (hright : climb levels p.peek.power p.advance = (some right, q)) :
    extend (levels + 1) floor left p = extend levels floor (.binary left p.current right) q := by
  rw [extend, if_pos h, hright]

end

/-- What spells an expression is read as that expression, if no operator stands behind it
that belongs to one of its operands, and climbing goes on behind it. -/
theorem climb_of_spells {least base levels chain top : Nat} {rest : List Located} {e : Expr}
    {floor : Power} (h : Spells least base ts e chain top) (htop : top ≤ maxNesting)
    (hlevels : base + levels = maxNesting) (hfloor : floor.rank < least)
    (hnext : (p.facing rest).peek.power.rank ≤ least) :
    climb levels floor (p.facing (ts ++ rest)) =
      extend (levels - 1 - chain) floor e (p.facing rest) := by
  induction h generalizing floor rest levels with
  | @operand least base t ht =>
    obtain ⟨levels, rfl⟩ : ∃ n, levels = n + 1 := ⟨levels - 1, by omega⟩
    exact climb_operand ht
  | @group least base chain top l r ts e hl hr _ ih =>
    obtain ⟨levels, rfl⟩ : ∃ n, levels = n + 1 := ⟨levels - 1, by omega⟩
    -- a closing parenthesis is no operator, so the climb in the parentheses ends at it
    have hparen : (p.facing (r :: rest)).peek = .rightParen := hr
    have hinner : climb levels .lowest (p.facing (ts ++ r :: rest)) =
        (some e, p.facing (r :: rest)) := by
      rw [ih (by omega) (by omega) (Nat.lt_succ_self _) (by rw [hparen]; decide)]
      exact extend_of_not_lt (by rw [hparen]; decide)
    rw [List.cons_append, List.cons_append, List.append_assoc]
    exact climb_group (p := p.facing (l :: (ts ++ r :: rest))) hl hinner hparen
  | @unary least base chain top op ts e hop _ ih =>
    obtain ⟨levels, rfl⟩ : ∃ n, levels = n + 1 := ⟨levels - 1, by omega⟩
    -- nothing binds more tightly than a sign, so its operand ends where its spelling does
    have hstop := Power.rank_le (p.facing rest).peek.power
    have hoperand : climb levels .negation (p.facing (ts ++ rest)) =
        (some e, p.facing rest) := by
      rw [ih (by omega) (by omega) (Nat.lt_succ_self _) (Nat.le_succ_of_le hstop)]
      exact extend_of_not_lt (Nat.not_lt.mpr hstop)
    exact climb_unary hop hoperand
  | @binary least base chain chain' top top' op ts ts' left right power hop hleast _ _ ihleft
      ihright =>
    obtain ⟨n, hn⟩ : ∃ n, levels - 1 - chain = n + 1 := ⟨levels - 1 - chain - 1, by omega⟩
    -- the climb goes on at the operator, and the one for its right operand ends behind it
    have hpower : (p.facing (op :: (ts' ++ rest))).peek.power = power := hop.power_eq
    have hlt : floor.rank < power.rank := Nat.lt_of_lt_of_le hfloor hleast
    have hstop := Nat.le_trans hnext hleast
    have hright : climb n power (p.facing (ts' ++ rest)) = (some right, p.facing rest) := by
      rw [ihright (by omega) (by omega) (Nat.lt_succ_self _) (Nat.le_succ_of_le hstop)]
      exact extend_of_not_lt (Nat.not_lt.mpr hstop)
    rw [List.append_assoc, List.cons_append,
      ihleft (by omega) hlevels hlt (Nat.le_of_eq (congrArg Power.rank hpower)), hn,
      show levels - 1 - (chain + 1) = n by omega]
    exact extend_binary (by rw [hpower]; exact hlt) (by rw [hpower]; exact hright)

/-! ### What spells a program is read -/

section

variable {rest : List Located}

theorem expression_of_spells {e : Expr} (h : SpellsExpr ts e)
    (hnext : (p.facing rest).peek.power = .lowest) :
    (p.facing (ts ++ rest)).expression .lowest = (some e, p.facing rest) := by
  obtain ⟨chain, top, hspells, htop⟩ := h
  rw [expression, climb_of_spells hspells htop (Nat.zero_add _) (Nat.lt_succ_self _)
    (by rw [hnext]; decide)]
  exact extend_of_not_lt (by rw [hnext]; decide)

theorem statement_of_spells {stmt : Stmt} (h : SpellsStmt ts stmt)
    (hnext : (p.facing rest).peek.power = .lowest) :
    (p.facing (ts ++ rest)).statement = (some stmt, p.facing rest) := by
  cases h with
  | @declare var name assign ts init text hvar hname hassign hinit =>
    have hdeclared : (p.facing (name :: assign :: ts ++ rest)).declaredName =
        (some name, p.facing (assign :: ts ++ rest)) := by
      rw [declaredName, List.cons_append, peek_facing_cons, hname]
      rfl
    rw [statement, List.cons_append, peek_facing_cons, hvar]
    dsimp only
    rw [declaration, advance_facing_cons, hdeclared]
    dsimp only
    rw [List.cons_append, expect_facing_cons hassign, expression_of_spells hinit hnext]
  | @print print ts value hprint hvalue =>
    rw [statement, List.cons_append, peek_facing_cons, hprint]
    dsimp only
    rw [advance_facing_cons, expression_of_spells hvalue hnext]
    rfl
  | expr hvalue =>
    rw [statement, expression_of_spells hvalue hnext]
    obtain ⟨_, _, hspells, -⟩ := hvalue
    obtain ⟨t, ts', rfl, ht⟩ := hspells.head
    -- neither word that starts another statement starts an expression
    rw [List.cons_append, peek_facing_cons]
    split
    · rename_i hvar
      rw [hvar] at ht
      exact absurd rfl ht
    · rename_i hprint
      rw [hprint] at ht
      exact absurd rfl ht
    · rfl

end

theorem power_peek_facing (h : ∀ t ∈ ts.head?, t.token.power = .lowest) :
    (p.facing ts).peek.power = .lowest := by
  cases ts with
  | nil => rfl
  | cons t ts => exact h t rfl

theorem statements_of_spells {program : Program} (h : SpellsProgram ts program) :
    (p.facing ts).statements = (program, p.facing []) := by
  induction program generalizing ts with
  | nil =>
    rcases h.cases with ⟨rfl, -⟩ | ⟨_, _, _, _, -, hprogram, -⟩
    · exact statements_of_pending_eq_nil rfl
    · cases hprogram
  | cons stmt program ih =>
    rcases h.cases with ⟨-, hprogram⟩ | ⟨first, rest, _, _, rfl, hprogram, hfirst, hrest, hnext⟩
    · cases hprogram
    · cases hprogram
      have hstatement := statement_of_spells hfirst (power_peek_facing (p := p) hnext)
      have hne : (p.facing (first ++ rest)).pending ≠ [] := by
        obtain ⟨t, ts', rfl, -⟩ := hfirst.head
        exact List.cons_ne_nil _ _
      rw [statements_of_pending_ne_nil hne, hstatement, ih hrest]
      rfl

/-- Tokens are read as a program without a fault exactly if they spell it. -/
theorem statements_eq_iff (hp : p.Clean) (program : Program) :
    (p.statements.1 = program ∧ p.statements.2.errors = []) ↔
      SpellsProgram p.pending program := by
  constructor
  · rintro ⟨rfl, herrors⟩
    exact spells_statements
      ((moves_statements p).clean_of_errors_eq_nil hp.abandoned_eq herrors)
  · intro h
    have hstatements := statements_of_spells (p := p) h
    rw [facing_pending] at hstatements
    rw [hstatements]
    exact ⟨rfl, hp.errors_eq⟩

theorem pending_ofTokens {tokens : List Located} {stop : Located}
    (htokens : ∀ t ∈ tokens, t.token ≠ .eof) (hstop : stop.token = .eof) :
    (Parser.ofTokens (tokens ++ [stop])).pending = tokens := by
  have hpos : ∀ t ∈ tokens, (t.token != .eof) = true := fun t ht => bne_iff_ne.mpr (htokens t ht)
  have hstop' : [stop].takeWhile (·.token != .eof) = [] := by
    rw [List.takeWhile_cons, hstop]
    rfl
  rw [Parser.ofTokens, List.takeWhile_append_of_pos hpos, hstop', List.append_nil]

end Parser

theorem ofTokens_eq_iff {ts : List Located} {stop : Located} {program : Program}
    (hts : ∀ t ∈ ts, t.token ≠ .eof) (hstop : stop.token = .eof) :
    Program.ofTokens (ts ++ [stop]) = (program, []) ↔ SpellsProgram ts program := by
  have hread := Parser.statements_eq_iff (p := Parser.ofTokens (ts ++ [stop])) ⟨rfl, rfl⟩ program
  rw [Parser.pending_ofTokens hts hstop, ← Prod.mk.injEq] at hread
  exact hread

end StackLang
