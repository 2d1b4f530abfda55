/-
Recovery from errors.

An error does not stop a parser, and a parser may be asked again after it has read its text.  What
it reports over all requests together is in the order of the tokens, and an expression that is too
deep is reported at most once and as the last error of all.

* `Parser.Call`: what a parser can be asked for.  `Parser.log`: all errors that it records while
  it serves some calls, whether it has handed them over or still holds them.
* `Parser.exists_past`: the errors of a log are those of a single run.
* `Parser.Settled`: what is known of a parser that has given up its text, or has not.  Each step
  keeps it (`Step.settled`), and so does every run (`Moves.settled`).
* `Parser.rounds`: the first statements of a text.
* `ofTokens_recovers`: all together, for every sequence of tokens.

Design notes.

* Handing over its errors is the only thing a parser does that is no step of a run.  The errors
  recorded before have no influence on what is read, so a run may as well start with those that
  were handed over (`Parser.behind`).
* Giving up the text unwinds through whatever is being read: nothing is recorded any more, and no
  rule that is under way gives a result (`Parser.abandoned_of_climb_extend`).
-/
import Mathlib.Data.Nat.Order.Lemmas
import StackLang.Proofs.Depth
import StackLang.Proofs.Numbering

namespace StackLang

namespace Parser

variable {p q : Parser}

/-! ### Calls -/

/-- What a parser can be asked for. -/
inductive Call where
  /-- The statements up to the end of the text, and the errors. -/
  | program
  /-- An expression. -/
  | expression (floor : Power)
deriving DecidableEq, Repr

/-- The parser behind a call. -/
def serve (p : Parser) : Call → Parser
  | .program => p.program.2
  | .expression floor => (p.expression floor).2

/-- The errors that a call hands over. -/
def handed (p : Parser) : Call → List SyntaxError
  | .program => p.program.1.2
  | .expression _ => []

/-- The parser behind some calls. -/
def after (p : Parser) : List Call → Parser
  | [] => p
  | call :: calls => (p.serve call).after calls

/-- All errors that there are behind some calls: those handed over and those still held. -/
def log (p : Parser) : List Call → List SyntaxError
  | [] => p.errors
  | call :: calls => p.handed call ++ (p.serve call).log calls

theorem log_program (p : Parser) : p.log [.program] = p.program.1.2 :=
  List.append_nil _

/-- Places make no difference to what is recorded. -/
theorem log_moved (move : Pos → Pos) (p : Parser) (calls : List Call) :
    (p.moved move).log calls = (p.log calls).map (SyntaxError.moved move) := by
  induction calls generalizing p with
  | nil => rfl
  | cons call calls ih =>
    cases call with
    | program =>
      have hserve : (p.moved move).serve .program = (p.serve .program).moved move := by
        simp only [serve, program, statements_moved]
        rfl
      have hhanded : (p.moved move).handed .program =
          (p.handed .program).map (SyntaxError.moved move) := by
        simp only [handed, program, statements_moved]
        rfl
      rw [log, log, hserve, hhanded, ih, List.map_append]
    | expression floor =>
      have hserve : (p.moved move).serve (.expression floor) =
          (p.serve (.expression floor)).moved move := by
        simp only [serve, expression_moved]
        rfl
      rw [log, log, hserve, ih, List.map_append]
      rfl

/-! ### Calls as one run -/

/-- The parser with errors that were recorded before. -/
def behind (past : List SyntaxError) (p : Parser) : Parser :=
  { p with errors := past ++ p.errors }

theorem Step.behind (h : Step p q) (past : List SyntaxError) :
    Step (p.behind past) (q.behind past) := by
  have hrecord : ∀ fault, (p.behind past).record fault = (p.record fault).behind past := by
    intro fault
    by_cases habandoned : p.abandoned = true
    · simp [Parser.record, Parser.behind, habandoned]
    · simp [Parser.record, Parser.behind, habandoned, current]
  cases h with
  | advance => exact .advance (p.behind past)
  | record hfault =>
    rw [← hrecord]
    exact .record _ hfault
  | abandon =>
    have habandon : p.abandon.behind past = (p.behind past).abandon := by
      rw [Parser.abandon, Parser.abandon, hrecord]
      rfl
    rw [habandon]
    exact .abandon _

/-- The errors recorded before make no difference to a run. -/
theorem Moves.behind (h : Moves p q) (past : List SyntaxError) :
    Moves (p.behind past) (q.behind past) :=
  h.lift _ fun _ _ hstep => hstep.behind past

/-- Behind some calls a parser is where a single run can take it, but for the errors it has handed
over. -/
theorem exists_past (p : Parser) (calls : List Call) :
    ∃ past, Moves p ((p.after calls).behind past) ∧
      ∀ later, p.log (calls ++ later) = past ++ (p.after calls).log later := by
  induction calls generalizing p with
  | nil => exact ⟨[], .refl, fun _ => rfl⟩
  | cons call calls ih =>
    obtain ⟨past, hmoves, hlog⟩ := ih (p.serve call)
    cases call with
    | program =>
      have hfirst : Moves p ((p.serve .program).behind p.program.1.2) := by
        have hback : (p.serve .program).behind p.program.1.2 = p.statements.2 := by
          simp [serve, program, Parser.behind]
        rw [hback]
        exact moves_statements p
      have hothers : Moves ((p.serve .program).behind p.program.1.2)
          ((p.after (.program :: calls)).behind (p.program.1.2 ++ past)) := by
        have hlater := hmoves.behind p.program.1.2
        simpa [Parser.behind, after] using hlater
      refine ⟨p.program.1.2 ++ past, hfirst.trans hothers, fun later => ?_⟩
      rw [List.cons_append, log, hlog, List.append_assoc]
      rfl
    | expression floor =>
      exact ⟨past, (moves_expression p floor).trans hmoves, hlog⟩

/-- The errors of a log are those of a single run. -/
theorem exists_moves_of_log (p : Parser) (calls : List Call) :
    ∃ q, Moves p q ∧ q.errors = p.log calls := by
  obtain ⟨past, hmoves, hlog⟩ := p.exists_past calls
  have hall := hlog []
  rw [List.append_nil] at hall
  exact ⟨_, hmoves, hall.symm⟩

/-! ### Texts that were given up -/

/-- A text that was given up is at its end.  An expression that is too deep is among the errors only
if the text was given up, and as the last of them. -/
structure Settled (p : Parser) : Prop where
  pending_eq : p.abandoned = true → p.pending = []
  not_tooDeep : p.abandoned = false → ∀ e ∈ p.errors, e.fault ≠ .tooDeep
  last : ∀ e ∈ p.errors.dropLast, e.fault ≠ .tooDeep

theorem Clean.settled (h : p.Clean) : p.Settled where
  pending_eq habandoned := by
    rw [h.abandoned_eq] at habandoned
    cases habandoned
  not_tooDeep _ e he := by
    rw [h.errors_eq] at he
    cases he
  last e he := by
    rw [h.errors_eq] at he
    cases he

theorem record_of_abandoned (h : p.abandoned = true) (fault : SyntaxFault) :
    p.record fault = p := by
  rw [record, if_pos h]

theorem errors_record (h : p.abandoned = false) (fault : SyntaxFault) :
    (p.record fault).errors = p.errors ++ [⟨fault, p.current.pos⟩] := by
  rw [record, if_neg (by simp [h])]

theorem Step.settled (hstep : Step p q) (h : p.Settled) : q.Settled := by
  obtain ⟨hpending, hnot, hlast⟩ := h
  cases hstep with
  | advance =>
    refine ⟨fun habandoned => ?_, hnot, hlast⟩
    simp [Parser.advance, hpending habandoned]
  | @record fault hfault =>
    cases habandoned : p.abandoned with
    | true =>
      rw [record_of_abandoned habandoned]
      exact ⟨hpending, hnot, hlast⟩
    | false =>
      have herrors := errors_record habandoned fault
      refine ⟨?_, fun _ => ?_, ?_⟩
      · simp [habandoned]
      · rw [herrors, List.forall_mem_append]
        exact ⟨hnot habandoned, by simpa using hfault⟩
      · rw [herrors, List.dropLast_concat]
        exact hnot habandoned
  | abandon =>
    refine ⟨fun _ => rfl, by simp [Parser.abandon], ?_⟩
    show ∀ e ∈ (p.record .tooDeep).errors.dropLast, e.fault ≠ .tooDeep
    cases habandoned : p.abandoned with
    | true =>
      rw [record_of_abandoned habandoned]
      exact hlast
    | false =>
      rw [errors_record habandoned, List.dropLast_concat]
      exact hnot habandoned

theorem Moves.settled (hmoves : Moves p q) (h : p.Settled) : q.Settled := by
  induction hmoves with
  | refl => exact h
  | tail _ hstep ih => exact hstep.settled ih

theorem Settled.abandoned_of_tooDeep (h : p.Settled) (hdeep : ∃ e ∈ p.errors, e.fault = .tooDeep) :
    p.abandoned = true := by
  by_contra hnot
  obtain ⟨e, he, hfault⟩ := hdeep
  exact h.not_tooDeep (by simpa using hnot) e he hfault

theorem Step.of_abandoned (hstep : Step p q) (h : p.abandoned = true) :
    q.abandoned = true ∧ q.errors = p.errors := by
  cases hstep with
  | advance => exact ⟨h, rfl⟩
  | record =>
    rw [record_of_abandoned h]
    exact ⟨h, rfl⟩
  | abandon =>
    rw [Parser.abandon, record_of_abandoned h]
    exact ⟨rfl, rfl⟩

/-- Nothing is recorded once the text was given up. -/
theorem Moves.of_abandoned (hmoves : Moves p q) (h : p.abandoned = true) :
    q.abandoned = true ∧ q.errors = p.errors := by
  induction hmoves with
  | refl => exact ⟨h, rfl⟩
  | tail _ hstep ih =>
    obtain ⟨habandoned, herrors⟩ := ih
    obtain ⟨habandoned', herrors'⟩ := hstep.of_abandoned habandoned
    exact ⟨habandoned', herrors'.trans herrors⟩

theorem log_of_abandoned (h : p.abandoned = true) (calls : List Call) : p.log calls = p.errors := by
  induction calls generalizing p with
  | nil => rfl
  | cons call calls ih =>
    cases call with
    | program =>
      obtain ⟨habandoned, herrors⟩ := (moves_statements p).of_abandoned h
      rw [log, ih (p := p.serve .program) habandoned]
      simpa [handed, serve, program] using herrors
    | expression floor =>
      obtain ⟨habandoned, herrors⟩ := (moves_expression p floor).of_abandoned h
      rw [log, ih (p := p.serve (.expression floor)) habandoned]
      exact herrors

/-! ### Nothing is read where the text is given up -/

@[simp]
theorem abandoned_expect (p : Parser) (token : Token) (fault : SyntaxFault) :
    (p.expect token fault).abandoned = p.abandoned := by
  rw [expect]
  split
  · rfl
  · exact abandoned_record p fault

/-- Where something was read, the text was not given up on the way. -/
theorem abandoned_of_climb_extend (levels : Nat) :
    (∀ floor p, (climb levels floor p).1 ≠ none →
      (climb levels floor p).2.abandoned = p.abandoned) ∧
      ∀ floor left p, (extend levels floor left p).1 ≠ none →
        (extend levels floor left p).2.abandoned = p.abandoned := by
  induction levels with
  | zero =>
    constructor
    · intro floor p h
      rw [climb] at h
      exact absurd rfl h
    · intro floor left p h
      rw [extend] at h ⊢
      split at h
      · exact absurd rfl h
      · rename_i hpower
        rw [if_neg hpower]
  | succ levels ih =>
    obtain ⟨hclimb, hextend⟩ := ih
    constructor
    · intro floor p h
      rw [climb] at h ⊢
      cases hopening : p.peek.opening with
      | operand =>
        rw [hopening] at h
        exact hextend _ _ _ h
      | group =>
        rw [hopening] at h
        have hinner := hclimb .lowest p.advance
        dsimp only at h ⊢
        cases hresult : climb levels .lowest p.advance with
        | mk inner q =>
          rw [hresult] at h hinner
          cases inner with
          | none => exact absurd rfl h
          | some inner =>
            rw [hextend _ _ _ h, abandoned_expect]
            exact hinner (by simp)
      | operator =>
        rw [hopening] at h
        have hoperand := hclimb .negation p.advance
        dsimp only at h ⊢
        cases hresult : climb levels .negation p.advance with
        | mk operand q =>
          rw [hresult] at h hoperand
          cases operand with
          | none => exact absurd rfl h
          | some operand =>
            rw [hextend _ _ _ h]
            exact hoperand (by simp)
      | none =>
        rw [hopening] at h
        exact absurd rfl h
    · intro floor left p h
      rw [extend] at h ⊢
      by_cases hpower : floor < p.peek.power
      · rw [if_pos hpower] at h ⊢
        have hright := hclimb p.peek.power p.advance
        cases hresult : climb levels p.peek.power p.advance with
        | mk right q =>
          rw [hresult] at h hright
          cases right with
          | none => exact absurd rfl h
          | some right =>
            rw [hextend _ _ _ h]
            exact hright (by simp)
      · rw [if_neg hpower]

theorem abandoned_of_expression {floor : Power} (h : (p.expression floor).1 ≠ none) :
    (p.expression floor).2.abandoned = p.abandoned :=
  (abandoned_of_climb_extend maxNesting).1 floor p h

@[simp]
theorem abandoned_declaredName (p : Parser) : p.declaredName.2.abandoned = p.abandoned := by
  rw [declaredName]
  split
  · rfl
  · exact abandoned_record p _

theorem abandoned_of_statement (h : p.statement.1 ≠ none) :
    p.statement.2.abandoned = p.abandoned := by
  rw [statement] at h ⊢
  split at h
  · simp only [declaration] at h ⊢
    split at h
    · rename_i hname hinit
      dsimp only
      rw [abandoned_of_expression (by simp [hinit]), abandoned_expect, abandoned_declaredName]
      rfl
    · exact absurd rfl h
  · refine abandoned_of_expression (p := p.advance) fun hnone => h ?_
    dsimp only
    rw [hnone]
    rfl
  · refine abandoned_of_expression fun hnone => h ?_
    dsimp only
    rw [hnone]
    rfl

/-! ### Statements one after the other -/

/-- Reads so many statements, or those up to the end of the text if they are fewer. -/
def rounds (p : Parser) : Nat → Program × Parser
  | 0 => ([], p)
  | n + 1 =>
    let (program, q) := p.rounds n
    if q.pending = [] then (program, q) else (program ++ q.statement.1.toList, q.statement.2)

theorem rounds_succ_of_nil {n : Nat} (h : (p.rounds n).2.pending = []) :
    p.rounds (n + 1) = p.rounds n := by
  simp only [rounds, if_pos h]

theorem rounds_succ_of_ne_nil {n : Nat} (h : (p.rounds n).2.pending ≠ []) :
    p.rounds (n + 1) =
      ((p.rounds n).1 ++ (p.rounds n).2.statement.1.toList, (p.rounds n).2.statement.2) := by
  simp only [rounds, if_neg h]

theorem moves_rounds (p : Parser) (n : Nat) : Moves p (p.rounds n).2 := by
  induction n with
  | zero => exact .refl
  | succ n ih =>
    by_cases h : (p.rounds n).2.pending = []
    · rw [rounds_succ_of_nil h]
      exact ih
    · rw [rounds_succ_of_ne_nil h]
      exact ih.trans (moves_statement _)

/-- Reading goes on behind the first statements. -/
theorem statements_eq_rounds (p : Parser) (n : Nat) :
    p.statements =
      ((p.rounds n).1 ++ (p.rounds n).2.statements.1, (p.rounds n).2.statements.2) := by
  induction n with
  | zero => rfl
  | succ n ih =>
    by_cases h : (p.rounds n).2.pending = []
    · rw [rounds_succ_of_nil h]
      exact ih
    · rw [ih, rounds_succ_of_ne_nil h, statements_of_pending_ne_nil h, List.append_assoc]

theorem length_rounds (p : Parser) (n : Nat) :
    (p.rounds n).2.pending.length ≤ p.pending.length - n := by
  induction n with
  | zero => exact Nat.le_refl _
  | succ n ih =>
    by_cases h : (p.rounds n).2.pending = []
    · rw [rounds_succ_of_nil h, h]
      exact Nat.zero_le _
    · rw [rounds_succ_of_ne_nil h]
      have hlt := length_statement (p.rounds n).2
      dsimp only
      omega

/-- There are no more statements than tokens. -/
theorem statements_eq_rounds_length (p : Parser) : p.statements = p.rounds p.pending.length := by
  have hlength := p.length_rounds p.pending.length
  have hend : (p.rounds p.pending.length).2.pending = [] :=
    List.eq_nil_of_length_eq_zero (by omega)
  rw [p.statements_eq_rounds p.pending.length, statements_of_pending_eq_nil hend, List.append_nil]

theorem pending_statements (p : Parser) : p.statements.2.pending = [] := by
  fun_induction statements p with
  | case1 p hempty => exact hempty
  | case2 p hpending hlt program q heq ih =>
    rw [heq] at ih
    exact ih

/-- Where an expression is too deep, the program is what was read in front of the statement with
that expression. -/
theorem exists_round_of_tooDeep (hp : p.Clean)
    (hdeep : ∃ e ∈ p.statements.2.errors, e.fault = .tooDeep) :
    ∃ n, (∀ e ∈ (p.rounds n).2.errors, e.fault ≠ .tooDeep) ∧
      (∃ e ∈ (p.rounds (n + 1)).2.errors, e.fault = .tooDeep) ∧
      p.statements.1 = (p.rounds n).1 := by
  have hexists : ∃ n, ∃ e ∈ (p.rounds n).2.errors, e.fault = .tooDeep := by
    rw [statements_eq_rounds_length] at hdeep
    exact ⟨_, hdeep⟩
  have hstart : ¬∃ e ∈ (p.rounds 0).2.errors, e.fault = .tooDeep := by
    simp [rounds, hp.errors_eq]
  -- the round in which the expression was read
  obtain ⟨n, hnot, hafter⟩ := Nat.exists_not_and_succ_of_not_zero_of_exists hstart hexists
  have hbefore : ∀ e ∈ (p.rounds n).2.errors, e.fault ≠ .tooDeep := by
    intro e he hfault
    exact hnot ⟨e, he, hfault⟩
  refine ⟨n, hbefore, hafter, ?_⟩
  have hsettled := (p.moves_rounds (n + 1)).settled hp.settled
  have hend := hsettled.pending_eq (hsettled.abandoned_of_tooDeep hafter)
  by_cases hpending : (p.rounds n).2.pending = []
  · rw [p.statements_eq_rounds n, statements_of_pending_eq_nil hpending, List.append_nil]
  · have hround := rounds_succ_of_ne_nil hpending
    rw [hround] at hafter hsettled hend
    -- the text was given up in this round, so the statement was not completed
    have hnone : (p.rounds n).2.statement.1 = none := by
      by_contra hsome
      have hsame := abandoned_of_statement hsome
      rw [hsettled.abandoned_of_tooDeep hafter] at hsame
      obtain ⟨e, he, hfault⟩ := hafter
      rw [((moves_statement (p.rounds n).2).of_abandoned hsame.symm).2] at he
      exact hbefore e he hfault
    rw [p.statements_eq_rounds n, statements_of_pending_ne_nil hpending, hnone,
      statements_of_pending_eq_nil hend]
    simp

/-! ### Progress -/

theorem Step.pending_suffix (hstep : Step p q) : q.pending <:+ p.pending := by
  cases hstep with
  | advance => exact List.tail_suffix _
  | record => simp only [pending_record, List.suffix_refl]
  | abandon => exact List.nil_suffix

theorem Moves.pending_suffix (hmoves : Moves p q) : q.pending <:+ p.pending := by
  induction hmoves with
  | refl => exact List.suffix_refl _
  | tail _ hstep ih => exact hstep.pending_suffix.trans ih

theorem peek_of_pending_eq_nil (h : p.pending = []) : p.peek = .eof := by
  rw [peek, current, h]
  rfl

/-- A statement passes over some of the tokens to come. -/
theorem exists_passed_of_statement (h : p.peek ≠ .eof) :
    ∃ passed, passed ≠ [] ∧ p.pending = passed ++ p.statement.2.pending := by
  obtain ⟨passed, hpassed⟩ := (moves_statement p).pending_suffix
  refine ⟨passed, ?_, hpassed.symm⟩
  rintro rfl
  have hlength := length_statement p
  have hne : p.pending ≠ [] := fun hnil => h (peek_of_pending_eq_nil hnil)
  have hpos := List.length_pos_iff.mpr hne
  rw [List.nil_append] at hpassed
  rw [hpassed] at hlength
  omega

end Parser

/-- For every sequence of tokens:

* The text is read up to its end, and the errors of that call are those of the program.
* A statement that is read where a token stands passes over some tokens.
* The errors of any calls are recorded in the order of the tokens.
* Among the errors of any calls, an expression that is too deep is the last, and no later call
  records another error.
* If there is such an expression, then the program is what was read in front of its statement.
* Behind an expression the depth is what it was. -/
theorem ofTokens_recovers (tokens : List Located) :
    ((Parser.ofTokens tokens).program.2.peek = .eof ∧
      (Parser.ofTokens tokens).log [.program] = (Program.ofTokens tokens).2) ∧
    (∀ p : Parser, p.peek ≠ .eof →
      ∃ passed, passed ≠ [] ∧ p.pending = passed ++ p.statement.2.pending) ∧
    (∀ calls,
      (Parser.ofTokens tokens).log calls = ((Parser.ofTokens tokens).numbered.log calls).map
        (SyntaxError.moved fun number => (Parser.ofTokens tokens).placeOf number.line) ∧
      (((Parser.ofTokens tokens).numbered.log calls).map (·.pos.line)).Pairwise (· ≤ ·)) ∧
    (∀ calls, (∀ e ∈ ((Parser.ofTokens tokens).log calls).dropLast, e.fault ≠ .tooDeep) ∧
      ((∃ e ∈ (Parser.ofTokens tokens).log calls, e.fault = .tooDeep) →
        ∀ later, (Parser.ofTokens tokens).log (calls ++ later) =
          (Parser.ofTokens tokens).log calls)) ∧
    ((∃ e ∈ (Program.ofTokens tokens).2, e.fault = .tooDeep) →
      ∃ n, (∀ e ∈ ((Parser.ofTokens tokens).rounds n).2.errors, e.fault ≠ .tooDeep) ∧
        (∃ e ∈ ((Parser.ofTokens tokens).rounds (n + 1)).2.errors, e.fault = .tooDeep) ∧
        (Program.ofTokens tokens).1 = ((Parser.ofTokens tokens).rounds n).1) ∧
    ∀ (c : Counting) (floor : Power), (c.expression floor).2.depth = c.depth ∧
      Counting.uncounted (c.expression floor) =
        Parser.climb (Parser.maxNesting - c.depth) floor c.parser := by
  have hclean : (Parser.ofTokens tokens).Clean := ⟨rfl, rfl⟩
  refine ⟨⟨?_, Parser.log_program _⟩, fun p => Parser.exists_passed_of_statement,
    fun calls => ⟨?_, ?_⟩, fun calls => ⟨?_, ?_⟩, Parser.exists_round_of_tooDeep hclean,
    Counting.expression_eq⟩
  · exact Parser.peek_of_pending_eq_nil (Parser.pending_statements _)
  · rw [← Parser.log_moved, Parser.moved_numbered hclean]
  · obtain ⟨q, hmoves, herrors⟩ := (Parser.ofTokens tokens).numbered.exists_moves_of_log calls
    rw [← herrors]
    exact hmoves.errors_inOrder
  · obtain ⟨q, hmoves, herrors⟩ := (Parser.ofTokens tokens).exists_moves_of_log calls
    rw [← herrors]
    exact (hmoves.settled hclean.settled).last
  · intro hdeep later
    obtain ⟨past, hmoves, hlog⟩ := (Parser.ofTokens tokens).exists_past calls
    have hnow := hlog []
    rw [List.append_nil] at hnow
    -- the text was given up in one of the calls
    have habandoned : ((Parser.ofTokens tokens).after calls).abandoned = true := by
      rw [hnow] at hdeep
      exact (hmoves.settled hclean.settled).abandoned_of_tooDeep hdeep
    rw [hlog later, hnow, Parser.log_of_abandoned habandoned later]
    rfl

/-- A statement that misses its name, another one, and more parentheses than there are levels. -/
def unclosedGroups : List Located :=
  [⟨.var, ⟨1, 1⟩⟩, ⟨.assign, ⟨1, 5⟩⟩, ⟨.bool true, ⟨1, 7⟩⟩, ⟨.bool false, ⟨2, 1⟩⟩] ++
    List.replicate 257 ⟨.leftParen, ⟨3, 1⟩⟩ ++ [⟨.bool true, ⟨4, 1⟩⟩]

example :
    Program.ofTokens unclosedGroups =
      ([.expr (.literal ⟨.bool false, ⟨2, 1⟩⟩)],
        [⟨.missingName, ⟨1, 5⟩⟩, ⟨.tooDeep, ⟨3, 1⟩⟩]) := by
  decide +kernel

end StackLang
