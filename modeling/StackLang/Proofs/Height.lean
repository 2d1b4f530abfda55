/-
How high the expressions are that are read.

The levels that an expression takes are given back at its end.  So an operand that has taken
many levels may be followed by as many operators, and what is read may be higher than the number
of levels: parentheses cost one level, and let a whole chain of operators start anew on top of
what stands in them.

* `Expr.height`: the number of nodes on the longest way down an expression.
* `Parser.tallest`: the greatest height that so many levels allow; `Parser.tallestOperand` the
  same for what stands in front of the first operator.
* `Expr.leftSteps`: the steps down an expression for which no level is taken.
* `Parser.height_climb_extend`, `Parser.height_climb_extend_le`: nothing higher is read than the
  levels allow, and than they and these steps are together.
* `exists_spells_tallest`: something as high is spelled, and hence read.
* `height_le_and_attained`: for the levels that an expression may take, all of this together.
* `height_signsThenSums`: an expression that is higher than the number of its levels.

Design notes: behind a sign comes no operator, since none binds more tightly.  So the operand of
a sign has no chain of its own, and it is the parentheses that let the height grow with the
square of the levels.
-/
import StackLang.Proofs.Parsing

namespace StackLang

/-- The number of nodes on the longest way from the root of the expression to a leaf. -/
def Expr.height : Expr → Nat
  | literal _ => 1
  | unary _ operand => operand.height + 1
  | binary left _ right => max left.height right.height + 1

theorem Expr.height_pos (e : Expr) : 0 < e.height := by
  cases e <;> simp [height]

/-- Whether the expression has operands, as a number. -/
def Expr.compound : Expr → Nat
  | literal _ => 0
  | unary _ _ | binary _ _ _ => 1

/-- The most steps from an operator to a left operand that has operands itself, on any way from
the root of the expression to a leaf. -/
def Expr.leftSteps : Expr → Nat
  | literal _ => 0
  | unary _ operand => operand.leftSteps
  | binary left _ right => max (left.leftSteps + left.compound) right.leftSteps

/-- The expression of a statement. -/
def Stmt.value : Stmt → Expr
  | declare _ init => init
  | expr value => value
  | print value => value

namespace Parser

/-- The greatest height of what stands in front of the first operator of an expression that
may take so many levels: a sign in front of such an operand, or parentheses around an operand
and the chain behind it. -/
def tallestOperand : Nat → Nat
  | 0 => 0
  | levels + 1 => tallestOperand levels + max 1 (levels - 2)

/-- The greatest height of an expression that may take so many levels.  The first level is that
of the expression itself and the last one that of the operand of its last operator. -/
def tallest (levels : Nat) : Nat :=
  tallestOperand levels + (levels - 2)

theorem tallest_le_tallestOperand (levels : Nat) :
    tallest levels ≤ tallestOperand (levels + 1) := by
  rw [tallest, tallestOperand]
  omega

theorem tallest_le_succ (levels : Nat) : tallest levels ≤ tallest (levels + 1) := by
  have hle := tallest_le_tallestOperand levels
  rw [tallest.eq_def (levels + 1)]
  omega

theorem tallest_pred_le (levels : Nat) : tallest (levels - 1) ≤ tallest levels := by
  cases levels with
  | zero => exact Nat.le_refl _
  | succ levels => exact tallest_le_succ levels

/-! ### What reading gives -/

section

variable {levels : Nat} {floor : Power} {p : Parser} {left e : Expr}

/-- What is read starts with a literal, with something in parentheses or with an operand behind
a sign, and goes on behind it. -/
theorem exists_first_of_climb (h : (climb (levels + 1) floor p).1 = some e) :
    ∃ first q, (extend levels floor first q).1 = some e ∧
      ((∃ t, first = .literal t) ∨ (climb levels .lowest p.advance).1 = some first ∨
        ∃ t operand, first = .unary t operand ∧
          (climb levels .negation p.advance).1 = some operand) := by
  rw [climb] at h
  split at h
  · exact ⟨_, _, h, .inl ⟨_, rfl⟩⟩
  · cases hresult : climb levels .lowest p.advance with
    | mk inner q =>
      rw [hresult] at h
      cases inner with
      | none => cases h
      | some inner => exact ⟨inner, _, h, .inr (.inl rfl)⟩
  · cases hresult : climb levels .negation p.advance with
    | mk operand q =>
      rw [hresult] at h
      cases operand with
      | none => cases h
      | some operand => exact ⟨_, _, h, .inr (.inr ⟨_, operand, rfl, rfl⟩)⟩
  · cases h

theorem climb_zero_ne_some : (climb 0 floor p).1 ≠ some e := by
  intro h
  rw [climb] at h
  cases h

theorem eq_of_extend_zero (h : (extend 0 floor left p).1 = some e) : e = left := by
  rw [extend] at h
  split at h
  · cases h
  · cases h
    rfl

/-- Behind an expression nothing follows, or an operator with a right operand does, for which
a level is left. -/
theorem extend_cases (h : (extend (levels + 1) floor left p).1 = some e) :
    e = left ∨ ∃ right q, levels ≠ 0 ∧ (climb levels p.peek.power p.advance).1 = some right ∧
      (extend levels floor (.binary left p.current right) q).1 = some e := by
  rw [extend] at h
  split at h
  · right
    cases hresult : climb levels p.peek.power p.advance with
    | mk right q =>
      rw [hresult] at h
      cases right with
      | none => cases h
      | some right =>
        have hpos : levels ≠ 0 := by
          rintro rfl
          exact climb_zero_ne_some (congrArg Prod.fst hresult)
        exact ⟨right, q, hpos, rfl, h⟩
  · cases h
    exact .inl rfl

end

/-! ### Nothing higher is read -/

/-- With so many levels, nothing is read that is higher than they allow: an operand behind a
sign, an expression, and a chain of operators behind an expression. -/
theorem height_climb_extend (levels : Nat) :
    (∀ p e, (climb levels .negation p).1 = some e → e.height ≤ tallestOperand levels) ∧
      (∀ floor p e, (climb levels floor p).1 = some e → e.height ≤ tallest levels) ∧
      ∀ floor left p e, (extend levels floor left p).1 = some e →
        e.height ≤ max left.height (tallest (levels - 1)) + (levels - 1) := by
  induction levels with
  | zero =>
    refine ⟨fun _ _ h => absurd h climb_zero_ne_some, fun _ _ _ h => absurd h climb_zero_ne_some,
      ?_⟩
    intro floor left p e h
    rw [eq_of_extend_zero h]
    omega
  | succ levels ih =>
    obtain ⟨hoperand, hclimb, hextend⟩ := ih
    have hfirst : ∀ floor p e, (climb (levels + 1) floor p).1 = some e →
        ∃ first q, (extend levels floor first q).1 = some e ∧
          first.height ≤ tallestOperand (levels + 1) := by
      intro floor p e h
      obtain ⟨first, q, hrest, hfirst⟩ := exists_first_of_climb h
      refine ⟨first, q, hrest, ?_⟩
      rcases hfirst with ⟨t, rfl⟩ | hinner | ⟨t, operand, rfl, hinner⟩
      · rw [Expr.height, tallestOperand]
        omega
      · exact Nat.le_trans (hclimb _ _ _ hinner) (tallest_le_tallestOperand levels)
      · have hle := hoperand _ _ hinner
        rw [Expr.height, tallestOperand]
        omega
    refine ⟨?_, ?_, ?_⟩
    · intro p e h
      obtain ⟨first, q, hrest, hle⟩ := hfirst _ _ _ h
      -- no operator binds more tightly than a sign
      rw [extend_of_not_lt (Nat.not_lt.mpr (Power.rank_le q.peek.power))] at hrest
      cases hrest
      exact hle
    · intro floor p e h
      obtain ⟨first, q, hrest, hle⟩ := hfirst _ _ _ h
      have hchain := hextend floor first q e hrest
      have hpred := Nat.le_trans (tallest_pred_le levels) (tallest_le_tallestOperand levels)
      rw [tallest]
      omega
    · intro floor left p e h
      rcases extend_cases h with rfl | ⟨right, q, hpos, hright, hrest⟩
      · omega
      · have hright' := hclimb _ _ _ hright
        have hchain := hextend floor _ q e hrest
        have hpred := tallest_pred_le levels
        rw [Expr.height] at hchain
        rw [Nat.add_sub_cancel]
        omega

/-! ### Only compound left operands take no level -/

/-- One more operator takes a level for its right operand, and none for a left operand that has
given its levels back. -/
theorem height_binary_le {levels count : Nat} {left right : Expr} (op : Located)
    (hleft : left.height ≤ count + left.leftSteps)
    (hright : right.height ≤ levels + right.leftSteps) (hlevels : levels + 1 ≤ count)
    (hpos : levels ≠ 0) :
    (Expr.binary left op right).height ≤ count + (Expr.binary left op right).leftSteps := by
  simp only [Expr.height, Expr.leftSteps]
  cases left with
  | literal t =>
    simp only [Expr.height]
    omega
  | unary _ _ | binary _ _ _ =>
    simp only [Expr.compound]
    omega

/-- With so many levels, nothing is read that is higher than they and the steps to compound left
operands are together.  A chain of operators keeps to what its first operand kept to. -/
theorem height_climb_extend_le (levels : Nat) :
    (∀ floor p e, (climb levels floor p).1 = some e → e.height ≤ levels + e.leftSteps) ∧
      ∀ count floor left p e, levels ≤ count → left.height ≤ count + left.leftSteps →
        (extend levels floor left p).1 = some e → e.height ≤ count + e.leftSteps := by
  induction levels with
  | zero =>
    refine ⟨fun _ _ _ h => absurd h climb_zero_ne_some, ?_⟩
    intro count floor left p e _ hleft h
    rw [eq_of_extend_zero h]
    exact hleft
  | succ levels ih =>
    obtain ⟨hclimb, hextend⟩ := ih
    refine ⟨?_, ?_⟩
    · intro floor p e h
      obtain ⟨first, q, hrest, hfirst⟩ := exists_first_of_climb h
      have hle : first.height ≤ levels + 1 + first.leftSteps := by
        rcases hfirst with ⟨t, rfl⟩ | hinner | ⟨t, operand, rfl, hinner⟩
        · simp only [Expr.height]
          omega
        · have hinner' := hclimb _ _ _ hinner
          omega
        · have hinner' := hclimb _ _ _ hinner
          simp only [Expr.height, Expr.leftSteps]
          omega
      exact hextend (levels + 1) floor first q e (Nat.le_succ levels) hle hrest
    · intro count floor left p e hcount hleft h
      rcases extend_cases h with rfl | ⟨right, q, hpos, hright, hrest⟩
      · exact hleft
      · have hnext := height_binary_le p.current hleft (hclimb _ _ _ hright) hcount hpos
        exact hextend count floor _ q e (Nat.le_of_succ_le hcount) hnext hrest

/-! ### Expressions of programs -/

/-- What holds of every expression that is read holds of the expressions of a program. -/
theorem forall_statements {P : Expr → Prop}
    (hexpression : ∀ (p : Parser) floor e, (p.expression floor).1 = some e → P e) (p : Parser) :
    ∀ stmt ∈ p.statements.1, P stmt.value := by
  have hstatement : ∀ (p : Parser) stmt, p.statement.1 = some stmt → P stmt.value := by
    intro p stmt h
    rw [statement] at h
    split at h
    · simp only [declaration] at h
      split at h
      · rename_i name init hname hinit
        cases h
        exact hexpression _ _ _ hinit
      · cases h
    · obtain ⟨value, hvalue, rfl⟩ := Option.map_eq_some_iff.mp h
      exact hexpression _ _ _ hvalue
    · obtain ⟨value, hvalue, rfl⟩ := Option.map_eq_some_iff.mp h
      exact hexpression _ _ _ hvalue
  fun_induction statements p with
  | case1 p hempty =>
    intro stmt hstmt
    cases hstmt
  | case2 p hpending hlt program q heq ih =>
    intro stmt hstmt
    rw [heq] at ih
    rcases List.mem_append.mp hstmt with hfirst | hothers
    · exact hstatement p stmt (Option.mem_toList.mp hfirst)
    · exact ih stmt hothers

end Parser

/-! ### Something as high is spelled -/

/-- Behind an operand stand as many operators as levels are left, and each makes the expression
higher. -/
theorem exists_spells_chain {base top : Nat} {ts : List Located} {e : Expr}
    (h : Spells Power.sum.rank base ts e 0 top) (htop : top ≤ Parser.maxNesting) (count : Nat)
    (hcount : count = 0 ∨ base + count + 2 ≤ Parser.maxNesting) :
    ∃ ts' e' top', Spells Power.sum.rank base ts' e' count top' ∧ top' ≤ Parser.maxNesting ∧
      e'.height = e.height + count := by
  induction count with
  | zero => exact ⟨ts, e, top, h, htop, rfl⟩
  | succ count ih =>
    obtain ⟨ts', e', top', hspells, htop', hheight⟩ := ih (by omega)
    have hright : Spells (Power.sum.rank + 1) (base + 1 + (count + 1))
        [⟨.bool true, .start⟩] (.literal ⟨.bool true, .start⟩) 0 (base + 1 + (count + 1) + 1) :=
      .operand (.bool true)
    have hbinary : Spells Power.sum.rank base (ts' ++ ⟨.plus, .start⟩ :: [⟨.bool true, .start⟩])
        (.binary e' ⟨.plus, .start⟩ (.literal ⟨.bool true, .start⟩)) (count + 1) _ :=
      .binary .plus (Nat.le_refl _) hspells hright
    have hpos := e.height_pos
    refine ⟨_, _, _, hbinary, by omega, ?_⟩
    simp only [Expr.height, hheight]
    omega

/-- With so many levels left, some operand is as high as they allow. -/
theorem exists_spells_tallestOperand {levels base : Nat} (hpos : levels ≠ 0)
    (hlevels : base + levels = Parser.maxNesting) :
    ∃ ts e top, (∀ least, Spells least base ts e 0 top) ∧ top ≤ Parser.maxNesting ∧
      e.height = Parser.tallestOperand levels := by
  induction levels generalizing base with
  | zero => exact absurd rfl hpos
  | succ levels ih =>
    rcases Nat.eq_zero_or_pos levels with rfl | hlevels'
    · exact ⟨[⟨.bool true, .start⟩], _, _, fun _ => .operand (.bool true), by omega, rfl⟩
    have hinside : base + 1 + levels = Parser.maxNesting := by omega
    obtain ⟨ts, e, top, hspells, htop, hheight⟩ := ih (Nat.pos_iff_ne_zero.mp hlevels') hinside
    by_cases hchain : levels ≤ 2
    · -- no chain fits in parentheses, and a sign is as good
      refine ⟨⟨.minus, .start⟩ :: ts, _, _, fun _ => .unary .minus (hspells _), by omega, ?_⟩
      rw [Expr.height, hheight, Parser.tallestOperand]
      omega
    · obtain ⟨ts', e', top', hspells', htop', hheight'⟩ :=
        exists_spells_chain (hspells _) htop (levels - 2) (by omega)
      have hinner : Spells (Power.lowest.rank + 1) (base + 1) ts' e' (levels - 2) top' :=
        hspells'.mono (by decide)
      refine ⟨⟨.leftParen, .start⟩ :: ts' ++ [⟨.rightParen, .start⟩], e', _,
        fun _ => .group rfl rfl hinner, by omega, ?_⟩
      rw [hheight', hheight, Parser.tallestOperand]
      omega

/-- Some expression is as high as its levels allow. -/
theorem exists_spells_tallest :
    ∃ ts e, SpellsExpr ts e ∧ e.height = Parser.tallest Parser.maxNesting := by
  have hlevels : 0 + Parser.maxNesting = Parser.maxNesting := Nat.zero_add _
  obtain ⟨ts, e, top, hspells, htop, hheight⟩ :=
    exists_spells_tallestOperand (by decide) hlevels
  obtain ⟨ts', e', top', hspells', htop', hheight'⟩ :=
    exists_spells_chain (hspells _) htop (Parser.maxNesting - 2) (by decide)
  refine ⟨ts', e', ⟨_, top', hspells'.mono (by decide), htop'⟩, ?_⟩
  rw [hheight', hheight, Parser.tallest]

theorem Spells.token_ne_eof {least base chain top : Nat} {ts : List Located} {e : Expr}
    (h : Spells least base ts e chain top) : ∀ t ∈ ts, t.token ≠ .eof := by
  induction h with
  | operand ht =>
    simp only [List.mem_singleton, forall_eq]
    intro heof
    rw [heof] at ht
    cases ht
  | group hl hr _ ih =>
    refine List.forall_mem_cons.mpr ⟨by simp [hl], List.forall_mem_append.mpr ⟨ih, ?_⟩⟩
    simp [hr]
  | unary hop _ ih =>
    refine List.forall_mem_cons.mpr ⟨?_, ih⟩
    intro heof
    rw [heof] at hop
    cases hop
  | binary hop _ _ _ ihleft ihright =>
    refine List.forall_mem_append.mpr ⟨ihleft, List.forall_mem_cons.mpr ⟨?_, ihright⟩⟩
    intro heof
    rw [heof] at hop
    cases hop

/-- **The height of what is read.**  Whatever the tokens, an expression of the program, or one
that is read on its own, is higher than the number of levels by no more than the steps to
compound left operands on a way down; so it keeps to the levels if no operator has a compound
left operand.  Its height is at most 32388 in any case, and a program of one expression of this
height is read without an error. -/
theorem height_le_and_attained (tokens : List Located) :
    (∀ stmt ∈ (Program.ofTokens tokens).1,
      stmt.value.height ≤ Parser.maxNesting + stmt.value.leftSteps ∧
        stmt.value.height ≤ 32388) ∧
    (∀ floor e, ((Parser.ofTokens tokens).expression floor).1 = some e →
      e.height ≤ Parser.maxNesting + e.leftSteps ∧ e.height ≤ 32388) ∧
    ∃ tokens e, Program.ofTokens tokens = ([.expr e], []) ∧ e.height = 32388 := by
  have htallest : Parser.tallest Parser.maxNesting = 32388 := by decide +kernel
  rw [← htallest]
  have hexpression : ∀ (p : Parser) floor e, (p.expression floor).1 = some e →
      e.height ≤ Parser.maxNesting + e.leftSteps ∧
        e.height ≤ Parser.tallest Parser.maxNesting := by
    intro p floor e h
    exact ⟨(Parser.height_climb_extend_le _).1 floor p e h,
      (Parser.height_climb_extend _).2.1 floor p e h⟩
  refine ⟨?_, ?_, ?_⟩
  · exact Parser.forall_statements hexpression (Parser.ofTokens tokens)
  · exact hexpression (Parser.ofTokens tokens)
  · obtain ⟨ts, e, hspells, hheight⟩ := exists_spells_tallest
    have hne : ∀ t ∈ ts, t.token ≠ .eof := by
      obtain ⟨_, _, h, -⟩ := hspells
      exact h.token_ne_eof
    have hprogram : SpellsProgram (ts ++ []) [.expr e] :=
      .cons (.expr hspells) spellsProgram_nil (by simp)
    rw [List.append_nil] at hprogram
    exact ⟨ts ++ [⟨.eof, .start⟩], e, (ofTokens_eq_iff hne rfl).mpr hprogram, hheight⟩

/-- One hundred and twenty-eight minus signs in front of a number, and as many sums behind it. -/
def signsThenSums : List Located :=
  List.replicate 128 ⟨.minus, .start⟩ ++ [⟨.number ⟨0x3f800000⟩, .start⟩] ++
    (List.replicate 128 [⟨.plus, .start⟩, ⟨.number ⟨0x3f800000⟩, .start⟩]).flatten

/-- The signs and the sums take the same levels one after the other, and the expression is higher
than the number of levels. -/
theorem height_signsThenSums :
    (Program.ofTokens signsThenSums).1.map (·.value.height) = [257] ∧
      (Program.ofTokens signsThenSums).2 = [] ∧ Parser.maxNesting = 256 := by
  decide +kernel

/-- Their expression is within both bounds, read as a program or on its own. -/
theorem height_le_signsThenSums :
    (∀ stmt ∈ (Program.ofTokens signsThenSums).1,
      stmt.value.height ≤ Parser.maxNesting + stmt.value.leftSteps ∧
        stmt.value.height ≤ 32388) ∧
      ∃ e, ((Parser.ofTokens signsThenSums).expression .lowest).1 = some e ∧
        e.leftSteps = 128 ∧ e.height ≤ Parser.maxNesting + 128 := by
  obtain ⟨hprogram, hexpression, -⟩ := height_le_and_attained signsThenSums
  have hsteps : ((Parser.ofTokens signsThenSums).expression .lowest).1.map (·.leftSteps) =
      some 128 := by
    decide +kernel
  obtain ⟨e, he, he'⟩ := Option.map_eq_some_iff.mp hsteps
  have hle := (hexpression _ _ he).1
  rw [he'] at hle
  exact ⟨hprogram, e, he, he', hle⟩

end StackLang
