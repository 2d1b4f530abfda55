/-
Room for every program that is read.

The levels that an expression may take bound its height badly (`Proofs/Height`), since an operand
gives its levels back before the operators behind it take theirs.  They bound the stack that it
needs well.  A left operand leaves one value, however high it is, so it is only the right operands
that pile up on the stack, and each of them takes two levels: one for its operator and one for its
own start.

* `Parser.need_climb_extend`: with so many levels, nothing is read that needs more than half of
  them on the stack.
* `Program.hasRoom_of_forall_need_le`: a bound for each statement gives one for a program.
* `need_le_and_eval_has_room`: with room for one expression and for the values of all expression
  statements, no input is refused by the stack check.
-/
import StackLang.Proofs.Height
import StackLang.Proofs.Soundness
import StackLang.Proofs.StackNeed
import StackLang.Proofs.StackSafety

namespace StackLang

namespace Parser

/-! ### What is read needs little room -/

/-- With so many levels, nothing is read that needs more than half of them, rounded up, and a
chain of operators behind an expression needs one value more for the expression. -/
theorem need_climb_extend (levels : Nat) :
    (∀ floor p e, (climb levels floor p).1 = some e → e.need ≤ (levels + 1) / 2) ∧
      ∀ floor left p e, (extend levels floor left p).1 = some e →
        e.need ≤ max left.need (levels / 2 + 1) := by
  induction levels with
  | zero =>
    refine ⟨fun _ _ _ h => absurd h climb_zero_ne_some, fun floor left p e h => ?_⟩
    rw [eq_of_extend_zero h]
    exact Nat.le_max_left _ _
  | succ levels ih =>
    obtain ⟨hclimb, hextend⟩ := ih
    refine ⟨fun floor p e h => ?_, fun floor left p e h => ?_⟩
    · obtain ⟨first, q, hrest, hfirst⟩ := exists_first_of_climb h
      have hneed : first.need ≤ levels / 2 + 1 := by
        rcases hfirst with ⟨t, rfl⟩ | hinner | ⟨t, operand, rfl, hoperand⟩
        · simp [Expr.need]
        · have := hclimb _ _ _ hinner
          omega
        · have := hclimb _ _ _ hoperand
          rw [Expr.need]
          omega
      have hchain := hextend floor first q e hrest
      omega
    · rcases extend_cases h with rfl | ⟨right, q, -, hright, hrest⟩
      · exact Nat.le_max_left _ _
      · -- the right operand stands on the value of the left one
        have hneed := hclimb _ _ _ hright
        have hchain := hextend floor _ q e hrest
        rw [Expr.need] at hchain
        omega

theorem need_expression {p : Parser} {floor : Power} {e : Expr}
    (h : (p.expression floor).1 = some e) : e.need ≤ 128 :=
  (need_climb_extend maxNesting).1 floor p e h

end Parser

theorem Stmt.need_eq_need_value (stmt : Stmt) : stmt.need = stmt.value.need := by
  cases stmt <;> rfl

theorem need_le_of_mem_ofTokens {tokens : List Located} :
    ∀ stmt ∈ (Program.ofTokens tokens).1, stmt.value.need ≤ 128 :=
  Parser.forall_statements (fun _ _ _ => Parser.need_expression) (Parser.ofTokens tokens)

theorem need_le_of_mem_ofSource {source : String} :
    ∀ stmt ∈ Program.ofSource source, stmt.value.need ≤ 128 := by
  rw [Program.ofSource]
  split
  · exact need_le_of_mem_ofTokens
  · simp

/-! ### What is read has room -/

/-- A program has room if there is room for one statement on top of the values of all expression
statements. -/
theorem Program.hasRoom_of_forall_need_le {program : Program} {most capacity : Nat}
    (hneed : ∀ stmt ∈ program, stmt.value.need ≤ most)
    (hroom : most + program.countP Stmt.isExpr ≤ capacity) : program.HasRoom capacity := by
  rintro before stmt after rfl
  have hstmt := hneed stmt (by simp)
  rw [List.countP_append] at hroom
  rw [Stmt.need_eq_need_value]
  omega

namespace Session

/-- A program that has room is not refused. -/
theorem eval_ne_stackCheck {s : Session} {source : String}
    (hroom : (Program.ofSource source).HasRoom s.config.stackCapacity) (out : Sink)
    (e : StackCheckError) : (s.eval source out).1 ≠ .error (.run (.stackCheck e)) := by
  rw [eval]
  cases hcompile : s.compile source with
  | error e' =>
    rintro ⟨⟩
    exact compile_ne_run hcompile
  | ok unit =>
    obtain ⟨code, hemits, hcode⟩ := emitsAll_of_ofProgram (ofProgram_of_compile hcompile)
    have hcheck := stackCheck_of_fits hemits hcode (Program.fits_iff_hasRoom.mpr hroom)
    show (s.execute unit out).1 ≠ _
    rw [execute, Machine.check_eq_ok hcheck]
    cases hrun : Machine.run s.config unit { slots := s.slots, out := out } with
    | ok top m => simp
    | error e' m =>
      -- an error of a run that has begun is none of the check
      rintro ⟨⟩
      have hdynamic := Machine.isDynamic_of_run_eq_error hcheck hrun
      simp [RunError.isDynamic] at hdynamic

end Session

/-- **Levels bound the stack.**  An expression that is read, in a program or on its own, however
high it is, needs room for at most 128 values: code compiled from it passes the check with that
capacity.  So a session whose stack has room for 128 values, and for one more for each expression
statement of an input, never has the input refused by the stack check. -/
theorem need_le_and_eval_has_room :
    (∀ tokens e,
      ((∃ stmt ∈ (Program.ofTokens tokens).1, stmt.value = e) ∨
        ∃ floor, ((Parser.ofTokens tokens).expression floor).1 = some e) →
      e.need ≤ 128 ∧ ∀ names constants unit,
        CodeUnit.ofProgram names constants [.expr e] = (unit, []) →
          stackCheck unit.code 0 128 = .ok 1) ∧
    ∀ (s : Session) (source : String) (out : Sink),
      128 + (Program.ofSource source).countP Stmt.isExpr ≤ s.config.stackCapacity →
        ∀ e, (s.eval source out).1 ≠ .error (.run (.stackCheck e)) := by
  refine ⟨?_, ?_⟩
  · intro tokens e hread
    have hneed : e.need ≤ 128 := by
      rcases hread with ⟨stmt, hstmt, rfl⟩ | ⟨floor, hexpression⟩
      · exact need_le_of_mem_ofTokens stmt hstmt
      · exact Parser.need_expression hexpression
    refine ⟨hneed, ?_⟩
    intro names constants unit hunit
    obtain ⟨code, hemits, hcode⟩ := emitsAll_of_ofProgram hunit
    have hfits : Program.Fits 128 0 [.expr e] := ⟨by simpa [Stmt.need] using hneed, trivial⟩
    exact stackCheck_of_fits hemits hcode hfits
  · intro s source out hroom
    exact Session.eval_ne_stackCheck
      (Program.hasRoom_of_forall_need_le need_le_of_mem_ofSource hroom) out

/-- The signs and the sums make an expression higher than the number of levels, and it needs room
for two values.  Of a declaration and two expression statements, the second expression needs room
for four values on top of the value of the first: a session with room for 130 values evaluates
them, and one with room for four refuses them. -/
theorem eval_has_room_nestedSums :
    let source := "var x = 1 x x+(x+(x+x))"
    let s := Session.new { stackCapacity := 130 }
    (∃ e, ((Parser.ofTokens signsThenSums).expression .lowest).1 = some e ∧
      (e.height, e.need) = (257, 2) ∧ e.need ≤ 128) ∧
    128 + (Program.ofSource source).countP Stmt.isExpr ≤ s.config.stackCapacity ∧
      (∀ e, (s.eval source {}).1 ≠ .error (.run (.stackCheck e))) ∧
      (s.eval source {}).1 = .ok (some (.number ⟨0x40800000⟩)) ∧
      ((Session.new { stackCapacity := 4 }).eval source {}).1 =
        .error (.run (.stackCheck (.overflow 30 4))) := by
  intro source s
  have hread : ((Parser.ofTokens signsThenSums).expression .lowest).1.map
      (fun e => (e.height, e.need)) = some (257, 2) := by
    decide +kernel
  have hroom : 128 + (Program.ofSource source).countP Stmt.isExpr ≤ s.config.stackCapacity := by
    decide +kernel
  obtain ⟨e, he, hsize⟩ := Option.map_eq_some_iff.mp hread
  exact ⟨⟨e, he, hsize, (need_le_and_eval_has_room.1 signsThenSums e (.inr ⟨_, he⟩)).1⟩, hroom,
    need_le_and_eval_has_room.2 s source {} hroom, by decide +kernel, by decide +kernel⟩

end StackLang
