/-
How much stack compiled code needs.

* `Expr.need`: the most values that the evaluation of an expression puts on the stack at a
  time.  The right operand of an operator is evaluated on top of the value of the left one.
* `Program.Fits`: every statement finds the room it needs on top of the values that the
  expression statements in front of it left.
* `stackCheck_of_fits`, `stackCheck_of_not_fits`: the stack check of compiled code decides
  exactly this question.  It never finds too few values, and it never finds code that does
  not decode.
* `check_of_emitsAll`: the same for the check that comes before a run.
* `stackCheck_ofProgram`: the same for every program that compiles, with the room it needs said
  of its statements one by one (`Program.HasRoom`).
-/
import StackLang.Machine.Run
import StackLang.Proofs.Codec
import StackLang.Proofs.Emission

namespace StackLang

/-- The most values that the evaluation of the expression has on the stack at a time. -/
def Expr.need : Expr → Nat
  | literal _ => 1
  | unary _ operand => operand.need
  | binary left _ right => max left.need (right.need + 1)

theorem Expr.need_pos (x : Expr) : 0 < x.need := by
  induction x with
  | literal t => exact Nat.one_pos
  | unary op operand ih => exact ih
  | binary left op right ih₁ _ => exact Nat.lt_of_lt_of_le ih₁ (Nat.le_max_left _ _)

/-- The most values that the statement has on the stack at a time. -/
def Stmt.need : Stmt → Nat
  | declare _ init => init.need
  | expr value => value.need
  | print value => value.need

/-- Number of values that the statement leaves on the stack. -/
def Stmt.leaves : Stmt → Nat
  | expr _ => 1
  | declare _ _ | print _ => 0

namespace Program

/-- Every statement finds the room it needs, on a stack that has the given height in front
of the first one. -/
def Fits (capacity : Nat) : Nat → Program → Prop
  | _, [] => True
  | height, stmt :: program =>
    height + stmt.need ≤ capacity ∧ Fits capacity (height + stmt.leaves) program

/-- Number of values that the statements leave on the stack. -/
def leaves (program : Program) : Nat :=
  (program.map Stmt.leaves).sum

end Program

namespace Decoded

/-! ### The check of one instruction -/

theorem stackCheck_step {capacity height offset : Nat} {i : Instruction} {rest : Decoded}
    (hpops : i.pops ≤ height) (hroom : height - i.pops + i.pushes ≤ capacity) :
    (step offset i rest).stackCheck capacity height =
      rest.stackCheck capacity (height - i.pops + i.pushes) := by
  rw [stackCheck, if_neg (Nat.not_lt.mpr hpops)]
  exact if_neg (Nat.not_lt.mpr hroom)

theorem stackCheck_step_overflow {capacity height offset : Nat} {i : Instruction}
    {rest : Decoded} (hpops : i.pops ≤ height)
    (hroom : capacity < height - i.pops + i.pushes) :
    (step offset i rest).stackCheck capacity height = .error (.overflow offset capacity) := by
  rw [stackCheck, if_neg (Nat.not_lt.mpr hpops)]
  exact if_pos hroom

end Decoded

/-! ### The check of an expression -/

section Expressions

variable {names : NameTable} {pool pool' : ConstantPool} {x : Expr} {code : List Instruction}
  {category : Category} {capacity : Nat}

/-- Where there is room for an expression, the check goes on behind its code with one more
value on the stack. -/
theorem Emits.stackCheck_of_fits (h : Emits names pool x code category pool') {height : Nat}
    (hfits : height + x.need ≤ capacity) (offset : Nat) (rest : Decoded) :
    (Decoded.prepend offset code rest).stackCheck capacity height =
      rest.stackCheck capacity (height + 1) := by
  induction h generalizing height offset rest with
  | number _ | bool _ | string _ _ | ident _ _ =>
    exact Decoded.stackCheck_step (Nat.zero_le _) hfits
  | @unary _ _ _ operand _ _ _ _ _ ih =>
    have hpos := operand.need_pos
    rw [Expr.need] at hfits
    rw [Decoded.prepend_append, ih hfits, Decoded.prepend_cons, Decoded.prepend_nil]
    exact Decoded.stackCheck_step (Nat.succ_pos _) (show height + 1 ≤ capacity by omega)
  | @binary _ _ _ left right _ _ _ _ _ _ _ _ _ ih₁ ih₂ =>
    have hpos := right.need_pos
    rw [Expr.need] at hfits
    -- the right operand finds the value of the left one on the stack
    rw [Decoded.prepend_append, Decoded.prepend_append, ih₁ (by omega), ih₂ (by omega),
      Decoded.prepend_cons, Decoded.prepend_nil]
    exact Decoded.stackCheck_step (Nat.le_add_left 2 height)
      (show height + 1 ≤ capacity by omega)

/-- Where there is no room for an expression, the check says so. -/
theorem Emits.stackCheck_of_not_fits (h : Emits names pool x code category pool')
    {height : Nat} (hfits : capacity < height + x.need) (offset : Nat) (rest : Decoded) :
    ∃ place, (Decoded.prepend offset code rest).stackCheck capacity height =
      .error (.overflow place capacity) := by
  induction h generalizing height offset rest with
  | number _ | bool _ | string _ _ | ident _ _ =>
    exact ⟨_, Decoded.stackCheck_step_overflow (Nat.zero_le _) hfits⟩
  | unary _ _ ih =>
    -- the operation itself needs no room beyond that of its operand
    rw [Expr.need] at hfits
    rw [Decoded.prepend_append]
    exact ih hfits _ _
  | @binary _ _ _ left right _ _ _ _ _ _ first _ _ ih₁ ih₂ =>
    rw [Expr.need] at hfits
    rw [Decoded.prepend_append, Decoded.prepend_append]
    -- either the left operand finds no room, or the right one on top of its value
    by_cases hleft : height + left.need ≤ capacity
    · rw [first.stackCheck_of_fits hleft]
      exact ih₂ (by omega) _ _
    · exact ih₁ (by omega) _ _

end Expressions

/-! ### The check of statements -/

section Statements

variable {names names' : NameTable} {pool pool' : ConstantPool} {stmt : Stmt}
  {program : Program} {code : List Instruction} {capacity : Nat}

theorem EmitsStmt.stackCheck_of_fits (h : EmitsStmt names pool stmt code names' pool')
    {height : Nat} (hfits : height + stmt.need ≤ capacity) (offset : Nat) (rest : Decoded) :
    (Decoded.prepend offset code rest).stackCheck capacity height =
      rest.stackCheck capacity (height + stmt.leaves) := by
  cases h with
  | declare value _ _ =>
    rw [Stmt.need] at hfits
    rw [Decoded.prepend_append, value.stackCheck_of_fits hfits]
    exact Decoded.stackCheck_step (Nat.succ_pos _) (show height ≤ capacity by omega)
  | expr value => exact value.stackCheck_of_fits hfits offset rest
  | print value =>
    rw [Stmt.need] at hfits
    rw [Decoded.prepend_append, value.stackCheck_of_fits hfits]
    exact Decoded.stackCheck_step (Nat.succ_pos _) (show height ≤ capacity by omega)

theorem EmitsStmt.stackCheck_of_not_fits (h : EmitsStmt names pool stmt code names' pool')
    {height : Nat} (hfits : capacity < height + stmt.need) (offset : Nat) (rest : Decoded) :
    ∃ place, (Decoded.prepend offset code rest).stackCheck capacity height =
      .error (.overflow place capacity) := by
  cases h with
  | declare value _ _ =>
    rw [Decoded.prepend_append]
    exact value.stackCheck_of_not_fits hfits _ _
  | expr value => exact value.stackCheck_of_not_fits hfits offset rest
  | print value =>
    rw [Decoded.prepend_append]
    exact value.stackCheck_of_not_fits hfits _ _

/-- Where there is room for all statements, the check goes on behind their code with the
values that they leave. -/
theorem EmitsAll.stackCheck_of_fits (h : EmitsAll names pool program code names' pool')
    {height : Nat} (hfits : program.Fits capacity height) (offset : Nat) (rest : Decoded) :
    (Decoded.prepend offset code rest).stackCheck capacity height =
      rest.stackCheck capacity (height + program.leaves) := by
  induction h generalizing height offset with
  | nil => rfl
  | cons first _ ih =>
    obtain ⟨hfirst, hothers⟩ := hfits
    rw [Decoded.prepend_append, first.stackCheck_of_fits hfirst, ih hothers, Nat.add_assoc]
    rfl

/-- Where there is no room for one of the statements, the check says so. -/
theorem EmitsAll.stackCheck_of_not_fits (h : EmitsAll names pool program code names' pool')
    {height : Nat} (hfits : ¬ program.Fits capacity height) (offset : Nat) (rest : Decoded) :
    ∃ place, (Decoded.prepend offset code rest).stackCheck capacity height =
      .error (.overflow place capacity) := by
  induction h generalizing height offset with
  | nil => exact absurd trivial hfits
  | @cons _ _ _ _ _ _ stmt program _ _ first _ ih =>
    rw [Decoded.prepend_append]
    by_cases hfirst : height + stmt.need ≤ capacity
    · rw [first.stackCheck_of_fits hfirst]
      exact ih (fun hothers => hfits ⟨hfirst, hothers⟩) _
    · exact first.stackCheck_of_not_fits (by omega) _ _

end Statements

/-! ### The check of a unit -/

section Units

variable {names : NameTable} {pool : ConstantPool} {program : Program} {code : List Instruction}
  {unit : CodeUnit} {capacity : Nat}

theorem stackCheck_of_fits (h : EmitsAll names pool program code unit.names unit.constants)
    (hcode : unit.code = assemble code) (hfits : program.Fits capacity 0) :
    stackCheck unit.code 0 capacity = .ok program.leaves := by
  rw [stackCheck, hcode, decodeAll_assemble, h.stackCheck_of_fits hfits, Nat.zero_add]
  rfl

theorem stackCheck_of_not_fits (h : EmitsAll names pool program code unit.names unit.constants)
    (hcode : unit.code = assemble code) (hfits : ¬ program.Fits capacity 0) :
    ∃ place, stackCheck unit.code 0 capacity = .error (.overflow place capacity) := by
  rw [stackCheck, hcode, decodeAll_assemble]
  exact h.stackCheck_of_not_fits hfits 0 .done

/-- The check in front of a run of compiled code passes where there is room for every
statement, and otherwise its answer is that the stack would overflow. -/
theorem check_of_emitsAll (config : Config)
    (h : EmitsAll names pool program code unit.names unit.constants)
    (hcode : unit.code = assemble code) :
    (program.Fits config.stackCapacity 0 ∧ Machine.check config unit = .ok ()) ∨
      ∃ place, Machine.check config unit =
        .error (.stackCheck (.overflow place config.stackCapacity)) := by
  rw [Machine.check]
  by_cases hfits : program.Fits config.stackCapacity 0
  · refine .inl ⟨hfits, ?_⟩
    rw [stackCheck_of_fits h hcode hfits]
  · obtain ⟨place, hplace⟩ := stackCheck_of_not_fits h hcode hfits
    refine .inr ⟨place, ?_⟩
    rw [hplace]
    rfl

end Units

/-! ### Room for every statement -/

/-- Whether the statement is an expression, whose value stays on the stack. -/
def Stmt.isExpr : Stmt → Bool
  | expr _ => true
  | declare _ _ | print _ => false

theorem Stmt.leaves_eq_ite (stmt : Stmt) : stmt.leaves = if stmt.isExpr then 1 else 0 := by
  cases stmt <;> rfl

namespace Program

/-- Every statement finds the room it needs on top of one value for each expression statement in
front of it. -/
def HasRoom (capacity : Nat) (program : Program) : Prop :=
  ∀ before stmt after, program = before ++ stmt :: after →
    before.countP Stmt.isExpr + stmt.need ≤ capacity

theorem leaves_eq_countP (program : Program) : program.leaves = program.countP Stmt.isExpr := by
  induction program with
  | nil => rfl
  | cons stmt program ih =>
    rw [leaves] at ih ⊢
    rw [List.map_cons, List.sum_cons, ih, Stmt.leaves_eq_ite, List.countP_cons, Nat.add_comm]

/-- To follow the height statement by statement is to count the expression statements in front of
each. -/
theorem fits_iff_forall_split {capacity height : Nat} {program : Program} :
    program.Fits capacity height ↔
      ∀ before stmt after, program = before ++ stmt :: after →
        height + before.countP Stmt.isExpr + stmt.need ≤ capacity := by
  induction program generalizing height with
  | nil => simp [Fits]
  | cons stmt program ih =>
    rw [Fits, ih, Stmt.leaves_eq_ite]
    constructor
    · rintro ⟨hfirst, hothers⟩ before stmt' after heq
      rcases before with _ | ⟨stmt₀, before⟩
      · cases heq
        simpa using hfirst
      · cases heq
        have hroom := hothers before stmt' after rfl
        rw [List.countP_cons]
        omega
    · intro h
      refine ⟨?_, ?_⟩
      · simpa using h [] stmt program rfl
      · rintro before stmt' after rfl
        have hroom := h (stmt :: before) stmt' after rfl
        rw [List.countP_cons] at hroom
        omega

theorem fits_iff_hasRoom {capacity : Nat} {program : Program} :
    program.Fits capacity 0 ↔ program.HasRoom capacity := by
  simp only [fits_iff_forall_split, HasRoom, Nat.zero_add]

instance decidableFits (capacity : Nat) :
    (height : Nat) → (program : Program) → Decidable (program.Fits capacity height)
  | _, [] => .isTrue trivial
  | height, stmt :: program =>
    have := decidableFits capacity (height + stmt.leaves) program
    inferInstanceAs (Decidable (height + stmt.need ≤ capacity ∧ _))

instance (capacity : Nat) (program : Program) : Decidable (program.HasRoom capacity) :=
  decidable_of_iff _ fits_iff_hasRoom

end Program

/-- **The stack that a compiled program needs.**  The check of a program that compiles, against
whatever tables, passes with one value for each expression statement if every statement has room,
and otherwise its answer is that the stack would overflow; so it never finds too few values, nor
code that does not decode. -/
theorem stackCheck_ofProgram {names : NameTable} {constants : ConstantPool} {program : Program}
    {unit : CodeUnit} (h : CodeUnit.ofProgram names constants program = (unit, []))
    (capacity : Nat) :
    (program.HasRoom capacity →
      stackCheck unit.code 0 capacity = .ok (program.countP Stmt.isExpr)) ∧
    (¬ program.HasRoom capacity →
      ∃ place, stackCheck unit.code 0 capacity = .error (.overflow place capacity)) := by
  obtain ⟨code, hemits, hcode⟩ := emitsAll_of_ofProgram h
  rw [← Program.fits_iff_hasRoom, ← Program.leaves_eq_countP]
  exact ⟨stackCheck_of_fits hemits hcode, stackCheck_of_not_fits hemits hcode⟩

/-- `1 + 1 * 1`, and behind it `print "a" - "b"`. -/
def sumThenText : Program :=
  let one : Expr := .literal ⟨.number ⟨0x3f800000⟩, .start⟩
  [.expr (.binary one ⟨.plus, .start⟩ (.binary one ⟨.star, .start⟩ one)),
    .print (.binary (.literal ⟨.string "a", .start⟩) ⟨.minus, .start⟩
      (.literal ⟨.string "b", .start⟩))]

/-- The sum needs room for three values, and so does the text on top of the value of the sum. -/
theorem stackCheck_sumThenText :
    let unit := (CodeUnit.ofProgram {} {} sumThenText).1
    CodeUnit.ofProgram {} {} sumThenText = (unit, []) ∧
      sumThenText.HasRoom 3 ∧ stackCheck unit.code 0 3 = .ok 1 ∧
      ¬ sumThenText.HasRoom 2 ∧ ∃ place, stackCheck unit.code 0 2 = .error (.overflow place 2) := by
  intro unit
  have hunit : CodeUnit.ofProgram {} {} sumThenText = (unit, []) := Prod.ext rfl (by decide)
  have hroom : sumThenText.HasRoom 3 := by decide
  have hfull : ¬ sumThenText.HasRoom 2 := by decide
  exact ⟨hunit, hroom, (stackCheck_ofProgram hunit 3).1 hroom, hfull,
    (stackCheck_ofProgram hunit 2).2 hfull⟩

end StackLang
