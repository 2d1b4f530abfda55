/-
Places do not matter.

Tokens carry the places where they stand so that messages can name them.  Neither the grammar
nor the code of a program depends on them: tokens at other places spell the same program with
its tokens at these other places, and that program has the same code.

* `Expr.moved`, `Stmt.moved`, `Program.moved`: a program with its tokens at other places.
* `SpellsProgram.moved`: moved tokens spell the moved program.
* `EmitsAll.moved`: a moved program has the same code and the same tables.
-/
import StackLang.Proofs.Emission
import StackLang.Proofs.Grammar
import StackLang.Proofs.Lines

namespace StackLang

/-- The expression with its tokens at other places. -/
def Expr.moved (move : Pos → Pos) : Expr → Expr
  | literal t => literal (t.moved move)
  | unary op operand => unary (op.moved move) (operand.moved move)
  | binary left op right => binary (left.moved move) (op.moved move) (right.moved move)

/-- The statement with its tokens at other places. -/
def Stmt.moved (move : Pos → Pos) : Stmt → Stmt
  | declare name init => declare (name.moved move) (init.moved move)
  | expr value => expr (value.moved move)
  | print value => print (value.moved move)

/-- The program with its tokens at other places. -/
def Program.moved (move : Pos → Pos) (program : Program) : Program :=
  program.map (Stmt.moved move)

/-! ### Spellings -/

section

variable (move : Pos → Pos) {ts : List Located}

theorem Spells.moved {least base chain top : Nat} {e : Expr}
    (h : Spells least base ts e chain top) :
    Spells least base (ts.map (Located.moved move)) (e.moved move) chain top := by
  induction h with
  | operand ht => exact .operand ht
  | group hl hr _ ih =>
    rw [List.map_append, List.map_cons]
    exact .group hl hr ih
  | unary hop _ ih => exact .unary hop ih
  | binary hop hleast _ _ ihleft ihright =>
    rw [List.map_append, List.map_cons]
    exact .binary hop hleast ihleft ihright

theorem SpellsExpr.moved {e : Expr} (h : SpellsExpr ts e) :
    SpellsExpr (ts.map (Located.moved move)) (e.moved move) := by
  obtain ⟨chain, top, hspells, htop⟩ := h
  exact ⟨chain, top, hspells.moved move, htop⟩

theorem SpellsStmt.moved {stmt : Stmt} (h : SpellsStmt ts stmt) :
    SpellsStmt (ts.map (Located.moved move)) (stmt.moved move) := by
  cases h with
  | declare hvar hname hassign hinit => exact .declare hvar hname hassign (hinit.moved move)
  | print hprint hvalue => exact .print hprint (hvalue.moved move)
  | expr hvalue => exact .expr (hvalue.moved move)

/-- Moved tokens spell the moved program. -/
theorem SpellsProgram.moved {program : Program} (h : SpellsProgram ts program) :
    SpellsProgram (ts.map (Located.moved move)) (program.moved move) := by
  obtain ⟨parts, rfl, hparts, htail⟩ := h
  refine ⟨parts.map (List.map (Located.moved move)), List.map_flatten.symm, ?_, ?_⟩
  · rw [Program.moved, List.forall₂_map_left_iff, List.forall₂_map_right_iff]
    exact hparts.imp fun part stmt hstmt => hstmt.moved move
  · -- a part starts with the same token as before
    intro part hpart t ht
    rw [← List.map_tail] at hpart
    obtain ⟨part', hpart', rfl⟩ := List.mem_map.mp hpart
    rw [List.head?_map] at ht
    obtain ⟨t', ht', rfl⟩ := Option.map_eq_some_iff.mp ht
    exact htail part' hpart' t' ht'

end

/-! ### Code -/

section

variable (move : Pos → Pos) {names names' : NameTable} {pool pool' : ConstantPool}
  {code : List Instruction}

theorem Emits.moved {x : Expr} {category : Category} (h : Emits names pool x code category pool') :
    Emits names pool (x.moved move) code category pool' := by
  induction h with
  | number htoken => exact .number htoken
  | bool htoken => exact .bool htoken
  | string htoken hentry => exact .string htoken hentry
  | ident htoken hfound => exact .ident htoken hfound
  | unary _ hselect ih => exact .unary ih hselect
  | binary _ _ hselect ih₁ ih₂ => exact .binary ih₁ ih₂ hselect

theorem EmitsStmt.moved {stmt : Stmt} (h : EmitsStmt names pool stmt code names' pool') :
    EmitsStmt names pool (stmt.moved move) code names' pool' := by
  cases h with
  | declare value htoken hentry => exact .declare (value.moved move) htoken hentry
  | expr value => exact .expr (value.moved move)
  | print value => exact .print (value.moved move)

/-- A moved program has the same code and the same tables. -/
theorem EmitsAll.moved {program : Program}
    (h : EmitsAll names pool program code names' pool') :
    EmitsAll names pool (program.moved move) code names' pool' := by
  induction h with
  | nil => exact .nil
  | cons first _ ih => exact .cons (first.moved move) ih

end

end StackLang
