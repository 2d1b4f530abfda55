/-
Two inputs at once.

A session that gets two source texts one after the other ends up where it ends up with both as
one text, the second below the first: the tables that the first input leaves are those that
the compiler has when it comes to the second text, and the second code goes on with the
variables and the output that the first code left.

* `Session.compile_eq_ok_iff_spells`: what a source text compiles to, by the grammar and by the
  structure of the program.
* `Session.compile_lines`: two source texts with a line feed between them compile to the code
  of the first and that of the second, with the tables of the second.
* `Session.eval_lines`: two inputs at once do what they do one after the other.

Design notes: a minus sign in front of the second text would make its first expression part of
the last one of the first text.  No other token that starts a statement can go on with an
expression, so nothing else is asked of the texts.
-/
import StackLang.Proofs.Parsing
import StackLang.Proofs.Places
import StackLang.Proofs.Relocation
import StackLang.Proofs.Soundness

namespace StackLang

namespace Session

variable {s s₁ s₂ : Session} {source source₁ source₂ : String} {unit unit₁ unit₂ : CodeUnit}

/-! ### Compiling -/

/-- A source text compiles exactly if its tokens, but for the end, spell a program that has
code by its structure. -/
theorem compile_eq_ok_iff_spells :
    s.compile source = .ok unit ↔
      ∃ ts stop program code, tokenize source = .ok (ts ++ [stop]) ∧
        SpellsProgram ts program ∧
        EmitsAll s.names s.constants program code unit.names unit.constants ∧
        unit.code = assemble code := by
  rw [compile_eq_ok_iff]
  constructor
  · rintro ⟨tokens, program, htokens, hread, hunit⟩
    obtain ⟨ts, stop, rfl, hstop, hts⟩ := Cursor.exists_stop_of_tokens htokens
    obtain ⟨code, hemits, hcode⟩ := emitsAll_of_ofProgram hunit
    exact ⟨ts, stop, program, code, htokens, (ofTokens_eq_iff hts hstop).mp hread, hemits, hcode⟩
  · rintro ⟨ts, stop, program, code, htokens, hspells, hemits, hcode⟩
    obtain ⟨ts', stop', hsame, hstop, hts⟩ := Cursor.exists_stop_of_tokens htokens
    obtain ⟨rfl, hlast⟩ := List.append_inj' hsame rfl
    cases hlast
    refine ⟨_, program, htokens, (ofTokens_eq_iff hts hstop).mpr hspells, ?_⟩
    rw [hemits.ofProgram, ← hcode]

theorem exists_code_of_compile (h : s.compile source = .ok unit) :
    ∃ code, unit.code = assemble code ∧ s.constants.Extends unit.constants := by
  obtain ⟨_, _, _, code, -, -, hemits, hcode⟩ := compile_eq_ok_iff_spells.mp h
  exact ⟨code, hcode, hemits.extends⟩

/-- Two source texts with a line feed between them compile to the code of the first and that of
the second, if the second compiles with the tables that the first one leaves. -/
theorem compile_lines (h₁ : s.compile source₁ = .ok unit₁) (hnames : s₁.names = unit₁.names)
    (hconstants : s₁.constants = unit₁.constants) (h₂ : s₁.compile source₂ = .ok unit₂)
    (hminus : ∀ t ts, tokenize source₂ = .ok (t :: ts) → t.token ≠ .minus) :
    s.compile (source₁ ++ "\n" ++ source₂) =
      .ok { unit₂ with code := unit₁.code ++ unit₂.code } := by
  obtain ⟨ts₁, stop₁, program₁, code₁, htokens₁, hspells₁, hemits₁, hcode₁⟩ :=
    compile_eq_ok_iff_spells.mp h₁
  obtain ⟨ts₂, stop₂, program₂, code₂, htokens₂, hspells₂, hemits₂, hcode₂⟩ :=
    compile_eq_ok_iff_spells.mp h₂
  rw [hnames, hconstants] at hemits₂
  obtain ⟨lines, htokens⟩ := tokenize_lines htokens₁ htokens₂
  rw [List.map_append, ← List.append_assoc] at htokens
  have hnext : ∀ t ∈ (ts₂.map (Located.moved (Pos.down lines))).head?, t.token ≠ .minus := by
    cases ts₂ with
    | nil =>
      intro t ht
      cases ht
    | cons t ts =>
      rintro _ ⟨⟩
      exact hminus t _ htokens₂
  refine compile_eq_ok_iff_spells.mpr ⟨_, _, _, code₁ ++ code₂, htokens,
    hspells₁.append (hspells₂.moved _) hnext, hemits₁.append (hemits₂.moved _), ?_⟩
  rw [hcode₁, hcode₂, assemble_append]

/-! ### Evaluating -/

/-- The result of an input that was run: it succeeded, or it stopped with an error that is not
one of the stack check. -/
def Ran : Except SessionError (Option Value) → Prop
  | .ok _ => True
  | .error (.run e) => ∀ refusal, e ≠ .stackCheck refusal
  | .error _ => False

/-- What a session comes to by the run of a unit. -/
def ended (s : Session) (unit : CodeUnit) :
    EStateM.Result RunError Machine (Option Value) →
      Except SessionError (Option Value) × Session × Sink
  | .ok top m =>
    (.ok top, { s with names := unit.names, constants := unit.constants, slots := m.slots },
      m.out)
  | .error e m =>
    (.error (.run e),
      { s with
        names := reconcile m.slots unit.names
        constants := unit.constants
        slots := m.slots },
      m.out)

/-- A compiled unit is refused for want of room on the stack, or else it is run. -/
theorem eval_of_compile (h : s.compile source = .ok unit) (out : Sink) :
    (∃ refusal, (s.eval source out).1 = .error (.run (.stackCheck refusal))) ∨
      Machine.check s.config unit = .ok () ∧
        s.eval source out =
          s.ended unit (Machine.run s.config unit { slots := s.slots, out := out }) := by
  obtain ⟨_, _, _, code, -, -, hemits, hcode⟩ := compile_eq_ok_iff_spells.mp h
  rw [eval, h]
  dsimp only
  rw [execute]
  rcases check_of_emitsAll s.config hemits hcode with ⟨-, hcheck⟩ | ⟨place, hcheck⟩
  · refine .inr ⟨hcheck, ?_⟩
    rw [hcheck]
    dsimp only
    cases Machine.run s.config unit { slots := s.slots, out := out } with
    | ok top m => rfl
    | error e m => rfl
  · left
    rw [hcheck]
    exact ⟨_, rfl⟩

/-- An input that was run has compiled and has passed the stack check. -/
theorem exists_unit_of_ran {out : Sink} (h : Ran (s.eval source out).1) :
    ∃ unit, s.compile source = .ok unit ∧ Machine.check s.config unit = .ok () ∧
      s.eval source out =
        s.ended unit (Machine.run s.config unit { slots := s.slots, out := out }) := by
  cases hcompile : s.compile source with
  | ok unit =>
    refine ⟨unit, rfl, (eval_of_compile hcompile out).resolve_left ?_⟩
    rintro ⟨refusal, hrefused⟩
    rw [hrefused] at h
    exact h refusal rfl
  | error e =>
    rw [eval, hcompile] at h
    cases e with
    | run e => exact absurd hcompile compile_ne_run
    | _ => exact h.elim

/-- The result of two inputs at once, from those of one after the other: the value of the second
if it has one and else that of the first, or the error of the second with its offset as much
further as the code of the first is long. -/
def joined (distance : Nat) (top : Option Value) :
    Except SessionError (Option Value) → Except SessionError (Option Value)
  | .ok top' => .ok (top'.or top)
  | .error (.run e) => .error (.run (e.shifted distance))
  | .error e => .error e

/-- **Two inputs at once do what they do one after the other.**  If the first succeeds and the
second is run after it, both as one text, the second on a new line, write the same bytes and
leave the same session, and the results of the two are joined.  The second must not start with
a minus sign, and the stack check must not refuse both together: what the statements of the
first leave is still on the stack when those of the second are run. -/
theorem eval_lines {out out₁ out₂ : Sink} {top₁ : Option Value}
    {result₂ : Except SessionError (Option Value)} (hlimit : s.config.maxSteps = none)
    (hminus : ∀ t ts, tokenize source₂ = .ok (t :: ts) → t.token ≠ .minus)
    (h₁ : s.eval source₁ out = (.ok top₁, s₁, out₁))
    (h₂ : s₁.eval source₂ out₁ = (result₂, s₂, out₂)) (hran : Ran result₂)
    (hcheck : ∀ refusal,
      (s.eval (source₁ ++ "\n" ++ source₂) out).1 ≠ .error (.run (.stackCheck refusal))) :
    ∃ unit₁, s.compile source₁ = .ok unit₁ ∧
      s.eval (source₁ ++ "\n" ++ source₂) out =
        (joined unit₁.code.length top₁ result₂, s₂, out₂) := by
  have hran₁ : Ran (s.eval source₁ out).1 := by
    rw [h₁]
    trivial
  have hran₂ : Ran (s₁.eval source₂ out₁).1 := by
    rw [h₂]
    exact hran
  obtain ⟨unit₁, hcompile₁, -, heval₁⟩ := exists_unit_of_ran hran₁
  obtain ⟨unit₂, hcompile₂, hcheck₂, heval₂⟩ := exists_unit_of_ran hran₂
  refine ⟨unit₁, hcompile₁, ?_⟩
  rw [h₁] at heval₁
  rw [h₂] at heval₂
  cases hrun₁ : Machine.run s.config unit₁ { slots := s.slots, out := out } with
  | error e m₁ =>
    rw [hrun₁] at heval₁
    cases heval₁
  | ok top m₁ =>
    rw [hrun₁] at heval₁
    cases heval₁
    have hcompile := compile_lines hcompile₁ rfl rfl hcompile₂ hminus
    obtain ⟨code₁, hcode₁, -⟩ := exists_code_of_compile hcompile₁
    obtain ⟨code₂, hcode₂, hpool⟩ := exists_code_of_compile hcompile₂
    obtain ⟨hcheck', heval⟩ := (eval_of_compile hcompile out).resolve_left
      fun ⟨refusal, hrefused⟩ => hcheck refusal hrefused
    -- the second run starts with an empty stack, so only the variables and the output count
    have hfresh : Machine.run s.config unit₂ m₁ =
        Machine.run s.config unit₂ { slots := m₁.slots, out := m₁.out } := rfl
    rw [heval, Machine.run_append hlimit hcode₁ hcode₂ hpool hcheck₂ hcheck' hrun₁, hfresh]
    cases hrun₂ : Machine.run s.config unit₂ { slots := m₁.slots, out := m₁.out } with
    | ok top₂ m₂ =>
      rw [hrun₂] at heval₂
      cases heval₂
      rfl
    | error e m₂ =>
      rw [hrun₂] at heval₂
      cases heval₂
      rfl

/-- A session with one variable `x`, which is 4. -/
def four : Session :=
  { new {} with
    names := ⟨#["x"], #[.float]⟩
    slots := { capacity := 65536, values := #[.number ⟨0x40800000⟩] } }

/-- The second input prints the variable of the first and then fails, which leaves a name
without a value.  Both at once fail 15 bytes further on and leave the same. -/
theorem eval_lines_quotient :
    (new {}).eval "var x = 4 x" {} = (.ok (some (.number ⟨0x40800000⟩)), four, {}) ∧
      four.eval "print x var y = x / 0" {} =
        (.error (.run (.divisionByZero 16)),
          { four with names := ⟨#["x", "y"], #[.float, .unknown]⟩ }, { written := #[52, 10] }) ∧
      (new {}).eval "var x = 4 x\nprint x var y = x / 0" {} =
        (.error (.run (.divisionByZero 31)),
          { four with names := ⟨#["x", "y"], #[.float, .unknown]⟩ },
          { written := #[52, 10] }) := by
  have hcompile : (new {}).compile "var x = 4 x" =
      .ok { code := assemble [.pushNumber ⟨0x40800000⟩, .store 0, .load 0],
            names := ⟨#["x"], #[.float]⟩ } := by
    decide +kernel
  have h₁ : (new {}).eval "var x = 4 x" {} =
      (.ok (some (.number ⟨0x40800000⟩)), four, {}) := by
    decide +kernel
  have h₂ : four.eval "print x var y = x / 0" {} =
      (.error (.run (.divisionByZero 16)),
        { four with names := ⟨#["x", "y"], #[.float, .unknown]⟩ }, { written := #[52, 10] }) := by
    decide +kernel
  have hran : Ran (.error (.run (.divisionByZero 16))) := by
    rintro refusal ⟨⟩
  have htokens : (tokenize "print x var y = x / 0").map List.head? =
      .ok (some ⟨.print, ⟨1, 1⟩⟩) := by
    decide +kernel
  have hminus : ∀ t ts, tokenize "print x var y = x / 0" = .ok (t :: ts) →
      t.token ≠ .minus := by
    intro t ts h
    rw [h] at htokens
    cases htokens
    decide
  have hcheck : ∀ refusal, ((new {}).eval "var x = 4 x\nprint x var y = x / 0" {}).1 ≠
      .error (.run (.stackCheck refusal)) := by
    have hboth : ((new {}).eval "var x = 4 x\nprint x var y = x / 0" {}).1 =
        .error (.run (.divisionByZero 31)) := by
      decide +kernel
    rw [hboth]
    rintro refusal ⟨⟩
  obtain ⟨unit₁, hunit, heval⟩ := eval_lines (s := new {}) rfl hminus h₁ h₂ hran hcheck
  rw [hcompile] at hunit
  cases hunit
  exact ⟨h₁, h₂, heval⟩

end Session

end StackLang
