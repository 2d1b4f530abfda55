/-
A limit for the steps only cuts a run short.

A run that starts no more instructions than its limit allows does not notice the limit.  Any other
run ends in front of the first instruction that is too many, and leaves what a run of the
instructions in front of it leaves.

* `Machine.started`: the number of instructions that carrying out code starts.
* `Machine.loop_limited_of_le`: a limit that is not reached makes no difference.
* `Machine.loop_limited_of_lt`: a limit that is reached leaves what the instructions within it
  leave.
* `Machine.Arrives.of_append`: a run comes to the same instructions in front of any other code.
* `run_limited_and_failsWithin`: all this for runs of whole units.

Design notes: the first instructions of code are a code of their own, and it passes the check if
the whole code does (`Decoded.exists_stackCheck_take`), since the check goes through the code from
the front.  So the code that a limit leaves to a run can itself be run.
-/
import StackLang.Proofs.StackSafety

namespace StackLang

/-- The same limits with a limit for the steps. -/
def Config.limited (config : Config) (limit : Nat) : Config :=
  { config with maxSteps := some limit }

/-! ### The first instructions of a code -/

namespace Decoded

/-- The instructions that were read, up to the end or to the first place that does not decode. -/
def instructions : Decoded → List Instruction
  | done | fault _ => []
  | step _ i rest => i :: rest.instructions

theorem instructions_prepend_done (offset : Nat) (code : List Instruction) :
    (prepend offset code done).instructions = code := by
  induction code generalizing offset with
  | nil => rfl
  | cons i code ih => simp [instructions, ih]

/-- Code that passes the check can be read to its end. -/
theorem exists_lines_of_stackCheck {capacity height final : Nat} {code : Decoded}
    (h : code.stackCheck capacity height = .ok final) : ∃ lines, code.lines = .ok lines := by
  induction code generalizing height with
  | done => exact ⟨[], rfl⟩
  | fault e => cases h
  | step offset i rest ih =>
    obtain ⟨-, -, hrest⟩ := stackCheck_step_eq_ok h
    obtain ⟨lines, hlines⟩ := ih hrest
    refine ⟨(offset, i) :: lines, ?_⟩
    simp [Decoded.lines, hlines, Except.map]

/-- The first instructions of code that passes the check pass it as well. -/
theorem exists_stackCheck_take {capacity height offset final : Nat} {code : List Instruction}
    (h : (prepend offset code done).stackCheck capacity height = .ok final) (count : Nat) :
    ∃ final', (prepend offset (code.take count) done).stackCheck capacity height = .ok final' := by
  induction code generalizing offset height count with
  | nil => exact ⟨final, by simpa using h⟩
  | cons i code ih =>
    rcases count with _ | count
    · exact ⟨height, rfl⟩
    · obtain ⟨hpops, hroom, hrest⟩ := stackCheck_step_eq_ok h
      obtain ⟨final', hfinal⟩ := ih hrest count
      refine ⟨final', ?_⟩
      rw [List.take_succ_cons, prepend_cons, stackCheck_step hpops hroom]
      exact hfinal

end Decoded

/-- A unit that passes the check is the unit of a sequence of instructions. -/
theorem CodeUnit.exists_code_of_stackCheck {unit : CodeUnit} {capacity final : Nat}
    (h : stackCheck unit.code 0 capacity = .ok final) : ∃ code, unit.code = assemble code := by
  obtain ⟨lines, hlines⟩ := Decoded.exists_lines_of_stackCheck h
  exact ⟨lines.map Prod.snd, (Decoded.assemble_of_lines_ofBytes hlines).symm⟩

/-- The unit with only so many of its instructions, from the first one on. -/
def CodeUnit.cut (unit : CodeUnit) (count : Nat) : CodeUnit :=
  { unit with code := assemble ((decodeAll unit.code).instructions.take count) }

namespace Machine

variable {config : Config} {pool : ConstantPool} {m : Machine}

/-! ### Instructions that are started -/

/-- The number of instructions that carrying out code starts, if nothing limits it.  The last of
them fails, or the code ends behind it.  A place that does not decode counts as one. -/
def started (config : Config) (pool : ConstantPool) : Decoded → Machine → Nat
  | .done, _ => 0
  | .fault _, _ => 1
  | .step offset i rest, m =>
    match exec config pool offset i m with
    | .ok () m' => started config pool rest m' + 1
    | .error _ _ => 1

/-- The number of instructions that a run of the unit starts, if nothing limits it.  A unit that
does not pass the check starts none. -/
def startedBy (config : Config) (unit : CodeUnit) (m : Machine) : Nat :=
  match check config unit with
  | .ok () => started config unit.constants (decodeAll unit.code) m.reset
  | .error _ => 0

theorem countStep_of_lt {limit steps : Nat} (h : steps < limit) :
    countStep (config.limited limit) steps = pure () :=
  if_pos h

theorem countStep_of_le {limit steps : Nat} (h : limit ≤ steps) :
    countStep (config.limited limit) steps = throw (.stepLimit limit) :=
  if_neg (Nat.not_lt.mpr h)

/-- Within the limit, an instruction is carried out and the code behind it goes on. -/
theorem loop_limited_step {limit steps : Nat} (h : steps < limit) (offset : Nat)
    (i : Instruction) (rest : Decoded) :
    loop (config.limited limit) pool steps (.step offset i rest) m =
      match exec config pool offset i m with
      | .ok () m' => loop (config.limited limit) pool (steps + 1) rest m'
      | .error e m' => .error e m' := by
  rw [loop_step_eq_attempt, attempt, countStep_of_lt h]
  show (match exec (config.limited limit) pool offset i m with
    | .ok () m' => loop (config.limited limit) pool (steps + 1) rest m'
    | .error e m' => .error e m') = _
  rw [← exec_unlimited (config.limited limit), ← exec_unlimited config]
  rfl

theorem loop_unlimited_step (steps offset : Nat) (i : Instruction) (rest : Decoded) :
    loop config.unlimited pool steps (.step offset i rest) m =
      match exec config pool offset i m with
      | .ok () m' => loop config.unlimited pool (steps + 1) rest m'
      | .error e m' => .error e m' := by
  have hstep := @loop_step config.unlimited rfl pool steps offset i rest m
  rw [exec_unlimited] at hstep
  exact hstep

/-- A limit that is not reached makes no difference. -/
theorem loop_limited_of_le {limit steps : Nat} {code : Decoded}
    (h : steps + started config pool code m ≤ limit) :
    loop (config.limited limit) pool steps code m = loop config.unlimited pool steps code m := by
  induction code generalizing steps m with
  | done => rfl
  | fault e =>
    rw [started] at h
    rw [loop, loop, countStep_of_lt (by omega)]
    rfl
  | step offset i rest ih =>
    rw [started] at h
    rw [loop_unlimited_step]
    rcases hexec : exec config pool offset i m with ⟨⟨⟩, m'⟩ | ⟨e, m'⟩
    · simp only [hexec] at h
      rw [loop_limited_step (by omega), hexec]
      exact ih (by omega)
    · simp only [hexec] at h
      rw [loop_limited_step (by omega), hexec]

/-- A limit that is reached leaves what the instructions within it leave, which all succeed. -/
theorem loop_limited_of_lt {limit steps offset : Nat} {code : List Instruction}
    (hsteps : steps ≤ limit)
    (h : limit < steps + started config pool (.prepend offset code .done) m) :
    ∃ m', loop config.unlimited pool steps (.prepend offset (code.take (limit - steps)) .done) m =
        .ok () m' ∧
      loop (config.limited limit) pool steps (.prepend offset code .done) m =
        .error (.stepLimit limit) m' := by
  induction code generalizing steps offset m with
  | nil =>
    simp only [Decoded.prepend_nil, started] at h
    omega
  | cons i code ih =>
    by_cases hlast : steps = limit
    · -- the limit is reached here, and nothing more is carried out
      subst hlast
      refine ⟨m, by rw [Nat.sub_self]; rfl, ?_⟩
      rw [Decoded.prepend_cons, loop, countStep_of_le (Nat.le_refl _)]
      rfl
    · have hlt : steps < limit := by omega
      obtain ⟨count, hcount⟩ : ∃ count, limit - steps = count + 1 := ⟨limit - steps - 1, by omega⟩
      rw [Decoded.prepend_cons, started] at h
      rw [hcount, List.take_succ_cons, Decoded.prepend_cons, Decoded.prepend_cons,
        loop_unlimited_step, loop_limited_step hlt]
      rcases hexec : exec config pool offset i m with ⟨⟨⟩, m₁⟩ | ⟨e, m₁⟩
      · simp only [hexec] at h ⊢
        have hmore : limit < steps + 1 +
            started config pool (.prepend (offset + i.width) code .done) m₁ := by
          omega
        have hrest := ih hlt hmore
        rwa [show limit - (steps + 1) = count by omega] at hrest
      · -- an instruction that fails is the last one that is started
        simp only [hexec] at h
        omega

/-! ### Instructions that other code follows -/

theorem Arrives.offset_le {offset steps : Nat} {bytes : Bytes} {moment : Moment}
    (h : Arrives config pool steps (.ofBytes offset bytes) m moment) : offset ≤ moment.offset := by
  induction offset, bytes using Decoded.ofBytes_induction generalizing steps m with
  | done offset =>
    rw [Decoded.ofBytes_nil] at h
    cases h
  | fault offset bytes hne e he =>
    rw [Decoded.ofBytes_of_error hne he] at h
    cases h
  | step offset bytes i rest hread ih =>
    rw [Decoded.ofBytes_of_ok hread] at h
    cases h with
    | here => exact Nat.le_refl _
    | later _ others =>
      have := ih others
      omega

/-- A run that comes to an instruction comes to it whatever follows. -/
theorem Arrives.of_append {offset steps : Nat} {code more : Bytes} {moment : Moment}
    (h : Arrives config pool steps (.ofBytes offset (code ++ more)) m moment)
    (hwithin : moment.offset + moment.instruction.width ≤ offset + code.length)
    (more' : Bytes) : Arrives config pool steps (.ofBytes offset (code ++ more')) m moment := by
  generalize hbytes : code ++ more = bytes at h
  induction offset, bytes using Decoded.ofBytes_induction generalizing steps m code with
  | done offset =>
    rw [Decoded.ofBytes_nil] at h
    cases h
  | fault offset bytes hne e he =>
    rw [Decoded.ofBytes_of_error hne he] at h
    cases h
  | step offset bytes i rest hread ih =>
    rw [Decoded.ofBytes_of_ok hread] at h
    -- the bytes of the first instruction are in front of what follows
    have hfits : i.width ≤ code.length := by
      cases h with
      | here => exact Nat.le_of_add_le_add_left hwithin
      | later _ others =>
        have := others.offset_le
        omega
    obtain ⟨code', rfl, rfl⟩ : ∃ code', code = i.encode ++ code' ∧ rest = code' ++ more := by
      have hsplit := hbytes.trans (eq_encode_of_decode hread)
      rw [← Instruction.length_encode] at hfits
      have hfront : i.encode <+: code ++ more := hsplit ▸ List.prefix_append _ _
      obtain ⟨code', rfl⟩ :=
        List.prefix_of_prefix_length_le hfront (List.prefix_append _ _) hfits
      rw [List.append_assoc] at hsplit
      exact ⟨code', rfl, (List.append_cancel_left hsplit).symm⟩
    rw [List.append_assoc, Decoded.ofBytes_of_ok (decode_encode offset i _)]
    cases h with
    | here => exact .here
    | later first others =>
      refine .later first (ih ?_ rfl others)
      rw [List.length_append, Instruction.length_encode] at hwithin
      omega

/-- A run of the unit fails at an instruction that ends within the first so many bytes of its
code, with the given error, and leaves the given machine. -/
def FailsWithin (config : Config) (unit : CodeUnit) (m : Machine) (length : Nat) (e : RunError)
    (m' : Machine) : Prop :=
  ∃ moment, Arrives config unit.constants 0 (decodeAll unit.code) m.reset moment ∧
    moment.offset + moment.instruction.width ≤ length ∧
    moment.result config unit.constants = .error e m'

/-! ### Runs of units -/

theorem run_of_failsWithin {unit : CodeUnit} {length : Nat} {e : RunError} {m' : Machine}
    (hcheck : check config unit = .ok ()) (h : FailsWithin config unit m length e m') :
    run config unit m = .error e m' := by
  obtain ⟨moment, harrives, -, hresult⟩ := h
  rw [run_of_check hcheck, harrives.loop_eq_error hresult]

theorem FailsWithin.of_append {unit : CodeUnit} {code more : Bytes} {e : RunError} {m' : Machine}
    (h : FailsWithin config { unit with code := code ++ more } m code.length e m')
    (more' : Bytes) :
    FailsWithin config { unit with code := code ++ more' } m code.length e m' := by
  obtain ⟨moment, harrives, hwithin, hresult⟩ := h
  exact ⟨moment, harrives.of_append (by omega) more', hwithin, hresult⟩

theorem run_limited_of_le {unit : CodeUnit} {limit : Nat}
    (h : startedBy config unit m ≤ limit) :
    run (config.limited limit) unit m = run config.unlimited unit m := by
  -- the check does not look at the limit
  rcases hcheck : stackCheck unit.code 0 config.stackCapacity with e | height
  · have hlimited : stackCheck unit.code 0 (config.limited limit).stackCapacity = .error e := hcheck
    have hunlimited : stackCheck unit.code 0 config.unlimited.stackCapacity = .error e := hcheck
    rw [run_of_check_eq_error hlimited, run_of_check_eq_error hunlimited]
  · have hpasses : check config unit = .ok () := check_eq_ok hcheck
    have hlimited : check (config.limited limit) unit = .ok () := hpasses
    have hunlimited : check config.unlimited unit = .ok () := hpasses
    rw [startedBy, hpasses, ← Nat.zero_add (started _ _ _ _)] at h
    rw [run_of_check hlimited, run_of_check hunlimited, loop_limited_of_le h]

theorem run_limited_of_lt {unit : CodeUnit} {limit : Nat}
    (h : limit < startedBy config unit m) :
    ∃ top m', run config.unlimited (unit.cut limit) m = .ok top m' ∧
      run (config.limited limit) unit m = .error (.stepLimit limit) m' := by
  rcases hcheck : stackCheck unit.code 0 config.stackCapacity with e | height
  · have hfails : check config unit = .error (.ofStackCheck e) := by
      rw [check, hcheck]
    rw [startedBy, hfails] at h
    exact absurd h (Nat.not_lt_zero _)
  · have hpasses : check config unit = .ok () := check_eq_ok hcheck
    obtain ⟨code, hcode⟩ := CodeUnit.exists_code_of_stackCheck hcheck
    have hdecoded : decodeAll unit.code = .prepend 0 code .done := by
      rw [hcode, decodeAll_assemble]
    have hcut : unit.cut limit = { unit with code := assemble (code.take limit) } := by
      rw [CodeUnit.cut, hdecoded, Decoded.instructions_prepend_done]
    -- the instructions within the limit pass the check, so they can be run alone
    obtain ⟨final, hfinal⟩ : ∃ final,
        stackCheck (unit.cut limit).code 0 config.unlimited.stackCapacity = .ok final := by
      rw [stackCheck, hdecoded] at hcheck
      rw [hcut, stackCheck, decodeAll_assemble]
      exact Decoded.exists_stackCheck_take hcheck limit
    rw [startedBy, hpasses, hdecoded, ← Nat.zero_add (started _ _ _ _)] at h
    obtain ⟨m', hfirst, hstop⟩ := loop_limited_of_lt (Nat.zero_le limit) h
    refine ⟨m'.stack.head?, m', ?_, ?_⟩
    · rw [run_of_check (check_eq_ok hfinal), hcut, decodeAll_assemble]
      rw [Nat.sub_zero] at hfirst
      rw [hfirst]
    · have hlimited : check (config.limited limit) unit = .ok () := hpasses
      rw [run_of_check hlimited, hdecoded, hstop]

end Machine

/-- **A limit for the steps only cuts a run short.**  A run that starts no more instructions than
the limit allows is the run without a limit.  Any other run ends with the error of the limit, and
leaves what the run of the instructions within the limit leaves, which succeeds.  With or without
a limit, a run that fails at an instruction within the first part of a code fails in the same way
and leaves the same, whatever the second part is. -/
theorem run_limited_and_failsWithin (config : Config) (unit : CodeUnit) (m : Machine) :
    (∀ limit, Machine.startedBy config unit m ≤ limit →
      Machine.run (config.limited limit) unit m = Machine.run config.unlimited unit m) ∧
    (∀ limit, limit < Machine.startedBy config unit m →
      ∃ top m', Machine.run config.unlimited (unit.cut limit) m = .ok top m' ∧
        Machine.run (config.limited limit) unit m = .error (.stepLimit limit) m') ∧
    ∀ code more more' e m',
      Machine.check config { unit with code := code ++ more } = .ok () →
      Machine.check config { unit with code := code ++ more' } = .ok () →
      Machine.FailsWithin config { unit with code := code ++ more } m code.length e m' →
      Machine.run config { unit with code := code ++ more } m = .error e m' ∧
        Machine.run config { unit with code := code ++ more' } m = .error e m' := by
  refine ⟨?_, ?_, ?_⟩
  · intro limit h
    exact Machine.run_limited_of_le h
  · intro limit h
    exact Machine.run_limited_of_lt h
  · intro code more more' e m' hcheck hcheck' hfails
    constructor
    · exact Machine.run_of_failsWithin hcheck hfails
    · exact Machine.run_of_failsWithin hcheck' (hfails.of_append more')

/-- A machine that has done nothing, with room for four slots. -/
def Machine.idle : Machine where
  slots := { capacity := 4 }

/-- The run of `1 / 0` starts three instructions, and a limit of three steps makes no difference.
A limit of two steps leaves what the two numbers leave.  The division fails in the same way, whether
its result would be printed or stored. -/
theorem run_limited_quotient :
    (Machine.startedBy {} .quotient .idle = 3 ∧
      Machine.run (Config.limited {} 3) .quotient .idle =
        Machine.run (Config.unlimited {}) .quotient .idle ∧
      ∃ top m', Machine.run (Config.unlimited {}) (CodeUnit.quotient.cut 2) .idle =
          .ok top m' ∧
        Machine.run (Config.limited {} 2) .quotient .idle = .error (.stepLimit 2) m') ∧
    Machine.FailsWithin {} { code := CodeUnit.quotient.code ++ Instruction.print.encode }
        .idle CodeUnit.quotient.code.length (.divisionByZero 10) .idle ∧
      Machine.run {} { code := CodeUnit.quotient.code ++ (Instruction.store 1).encode }
        .idle = .error (.divisionByZero 10) .idle := by
  obtain ⟨hwithin, hbeyond, hfollowed⟩ := run_limited_and_failsWithin {} .quotient .idle
  have hstarted : Machine.startedBy {} .quotient .idle = 3 := by decide +kernel
  have hdecoded : decodeAll (CodeUnit.quotient.code ++ Instruction.print.encode) =
      .prepend 0 [.pushNumber ⟨0x3f800000⟩, .pushNumber ⟨0⟩, .binary .div, .print] .done := by
    rw [← decodeAll_assemble]
    rfl
  have hfails : Machine.FailsWithin {}
      { code := CodeUnit.quotient.code ++ Instruction.print.encode } .idle
      CodeUnit.quotient.code.length (.divisionByZero 10) .idle := by
    refine ⟨⟨2, 10, .binary .div,
      { Machine.idle with stack := [.number ⟨0⟩, .number ⟨0x3f800000⟩] }⟩, ?_, by decide, rfl⟩
    rw [hdecoded]
    exact .later rfl (.later rfl .here)
  obtain ⟨-, hstore⟩ := hfollowed _ _ (Instruction.store 1).encode _ _ (by decide +kernel)
    (by decide +kernel) hfails
  exact ⟨⟨hstarted, hwithin 3 (by omega), hbeyond 2 (by omega)⟩, hfails, hstore⟩

end StackLang
