/-
The stack check is right about every run.

The check follows a number through the code, and a run follows a stack.  Both walk over the
same code, which may be any bytes at all, and they agree:

* `Machine.Balanced`: a computation takes a stack of one height to a stack of another, and
  fails only with errors that the check cannot foresee.  `Machine.balanced_loop`: code that
  passes the check is balanced between the heights that the check has seen.
* `Machine.Arrives`: an instruction that a run comes to, with the machine that it finds.
  `Machine.Arrives.stackCheck_take`: the height of its stack is the one that the check has
  there.
* `Machine.stops_of_stackCheck`: code that does not pass the check stops at the place that
  the check names, unless another error stops it at that place or in front of it.
* `stackCheck_sound_and_exact`: all this for runs of whole units.

Design notes: the height that the check has at a place is what it gives for the code in front
of that place.
-/
import StackLang.Proofs.Runs
import StackLang.Proofs.StackNeed

namespace StackLang

/-- The errors that come up only when code is carried out. -/
def RunError.isDynamic : RunError → Bool
  | divisionByZero _ | typeMismatch _ _ _ _ | constantOutOfRange _ _ | slotOutOfRange _ _ _ => true
  | output _ | stepLimit _ => true
  | _ => false

namespace Machine

/-! ### Computations between two heights -/

section

variable {α β : Type} {height height₁ height₂ : Nat} {config : Config} {pool : ConstantPool}

/-- The computation takes a stack of the first height to one of the second, and no failure of
it is a matter of the stack or of the code. -/
def Balanced (height height' : Nat) (x : Exec α) : Prop :=
  ∀ m, m.stack.length = height →
    match x m with
    | .ok _ m' => m'.stack.length = height'
    | .error e _ => e.isDynamic

theorem balanced_pure (a : α) : Balanced height height (pure a) :=
  fun _ h => h

theorem balanced_throw {e : RunError} (h : e.isDynamic) :
    Balanced height height₁ (throw e : Exec α) :=
  fun _ _ => h

theorem Balanced.bind {x : Exec α} {f : α → Exec β} (hx : Balanced height height₁ x)
    (hf : ∀ a, Balanced height₁ height₂ (f a)) : Balanced height height₂ (x >>= f) := by
  intro m hm
  have hxm := hx m hm
  show match EStateM.bind x f m with
    | .ok _ m' => m'.stack.length = height₂
    | .error e _ => e.isDynamic
  rw [EStateM.bind]
  cases hresult : x m with
  | ok a m₁ =>
    rw [hresult] at hxm
    exact hf a m₁ hxm
  | error e m₁ =>
    rw [hresult] at hxm
    exact hxm

theorem balanced_push (hroom : height < config.stackCapacity) (offset : Nat) (value : Value) :
    Balanced height (height + 1) (push config offset value) := by
  intro m hm
  rw [push, if_pos (hm ▸ hroom)]
  simp [hm]

theorem balanced_pop (offset : Nat) : Balanced (height + 1) height (pop offset) := by
  intro m hm
  obtain ⟨value, rest, hstack⟩ := List.exists_cons_of_length_eq_add_one hm
  rw [pop, hstack]
  simpa [hstack] using hm

theorem balanced_fetch (offset : Nat) (slot : UInt32) :
    Balanced height height (fetch offset slot) := by
  intro m hm
  rw [fetch]
  cases m.slots.get? slot with
  | some value => exact hm
  | none => rfl

theorem balanced_assign (offset : Nat) (slot : UInt32) (value : Value) :
    Balanced height height (assign offset slot value) := by
  intro m hm
  rw [assign]
  cases m.slots.set slot value with
  | ok _ slots => exact hm
  | error rejected slots => rfl

theorem balanced_write (value : Value) : Balanced height height (write value) := by
  intro m hm
  rw [write]
  cases Sink.writeText (value.text ++ "\n") m.out with
  | ok _ out => exact hm
  | error e out => rfl

theorem balanced_result (offset : Nat) (r : Except OperandFault Value) :
    Balanced height height (result offset r) := by
  cases r with
  | ok value => exact balanced_pure value
  | error fault => cases fault <;> exact balanced_throw rfl

theorem balanced_constant (offset : Nat) (index : UInt32) :
    Balanced height height (constant pool offset index) := by
  rw [constant]
  cases pool.get? index with
  | some value => exact balanced_pure value
  | none => exact balanced_throw rfl

theorem balanced_countStep (steps : Nat) : Balanced height height (countStep config steps) := by
  rcases countStep_cases config steps with hcount | ⟨limit, hcount⟩
  · rw [hcount]
    exact balanced_pure ()
  · rw [hcount]
    exact balanced_throw rfl

/-- An instruction that finds its operands and room for its result does to the height what
the check expects. -/
theorem balanced_exec {i : Instruction} (hpops : i.pops ≤ height)
    (hroom : height - i.pops + i.pushes ≤ config.stackCapacity) (offset : Nat) :
    Balanced height (height - i.pops + i.pushes) (exec config pool offset i) := by
  -- the operands lie on a stack of this height, which is all that changes in between
  obtain ⟨below, rfl⟩ : ∃ below, height = below + i.pops := ⟨height - i.pops, by omega⟩
  rw [Nat.add_sub_cancel] at hroom ⊢
  cases i with
  | pushNumber value => exact balanced_push hroom offset _
  | pushConst index =>
    exact (balanced_constant offset index).bind fun value => balanced_push hroom offset value
  | pushBool value => exact balanced_push hroom offset _
  | binary op =>
    exact (balanced_pop offset).bind fun right => (balanced_pop offset).bind fun left =>
      (balanced_result offset _).bind fun value => balanced_push hroom offset value
  | unary op =>
    exact (balanced_pop offset).bind fun operand =>
      (balanced_result offset _).bind fun value => balanced_push hroom offset value
  | store slot =>
    exact (balanced_pop offset).bind fun value => balanced_assign offset slot value
  | load slot =>
    exact (balanced_fetch offset slot).bind fun value => balanced_push hroom offset value
  | print => exact (balanced_pop offset).bind fun value => balanced_write value

end

end Machine

/-! ### Runs of code that passes the check -/

/-- A check that passes the first instruction has found its operands and room for its result,
and goes on with the others. -/
theorem Decoded.stackCheck_step_eq_ok {capacity height offset final : Nat} {i : Instruction}
    {rest : Decoded} (h : (step offset i rest).stackCheck capacity height = .ok final) :
    i.pops ≤ height ∧ height - i.pops + i.pushes ≤ capacity ∧
      rest.stackCheck capacity (height - i.pops + i.pushes) = .ok final := by
  rw [stackCheck] at h
  split at h
  · cases h
  · rename_i hpops
    dsimp only at h
    split at h
    · cases h
    · rename_i hroom
      exact ⟨Nat.not_lt.mp hpops, Nat.not_lt.mp hroom, h⟩

namespace Machine

variable {config : Config} {pool : ConstantPool}

/-- Code that passes the check takes a stack of the height it was checked for to one of the
height that the check gives. -/
theorem balanced_loop (pool : ConstantPool) {height final : Nat} {code : Decoded}
    (h : code.stackCheck config.stackCapacity height = .ok final) (steps : Nat) :
    Balanced height final (loop config pool steps code) := by
  induction code generalizing height steps with
  | done =>
    cases h
    exact balanced_pure ()
  | fault e => cases h
  | step offset i rest ih =>
    obtain ⟨hpops, hroom, hrest⟩ := Decoded.stackCheck_step_eq_ok h
    exact (balanced_countStep steps).bind fun _ =>
      (balanced_exec hpops hroom offset).bind fun _ => ih hrest (steps + 1)

/-! ### The instructions that a run comes to -/

/-- Counts a step, and carries out the instruction that it is for. -/
def attempt (config : Config) (pool : ConstantPool) (steps offset : Nat) (i : Instruction) :
    Exec Unit := do
  countStep config steps
  exec config pool offset i

/-- An instruction that is next in a run, after so many steps, and the machine it finds. -/
structure Moment where
  steps : Nat
  offset : Nat
  instruction : Instruction
  machine : Machine

/-- What becomes of the next instruction. -/
def Moment.result (config : Config) (pool : ConstantPool) (moment : Moment) :
    EStateM.Result RunError Machine Unit :=
  attempt config pool moment.steps moment.offset moment.instruction moment.machine

/-- Carrying out code, after the given number of steps, comes to the moment: all that stands
in front of its instruction was carried out. -/
inductive Arrives (config : Config) (pool : ConstantPool) :
    Nat → Decoded → Machine → Moment → Prop where
  | here {steps offset : Nat} {i : Instruction} {rest : Decoded} {m : Machine} :
      Arrives config pool steps (.step offset i rest) m ⟨steps, offset, i, m⟩
  | later {steps offset : Nat} {i : Instruction} {rest : Decoded} {m m₁ : Machine}
      {moment : Moment} (first : attempt config pool steps offset i m = .ok () m₁)
      (others : Arrives config pool (steps + 1) rest m₁ moment) :
      Arrives config pool steps (.step offset i rest) m moment

theorem loop_step_eq_attempt (steps offset : Nat) (i : Instruction) (rest : Decoded)
    (m : Machine) :
    loop config pool steps (.step offset i rest) m =
      match attempt config pool steps offset i m with
      | .ok () m' => loop config pool (steps + 1) rest m'
      | .error e m' => .error e m' := by
  rcases countStep_cases config steps with hcount | ⟨limit, hcount⟩
  · rw [loop, attempt, hcount]
    show EStateM.bind (exec config pool offset i) _ m =
      match exec config pool offset i m with
      | .ok () m' => loop config pool (steps + 1) rest m'
      | .error e m' => .error e m'
    rw [EStateM.bind]
    cases exec config pool offset i m with
    | ok _ m' => rfl
    | error e m' => rfl
  · rw [loop, attempt, hcount]
    rfl

/-- Where an instruction fails, the run ends. -/
theorem Arrives.loop_eq_error {steps : Nat} {code : Decoded} {m m' : Machine} {moment : Moment}
    {e : RunError} (h : Arrives config pool steps code m moment)
    (hresult : moment.result config pool = .error e m') :
    loop config pool steps code m = .error e m' := by
  induction h with
  | here => rw [loop_step_eq_attempt, show attempt _ _ _ _ _ _ = _ from hresult]
  | later first _ ih =>
    rw [loop_step_eq_attempt, first]
    exact ih hresult

theorem balanced_attempt {i : Instruction} {height : Nat} (hpops : i.pops ≤ height)
    (hroom : height - i.pops + i.pushes ≤ config.stackCapacity) (steps offset : Nat) :
    Balanced height (height - i.pops + i.pushes) (attempt config pool steps offset i) :=
  (balanced_countStep steps).bind fun _ => balanced_exec hpops hroom offset

theorem Balanced.length_of_eq_ok {α : Type} {x : Exec α} {height height' : Nat} {m m' : Machine}
    {a : α} (h : Balanced height height' x) (hm : m.stack.length = height)
    (hx : x m = .ok a m') : m'.stack.length = height' := by
  have hxm := h m hm
  rw [hx] at hxm
  exact hxm

theorem Balanced.isDynamic_of_eq_error {α : Type} {x : Exec α} {height height' : Nat}
    {m m' : Machine} {e : RunError} (h : Balanced height height' x)
    (hm : m.stack.length = height) (hx : x m = .error e m') : e.isDynamic := by
  have hxm := h m hm
  rw [hx] at hxm
  exact hxm

/-- In code that passes the check, every instruction that a run comes to finds a stack of the
height that the check gives for the code in front of it. -/
theorem Arrives.stackCheck_take {offset steps height final : Nat} {bytes : Bytes} {m : Machine}
    {moment : Moment}
    (h : Arrives config pool steps (.ofBytes offset bytes) m moment)
    (hm : m.stack.length = height)
    (hcheck : (Decoded.ofBytes offset bytes).stackCheck config.stackCapacity height = .ok final) :
    offset ≤ moment.offset ∧
      (Decoded.ofBytes offset (bytes.take (moment.offset - offset))).stackCheck
        config.stackCapacity height = .ok moment.machine.stack.length := by
  -- along the bytes; in front of the first instruction nothing was read
  induction offset, bytes using Decoded.ofBytes_induction generalizing steps height m with
  | done offset =>
    rw [Decoded.ofBytes_nil] at h
    cases h
  | fault offset bytes hne e he =>
    rw [Decoded.ofBytes_of_error hne he] at h
    cases h
  | step offset bytes i rest hread ih =>
    rw [Decoded.ofBytes_of_ok hread] at h hcheck
    obtain ⟨hpops, hroom, hrest⟩ := Decoded.stackCheck_step_eq_ok hcheck
    cases h with
    | here =>
      refine ⟨Nat.le_refl _, ?_⟩
      simp [Decoded.ofBytes_nil, Decoded.stackCheck, hm]
    | later first others =>
      have hm₁ := (balanced_attempt hpops hroom steps offset).length_of_eq_ok hm first
      obtain ⟨hle, htake⟩ := ih others hm₁ hrest
      refine ⟨by omega, ?_⟩
      -- the bytes of the first instruction are in front, and those of the others follow
      have hsplit : bytes.take (moment.offset - offset) =
          i.encode ++ rest.take (moment.offset - (offset + i.width)) := by
        rw [eq_encode_of_decode hread, List.take_append, Instruction.length_encode,
          List.take_of_length_le (by rw [Instruction.length_encode]; omega), Nat.sub_sub]
      rw [hsplit, Decoded.ofBytes_of_ok (decode_encode offset i _),
        Decoded.stackCheck_step hpops hroom]
      exact htake

end Machine

/-! ### Runs of code that does not pass the check -/

/-- The place where code gets stuck according to the check, and the error of a run that gets
there. -/
def StackCheckError.jam : StackCheckError → Option (Nat × RunError)
  | decode _ => none
  | underflow offset _ _ => some (offset, .stackUnderflow offset)
  | overflow offset capacity => some (offset, .stackOverflow offset capacity)

namespace Decoded

/-- Everything that can be wrong with the first instruction, and otherwise the error comes
from the others. -/
theorem stackCheck_step_eq_error {capacity height offset : Nat} {i : Instruction}
    {rest : Decoded} {e : StackCheckError}
    (h : (step offset i rest).stackCheck capacity height = .error e) :
    (height < i.pops ∧ e = .underflow offset i.opcode i.pops) ∨
      (i.pops ≤ height ∧ capacity < height - i.pops + i.pushes ∧
        e = .overflow offset capacity) ∨
      (i.pops ≤ height ∧ height - i.pops + i.pushes ≤ capacity ∧
        rest.stackCheck capacity (height - i.pops + i.pushes) = .error e) := by
  by_cases hpops : i.pops ≤ height
  · by_cases hroom : height - i.pops + i.pushes ≤ capacity
    · rw [stackCheck_step hpops hroom] at h
      exact .inr (.inr ⟨hpops, hroom, h⟩)
    · rw [stackCheck_step_overflow hpops (Nat.not_le.mp hroom)] at h
      cases h
      exact .inr (.inl ⟨hpops, Nat.not_le.mp hroom, rfl⟩)
  · rw [stackCheck, if_pos (Nat.not_le.mp hpops)] at h
    cases h
    exact .inl ⟨Nat.not_le.mp hpops, rfl⟩

/-- The check finds nothing wrong in front of the code. -/
theorem le_place_of_stackCheck {offset capacity height place : Nat} {bytes : Bytes}
    {e : StackCheckError} {jam : RunError}
    (h : (ofBytes offset bytes).stackCheck capacity height = .error e)
    (hjam : e.jam = some (place, jam)) : offset ≤ place := by
  induction offset, bytes using ofBytes_induction generalizing height with
  | done offset =>
    rw [ofBytes_nil] at h
    cases h
  | fault offset bytes hne fault hfault =>
    rw [ofBytes_of_error hne hfault] at h
    cases h
    cases hjam
  | step offset bytes i rest hread ih =>
    rw [ofBytes_of_ok hread] at h
    rcases stackCheck_step_eq_error h with ⟨-, rfl⟩ | ⟨-, -, rfl⟩ | ⟨-, -, hrest⟩
    · cases hjam
      exact Nat.le_refl _
    · cases hjam
      exact Nat.le_refl _
    · have := ih hrest
      omega

end Decoded

/-- An instruction with operands leaves no more values than it finds. -/
theorem Instruction.height_le_of_pops {i : Instruction} {height : Nat} (hpops : i.pops ≤ height)
    (hne : i.pops ≠ 0) : height - i.pops + i.pushes ≤ height := by
  have hle : i.pushes ≤ i.pops := by
    cases i with
    | pushNumber _ | pushConst _ | pushBool _ | load _ => exact absurd rfl hne
    | binary _ => exact Nat.le_succ 1
    | unary _ => exact Nat.le_refl 1
    | store _ | print => exact Nat.zero_le 1
  omega

namespace Machine

variable {config : Config} {pool : ConstantPool} {m : Machine} {i : Instruction} {offset : Nat}

/-- An instruction that does not find its operands says so, before anything else can be wrong
with it. -/
theorem exec_of_lt_pops (h : m.stack.length < i.pops) :
    ∃ m', exec config pool offset i m = .error (.stackUnderflow offset) m' := by
  obtain ⟨stack, slots, out⟩ := m
  cases i with
  | pushNumber _ | pushConst _ | pushBool _ | load _ => exact absurd h (Nat.not_lt_zero _)
  | unary _ | store _ | print =>
    obtain rfl : stack = [] := List.length_eq_zero_iff.mp (Nat.lt_one_iff.mp h)
    exact ⟨_, rfl⟩
  | binary op =>
    match stack, h with
    | [], _ => exact ⟨_, rfl⟩
    | [_], _ => exact ⟨_, rfl⟩

theorem push_of_not_lt {value : Value} (h : config.stackCapacity ≤ m.stack.length) :
    push config offset value m = .error (.stackOverflow offset config.stackCapacity) m :=
  if_neg (Nat.not_lt.mpr h)

/-- An instruction that finds no room for its result says so, unless it has no result. -/
theorem exec_of_no_room (hpops : i.pops ≤ m.stack.length)
    (hheight : m.stack.length ≤ config.stackCapacity)
    (hroom : config.stackCapacity < m.stack.length - i.pops + i.pushes) :
    ∃ e m', exec config pool offset i m = .error e m' ∧
      (e.isDynamic ∨ e = .stackOverflow offset config.stackCapacity) := by
  cases i with
  | pushNumber value | pushBool value =>
    refine ⟨_, m, push_of_not_lt ?_, .inr rfl⟩
    exact Nat.le_of_lt_succ hroom
  | pushConst index =>
    have hfull : config.stackCapacity ≤ m.stack.length := Nat.le_of_lt_succ hroom
    rw [exec, constant]
    cases pool.get? index with
    | some value => exact ⟨_, m, push_of_not_lt hfull, .inr rfl⟩
    | none => exact ⟨_, m, rfl, .inl rfl⟩
  | load slot =>
    have hfull : config.stackCapacity ≤ m.stack.length := Nat.le_of_lt_succ hroom
    show ∃ e m', EStateM.bind (fetch offset slot) (push config offset) m = .error e m' ∧ _
    rw [EStateM.bind, fetch]
    cases m.slots.get? slot with
    | some value => exact ⟨_, m, push_of_not_lt hfull, .inr rfl⟩
    | none => exact ⟨_, m, rfl, .inl rfl⟩
  | binary _ | unary _ | store _ | print =>
    have hlower := Instruction.height_le_of_pops hpops (Nat.succ_ne_zero _)
    omega

/-- A step is the instruction, unless the limit stops it. -/
theorem attempt_cases (config : Config) (pool : ConstantPool) (steps offset : Nat)
    (i : Instruction) (m : Machine) :
    attempt config pool steps offset i m = exec config pool offset i m ∨
      ∃ limit, attempt config pool steps offset i m = .error (.stepLimit limit) m := by
  rcases countStep_cases config steps with hcount | ⟨limit, hcount⟩
  · left
    rw [attempt, hcount]
    rfl
  · right
    refine ⟨limit, ?_⟩
    rw [attempt, hcount]
    rfl

/-- Carrying out the code comes to a moment at which it stops: with the given error at the
given place, or with an error that the check cannot foresee, there or in front of it. -/
def Stops (config : Config) (pool : ConstantPool) (steps : Nat) (code : Decoded) (m : Machine)
    (place : Nat) (jam : RunError) : Prop :=
  ∃ moment e m', Arrives config pool steps code m moment ∧
    moment.result config pool = .error e m' ∧
    (e.isDynamic ∧ moment.offset ≤ place ∨ e = jam ∧ moment.offset = place)

theorem Stops.later {steps place : Nat} {rest : Decoded} {m₁ : Machine} {jam : RunError}
    (first : attempt config pool steps offset i m = .ok () m₁)
    (h : Stops config pool (steps + 1) rest m₁ place jam) :
    Stops config pool steps (.step offset i rest) m place jam := by
  obtain ⟨moment, e, m', harrives, hresult, hplace⟩ := h
  exact ⟨moment, e, m', .later first harrives, hresult, hplace⟩

/-- An instruction that fails as the check says, or in a way that the check cannot foresee,
is where code stops, also if the limit comes first. -/
theorem stops_here {steps : Nat} {rest : Decoded} {jam : RunError}
    (h : ∃ e m', exec config pool offset i m = .error e m' ∧ (e.isDynamic ∨ e = jam)) :
    Stops config pool steps (.step offset i rest) m offset jam := by
  rcases attempt_cases config pool steps offset i m with hattempt | ⟨limit, hattempt⟩
  · obtain ⟨e, m', hexec, hkind⟩ := h
    refine ⟨_, e, m', .here, hattempt.trans hexec, ?_⟩
    rcases hkind with hdynamic | rfl
    · exact .inl ⟨hdynamic, Nat.le_refl _⟩
    · exact .inr ⟨rfl, rfl⟩
  · exact ⟨_, _, m, .here, hattempt, .inl ⟨rfl, Nat.le_refl _⟩⟩

/-- Code that does not pass the check stops where the check says, unless an error that it
cannot foresee stops it there or in front of it. -/
theorem stops_of_stackCheck {bytes : Bytes} {height place : Nat} {e : StackCheckError}
    {jam : RunError}
    (h : (Decoded.ofBytes offset bytes).stackCheck config.stackCapacity height = .error e)
    (hjam : e.jam = some (place, jam)) (hm : m.stack.length = height)
    (hheight : height ≤ config.stackCapacity) (steps : Nat) :
    Stops config pool steps (.ofBytes offset bytes) m place jam := by
  induction offset, bytes using Decoded.ofBytes_induction generalizing height m steps with
  | done offset =>
    rw [Decoded.ofBytes_nil] at h
    cases h
  | fault offset bytes hne fault hfault =>
    rw [Decoded.ofBytes_of_error hne hfault] at h
    cases h
    cases hjam
  | step offset bytes i rest hread ih =>
    rw [Decoded.ofBytes_of_ok hread] at h ⊢
    subst hm
    rcases Decoded.stackCheck_step_eq_error h with
      ⟨hpops, rfl⟩ | ⟨hpops, hroom, rfl⟩ | ⟨hpops, hroom, hrest⟩
    · obtain ⟨m', hexec⟩ : ∃ m', exec config pool offset i m =
          .error (.stackUnderflow offset) m' := exec_of_lt_pops hpops
      cases hjam
      exact stops_here ⟨_, m', hexec, .inr rfl⟩
    · cases hjam
      exact stops_here (exec_of_no_room hpops hheight hroom)
    · -- the first instruction is in order, so the run goes on or has another error
      have hbalanced : Balanced _ _ (attempt config pool steps offset i) :=
        balanced_attempt hpops hroom steps offset
      cases hattempt : attempt config pool steps offset i m with
      | ok _ m₁ =>
        exact .later hattempt (ih hrest (hbalanced.length_of_eq_ok rfl hattempt) hroom _)
      | error e' m' =>
        have hle := Decoded.le_place_of_stackCheck hrest hjam
        refine ⟨_, e', m', .here, hattempt, .inl ⟨?_, by show offset ≤ place; omega⟩⟩
        exact hbalanced.isDynamic_of_eq_error rfl hattempt

/-! ### Runs of units -/

theorem run_of_check_eq_error {unit : CodeUnit} {e : StackCheckError}
    (h : stackCheck unit.code 0 config.stackCapacity = .error e) (m : Machine) :
    run config unit m = .error (.ofStackCheck e) m.reset := by
  have hcheck : check config unit = .error (.ofStackCheck e) := by
    rw [check, h]
  rw [run, hcheck]
  rfl

theorem check_eq_ok {unit : CodeUnit} {height : Nat}
    (h : stackCheck unit.code 0 config.stackCapacity = .ok height) :
    check config unit = .ok () := by
  rw [check, h]

/-- A run of a unit that passes the check fails with errors only that the check cannot
foresee. -/
theorem isDynamic_of_run_eq_error {unit : CodeUnit} {height : Nat} {e : RunError}
    {m' : Machine} (hcheck : stackCheck unit.code 0 config.stackCapacity = .ok height)
    (hrun : run config unit m = .error e m') : e.isDynamic := by
  have hbalanced : Balanced 0 height _ := balanced_loop unit.constants hcheck 0
  rw [run_of_check (check_eq_ok hcheck)] at hrun
  split at hrun
  · cases hrun
  · rename_i hloop
    cases hrun
    exact hbalanced.isDynamic_of_eq_error rfl hloop

/-- A run of a unit that passes the check leaves as many values as the check says. -/
theorem length_stack_of_run_eq_ok {unit : CodeUnit} {height : Nat} {top : Option Value}
    {m' : Machine} (hcheck : stackCheck unit.code 0 config.stackCapacity = .ok height)
    (hrun : run config unit m = .ok top m') : m'.stack.length = height := by
  have hbalanced : Balanced 0 height _ := balanced_loop unit.constants hcheck 0
  rw [run_of_check (check_eq_ok hcheck)] at hrun
  split at hrun
  · rename_i hloop
    cases hrun
    exact hbalanced.length_of_eq_ok rfl hloop
  · cases hrun

theorem runUnchecked_eq_error {unit : CodeUnit} {e : RunError} {m' : Machine}
    (h : loop config unit.constants 0 (decodeAll unit.code) m.reset = .error e m') :
    runUnchecked config unit m = .error e m' := by
  show EStateM.bind (loop config unit.constants 0 (decodeAll unit.code)) _ m.reset = _
  rw [EStateM.bind, h]

/-- A run of a unit without the check stops as the check says, or earlier with an error that
the check cannot foresee. -/
def StopsUnchecked (config : Config) (unit : CodeUnit) (m : Machine) (place : Nat)
    (jam : RunError) : Prop :=
  ∃ moment e m', Arrives config unit.constants 0 (decodeAll unit.code) m.reset moment ∧
    moment.result config unit.constants = .error e m' ∧
    runUnchecked config unit m = .error e m' ∧
    (e.isDynamic ∧ moment.offset ≤ place ∨ e = jam ∧ moment.offset = place)

theorem stopsUnchecked_of_stackCheck {unit : CodeUnit} {e : StackCheckError} {place : Nat}
    {jam : RunError} (h : stackCheck unit.code 0 config.stackCapacity = .error e)
    (hjam : e.jam = some (place, jam)) (m : Machine) :
    StopsUnchecked config unit m place jam := by
  have hstops : Stops config unit.constants 0 (decodeAll unit.code) m.reset place jam :=
    stops_of_stackCheck h hjam rfl (Nat.zero_le _) 0
  obtain ⟨moment, e', m', harrives, hresult, hplace⟩ := hstops
  exact ⟨moment, e', m', harrives, hresult,
    runUnchecked_eq_error (harrives.loop_eq_error hresult), hplace⟩

end Machine

/-- **The stack check is sound and exact.**  If a unit passes it, no run of the unit fails for
a reason that the check looks for; every instruction that the run comes to finds a stack of
the height that the check gives for the code in front of it, and a run that succeeds leaves
the height that the check gives for all of the code.  If a unit does not pass, the run is the
error of the check and an empty stack, and a run without the check would have stopped at the
place that the check names, unless an error of another kind had stopped it there or before. -/
theorem stackCheck_sound_and_exact (config : Config) (unit : CodeUnit) (m : Machine) :
    (∀ height, stackCheck unit.code 0 config.stackCapacity = .ok height →
      (∀ e m', Machine.run config unit m = .error e m' → e.isDynamic) ∧
      (∀ top m', Machine.run config unit m = .ok top m' → m'.stack.length = height) ∧
      ∀ moment, Machine.Arrives config unit.constants 0 (decodeAll unit.code) m.reset moment →
        stackCheck (unit.code.take moment.offset) 0 config.stackCapacity =
          .ok moment.machine.stack.length) ∧
    ∀ e, stackCheck unit.code 0 config.stackCapacity = .error e →
      Machine.run config unit m = .error (.ofStackCheck e) m.reset ∧
      (∀ place opcode needed, e = .underflow place opcode needed →
        Machine.StopsUnchecked config unit m place (.stackUnderflow place)) ∧
      ∀ place capacity, e = .overflow place capacity →
        Machine.StopsUnchecked config unit m place (.stackOverflow place capacity) := by
  refine ⟨fun height hcheck => ?_, fun e hcheck => ?_⟩
  · refine ⟨?_, ?_, ?_⟩
    · intro e m' hrun
      exact Machine.isDynamic_of_run_eq_error hcheck hrun
    · intro top m' hrun
      exact Machine.length_stack_of_run_eq_ok hcheck hrun
    · intro moment harrives
      obtain ⟨-, htake⟩ := harrives.stackCheck_take rfl hcheck
      exact htake
  · refine ⟨Machine.run_of_check_eq_error hcheck m, ?_, ?_⟩
    · rintro place opcode needed rfl
      exact Machine.stopsUnchecked_of_stackCheck hcheck rfl m
    · rintro place capacity rfl
      exact Machine.stopsUnchecked_of_stackCheck hcheck rfl m

/-- `1 / 0` as a unit. -/
def CodeUnit.quotient : CodeUnit where
  code := assemble [.pushNumber ⟨0x3f800000⟩, .pushNumber ⟨0⟩, .binary .div]

/-- With room for two values the quotient passes the check, which is right about the height of
the stack in front of the division, and the run fails there.  With room for one value it does
not pass, and without the check it stops at the second number. -/
theorem stackCheck_quotient :
    (stackCheck CodeUnit.quotient.code 0 2 = .ok 1 ∧
      stackCheck (CodeUnit.quotient.code.take 10) 0 2 = .ok 2 ∧
      Machine.run { stackCapacity := 2 } .quotient { slots := { capacity := 4 } } =
        .error (.divisionByZero 10) { slots := { capacity := 4 } } ∧
      (RunError.divisionByZero 10).isDynamic) ∧
    stackCheck CodeUnit.quotient.code 0 1 = .error (.overflow 5 1) ∧
      Machine.StopsUnchecked { stackCapacity := 1 } .quotient { slots := { capacity := 4 } } 5
        (.stackOverflow 5 1) := by
  have hpasses : stackCheck CodeUnit.quotient.code 0 2 = .ok 1 := by decide +kernel
  have hfails : stackCheck CodeUnit.quotient.code 0 1 = .error (.overflow 5 1) := by
    decide +kernel
  have hrun : Machine.run { stackCapacity := 2 } .quotient { slots := { capacity := 4 } } =
      .error (.divisionByZero 10) { slots := { capacity := 4 } } := by
    rw [Machine.run_of_check (Machine.check_eq_ok hpasses), CodeUnit.quotient,
      decodeAll_assemble]
    rfl
  have harrives : Machine.Arrives { stackCapacity := 2 } {} 0
      (decodeAll CodeUnit.quotient.code) { slots := { capacity := 4 } }
      ⟨2, 10, .binary .div,
        { stack := [.number ⟨0⟩, .number ⟨0x3f800000⟩], slots := { capacity := 4 } }⟩ := by
    rw [CodeUnit.quotient, decodeAll_assemble]
    exact .later rfl (.later rfl .here)
  obtain ⟨hdynamic, -, hheights⟩ := (stackCheck_sound_and_exact { stackCapacity := 2 } .quotient
    { slots := { capacity := 4 } }).1 1 hpasses
  obtain ⟨-, -, hstops⟩ := (stackCheck_sound_and_exact { stackCapacity := 1 } .quotient
    { slots := { capacity := 4 } }).2 _ hfails
  exact ⟨⟨hpasses, hheights _ harrives, hrun, hdynamic _ _ hrun⟩, hfails, hstops _ _ rfl⟩

end StackLang
