/-
Runs of any code.

These facts need no compiler: they hold for every code, whether it decodes or not.

* `Machine.loop_limited`: a step limit only cuts a run short.
* `Machine.Composes`: a property of computations that instructions inherit from what they are put
  together from; `Machine.Composes.exec` is the step and `Machine.Composes.loop` the induction
  over a code.
* `Machine.keeps_run`: what the stores of a code keep of the slots, a run keeps, also one that
  fails.
* `Slots.Bounded`: the slots that were stored to are within the capacity.
-/
import StackLang.Proofs.Tables
import StackLang.Machine.Run

namespace StackLang

/-! ### Limits -/

/-- The same limits without one for the steps. -/
def Config.unlimited (config : Config) : Config :=
  { config with maxSteps := none }

namespace Machine

theorem countStep_cases (config : Config) (steps : Nat) :
    countStep config steps = pure () ∨
      ∃ limit, countStep config steps = throw (.stepLimit limit) := by
  rw [countStep]
  split
  · rename_i limit hlimit
    split
    · exact .inl rfl
    · exact .inr ⟨limit, rfl⟩
  · exact .inl rfl

theorem exec_unlimited (config : Config) (pool : ConstantPool) (offset : Nat)
    (i : Instruction) : exec config.unlimited pool offset i = exec config pool offset i := by
  cases i <;> rfl

/-- With a limit, code is carried out as without one, or the limit stops it. -/
theorem loop_limited (config : Config) (pool : ConstantPool) (steps : Nat) (code : Decoded)
    (m : Machine) :
    loop config pool steps code m = loop config.unlimited pool steps code m ∨
      ∃ limit m', loop config pool steps code m = .error (.stepLimit limit) m' := by
  induction code generalizing steps m with
  | done => exact .inl rfl
  | fault e =>
    rcases countStep_cases config steps with hcount | ⟨limit, hcount⟩
    · left
      rw [loop, hcount]
      rfl
    · right
      rw [loop, hcount]
      exact ⟨limit, m, rfl⟩
  | step offset i rest ih =>
    rcases countStep_cases config steps with hcount | ⟨limit, hcount⟩
    · -- the instruction is carried out the same, and so is the rest, or the limit stops it
      rw [loop, loop, hcount, exec_unlimited]
      change EStateM.bind (exec config pool offset i) _ m =
        EStateM.bind (exec config pool offset i) _ m ∨ ∃ limit m',
          EStateM.bind (exec config pool offset i) _ m = _
      rw [EStateM.bind, EStateM.bind]
      cases exec config pool offset i m with
      | ok _ m₁ => exact ih (steps + 1) m₁
      | error e m₁ => exact .inl rfl
    · right
      rw [loop, hcount]
      exact ⟨limit, m, rfl⟩

/-- Without a limit, code is carried out instruction by instruction. -/
theorem loop_step {config : Config} (hlimit : config.maxSteps = none) (pool : ConstantPool)
    (steps offset : Nat) (i : Instruction) (rest : Decoded) (m : Machine) :
    loop config pool steps (.step offset i rest) m =
      match exec config pool offset i m with
      | .ok () m' => loop config pool (steps + 1) rest m'
      | .error e m' => .error e m' := by
  have hcount : countStep config steps = pure () := by
    rw [countStep, hlimit]
  rw [loop, hcount]
  change EStateM.bind (exec config pool offset i) _ m = _
  rw [EStateM.bind]
  cases exec config pool offset i m with
  | ok _ m' => rfl
  | error e m' => rfl

/-- A run of a unit that passes the check is a run of its code on an empty stack. -/
theorem run_of_check {config : Config} {unit : CodeUnit} (h : check config unit = .ok ())
    (m : Machine) :
    run config unit m =
      match loop config unit.constants 0 (decodeAll unit.code) m.reset with
      | .ok () m' => .ok m'.stack.head? m'
      | .error e m' => .error e m' := by
  rw [run, h]
  -- the stack is emptied before the check and again before the code, which is once
  change EStateM.bind (loop config unit.constants 0 (decodeAll unit.code)) _ m.reset = _
  rw [EStateM.bind]
  cases loop config unit.constants 0 (decodeAll unit.code) m.reset with
  | ok _ m' => rfl
  | error e m' => rfl

theorem run_limited {config : Config} {unit : CodeUnit} (h : check config unit = .ok ())
    (m : Machine) :
    run config unit m = run config.unlimited unit m ∨
      ∃ limit m', run config unit m = .error (.stepLimit limit) m' := by
  have h' : check config.unlimited unit = .ok () := h
  rw [run_of_check h, run_of_check h']
  rcases loop_limited config unit.constants 0 (decodeAll unit.code) m.reset with
    hloop | ⟨limit, m', hloop⟩
  · rw [hloop]
    exact .inl rfl
  · rw [hloop]
    exact .inr ⟨limit, m', rfl⟩

/-! ### What instructions are put together from -/

end Machine

/-- The code has a store to the slot. -/
def Decoded.Stores (slot : UInt32) : Decoded → Prop
  | done | fault _ => False
  | step _ i rest => i = .store slot ∨ rest.Stores slot

namespace Machine

/-- The property holds of everything that instructions are put together from, stores apart, and
of two computations one after the other if it holds of both. -/
structure Composes (P : (α : Type) → Exec α → Prop) : Prop where
  pure : ∀ {α : Type} (a : α), P α (pure a)
  throw : ∀ {α : Type} (e : RunError), P α (throw e)
  bind : ∀ {α β : Type} {x : Exec α} {f : α → Exec β}, P α x → (∀ a, P β (f a)) →
    P β (x >>= f)
  push : ∀ config offset value, P Unit (push config offset value)
  pop : ∀ offset, P Value (pop offset)
  fetch : ∀ offset slot, P Value (fetch offset slot)
  write : ∀ value, P Unit (write value)
  reset : P Unit (modify reset)
  top : P (Option Value) (do return (← get).stack.head?)

section

variable {P : (α : Type) → Exec α → Prop}

theorem Composes.result (h : Composes P) (offset : Nat) (r : Except OperandFault Value) :
    P Value (Machine.result offset r) := by
  cases r with
  | ok value => exact h.pure value
  | error fault => exact h.throw _

theorem Composes.constant (h : Composes P) (pool : ConstantPool) (offset : Nat)
    (index : UInt32) : P Value (Machine.constant pool offset index) := by
  rw [Machine.constant]
  split
  · exact h.pure _
  · exact h.throw _

theorem Composes.countStep (h : Composes P) (config : Config) (steps : Nat) :
    P Unit (Machine.countStep config steps) := by
  rcases countStep_cases config steps with hcount | ⟨limit, hcount⟩
  · rw [hcount]
    exact h.pure ()
  · rw [hcount]
    exact h.throw _

theorem Composes.exec (h : Composes P) {i : Instruction}
    (hstores : ∀ slot, i = .store slot → ∀ offset value, P Unit (assign offset slot value))
    (config : Config) (pool : ConstantPool) (offset : Nat) :
    P Unit (Machine.exec config pool offset i) := by
  cases i with
  | pushNumber value => exact h.push config offset _
  | pushConst index =>
    exact h.bind (h.constant pool offset index) fun value => h.push config offset value
  | pushBool value => exact h.push config offset _
  | binary op =>
    exact h.bind (h.pop offset) fun right => h.bind (h.pop offset) fun left =>
      h.bind (h.result offset _) fun value => h.push config offset value
  | unary op =>
    exact h.bind (h.pop offset) fun operand =>
      h.bind (h.result offset _) fun value => h.push config offset value
  | store slot => exact h.bind (h.pop offset) fun value => hstores slot rfl offset value
  | load slot => exact h.bind (h.fetch offset slot) fun value => h.push config offset value
  | print => exact h.bind (h.pop offset) fun value => h.write value

theorem Composes.loop (h : Composes P) {code : Decoded}
    (hstores : ∀ slot, code.Stores slot → ∀ offset value, P Unit (assign offset slot value))
    (config : Config) (pool : ConstantPool) (steps : Nat) :
    P Unit (Machine.loop config pool steps code) := by
  induction code generalizing steps with
  | done => exact h.pure ()
  | fault e => exact h.bind (h.countStep config steps) fun _ => h.throw _
  | step offset i rest ih =>
    have hfirst : P Unit (Machine.exec config pool offset i) :=
      h.exec (fun slot hslot => hstores slot (.inl hslot)) config pool offset
    exact h.bind (h.countStep config steps) fun _ =>
      h.bind hfirst fun _ => ih (fun slot hslot => hstores slot (.inr hslot)) (steps + 1)

theorem Composes.run (h : Composes P) {unit : CodeUnit}
    (hstores : ∀ slot, (decodeAll unit.code).Stores slot →
      ∀ offset value, P Unit (assign offset slot value)) (config : Config) :
    P (Option Value) (Machine.run config unit) := by
  refine h.bind h.reset fun _ => ?_
  -- a unit that does not pass the check is not carried out
  split
  · exact h.bind h.reset fun _ => h.bind (h.loop hstores config _ 0) fun _ => h.top
  · exact h.throw _

end

/-! ### What a run keeps of the slots -/

/-- The machine that a computation leaves, whether it succeeds or fails. -/
def left {α : Type} : EStateM.Result RunError Machine α → Machine
  | .ok _ m => m
  | .error _ m => m

/-- The computation keeps a property of the slots, whether it succeeds or fails. -/
def Keeps {α : Type} (P : Slots → Prop) (x : Exec α) : Prop :=
  ∀ m, P m.slots → P (left (x m)).slots

section

variable {α β : Type} {P : Slots → Prop}

theorem Keeps.bind {x : Exec α} {f : α → Exec β} (hx : Keeps P x) (hf : ∀ a, Keeps P (f a)) :
    Keeps P (x >>= f) := by
  intro m hm
  -- a failure of the first part skips the second one and leaves the slots of the first
  have hxm := hx m hm
  change P (left (EStateM.bind x f m)).slots
  rw [EStateM.bind]
  cases hresult : x m with
  | ok a m₁ =>
    rw [hresult] at hxm
    exact hf a m₁ hxm
  | error e m₁ =>
    rw [hresult] at hxm
    exact hxm

/-- Only a store touches the slots. -/
theorem composes_keeps : Composes fun _ x => Keeps P x where
  pure _ _ h := h
  throw _ _ h := h
  bind hx hf := hx.bind hf
  push config offset value m hm := by
    rw [push]
    split <;> exact hm
  pop offset m hm := by
    rw [pop]
    split <;> exact hm
  fetch offset slot m hm := by
    rw [fetch]
    split <;> exact hm
  write value m hm := by
    rw [write]
    split <;> exact hm
  reset _ h := h
  top _ h := h

/-- A store to the slot that succeeds keeps the property. -/
def KeptByStore (P : Slots → Prop) (slot : UInt32) : Prop :=
  ∀ ⦃slots slots' : Slots⦄ ⦃value : Value⦄, P slots → slots.set slot value = .ok () slots' →
    P slots'

theorem keeps_assign {slot : UInt32} (hstore : KeptByStore P slot) (offset : Nat)
    (value : Value) : Keeps P (assign offset slot value) := by
  intro m hm
  rw [assign]
  split
  · rename_i slots hset
    exact hstore hm hset
  · rename_i slots hset
    obtain ⟨-, rfl⟩ := Slots.eq_of_set_eq_error hset
    exact hm

theorem keeps_run {unit : CodeUnit}
    (hstores : ∀ slot, (decodeAll unit.code).Stores slot → KeptByStore P slot)
    (config : Config) : Keeps P (run config unit) :=
  composes_keeps.run (fun slot hslot => keeps_assign (hstores slot hslot)) config

end

end Machine

/-! ### Slots within the capacity -/

namespace Slots

/-- The slots that were stored to are within the capacity. -/
def Bounded (slots : Slots) : Prop :=
  slots.size ≤ slots.capacity.toNat

theorem size_store (values : Array Value) (slot : Nat) (value : Value) :
    (store values slot value).size = max values.size (slot + 1) := by
  rw [store]
  split
  · rw [Array.size_setIfInBounds]
    omega
  · rw [Array.size_push, Array.size_append, Array.size_replicate]
    omega

theorem keptByStore_bounded (slot : UInt32) : Machine.KeptByStore Bounded slot := by
  intro slots slots' value hbounded hset
  obtain ⟨hlt, rfl⟩ := eq_of_set_eq_ok hset
  rw [Bounded, size] at hbounded
  change (store slots.values slot.toNat value).size ≤ slots.capacity.toNat
  rw [size_store]
  omega

/-- Within the capacity, what a slot holds does not depend on it. -/
theorem Bounded.held_eq {slots : Slots} (h : slots.Bounded) (position : Nat) :
    slots.held position = slots.values[position]?.getD .empty := by
  rw [held]
  split
  · rfl
  · rename_i hge
    rw [Bounded, size] at h
    rw [Array.getElem?_eq_none (by omega)]
    rfl

end Slots

end StackLang
