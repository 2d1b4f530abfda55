/-
Code behind other code.

Code that follows other code is found at other offsets, and runs on top of what the other code
left on the stack.  Neither changes what it does: the offsets in its errors are those of the
new place, and the values below stay where they are.

* `RunError.shifted`: an error with its offsets so much further.
* `Decoded.ofBytes_add`: bytes read at another offset are the same instructions, so much further.
* `wrappingStackCheck_assemble_append`: the check of code behind instructions, from the checks of
  the two, whatever the height is; and when the check in words is the exact one.
* `Machine.above`: a machine with more values below its own.
* `Machine.Lifts`: a computation does on top of other values what another one does without
  them, unless the stack is in the way.  `Machine.lifts_loop`: so does code at another offset.
* `Machine.run_append`: the run of a unit whose code is that of two units, from the runs of
  the two.

Design notes: two things can go wrong on top of other values, a stack that is full too early
and one that is not empty when it should be.  Both are errors that the stack check looks for,
so the statements here leave them open (`Machine.Jams`), and the check excludes them.
-/
import StackLang.Proofs.Simulation
import StackLang.Proofs.StackSafety

namespace StackLang

/-! ### Errors further on -/

/-- The error with its offset so much further. -/
def DecodeError.shifted (distance : Nat) : DecodeError → DecodeError
  | unknownOpcode byte offset => unknownOpcode byte (offset + distance)
  | invalidSubOpcode marker byte offset => invalidSubOpcode marker byte (offset + distance)
  | unexpectedEnd offset => unexpectedEnd (offset + distance)

/-- The error with its offset so much further. -/
def StackCheckError.shifted (distance : Nat) : StackCheckError → StackCheckError
  | decode e => decode (e.shifted distance)
  | underflow offset opcode needed => underflow (offset + distance) opcode needed
  | overflow offset capacity => overflow (offset + distance) capacity

/-- The error with its offset, if it has one, so much further. -/
def RunError.shifted (distance : Nat) : RunError → RunError
  | unknownOpcode byte offset => unknownOpcode byte (offset + distance)
  | decode e => decode (e.shifted distance)
  | divisionByZero offset => divisionByZero (offset + distance)
  | stackOverflow offset capacity => stackOverflow (offset + distance) capacity
  | stackUnderflow offset => stackUnderflow (offset + distance)
  | typeMismatch offset op expected found => typeMismatch (offset + distance) op expected found
  | constantOutOfRange offset index => constantOutOfRange (offset + distance) index
  | slotOutOfRange offset slot capacity => slotOutOfRange (offset + distance) slot capacity
  | output e => output e
  | stepLimit limit => stepLimit limit
  | stackCheck e => stackCheck (e.shifted distance)

/-! ### Reading further on -/

section

variable (offset distance : Nat)

theorem readOpcode_add (bytes : Bytes) :
    readOpcode (offset + distance) bytes =
      (readOpcode offset bytes).mapError (·.shifted distance) := by
  cases bytes with
  | nil => rfl
  | cons byte rest =>
    rw [readOpcode, readOpcode]
    cases Opcode.ofByte? byte with
    | some opcode => rfl
    | none => rfl

theorem readOperand_add (bytes : Bytes) :
    readOperand (offset + distance) bytes =
      (readOperand offset bytes).mapError (·.shifted distance) := by
  unfold readOperand
  split
  · rfl
  · rfl

theorem readMarked_add (marker : Opcode) (bytes : Bytes) :
    readMarked marker (offset + distance) bytes =
      (readMarked marker offset bytes).mapError (·.shifted distance) := by
  rw [readMarked, readMarked, readOpcode_add]
  rcases readOpcode offset bytes with e | ⟨operation, rest⟩
  · rfl
  · dsimp only [Except.mapError]
    cases Instruction.ofMarker? marker operation with
    | some i => rfl
    | none => rfl

theorem readUnmarked_add (opcode : Opcode) (bytes : Bytes) :
    readUnmarked opcode (offset + distance) bytes =
      (readUnmarked opcode offset bytes).mapError (·.shifted distance) := by
  rw [readUnmarked, readUnmarked]
  cases Instruction.ofOperand? opcode with
  | some make =>
    dsimp only
    rw [Nat.add_right_comm, readOperand_add]
    rcases readOperand (offset + 1) bytes with e | ⟨operand, rest⟩
    · rfl
    · rfl
  | none =>
    dsimp only
    split
    · rfl
    · rfl

/-- Where the bytes stand matters to the offset of an error only. -/
theorem decode_add (bytes : Bytes) :
    decode (offset + distance) bytes =
      (decode offset bytes).mapError (·.shifted distance) := by
  rw [decode, decode, readOpcode_add]
  rcases readOpcode offset bytes with e | ⟨opcode, rest⟩
  · rfl
  · dsimp only [Except.mapError]
    split
    · rw [Nat.add_right_comm]
      exact readMarked_add (offset + 1) distance opcode rest
    · exact readUnmarked_add offset distance opcode rest

end

namespace Decoded

/-- Code that was read, with all its offsets so much further. -/
def shifted (distance : Nat) : Decoded → Decoded
  | done => done
  | fault e => fault (e.shifted distance)
  | step offset i rest => step (offset + distance) i (rest.shifted distance)

/-- Bytes at another offset are read as the same instructions, up to the same place that does
not decode. -/
theorem ofBytes_add (offset distance : Nat) (bytes : Bytes) :
    ofBytes (offset + distance) bytes = (ofBytes offset bytes).shifted distance := by
  induction offset, bytes using ofBytes_induction with
  | done offset =>
    rw [ofBytes_nil, ofBytes_nil]
    rfl
  | fault offset bytes hne e he =>
    have he' : decode (offset + distance) bytes = .error (e.shifted distance) := by
      rw [decode_add, he]
      rfl
    rw [ofBytes_of_error hne he, ofBytes_of_error hne he']
    rfl
  | step offset bytes i rest hread ih =>
    have hread' : decode (offset + distance) bytes = .ok (i, rest) := by
      rw [decode_add, hread]
      rfl
    rw [ofBytes_of_ok hread, ofBytes_of_ok hread', Nat.add_right_comm, ih]
    rfl

end Decoded

/-! ### The stack check further on -/

namespace Decoded

/-- The check of code further on finds the same, so much further. -/
theorem wrappingStackCheck_shifted (distance : Nat) (capacity height : UInt64)
    (code : Decoded) :
    (code.shifted distance).wrappingStackCheck capacity height =
      (code.wrappingStackCheck capacity height).mapError (·.shifted distance) := by
  induction code generalizing height with
  | done => rfl
  | fault e => rfl
  | step offset i rest ih =>
    rw [shifted, wrappingStackCheck, wrappingStackCheck]
    split
    · rfl
    · split
      · rfl
      · exact ih _

/-- The check of instructions and what follows is the check of the instructions, and then,
from the height that they leave, the check of what follows. -/
theorem wrappingStackCheck_prepend (offset : Nat) (capacity height : UInt64)
    (code : List Instruction) (rest : Decoded) :
    (prepend offset code rest).wrappingStackCheck capacity height =
      (prepend offset code done).wrappingStackCheck capacity height >>=
        fun height' => rest.wrappingStackCheck capacity height' := by
  induction code generalizing offset height with
  | nil => rfl
  | cons i code ih =>
    rw [prepend_cons, prepend_cons, wrappingStackCheck, wrappingStackCheck]
    split
    · rfl
    · split
      · rfl
      · exact ih _ _

end Decoded

theorem Instruction.pushes_le_one (i : Instruction) : i.pushes ≤ 1 := by
  cases i with
  | store _ | print => exact Nat.zero_le 1
  | pushNumber _ | pushConst _ | pushBool _ | binary _ | unary _ | load _ => exact Nat.le_refl 1

/-- Below the largest word the height after an instruction is the exact one. -/
theorem Instruction.toNat_heightAfter {i : Instruction} {height : UInt64}
    (hpops : i.pops ≤ height.toNat) (hheight : height.toNat + 1 < 2 ^ 64) :
    (i.heightAfter height).toNat = height.toNat - i.pops + i.pushes := by
  have hpushes := i.pushes_le_one
  have hword : ∀ n ≤ height.toNat + 1, (UInt64.ofNat n).toNat = n := fun n hn =>
    UInt64.toNat_ofNat_of_lt' (Nat.lt_of_le_of_lt hn hheight)
  have hpopped : (height - .ofNat i.pops).toNat = height.toNat - i.pops := by
    rw [UInt64.toNat_sub_of_le, hword _ (by omega)]
    rwa [UInt64.le_iff_toNat_le, hword _ (by omega)]
  rw [heightAfter, UInt64.toNat_add, hpopped, hword _ (by omega), Nat.mod_eq_of_lt (by omega)]

/-- In words the check is the exact one if the height and the bytes of the code together do not
exceed a word: an instruction adds at most one value, and has at least one byte. -/
theorem Decoded.toNat_wrappingStackCheck {offset : Nat} {bytes : Bytes} {height capacity : UInt64}
    (h : height.toNat + bytes.length < 2 ^ 64) :
    ((ofBytes offset bytes).wrappingStackCheck capacity height).map UInt64.toNat =
      (ofBytes offset bytes).stackCheck capacity.toNat height.toNat := by
  induction offset, bytes using ofBytes_induction generalizing height with
  | done offset =>
    rw [ofBytes_nil]
    rfl
  | fault offset bytes hne e he =>
    rw [ofBytes_of_error hne he]
    rfl
  | step offset bytes i rest hread ih =>
    have hlength := length_decode hread
    rw [ofBytes_of_ok hread, wrappingStackCheck, stackCheck]
    by_cases hpops : height.toNat < i.pops
    · rw [if_pos hpops, if_pos hpops]
      rfl
    · have hafter : (i.heightAfter height).toNat = height.toNat - i.pops + i.pushes :=
        Instruction.toNat_heightAfter (Nat.not_lt.mp hpops) (by omega)
      have hroom : capacity < i.heightAfter height ↔
          capacity.toNat < height.toNat - i.pops + i.pushes := by
        rw [UInt64.lt_iff_toNat_lt, hafter]
      rw [if_neg hpops, if_neg hpops]
      dsimp only
      by_cases hover : capacity < i.heightAfter height
      · rw [if_pos hover, if_pos (hroom.mp hover)]
        rfl
      · have hpushes := i.pushes_le_one
        rw [if_neg hover, if_neg (mt hroom.mpr hover), ← hafter]
        exact ih (by omega)

/-- **The stack check composes.**  The check of the bytes of some instructions and of any bytes
behind them, which need not decode, is the error of the instructions if they have one; otherwise
it is the check of the bytes behind, from the height that the instructions leave, with the offset
of its error as much further as the instructions are long.  This holds from every height, even
where a height exceeds a word and starts again at zero.  From a height that the code cannot
raise so far, as from an empty stack, the check in words is the exact one. -/
theorem wrappingStackCheck_assemble_append (code : List Instruction) (rest : Bytes)
    (height capacity : UInt64) :
    (wrappingStackCheck (assemble code ++ rest) height capacity =
      match wrappingStackCheck (assemble code) height capacity with
      | .error e => .error e
      | .ok height' =>
        (wrappingStackCheck rest height' capacity).mapError
          (·.shifted (assemble code).length)) ∧
    ∀ bytes : Bytes, height.toNat + bytes.length < 2 ^ 64 →
      (wrappingStackCheck bytes height capacity).map UInt64.toNat =
        stackCheck bytes height.toNat capacity.toNat := by
  have hcode : decodeAll (assemble code ++ rest) =
      .prepend 0 code ((decodeAll rest).shifted (assemble code).length) := by
    rw [decodeAll, Decoded.ofBytes_assemble_append, Decoded.ofBytes_add]
    rfl
  constructor
  · rw [wrappingStackCheck, hcode, Decoded.wrappingStackCheck_prepend, wrappingStackCheck,
      decodeAll_assemble]
    cases (Decoded.prepend 0 code .done).wrappingStackCheck capacity height with
    | error e => rfl
    | ok height' => exact Decoded.wrappingStackCheck_shifted _ _ _ _
  · intro bytes h
    exact Decoded.toNat_wrappingStackCheck h

/-- Two values on top of the largest height leave the height one, and an addition behind them
is an underflow at its offset behind theirs.  From an empty stack the two leave the exact
height two. -/
theorem wrappingStackCheck_largest :
    wrappingStackCheck (assemble [.pushBool true, .pushBool true]) 0xffffffffffffffff 5 =
        .ok 1 ∧
      wrappingStackCheck
          (assemble [.pushBool true, .pushBool true] ++ assemble [.binary .add])
          0xffffffffffffffff 5 = .error (.underflow 4 .binary 2) ∧
      (wrappingStackCheck (assemble [.pushBool true, .pushBool true]) 0 5).map UInt64.toNat =
        stackCheck (assemble [.pushBool true, .pushBool true]) 0 5 := by
  have hpushes : wrappingStackCheck (assemble [.pushBool true, .pushBool true])
      0xffffffffffffffff 5 = .ok 1 := by
    decide +kernel
  obtain ⟨happend, -⟩ := wrappingStackCheck_assemble_append [.pushBool true, .pushBool true]
    (assemble [.binary .add]) 0xffffffffffffffff 5
  obtain ⟨-, hexact⟩ := wrappingStackCheck_assemble_append [] [] 0 5
  refine ⟨hpushes, ?_, hexact _ (by decide)⟩
  rw [happend, hpushes]
  decide +kernel

namespace Machine

/-! ### Computations on top of other values -/

/-- The machine with more values below its own. -/
def above (m : Machine) (base : List Value) : Machine :=
  { m with stack := m.stack ++ base }

@[simp]
theorem above_slots (m : Machine) (base : List Value) : (m.above base).slots = m.slots :=
  rfl

@[simp]
theorem above_out (m : Machine) (base : List Value) : (m.above base).out = m.out :=
  rfl

section

variable {α β : Type}

/-- The result with more values below those of its machine, and the offset of its error so
much further. -/
def lifted (distance : Nat) (base : List Value) :
    EStateM.Result RunError Machine α → EStateM.Result RunError Machine α
  | .ok a m => .ok a (m.above base)
  | .error e m => .error (e.shifted distance) (m.above base)

/-- The result is an error that the stack check looks for. -/
def Jams (r : EStateM.Result RunError Machine α) : Prop :=
  ∃ e m, r = .error e m ∧ e.isDynamic = false

theorem Balanced.not_jams {height height' : Nat} {x : Exec α} {m : Machine}
    (h : Balanced height height' x) (hm : m.stack.length = height) : ¬Jams (x m) := by
  rintro ⟨e, m', hx, hstatic⟩
  have hdynamic := h.isDynamic_of_eq_error hm hx
  rw [hstatic] at hdynamic
  cases hdynamic

theorem Jams.bind {x : Exec α} {m : Machine} (h : Jams (x m)) (f : α → Exec β) :
    Jams ((x >>= f) m) := by
  obtain ⟨e, m', hx, hstatic⟩ := h
  refine ⟨e, m', ?_, hstatic⟩
  show EStateM.bind x f m = _
  rw [EStateM.bind, hx]

/-- On top of the given values the second computation does what the first one does without
them, with the offsets of its errors so much further, unless one of the two jams. -/
def Lifts (distance : Nat) (base : List Value) (x y : Exec α) : Prop :=
  ∀ m, Jams (x m) ∨ Jams (y (m.above base)) ∨ y (m.above base) = lifted distance base (x m)

variable {distance : Nat} {base : List Value} {config : Config} {pool : ConstantPool}

theorem lifts_pure (a : α) : Lifts distance base (pure a) (pure a) :=
  fun _ => .inr (.inr rfl)

theorem lifts_throw (e : RunError) :
    Lifts distance base (throw e : Exec α) (throw (e.shifted distance)) :=
  fun _ => .inr (.inr rfl)

theorem Lifts.bind {x y : Exec α} {f g : α → Exec β} (hx : Lifts distance base x y)
    (hf : ∀ a, Lifts distance base (f a) (g a)) : Lifts distance base (x >>= f) (y >>= g) := by
  intro m
  rcases hx m with hjams | hjams | hsame
  · exact .inl (hjams.bind f)
  · exact .inr (.inl (hjams.bind g))
  · -- both go on with the same value, or fail together
    show Jams (EStateM.bind x f m) ∨ Jams (EStateM.bind y g (m.above base)) ∨
      EStateM.bind y g (m.above base) = lifted distance base (EStateM.bind x f m)
    rw [EStateM.bind, EStateM.bind, hsame]
    cases x m with
    | ok a m₁ => exact hf a m₁
    | error e m₁ => exact .inr (.inr rfl)

theorem lifts_push (offset : Nat) (value : Value) :
    Lifts distance base (push config offset value) (push config (offset + distance) value) := by
  intro m
  by_cases hroom : m.stack.length < config.stackCapacity
  · by_cases hroom' : (m.above base).stack.length < config.stackCapacity
    · right; right
      rw [push_of_lt hroom, push_of_lt hroom']
      rfl
    · right; left
      exact ⟨_, _, push_of_not_lt (Nat.not_lt.mp hroom'), rfl⟩
  · left
    exact ⟨_, _, push_of_not_lt (Nat.not_lt.mp hroom), rfl⟩

theorem lifts_pop (offset : Nat) :
    Lifts distance base (pop offset) (pop (offset + distance)) := by
  rintro ⟨stack, slots, out⟩
  cases stack with
  | nil => exact .inl ⟨_, _, rfl, rfl⟩
  | cons value rest => exact .inr (.inr rfl)

theorem lifts_fetch (offset : Nat) (slot : UInt32) :
    Lifts distance base (fetch offset slot) (fetch (offset + distance) slot) := by
  intro m
  right; right
  rw [fetch, fetch, above_slots]
  cases m.slots.get? slot with
  | some value => rfl
  | none => rfl

theorem lifts_assign (offset : Nat) (slot : UInt32) (value : Value) :
    Lifts distance base (assign offset slot value) (assign (offset + distance) slot value) := by
  intro m
  right; right
  rw [assign, assign, above_slots]
  cases m.slots.set slot value with
  | ok _ slots => rfl
  | error rejected slots => rfl

theorem lifts_write (value : Value) : Lifts distance base (write value) (write value) := by
  intro m
  right; right
  rw [write, write, above_out]
  cases Sink.writeText (value.text ++ "\n") m.out with
  | ok _ out => rfl
  | error e out => rfl

theorem lifts_result (offset : Nat) (r : Except OperandFault Value) :
    Lifts distance base (result offset r) (result (offset + distance) r) := by
  cases r with
  | ok value => exact lifts_pure value
  | error fault => cases fault <;> exact lifts_throw _

theorem lifts_constant (offset : Nat) (index : UInt32) :
    Lifts distance base (constant pool offset index)
      (constant pool (offset + distance) index) := by
  rw [constant, constant]
  cases pool.get? index with
  | some value => exact lifts_pure value
  | none => exact lifts_throw _

/-- An instruction does the same on top of other values and at another offset. -/
theorem lifts_exec (offset : Nat) (i : Instruction) :
    Lifts distance base (exec config pool offset i) (exec config pool (offset + distance) i) := by
  cases i with
  | pushNumber value => exact lifts_push offset _
  | pushConst index =>
    exact (lifts_constant offset index).bind fun value => lifts_push offset value
  | pushBool value => exact lifts_push offset _
  | binary op =>
    exact (lifts_pop offset).bind fun right => (lifts_pop offset).bind fun left =>
      (lifts_result offset _).bind fun value => lifts_push offset value
  | unary op =>
    exact (lifts_pop offset).bind fun operand =>
      (lifts_result offset _).bind fun value => lifts_push offset value
  | store slot => exact (lifts_pop offset).bind fun value => lifts_assign offset slot value
  | load slot => exact (lifts_fetch offset slot).bind fun value => lifts_push offset value
  | print => exact (lifts_pop offset).bind fun value => lifts_write value

end

variable {config : Config} {pool pool' : ConstantPool} {m m' : Machine}

theorem loop_step_eq_bind (hlimit : config.maxSteps = none) (steps offset : Nat)
    (i : Instruction) (rest : Decoded) :
    loop config pool steps (.step offset i rest) =
      (exec config pool offset i >>= fun _ => loop config pool (steps + 1) rest) := by
  rw [loop, countStep, hlimit]
  rfl

/-- Code does the same on top of other values and at another offset, however many steps were
taken before. -/
theorem lifts_loop (pool : ConstantPool) (hlimit : config.maxSteps = none) (distance : Nat)
    (base : List Value) (code : List Instruction) (offset steps steps' : Nat) :
    Lifts distance base (loop config pool steps (.prepend offset code .done))
      (loop config pool steps' (.prepend (offset + distance) code .done)) := by
  induction code generalizing offset steps steps' with
  | nil => exact lifts_pure ()
  | cons i code ih =>
    rw [Decoded.prepend_cons, Decoded.prepend_cons, loop_step_eq_bind hlimit,
      loop_step_eq_bind hlimit, Nat.add_right_comm]
    exact (lifts_exec offset i).bind fun _ => ih (offset + i.width) (steps + 1) (steps' + 1)

/-! ### Code in front of other code -/

/-- An instruction that succeeds does the same with more constants. -/
theorem exec_of_extends {offset : Nat} {i : Instruction} (hpool : pool.Extends pool')
    (h : exec config pool offset i m = .ok () m') :
    exec config pool' offset i m = .ok () m' := by
  cases i with
  | pushConst index =>
    rw [exec, constant] at h ⊢
    cases hget : pool.get? index with
    | some value =>
      rw [hget] at h
      rw [hpool hget]
      exact h
    | none =>
      rw [hget] at h
      cases h
  | _ => exact h

/-- Code that succeeds does the same in front of other code and with more constants, and the
other code goes on where it ends. -/
theorem loop_prepend_of_ok (hlimit : config.maxSteps = none) (hpool : pool.Extends pool')
    {code : List Instruction} {offset steps : Nat}
    (h : loop config pool steps (.prepend offset code .done) m = .ok () m') (rest : Decoded)
    (steps' : Nat) :
    loop config pool' steps' (.prepend offset code rest) m =
      loop config pool' (steps' + code.length) rest m' := by
  induction code generalizing offset steps steps' m with
  | nil =>
    cases h
    rfl
  | cons i code ih =>
    rw [Decoded.prepend_cons, loop_step hlimit] at h
    rw [Decoded.prepend_cons, loop_step hlimit]
    cases hexec : exec config pool offset i m with
    | ok _ m₁ =>
      rw [hexec] at h
      rw [exec_of_extends hpool hexec]
      dsimp only at h ⊢
      rw [ih h, List.length_cons, Nat.add_right_comm, Nat.add_assoc]
    | error e m₁ =>
      rw [hexec] at h
      cases h

/-- Two pieces of code one after the other: where the first one succeeds, the second one does
what it does alone, on top of the values that the first one left. -/
theorem loop_append (hlimit : config.maxSteps = none) (hpool : pool.Extends pool')
    {code₁ code₂ : List Instruction}
    (h : loop config pool 0 (.prepend 0 code₁ .done) m = .ok () m')
    (hsecond : ¬Jams (loop config pool' 0 (.prepend 0 code₂ .done) m'.reset))
    (hboth : ¬Jams (loop config pool' 0 (.prepend 0 (code₁ ++ code₂) .done) m)) :
    loop config pool' 0 (.prepend 0 (code₁ ++ code₂) .done) m =
      lifted (assemble code₁).length m'.stack
        (loop config pool' 0 (.prepend 0 code₂ .done) m'.reset) := by
  rw [Decoded.prepend_append, ← length_assemble, loop_prepend_of_ok hlimit hpool h] at hboth ⊢
  have hlifts := lifts_loop pool' hlimit (assemble code₁).length m'.stack code₂ 0 0
    (0 + code₁.length) m'.reset
  exact (hlifts.resolve_left hsecond).resolve_left hboth

/-! ### Runs -/

/-- Carrying out a unit that passes the check does not jam. -/
theorem not_jams_of_check {unit : CodeUnit} (h : check config unit = .ok ()) (m : Machine) :
    ¬Jams (loop config unit.constants 0 (decodeAll unit.code) m.reset) := by
  rw [check] at h
  split at h
  · rename_i height hcheck
    exact (balanced_loop unit.constants hcheck 0).not_jams rfl
  · cases h

/-- A run that succeeds has passed the check and carried out the code. -/
theorem loop_of_run_eq_ok {unit : CodeUnit} {top : Option Value}
    (h : run config unit m = .ok top m') :
    loop config unit.constants 0 (decodeAll unit.code) m.reset = .ok () m' ∧
      top = m'.stack.head? := by
  cases hcheck : stackCheck unit.code 0 config.stackCapacity with
  | error e =>
    rw [run_of_check_eq_error hcheck] at h
    cases h
  | ok height =>
    rw [run_of_check (check_eq_ok hcheck)] at h
    split at h
    · rename_i hloop
      cases h
      exact ⟨hloop, rfl⟩
    · cases h

/-- The run of a unit whose code is that of two units: if the run of the first succeeds, it
does what the run of the second one does after it.  The topmost value is that of the second
run, or that of the first where the second leaves none; an error is that of the second run, as
much further on as the code of the first is long. -/
theorem run_append (hlimit : config.maxSteps = none) {unit₁ unit₂ : CodeUnit}
    {code₁ code₂ : List Instruction} {top₁ : Option Value} {m₁ : Machine}
    (hcode₁ : unit₁.code = assemble code₁) (hcode₂ : unit₂.code = assemble code₂)
    (hpool : unit₁.constants.Extends unit₂.constants)
    (hcheck₂ : check config unit₂ = .ok ())
    (hcheck : check config { unit₂ with code := unit₁.code ++ unit₂.code } = .ok ())
    (hrun₁ : run config unit₁ m = .ok top₁ m₁) :
    run config { unit₂ with code := unit₁.code ++ unit₂.code } m =
      match run config unit₂ m₁ with
      | .ok top₂ m₂ => .ok (top₂.or top₁) (m₂.above m₁.stack)
      | .error e m₂ => .error (e.shifted unit₁.code.length) (m₂.above m₁.stack) := by
  obtain ⟨hloop₁, rfl⟩ := loop_of_run_eq_ok hrun₁
  have hsecond := not_jams_of_check hcheck₂ m₁
  have hboth := not_jams_of_check hcheck m
  have hcode : unit₁.code ++ unit₂.code = assemble (code₁ ++ code₂) := by
    rw [hcode₁, hcode₂, assemble_append]
  rw [run_of_check hcheck₂, run_of_check hcheck]
  dsimp only at hboth ⊢
  rw [hcode, decodeAll_assemble] at hboth ⊢
  rw [hcode₁, decodeAll_assemble] at hloop₁
  rw [hcode₂, decodeAll_assemble] at hsecond ⊢
  rw [loop_append hlimit hpool hloop₁ hsecond hboth, hcode₁]
  cases loop config unit₂.constants 0 (.prepend 0 code₂ .done) m₁.reset with
  | ok _ m₂ =>
    show EStateM.Result.ok (m₂.stack ++ m₁.stack).head? _ = _
    rw [List.head?_append]
  | error e m₂ => rfl

end Machine

end StackLang
