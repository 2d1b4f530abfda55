/-
Compiled programs do what direct evaluation does.

The machine knows offsets, slots and opcodes; evaluation knows names and values.  The two are
kept in step by `Mirrors`: the scope has the names of the table in slot order and the slots
and the output of the machine, the values of the expression statements lie on the stack, and
what the compiler knows of each variable is the category of the value it has at this moment.

* `Machine.Reaches`, `Machine.Breaks`: what running a piece of code comes to, whatever stands
  around it.
* `Emits.simulates`: the code of an expression leaves its value on the stack, in the category
  that the compiler expects, or breaks with the kind of error that evaluation has.
* `EmitsStmt.agrees`, `EmitsAll.agrees`: statements keep the machine and the scope in step.
* `behavior_run_eq_behavior_evaluate`: running a compiled program and evaluating it directly
  cannot be told apart.

Design notes: room on the stack is carried along as `Expr.need`, so that no instruction has
to ask the stack check.
-/
import StackLang.Proofs.Evaluation
import StackLang.Proofs.Runs
import StackLang.Proofs.StackNeed

namespace StackLang

namespace Machine

variable {config : Config} {pool : ConstantPool} {m m₁ m₂ : Machine}
  {code code₁ code₂ : List Instruction} {kind : ErrorKind} {slots : Slots} {out : Sink}

/-! ### Pieces of code -/

/-- Running the code takes the first machine to the second, whatever comes after it. -/
def Reaches (config : Config) (pool : ConstantPool) (code : List Instruction)
    (m m' : Machine) : Prop :=
  ∀ offset steps rest, loop config pool steps (.prepend offset code rest) m =
    loop config pool (steps + code.length) rest m'

/-- Running the code ends in an error of the given kind, with the given slots and output,
whatever comes after it. -/
def Breaks (config : Config) (pool : ConstantPool) (code : List Instruction) (m : Machine)
    (kind : ErrorKind) (slots : Slots) (out : Sink) : Prop :=
  ∀ offset steps rest, ∃ e m', loop config pool steps (.prepend offset code rest) m = .error e m' ∧
    e.kind = kind ∧ m'.slots = slots ∧ m'.out = out

theorem reaches_of_exec {i : Instruction} (hlimit : config.maxSteps = none)
    (h : ∀ offset, exec config pool offset i m = .ok () m₁) : Reaches config pool [i] m m₁ := by
  intro offset steps rest
  rw [Decoded.prepend_cons, loop_step hlimit, h]
  rfl

theorem breaks_of_exec {i : Instruction} (hlimit : config.maxSteps = none)
    (h : ∀ offset, ∃ e, exec config pool offset i m = .error e m₁ ∧ e.kind = kind) :
    Breaks config pool [i] m kind m₁.slots m₁.out := by
  intro offset steps rest
  obtain ⟨e, hexec, hkind⟩ := h offset
  refine ⟨e, m₁, ?_, hkind, rfl, rfl⟩
  rw [Decoded.prepend_cons, loop_step hlimit, hexec]

theorem Reaches.refl (config : Config) (pool : ConstantPool) (m : Machine) :
    Reaches config pool [] m m :=
  fun _ _ _ => rfl

theorem Reaches.trans (h₁ : Reaches config pool code₁ m m₁)
    (h₂ : Reaches config pool code₂ m₁ m₂) : Reaches config pool (code₁ ++ code₂) m m₂ := by
  intro offset steps rest
  rw [Decoded.prepend_append, h₁, h₂, List.length_append, Nat.add_assoc]

theorem Reaches.breaks (h₁ : Reaches config pool code₁ m m₁)
    (h₂ : Breaks config pool code₂ m₁ kind slots out) :
    Breaks config pool (code₁ ++ code₂) m kind slots out := by
  intro offset steps rest
  rw [Decoded.prepend_append, h₁]
  exact h₂ _ _ _

theorem Breaks.append (h : Breaks config pool code₁ m kind slots out)
    (code₂ : List Instruction) : Breaks config pool (code₁ ++ code₂) m kind slots out := by
  intro offset steps rest
  rw [Decoded.prepend_append]
  exact h _ _ _

/-! ### Instructions -/

/-- The machine with one more value on its stack. -/
def pushed (m : Machine) (value : Value) : Machine :=
  { m with stack := value :: m.stack }

theorem push_of_lt {offset : Nat} {value : Value} (h : m.stack.length < config.stackCapacity) :
    push config offset value m = .ok () (m.pushed value) :=
  if_pos h

theorem exec_pushConst {offset : Nat} {index : UInt32} {value : Value}
    (hget : pool.get? index = some value) (hroom : m.stack.length < config.stackCapacity) :
    exec config pool offset (.pushConst index) m = .ok () (m.pushed value) := by
  have hconstant : constant pool offset index = pure value := by
    rw [constant, hget]
  rw [exec, hconstant]
  exact push_of_lt hroom

theorem exec_load {offset : Nat} {slot : UInt32} (hroom : m.stack.length < config.stackCapacity)
    (hslot : slot.toNat < m.slots.capacity.toNat) :
    exec config pool offset (.load slot) m = .ok () (m.pushed (m.slots.held slot.toNat)) := by
  have hfetch : fetch offset slot m = .ok (m.slots.held slot.toNat) m := by
    rw [fetch, Slots.get?_eq_held, if_pos hslot]
  change EStateM.bind (fetch offset slot) _ m = _
  rw [EStateM.bind, hfetch]
  exact push_of_lt hroom

theorem exec_load_of_not_lt {offset : Nat} {slot : UInt32}
    (hslot : ¬ slot.toNat < m.slots.capacity.toNat) :
    exec config pool offset (.load slot) m =
      .error (.slotOutOfRange offset slot m.slots.capacity) m := by
  have hfetch : fetch offset slot m = .error (.slotOutOfRange offset slot m.slots.capacity) m := by
    rw [fetch, Slots.get?_eq_held, if_neg hslot]
  change EStateM.bind (fetch offset slot) _ m = _
  rw [EStateM.bind, hfetch]

theorem exec_unary {offset : Nat} {op : UnaryOp} {operand value : Value}
    (happly : op.apply operand = .ok value) (hroom : m.stack.length < config.stackCapacity) :
    exec config pool offset (.unary op) (m.pushed operand) = .ok () (m.pushed value) := by
  change EStateM.bind (result offset (op.apply operand)) (push config offset) m = _
  rw [happly]
  exact push_of_lt hroom

theorem exec_binary {offset : Nat} {op : BinaryOp} {left right value : Value}
    (happly : op.apply left right = .ok value) (hroom : m.stack.length < config.stackCapacity) :
    exec config pool offset (.binary op) ((m.pushed left).pushed right) =
      .ok () (m.pushed value) := by
  change EStateM.bind (result offset (op.apply left right)) (push config offset) m = _
  rw [happly]
  exact push_of_lt hroom

theorem exec_binary_error {offset : Nat} {op : BinaryOp} {left right : Value}
    {fault : OperandFault} (happly : op.apply left right = .error fault) :
    exec config pool offset (.binary op) ((m.pushed left).pushed right) =
      .error (operandError offset fault) m := by
  change EStateM.bind (result offset (op.apply left right)) (push config offset) m = _
  rw [happly]
  rfl

theorem exec_store {offset : Nat} {slot : UInt32} {value : Value}
    (hset : m.slots.set slot value = .ok () slots) :
    exec config pool offset (.store slot) (m.pushed value) = .ok () { m with slots } := by
  change assign offset slot value m = _
  rw [assign, hset]

theorem exec_store_error {offset : Nat} {slot : UInt32} {value rejected : Value}
    (hset : m.slots.set slot value = .error rejected slots) :
    exec config pool offset (.store slot) (m.pushed value) =
      .error (.slotOutOfRange offset slot m.slots.capacity) m := by
  obtain ⟨-, rfl⟩ := Slots.eq_of_set_eq_error hset
  change assign offset slot value m = _
  rw [assign, hset]

theorem exec_print {offset : Nat} {value : Value}
    (hwrite : Sink.writeText (value.text ++ "\n") m.out = .ok () out) :
    exec config pool offset .print (m.pushed value) = .ok () { m with out } := by
  change write value m = _
  rw [write, hwrite]

theorem exec_print_error {offset : Nat} {value : Value} {e : IoError}
    (hwrite : Sink.writeText (value.text ++ "\n") m.out = .error e out) :
    exec config pool offset .print (m.pushed value) = .error (.output e) { m with out } := by
  change write value m = _
  rw [write, hwrite]

end Machine

/-! ### Expressions -/

/-- The kinds of errors that a compiled program can run into. -/
def ErrorKind.isPossible : ErrorKind → Bool
  | divisionByZero | slotOutOfRange | output => true
  | _ => false

theorem Scope.lookup_of_idxOf? {scope : Scope} {name : String} {position : Nat}
    (h : scope.names.idxOf? name = some position) :
    scope.lookup name =
      if position < scope.slots.capacity.toNat then .ok (scope.slots.held position)
      else .error (.run .slotOutOfRange) := by
  rw [lookup, h]
  by_cases hlt : position < scope.slots.capacity.toNat
  · rw [if_pos hlt, Slots.held, if_pos hlt]
    exact if_pos hlt
  · rw [if_neg hlt]
    exact if_neg hlt

theorem Emits.extends {names : NameTable} {pool pool' : ConstantPool} {x : Expr}
    {code : List Instruction} {category : Category}
    (h : Emits names pool x code category pool') : pool.Extends pool' := by
  induction h with
  | number _ => exact .refl _
  | bool _ => exact .refl _
  | string _ hpush => exact (ConstantPool.extends_of_push hpush).1
  | ident _ _ => exact .refl _
  | unary _ _ ih => exact ih
  | binary _ _ _ ih₁ ih₂ => exact ih₁.trans ih₂

theorem EmitsStmt.extends {names names' : NameTable} {pool pool' : ConstantPool} {stmt : Stmt}
    {code : List Instruction} (h : EmitsStmt names pool stmt code names' pool') :
    pool.Extends pool' := by
  cases h with
  | declare value _ _ => exact value.extends
  | expr value => exact value.extends
  | print value => exact value.extends

theorem EmitsAll.extends {names names' : NameTable} {pool pool' : ConstantPool}
    {program : Program} {code : List Instruction}
    (h : EmitsAll names pool program code names' pool') : pool.Extends pool' := by
  induction h with
  | nil => exact .refl _
  | cons first _ ih => exact first.extends.trans ih

section

variable {config : Config} {names names' : NameTable} {pool pool' final : ConstantPool}
  {code : List Instruction} {scope : Scope} {m : Machine}

/-- The code of an expression leaves the value of the expression on the stack, in the
category that the compiler expects, or breaks where evaluation fails. -/
theorem Emits.simulates (hlimit : config.maxSteps = none) {x : Expr} {category : Category}
    (h : Emits names pool x code category pool') (hfinal : pool'.Extends final)
    (hnames : scope.names = names.names.toList) (hslots : scope.slots = m.slots)
    (htracks : names.Tracks m.slots)
    (hroom : m.stack.length + x.need ≤ config.stackCapacity) :
    (∃ value, x.evaluate scope = .ok value ∧ Category.ofValue value = category ∧
        Machine.Reaches config final code m (m.pushed value)) ∨
      ∃ kind, x.evaluate scope = .error (.run kind) ∧ kind.isPossible ∧
        Machine.Breaks config final code m kind m.slots m.out := by
  induction h generalizing m with
  | number htoken =>
    refine .inl ⟨_, ?_, rfl, Machine.reaches_of_exec hlimit fun _ => Machine.push_of_lt hroom⟩
    rw [Expr.evaluate, htoken]
  | bool htoken =>
    refine .inl ⟨_, ?_, rfl, Machine.reaches_of_exec hlimit fun _ => Machine.push_of_lt hroom⟩
    rw [Expr.evaluate, htoken]
  | string htoken hpush =>
    have hget := hfinal (ConstantPool.extends_of_push hpush).2
    refine .inl ⟨_, ?_, rfl,
      Machine.reaches_of_exec hlimit fun _ => Machine.exec_pushConst hget hroom⟩
    rw [Expr.evaluate, htoken]
  | @ident _ _ name slot htoken hfound =>
    -- the slot of the name is its position among the names of the scope
    have hposition := NameTable.resolve_eq_some_iff.mp hfound
    have hlookup : scope.lookup name = _ := Scope.lookup_of_idxOf? (hnames ▸ hposition)
    rw [hslots] at hlookup
    rw [Expr.evaluate, htoken]
    by_cases hlt : slot.toNat < m.slots.capacity.toNat
    · rw [if_pos hlt] at hlookup
      refine .inl ⟨_, hlookup, ?_,
        Machine.reaches_of_exec hlimit fun _ => Machine.exec_load hroom hlt⟩
      exact (htracks.category (NameTable.lt_size_of_idxOf? hposition)).symm
    · rw [if_neg hlt] at hlookup
      refine .inr ⟨_, hlookup, rfl, Machine.breaks_of_exec hlimit fun _ => ?_⟩
      exact ⟨_, Machine.exec_load_of_not_lt hlt, rfl⟩
  | @unary _ _ op operand _ _ operation _ hselect ih =>
    have hpos := operand.need_pos
    rw [Expr.need] at hroom
    rcases ih hfinal hslots htracks hroom with
      ⟨value, hvalue, rfl, hreaches⟩ | ⟨kind, hfailure, hpossible, hbreaks⟩
    · obtain ⟨result, happly, hmeaning, hcategory⟩ := UnaryOp.apply_of_select hselect
      refine .inl ⟨result, ?_, hcategory, hreaches.trans ?_⟩
      · rw [Expr.evaluate, hvalue]
        exact hmeaning
      · exact Machine.reaches_of_exec hlimit fun _ => Machine.exec_unary happly (by omega)
    · refine .inr ⟨kind, ?_, hpossible, hbreaks.append _⟩
      rw [Expr.evaluate, hfailure]
      rfl
  | @binary _ _ _ left right op _ _ _ _ operation _ second hselect ih₁ ih₂ =>
    have hpos := right.need_pos
    rw [Expr.need] at hroom
    -- the left operand comes first, and the right one on top of its value
    rcases ih₁ (second.extends.trans hfinal) hslots htracks (by omega) with
      ⟨value₁, hvalue₁, rfl, hreaches₁⟩ | ⟨kind, hfailure, hpossible, hbreaks⟩
    · rcases ih₂ (m := m.pushed value₁) hfinal hslots htracks
          (by rw [Machine.pushed, List.length_cons]; omega) with
        ⟨value₂, hvalue₂, rfl, hreaches₂⟩ | ⟨kind, hfailure, hpossible, hbreaks⟩
      · have hreaches := hreaches₁.trans hreaches₂
        rcases BinaryOp.apply_of_select hselect with
          ⟨result, happly, hmeaning, hcategory⟩ | ⟨happly, hmeaning⟩
        · refine .inl ⟨result, ?_, hcategory, hreaches.trans ?_⟩
          · rw [Expr.evaluate, hvalue₁, hvalue₂]
            exact hmeaning
          · exact Machine.reaches_of_exec hlimit fun _ => Machine.exec_binary happly (by omega)
        · refine .inr ⟨.divisionByZero, ?_, rfl, hreaches.breaks ?_⟩
          · rw [Expr.evaluate, hvalue₁, hvalue₂]
            exact hmeaning
          · exact Machine.breaks_of_exec hlimit fun _ =>
              ⟨_, Machine.exec_binary_error happly, rfl⟩
      · refine .inr ⟨kind, ?_, hpossible, (hreaches₁.breaks hbreaks).append _⟩
        rw [Expr.evaluate, hvalue₁, hfailure]
        rfl
    · refine .inr ⟨kind, ?_, hpossible, (hbreaks.append _).append _⟩
      rw [Expr.evaluate, hfailure]
      rfl

/-! ### Statements -/

/-- A declaration gives a variable the slot that evaluation finds for its name. -/
theorem Scope.assign_of_declare {name : String} {category : Category} {slot : UInt32}
    (h : names.declare name category = some (slot, names'))
    (hnames : scope.names = names.names.toList) (value : Value) :
    Scope.assign name value scope =
      match scope.slots.set slot value with
      | .ok () slots => .ok () { scope with names := names'.names.toList, slots }
      | .error _ _ => .error (.run .slotOutOfRange) scope := by
  have hposition :
      (if name ∈ scope.names then scope.names else scope.names ++ [name]) = names'.names.toList ∧
        names'.names.toList.idxOf name = slot.toNat := by
    rw [hnames]
    rcases NameTable.declare_cases h with ⟨hfound, rfl⟩ | ⟨hnew, hslot, rfl⟩
    · have hmem : name ∈ names.names.toList := by
        by_contra hmem
        rw [List.idxOf?_eq_none_iff.mpr hmem] at hfound
        cases hfound
      refine ⟨if_pos hmem, ?_⟩
      change (names.names.toList).findIdx (· == name) = _
      rw [List.findIdx_eq_getD_findIdx?]
      exact congrArg (Option.getD · _) hfound
    · refine ⟨?_, ?_⟩
      · rw [if_neg hnew, Array.toList_push]
      · rw [Array.toList_push, List.idxOf_append, if_neg hnew, List.idxOf_cons_self,
          Array.length_toList, Nat.zero_add, hslot]
        rfl
  rw [Scope.assign, hposition.1, hposition.2]
  -- both ask the capacity, one before and one while it stores
  by_cases hlt : slot.toNat < scope.slots.capacity.toNat
  · rw [Slots.set_of_lt hlt]
    exact if_pos hlt
  · rw [Slots.set_of_not_lt hlt]
    exact if_neg hlt

/-- The machine and the scope are in step: same names, slots and output, the values of the
expression statements on the stack, and what is known of each variable is true. -/
structure Mirrors (names : NameTable) (m : Machine) (scope : Scope) : Prop where
  names_eq : scope.names = names.names.toList
  slots_eq : scope.slots = m.slots
  out_eq : scope.out = m.out
  values_eq : scope.values = m.stack.reverse
  tracks : names.Tracks m.slots

/-- The code and an evaluation with the given result end alike: either machine and scope are
in step again, with a stack of the given height, or both fail with the same kind of error,
slots and output. -/
def Agrees (config : Config) (final : ConstantPool) (names : NameTable) (height : Nat)
    (code : List Instruction) (m : Machine) : EStateM.Result Failure Scope Unit → Prop
  | .ok () scope => ∃ m', Mirrors names m' scope ∧ m'.stack.length = height ∧
      Machine.Reaches config final code m m'
  | .error failure scope => ∃ kind, failure = .run kind ∧ kind.isPossible ∧
      Machine.Breaks config final code m kind scope.slots scope.out

/-- The code of an expression agrees with its evaluation, if what comes after it agrees for
every value of the expected category. -/
theorem Emits.agrees_andThen (hlimit : config.maxSteps = none) {x : Expr} {category : Category}
    {height : Nat} {tail : List Instruction} {act : Value → Evaluation Unit}
    (h : Emits names pool x code category pool') (hfinal : pool'.Extends final)
    (hmirrors : Mirrors names m scope)
    (hroom : m.stack.length + x.need ≤ config.stackCapacity)
    (hact : ∀ value, Category.ofValue value = category →
      Agrees config final names' height tail (m.pushed value) (act value scope)) :
    Agrees config final names' height (code ++ tail) m (x.andThen act scope) := by
  rcases h.simulates hlimit hfinal hmirrors.names_eq hmirrors.slots_eq hmirrors.tracks hroom with
    ⟨value, hvalue, hcategory, hreaches⟩ | ⟨kind, hfailure, hpossible, hbreaks⟩
  · have hvalue' : x.andThen act scope = act value scope := by
      rw [Expr.andThen, hvalue]
    have hrest := hact value hcategory
    rw [hvalue']
    cases hresult : act value scope with
    | ok _ scope' =>
      rw [hresult] at hrest
      obtain ⟨m', hmirrors', hheight, hreaches'⟩ := hrest
      exact ⟨m', hmirrors', hheight, hreaches.trans hreaches'⟩
    | error failure scope' =>
      rw [hresult] at hrest
      obtain ⟨kind, hkind, hpossible, hbreaks⟩ := hrest
      exact ⟨kind, hkind, hpossible, hreaches.breaks hbreaks⟩
  · rw [Expr.andThen, hfailure]
    refine ⟨kind, rfl, hpossible, ?_⟩
    rw [hmirrors.slots_eq, hmirrors.out_eq]
    exact hbreaks.append tail

/-- The code of a statement agrees with the statement. -/
theorem EmitsStmt.agrees (hlimit : config.maxSteps = none) {stmt : Stmt}
    (h : EmitsStmt names pool stmt code names' pool') (hfinal : pool'.Extends final)
    (hmirrors : Mirrors names m scope)
    (hroom : m.stack.length + stmt.need ≤ config.stackCapacity) :
    Agrees config final names' (m.stack.length + stmt.leaves) code m (stmt.evaluate scope) := by
  have ⟨hnames, hslots, hout, hvalues, htracks⟩ := hmirrors
  cases h with
  | declare hemits htoken hdeclare =>
    rename_i t name init code category slot
    refine hemits.agrees_andThen hlimit hfinal hmirrors hroom fun value hcategory => ?_
    subst hcategory
    -- the declared category is that of the value at hand, which the store puts in place
    rw [htoken]
    dsimp only
    rw [Scope.assign_of_declare hdeclare hnames, hslots]
    cases hset : m.slots.set slot value with
    | ok _ slots =>
      refine ⟨{ m with slots }, ?_, rfl, ?_⟩
      · exact ⟨rfl, rfl, hout, hvalues, htracks.declare hdeclare hset⟩
      · exact Machine.reaches_of_exec hlimit fun _ => Machine.exec_store hset
    | error rejected slots =>
      refine ⟨.slotOutOfRange, rfl, rfl, ?_⟩
      rw [hslots, hout]
      exact Machine.breaks_of_exec hlimit fun _ => ⟨_, Machine.exec_store_error hset, rfl⟩
  | expr hemits =>
    -- nothing follows the code of the value, which stays on the stack
    rw [← List.append_nil code]
    refine hemits.agrees_andThen hlimit hfinal hmirrors hroom fun value _ => ?_
    refine ⟨m.pushed value, ⟨hnames, hslots, hout, ?_, htracks⟩, rfl, .refl _ _ _⟩
    rw [Machine.pushed, List.reverse_cons, ← hvalues]
  | print hemits =>
    refine hemits.agrees_andThen hlimit hfinal hmirrors hroom fun value _ => ?_
    rw [Scope.print.eq_def, hout]
    cases hwrite : Sink.writeText (value.text ++ "\n") m.out with
    | ok _ out =>
      refine ⟨{ m with out }, ⟨hnames, hslots, rfl, hvalues, htracks⟩, rfl, ?_⟩
      exact Machine.reaches_of_exec hlimit fun _ => Machine.exec_print hwrite
    | error e out =>
      refine ⟨.output, rfl, rfl, ?_⟩
      rw [hslots]
      exact Machine.breaks_of_exec hlimit fun _ => ⟨_, Machine.exec_print_error hwrite, rfl⟩

/-- The code of a program agrees with the program. -/
theorem EmitsAll.agrees (hlimit : config.maxSteps = none) {program : Program}
    (h : EmitsAll names pool program code names' pool') (hfinal : pool'.Extends final)
    (hmirrors : Mirrors names m scope)
    (hfits : program.Fits config.stackCapacity m.stack.length) :
    Agrees config final names' (m.stack.length + program.leaves) code m
      (program.evaluate scope) := by
  induction h generalizing m scope with
  | nil => exact ⟨m, hmirrors, rfl, .refl _ _ _⟩
  | @cons _ _ _ _ _ _ stmt program _ code₂ first others ih =>
    obtain ⟨hroom, hothers⟩ := hfits
    -- constants are looked up in the final pool, which has those of every statement
    have hfirst := first.agrees hlimit (others.extends.trans hfinal) hmirrors hroom
    change Agrees _ _ _ _ _ _ (EStateM.bind stmt.evaluate (fun _ => program.evaluate) scope)
    rw [EStateM.bind]
    cases hstmt : stmt.evaluate scope with
    | ok _ scope₁ =>
      rw [hstmt] at hfirst
      obtain ⟨m₁, hmirrors₁, hheight₁, hreaches₁⟩ := hfirst
      rw [← hheight₁] at hothers
      have hrest := ih hfinal hmirrors₁ hothers
      dsimp only
      cases hprogram : program.evaluate scope₁ with
      | ok _ scope₂ =>
        rw [hprogram] at hrest
        obtain ⟨m₂, hmirrors₂, hheight₂, hreaches₂⟩ := hrest
        refine ⟨m₂, hmirrors₂, ?_, hreaches₁.trans hreaches₂⟩
        rw [hheight₂, hheight₁, Nat.add_assoc]
        rfl
      | error failure scope₂ =>
        rw [hprogram] at hrest
        obtain ⟨kind, hkind, hpossible, hbreaks⟩ := hrest
        exact ⟨kind, hkind, hpossible, hreaches₁.breaks hbreaks⟩
    | error failure scope₁ =>
      rw [hstmt] at hfirst
      obtain ⟨kind, hkind, hpossible, hbreaks⟩ := hfirst
      exact ⟨kind, hkind, hpossible, hbreaks.append code₂⟩

/-! ### Runs -/

/-- The scope in which the evaluation of a program starts. -/
def Scope.start (names : NameTable) (slots : Slots) (out : Sink) : Scope where
  names := names.names.toList
  slots := slots
  out := out

/-- A run of a compiled program and its evaluation both succeed, and end in step, or both
fail with the same kind of error, slots and output. -/
theorem run_agrees_evaluate {program : Program} {unit : CodeUnit}
    (hcompile : CodeUnit.ofProgram names pool program = (unit, []))
    (htracks : names.Tracks m.slots) (hlimit : config.maxSteps = none)
    (hcheck : Machine.check config unit = .ok ()) :
    (∃ m' scope', program.evaluate (.start names m.slots m.out) = .ok () scope' ∧
        Mirrors unit.names m' scope' ∧ Machine.run config unit m = .ok m'.stack.head? m') ∨
      ∃ e m' scope', program.evaluate (.start names m.slots m.out) = .error (.run e.kind) scope' ∧
        e.kind.isPossible ∧ Machine.run config unit m = .error e m' ∧
        m'.slots = scope'.slots ∧ m'.out = scope'.out := by
  obtain ⟨code, hemits, hcode⟩ := emitsAll_of_ofProgram hcompile
  have hfits : program.Fits config.stackCapacity 0 := by
    rcases check_of_emitsAll config hemits hcode with ⟨hfits, -⟩ | ⟨place, hoverflow⟩
    · exact hfits
    · rw [hoverflow] at hcheck
      cases hcheck
  -- in front of the first instruction the stack is empty and no value was kept
  have hmirrors : Mirrors names m.reset (.start names m.slots m.out) :=
    ⟨rfl, rfl, rfl, rfl, htracks⟩
  have hagrees := hemits.agrees hlimit (.refl _) hmirrors hfits
  rw [Machine.run_of_check hcheck, hcode, decodeAll_assemble]
  cases hevaluate : program.evaluate (.start names m.slots m.out) with
  | ok _ scope' =>
    rw [hevaluate] at hagrees
    obtain ⟨m', hmirrors', -, hreaches⟩ := hagrees
    refine .inl ⟨m', scope', rfl, hmirrors', ?_⟩
    rw [hreaches]
    rfl
  | error failure scope' =>
    rw [hevaluate] at hagrees
    obtain ⟨kind, rfl, hpossible, hbreaks⟩ := hagrees
    obtain ⟨e, m', hloop, rfl, hslots, hout⟩ := hbreaks 0 0 .done
    refine .inr ⟨e, m', scope', rfl, hpossible, ?_, hslots, hout⟩
    rw [hloop]

/-- **Running a compiled program and evaluating it directly cannot be told apart.**  If what
is known of the variables is true, the program compiles without errors and its code passes
the stack check, then a run without a step limit writes what evaluation writes, leaves the
same slots, and ends with the same values or with the same kind of error. -/
theorem behavior_run_eq_behavior_evaluate {program : Program} {unit : CodeUnit}
    (hcompile : CodeUnit.ofProgram names pool program = (unit, []))
    (htracks : names.Tracks m.slots) (hlimit : config.maxSteps = none)
    (hcheck : Machine.check config unit = .ok ()) :
    Behavior.ofRun (Machine.run config unit m) =
      Behavior.ofEvaluation (program.evaluate (.start names m.slots m.out)) := by
  rcases run_agrees_evaluate hcompile htracks hlimit hcheck with
    ⟨m', scope', hevaluate, hmirrors, hrun⟩ | ⟨e, m', scope', hevaluate, -, hrun, hslots, hout⟩
  · rw [hevaluate, hrun, Behavior.ofRun, Behavior.ofEvaluation, hmirrors.out_eq,
      hmirrors.slots_eq, hmirrors.values_eq, List.getLast?_reverse]
  · rw [hevaluate, hrun, Behavior.ofRun, Behavior.ofEvaluation, hslots, hout]

end

/-- `var x = x < 2`, then `print "ab"`, then `!x`: the variable changes its type. -/
def Program.redeclaration : Program :=
  [.declare ⟨.ident "x", .start⟩
      (.binary (.literal ⟨.ident "x", .start⟩) ⟨.less, .start⟩
        (.literal ⟨.number ⟨0x40000000⟩, .start⟩)),
    .print (.literal ⟨.string "ab", .start⟩),
    .expr (.unary ⟨.bang, .start⟩ (.literal ⟨.ident "x", .start⟩))]

/-- With `x` a number at first, the run prints `ab`, leaves `true` in the slot of `x`, and
ends with the value `false`. -/
theorem behavior_run_redeclaration :
    Behavior.ofRun (Machine.run {}
        (CodeUnit.ofProgram ⟨#["x"], #[.float]⟩ {} Program.redeclaration).1
        { slots := ⟨#[.number ⟨0x3f800000⟩], 4⟩ }) =
      ⟨⟨#[97, 98, 10], none⟩, ⟨#[.boolean true], 4⟩,
        .ok (some (.boolean false), [.boolean false])⟩ := by
  have hcompile : (CodeUnit.ofProgram ⟨#["x"], #[.float]⟩ {} Program.redeclaration).2 = [] := by
    decide +kernel
  have htracks : NameTable.Tracks ⟨#["x"], #[.float]⟩ ⟨#[.number ⟨0x3f800000⟩], 4⟩ :=
    ⟨rfl, by decide +kernel⟩
  refine (behavior_run_eq_behavior_evaluate (Prod.ext rfl hcompile) htracks rfl ?_).trans ?_
  · decide +kernel
  · decide +kernel

end StackLang
