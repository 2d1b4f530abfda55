/-
Slots are a map with a capacity.

Slots hold a sequence of values that grows with the stores, and its gaps are filled.  The
capacity may be lowered and raised in between.  Whatever the calls are, a slot within the
capacity has the value that was last stored to it, or none.

* `SlotMap`: the stores that were accepted, and a capacity beyond all of them;
  `SlotMap.perform` is what a call does to them.
* `SlotMap.value`, `SlotMap.extent`: the value that was last stored to a slot, and the number of
  slots up to the highest one that was stored to.
* `Slots.Refines`: slots hold what a map says.  `Slots.Refines.perform` is the step and
  `Slots.Refines.run` the induction over the calls.
* `Slots.run_refines_map`: the slots after any calls, the answers to the calls, and what a call
  that is rejected does.

Design notes: the map never forgets a store, and it lowers its capacity only if all stores stay
within it.  So it has no value that a capacity could hide, lose or bring back.
-/
import StackLang.Proofs.Runs

namespace StackLang

namespace Slots

/-- A call that changes slots. -/
inductive Call where
  | set (slot : UInt32) (value : Value)
  | setCapacity (capacity : UInt64)

/-- What a call hands back if it is rejected. -/
inductive Rejection where
  /-- The value that was not stored. -/
  | value (value : Value)
  /-- The number of slots that would not fit. -/
  | stored (count : Nat)
deriving DecidableEq

/-- What is handed back if the call is rejected by slots of which so many are stored. -/
def Call.handedBack (count : Nat) : Call → Rejection
  | set _ value => .value value
  | setCapacity _ => .stored count

/-- What the call hands back, if it is rejected, and the slots after it. -/
def perform (slots : Slots) : Call → Option Rejection × Slots
  | .set slot value =>
    match slots.set slot value with
    | .ok () slots' => (none, slots')
    | .error rejected slots' => (some (.value rejected), slots')
  | .setCapacity capacity =>
    match slots.setCapacity capacity with
    | .ok () slots' => (none, slots')
    | .error held slots' => (some (.stored held), slots')

/-- What each of the calls hands back, and the slots after all of them. -/
def run (slots : Slots) : List Call → List (Option Rejection) × Slots
  | [] => ([], slots)
  | call :: calls =>
    let (answer, slots') := slots.perform call
    let (answers, slots'') := run slots' calls
    (answer :: answers, slots'')

end Slots

/-! ### The map -/

/-- The stores that were accepted, the latest one first, to slots within a capacity. -/
structure SlotMap where
  capacity : UInt64
  stores : List (UInt32 × Value)
  bounded : ∀ store ∈ stores, store.1.toNat < capacity.toNat

namespace SlotMap

/-- The map without stores. -/
def empty (capacity : UInt64) : SlotMap :=
  ⟨capacity, [], fun _ h => absurd h List.not_mem_nil⟩

variable (map : SlotMap)

/-- The value that was last stored to a slot; empty if there was none. -/
def value (slot : UInt32) : Value :=
  (map.stores.lookup slot).getD .empty

/-- One more than the highest slot that was stored to; zero if there was none. -/
def extent : Nat :=
  map.stores.foldr (fun store extent => max (store.1.toNat + 1) extent) 0

/-- What the call hands back, if it is rejected, and the map after it.  A store is rejected
beyond the capacity, and a capacity if it is not beyond all stores. -/
def perform : Slots.Call → Option Slots.Rejection × SlotMap
  | .set slot value =>
    if hslot : slot.toNat < map.capacity.toNat then
      (none, ⟨map.capacity, (slot, value) :: map.stores,
        List.forall_mem_cons.mpr ⟨hslot, map.bounded⟩⟩)
    else (some (.value value), map)
  | .setCapacity capacity =>
    if hstores : ∀ store ∈ map.stores, store.1.toNat < capacity.toNat then
      (none, ⟨capacity, map.stores, hstores⟩)
    else (some (.stored map.extent), map)

/-- What each of the calls hands back, and the map after all of them. -/
def run (map : SlotMap) : List Slots.Call → List (Option Slots.Rejection) × SlotMap
  | [] => ([], map)
  | call :: calls =>
    let (answer, map') := map.perform call
    let (answers, map'') := run map' calls
    (answer :: answers, map'')

/-- The extent is within a bound exactly if all stores are. -/
theorem extent_le_iff {bound : Nat} :
    map.extent ≤ bound ↔ ∀ store ∈ map.stores, store.1.toNat < bound := by
  rw [extent]
  induction map.stores with
  | nil => exact iff_of_true (Nat.zero_le _) fun _ h => absurd h List.not_mem_nil
  | cons store stores ih =>
    rw [List.foldr_cons, Nat.max_le, ih, List.forall_mem_cons]
    rfl

end SlotMap

/-! ### Slots that hold what a map says -/

namespace Slots

/-- The slots have the capacity of the map, as many values as its extent, and at each slot the
value that was last stored to it. -/
structure Refines (slots : Slots) (map : SlotMap) : Prop where
  capacity_eq : slots.capacity = map.capacity
  size_eq : slots.size = map.extent
  value_eq : ∀ slot : UInt32, slots.values[slot.toNat]?.getD .empty = map.value slot

theorem refines_empty (capacity : UInt64) : Refines { capacity } (.empty capacity) :=
  ⟨rfl, rfl, fun _ => rfl⟩

variable {slots : Slots} {map : SlotMap}

theorem Refines.get?_eq (h : slots.Refines map) (slot : UInt32) :
    slots.get? slot =
      if slot.toNat < map.capacity.toNat then some (map.value slot) else none := by
  rw [get?_eq_held, h.capacity_eq]
  split
  · rename_i hlt
    rw [held, h.capacity_eq, if_pos hlt, h.value_eq]
  · rfl

/-- A store does to the slots what it does to the map. -/
theorem Refines.set (h : slots.Refines map) (slot : UInt32) (value : Value) :
    (slots.perform (.set slot value)).1 = (map.perform (.set slot value)).1 ∧
      (slots.perform (.set slot value)).2.Refines (map.perform (.set slot value)).2 := by
  rw [perform, SlotMap.perform]
  by_cases hlt : slot.toNat < map.capacity.toNat
  · rw [set_of_lt (by rw [h.capacity_eq]; exact hlt), dif_pos hlt]
    refine ⟨rfl, h.capacity_eq, ?_, ?_⟩
    · -- the values grow up to the slot, if they do not reach it already
      have hsize := h.size_eq
      rw [size] at hsize
      rw [size, size_store, hsize, Nat.max_comm]
      rfl
    · intro slot'
      rw [getD_store, h.value_eq, SlotMap.value, SlotMap.value, List.lookup_cons]
      by_cases heq : slot' = slot
      · simp [heq]
      · rw [beq_eq_false_iff_ne.mpr heq, if_neg (mt UInt32.toNat_inj.mp heq)]
  · rw [set_of_not_lt (by rw [h.capacity_eq]; exact hlt), dif_neg hlt]
    exact ⟨rfl, h⟩

/-- A change of the capacity does to the slots what it does to the map. -/
theorem Refines.setCapacity (h : slots.Refines map) (capacity : UInt64) :
    (slots.perform (.setCapacity capacity)).1 = (map.perform (.setCapacity capacity)).1 ∧
      (slots.perform (.setCapacity capacity)).2.Refines
        (map.perform (.setCapacity capacity)).2 := by
  rw [perform, SlotMap.perform]
  by_cases hle : map.extent ≤ capacity.toNat
  · rw [setCapacity_of_le (h.size_eq ▸ hle), dif_pos (map.extent_le_iff.mp hle)]
    exact ⟨rfl, rfl, h.size_eq, h.value_eq⟩
  · rw [setCapacity_of_lt (h.size_eq ▸ Nat.not_le.mp hle),
      dif_neg (mt map.extent_le_iff.mpr hle), h.size_eq]
    exact ⟨rfl, h⟩

/-- A call is answered as the map answers it, and leaves slots that hold what the map says. -/
theorem Refines.perform (h : slots.Refines map) (call : Call) :
    (slots.perform call).1 = (map.perform call).1 ∧
      (slots.perform call).2.Refines (map.perform call).2 := by
  cases call with
  | set slot value => exact h.set slot value
  | setCapacity capacity => exact h.setCapacity capacity

theorem Refines.run (h : slots.Refines map) (calls : List Call) :
    (slots.run calls).1 = (map.run calls).1 ∧
      (slots.run calls).2.Refines (map.run calls).2 := by
  induction calls generalizing slots map with
  | nil => exact ⟨rfl, h⟩
  | cons call calls ih =>
    obtain ⟨hanswer, hnext⟩ := h.perform call
    obtain ⟨hanswers, hlast⟩ := ih hnext
    exact ⟨congrArg₂ List.cons hanswer hanswers, hlast⟩

/-- A call that is rejected hands back what it should, and changes nothing. -/
theorem perform_of_rejection {call : Call} {rejection : Rejection}
    (h : (slots.perform call).1 = some rejection) :
    rejection = call.handedBack slots.size ∧ (slots.perform call).2 = slots := by
  cases call with
  | set slot value =>
    rw [Slots.perform] at h ⊢
    cases hset : slots.set slot value with
    | ok _ slots' =>
      rw [hset] at h
      cases h
    | error rejected slots' =>
      obtain ⟨rfl, rfl⟩ := eq_of_set_eq_error hset
      rw [hset] at h
      cases h
      exact ⟨rfl, rfl⟩
  | setCapacity capacity =>
    rw [Slots.perform] at h ⊢
    cases hset : slots.setCapacity capacity with
    | ok _ slots' =>
      rw [hset] at h
      cases h
    | error held slots' =>
      obtain ⟨rfl, rfl⟩ := eq_of_setCapacity_eq_error hset
      rw [hset] at h
      cases h
      exact ⟨rfl, rfl⟩

/-- **Slots are a map with a capacity.**  After any stores and changes of the capacity, whatever
became of them, the slots have the capacity that was last accepted, and a slot within it reads
as the value last stored to it, or as empty if there was none.  There are as many stored slots
as reach to the highest one that was stored to, and no more than the capacity.  Every call is
answered as the map answers it: a store is rejected beyond the capacity, and a capacity if it is
not beyond all stores.  A call that is rejected hands back its value, or the number of stored
slots, and changes nothing. -/
theorem run_refines_map (capacity : UInt64) (calls : List Call) :
    let slots := (run { capacity } calls).2
    let map := (SlotMap.run (.empty capacity) calls).2
    (run { capacity } calls).1 = (SlotMap.run (.empty capacity) calls).1 ∧
    slots.capacity = map.capacity ∧
    (∀ slot, slots.get? slot =
      if slot.toNat < map.capacity.toNat then some (map.value slot) else none) ∧
    slots.size = map.extent ∧ slots.size ≤ slots.capacity.toNat ∧
    ∀ call rejection, (slots.perform call).1 = some rejection →
      rejection = call.handedBack slots.size ∧ (slots.perform call).2 = slots := by
  intro slots map
  obtain ⟨hanswers, hrefines⟩ := (refines_empty capacity).run calls
  refine ⟨hanswers, hrefines.capacity_eq, hrefines.get?_eq, hrefines.size_eq, ?_, ?_⟩
  · rw [hrefines.size_eq, hrefines.capacity_eq]
    exact map.extent_le_iff.mpr map.bounded
  · intro call rejection h
    exact perform_of_rejection h

/-- The capacity is lowered to the stored slots and raised again; a lower one and a store beyond
it are rejected. -/
def squeezedCalls : List Call :=
  [.set 2 (.boolean true), .setCapacity 2, .setCapacity 3, .set 3 (.boolean false),
    .setCapacity 8, .set 0 (.string "s")]

theorem run_squeezedCalls :
    let slots := (run { capacity := 4 } squeezedCalls).2
    (run { capacity := 4 } squeezedCalls).1 =
        [none, some (.stored 3), none, some (.value (.boolean false)), none, none] ∧
      slots.get? 2 = some (.boolean true) ∧ slots.get? 3 = some .empty ∧ slots.get? 8 = none ∧
      slots.size = 3 ∧
      (slots.perform (.setCapacity 1)).1 = some (.stored 3) ∧
      (slots.perform (.setCapacity 1)).2 = slots := by
  intro slots
  obtain ⟨hanswers, -, hget, hsize, -, hrejected⟩ := run_refines_map 4 squeezedCalls
  have hlow : (slots.perform (.setCapacity 1)).1 = some (.stored 3) := by decide +kernel
  exact ⟨hanswers.trans (by decide +kernel), (hget 2).trans (by decide +kernel),
    (hget 3).trans (by decide +kernel), (hget 8).trans (by decide +kernel),
    hsize.trans (by decide +kernel), hlow, (hrejected _ _ hlow).2⟩

end Slots

end StackLang
