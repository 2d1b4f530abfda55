/-
The tables of a session and the values behind them.

* `NameTable.resolve_eq_some_iff`, `NameTable.declare_cases`: where a name is found, and
  everything that a declaration can do to the table.
* `ConstantPool.Extends`: a later pool has every entry of an earlier one.
* `Slots.held`: the value of a slot, empty for one that was never stored to or is beyond the
  capacity.
* `Slots.eq_of_set_eq_ok`, `Slots.eq_of_set_eq_error`, `Slots.eq_of_setCapacity_eq_error`:
  everything that a store and a change of the capacity can do.
* `NameTable.Tracks`: what is known of each variable is the category of the value that its
  slot holds.  A declaration followed by the store of a value of the declared category keeps
  it so (`NameTable.Tracks.declare`).

Design notes: a slot of the machine is a word, and a position in a table is a number.  The
statements are about positions; a word that names a position is that number.
-/
import Mathlib.Data.List.Nodup
import Mathlib.Tactic.Common
import StackLang.Table.Constants
import StackLang.Table.Names
import StackLang.Table.Slots

namespace StackLang

theorem index32_eq_some_iff {position : Nat} {index : UInt32} :
    index32 position = some index ↔ index.toNat = position := by
  have hlt := index.toNat_lt
  rw [index32]
  constructor
  · intro h
    split at h
    · rename_i hpos
      cases h
      exact UInt32.toNat_ofNat_of_lt' hpos
    · cases h
  · rintro rfl
    rw [if_pos hlt, UInt32.ofNat_toNat]

/-! ### Names -/

namespace NameTable

variable {names names' : NameTable} {name : String} {slot : UInt32} {category : Category}

theorem resolve_eq_bind (names : NameTable) (name : String) :
    names.resolve name = (names.names.toList.idxOf? name).bind index32 := by
  have hfind : names.names.findIdx? (· == name) = names.names.toList.idxOf? name :=
    List.findIdx?_toArray _ _
  rw [resolve, hfind]

theorem resolve_eq_some_iff :
    names.resolve name = some slot ↔ names.names.toList.idxOf? name = some slot.toNat := by
  rw [resolve_eq_bind, Option.bind_eq_some_iff]
  constructor
  · rintro ⟨position, hposition, hindex⟩
    rw [index32_eq_some_iff.mp hindex]
    exact hposition
  · intro h
    exact ⟨slot.toNat, h, index32_eq_some_iff.mpr rfl⟩

/-- Everything that a declaration can do: it finds the name and sets its category, or it
appends a name that was not there. -/
theorem declare_cases (h : names.declare name category = some (slot, names')) :
    (names.names.toList.idxOf? name = some slot.toNat ∧ names' = names.setCategory slot category) ∨
      (name ∉ names.names.toList ∧ slot.toNat = names.size ∧
        names' = ⟨names.names.push name, names.categories.push category⟩) := by
  rw [declare] at h
  split at h
  · rename_i found hfound
    cases h
    exact .inl ⟨resolve_eq_some_iff.mp hfound, rfl⟩
  · rename_i hmissing
    obtain ⟨index, hindex, hpair⟩ := Option.map_eq_some_iff.mp h
    cases hpair
    have hsize := index32_eq_some_iff.mp hindex
    refine .inr ⟨fun hmem => ?_, hsize, rfl⟩
    -- a name that is there has a position below the size, and the size fits a word
    obtain ⟨position, hposition⟩ := Option.isSome_iff_exists.mp (List.isSome_idxOf?.mpr hmem)
    obtain ⟨hlt, -⟩ := List.idxOf?_eq_some_iff.mp hposition
    have hword : position < UInt32.size := by
      have hslot := slot.toNat_lt
      rw [size] at hsize
      rw [Array.length_toList] at hlt
      rw [UInt32.size]
      omega
    have hfound : names.resolve name = some (UInt32.ofNat position) := by
      rw [resolve_eq_some_iff, UInt32.toNat_ofNat_of_lt' hword]
      exact hposition
    rw [hfound] at hmissing
    cases hmissing

/-- A declaration puts no name twice. -/
theorem nodup_of_declare (h : names.declare name category = some (slot, names'))
    (hdistinct : names.names.toList.Nodup) : names'.names.toList.Nodup := by
  rcases declare_cases h with ⟨-, rfl⟩ | ⟨hnew, -, rfl⟩
  · exact hdistinct
  · rw [Array.toList_push, ← List.concat_eq_append]
    exact hdistinct.concat hnew

end NameTable

/-! ### Constants -/

namespace ConstantPool

/-- Every entry of the first pool is an entry of the second, at the same position. -/
def Extends (pool pool' : ConstantPool) : Prop :=
  ∀ ⦃index : UInt32⦄ ⦃value : Value⦄, pool.get? index = some value → pool'.get? index = some value

theorem Extends.refl (pool : ConstantPool) : pool.Extends pool :=
  fun _ _ h => h

theorem Extends.trans {pool₁ pool₂ pool₃ : ConstantPool} (h₁ : pool₁.Extends pool₂)
    (h₂ : pool₂.Extends pool₃) : pool₁.Extends pool₃ :=
  fun _ _ h => h₂ (h₁ h)

theorem extends_of_push {pool pool' : ConstantPool} {value : Value} {index : UInt32}
    (h : pool.push value = some (index, pool')) :
    pool.Extends pool' ∧ pool'.get? index = some value := by
  obtain ⟨index', hindex, hpair⟩ := Option.map_eq_some_iff.mp h
  cases hpair
  have hsize : index.toNat = pool.values.size := index32_eq_some_iff.mp hindex
  constructor
  · intro i v hget
    obtain ⟨hlt, -⟩ := Array.getElem?_eq_some_iff.mp hget
    rw [get?, Array.getElem?_push, if_neg (Nat.ne_of_lt hlt)]
    exact hget
  · rw [get?, hsize, Array.getElem?_push_size]

end ConstantPool

/-! ### Slots -/

namespace Slots

/-- The value of a slot; empty where nothing was stored and beyond the capacity. -/
def held (slots : Slots) (position : Nat) : Value :=
  if position < slots.capacity.toNat then slots.values[position]?.getD .empty else .empty

theorem get?_eq_held (slots : Slots) (slot : UInt32) :
    slots.get? slot =
      if slot.toNat < slots.capacity.toNat then some (slots.held slot.toNat) else none := by
  rw [get?, inRange, held]
  by_cases h : slot.toNat < slots.capacity.toNat
  · rw [decide_eq_true h, if_pos rfl, if_pos h, if_pos h]
  · rw [decide_eq_false h, if_neg Bool.false_ne_true, if_neg h]

theorem getD_store (values : Array Value) (slot position : Nat) (value : Value) :
    (store values slot value)[position]?.getD .empty =
      if position = slot then value else values[position]?.getD .empty := by
  rw [store]
  split
  · rename_i hlt
    rw [Array.getElem?_setIfInBounds]
    by_cases h : position = slot
    · rw [if_pos h.symm, if_pos (h ▸ hlt), if_pos h]
      rfl
    · rw [if_neg (Ne.symm h), if_neg h]
  · rename_i hge
    have hsize : (values ++ Array.replicate (slot - values.size) Value.empty).size = slot := by
      rw [Array.size_append, Array.size_replicate]
      omega
    rw [Array.getElem?_push, hsize]
    by_cases h : position = slot
    · rw [if_pos h, if_pos h]
      rfl
    · rw [if_neg h, if_neg h, Array.getElem?_append]
      split
      · rfl
      · -- between the values and the slot all is empty, as it was
        rename_i hout
        rw [Array.getElem?_replicate, Array.getElem?_eq_none (Nat.not_lt.mp hout)]
        split <;> rfl

theorem set_of_lt {slots : Slots} {slot : UInt32} (h : slot.toNat < slots.capacity.toNat)
    (value : Value) :
    slots.set slot value =
      .ok () { slots with values := store slots.values slot.toNat value } := by
  rw [set, inRange, decide_eq_true h, if_pos rfl]

theorem set_of_not_lt {slots : Slots} {slot : UInt32} (h : ¬ slot.toNat < slots.capacity.toNat)
    (value : Value) : slots.set slot value = .error value slots := by
  rw [set, inRange, decide_eq_false h, if_neg Bool.false_ne_true]

/-- A store that succeeds is within the capacity and changes the values only. -/
theorem eq_of_set_eq_ok {slots slots' : Slots} {slot : UInt32} {value : Value}
    (h : slots.set slot value = .ok () slots') :
    slot.toNat < slots.capacity.toNat ∧
      slots' = { slots with values := store slots.values slot.toNat value } := by
  by_cases hlt : slot.toNat < slots.capacity.toNat
  · rw [set_of_lt hlt] at h
    cases h
    exact ⟨hlt, rfl⟩
  · rw [set_of_not_lt hlt] at h
    cases h

/-- A store that is rejected hands back its value and changes nothing. -/
theorem eq_of_set_eq_error {slots slots' : Slots} {slot : UInt32} {value rejected : Value}
    (h : slots.set slot value = .error rejected slots') : rejected = value ∧ slots' = slots := by
  by_cases hlt : slot.toNat < slots.capacity.toNat
  · rw [set_of_lt hlt] at h
    cases h
  · rw [set_of_not_lt hlt] at h
    cases h
    exact ⟨rfl, rfl⟩

/-- A store that succeeds changes the value of its slot only. -/
theorem held_of_set {slots slots' : Slots} {slot : UInt32} {value : Value}
    (h : slots.set slot value = .ok () slots') (position : Nat) :
    slots'.held position = if position = slot.toNat then value else slots.held position := by
  obtain ⟨hlt, rfl⟩ := eq_of_set_eq_ok h
  rw [held, held, getD_store]
  by_cases hposition : position = slot.toNat
  · rw [if_pos (hposition ▸ hlt), if_pos hposition, if_pos hposition]
  · rw [if_neg hposition, if_neg hposition]

theorem setCapacity_of_le {slots : Slots} {capacity : UInt64}
    (h : slots.size ≤ capacity.toNat) :
    slots.setCapacity capacity = .ok () { slots with capacity } := by
  rw [setCapacity, if_neg (Nat.not_lt.mpr h)]

theorem setCapacity_of_lt {slots : Slots} {capacity : UInt64}
    (h : capacity.toNat < slots.size) :
    slots.setCapacity capacity = .error slots.size slots := by
  rw [setCapacity, if_pos h]

/-- A capacity that is rejected hands back the number of stored slots and changes nothing. -/
theorem eq_of_setCapacity_eq_error {slots slots' : Slots} {capacity : UInt64} {held : Nat}
    (h : slots.setCapacity capacity = .error held slots') :
    held = slots.size ∧ slots' = slots := by
  rcases Nat.lt_or_ge capacity.toNat slots.size with hlt | hle
  · rw [setCapacity_of_lt hlt] at h
    cases h
    exact ⟨rfl, rfl⟩
  · rw [setCapacity_of_le hle] at h
    cases h

end Slots

/-! ### What is known of the variables -/

namespace NameTable

/-- Every name has one category, and it is the category of the value that its slot holds. -/
structure Tracks (names : NameTable) (slots : Slots) : Prop where
  size_eq : names.categories.size = names.size
  category_eq : ∀ position < names.size,
    names.categories[position]? = some (.ofValue (slots.held position))

variable {names names' : NameTable} {slots slots' : Slots} {name : String} {slot : UInt32}

theorem size_setCategory (names : NameTable) (slot : UInt32) (category : Category) :
    (names.setCategory slot category).size = names.size :=
  rfl

theorem lt_size_of_idxOf? {position : Nat}
    (h : names.names.toList.idxOf? name = some position) : position < names.size := by
  obtain ⟨hlt, -⟩ := List.idxOf?_eq_some_iff.mp h
  rw [Array.length_toList] at hlt
  exact hlt

theorem Tracks.category (h : names.Tracks slots) (hslot : slot.toNat < names.size) :
    names.category slot = .ofValue (slots.held slot.toNat) := by
  rw [NameTable.category, h.category_eq _ hslot]
  rfl

/-- Setting the category of a slot to that of a value, and the slot to that value, keeps
what is known true. -/
theorem Tracks.setCategory (h : names.Tracks slots) {value : Value}
    (hset : slots.set slot value = .ok () slots') :
    (names.setCategory slot (.ofValue value)).Tracks slots' where
  size_eq := by
    rw [size_setCategory, ← h.size_eq]
    exact Array.size_setIfInBounds
  category_eq := by
    intro position hposition
    have hlt : position < names.categories.size := by
      rw [h.size_eq]
      exact hposition
    rw [NameTable.setCategory, Array.getElem?_setIfInBounds, Slots.held_of_set hset]
    by_cases heq : slot.toNat = position
    · rw [if_pos heq, if_pos (heq ▸ hlt), if_pos heq.symm]
    · rw [if_neg heq, if_neg (Ne.symm heq), h.category_eq position hposition]

/-- A name appended with the category of a value, and its slot set to that value, keeps what
is known true. -/
theorem Tracks.push (h : names.Tracks slots) {value : Value} (hslot : slot.toNat = names.size)
    (hset : slots.set slot value = .ok () slots') :
    Tracks ⟨names.names.push name, names.categories.push (.ofValue value)⟩ slots' where
  size_eq := by
    rw [size, Array.size_push, Array.size_push, h.size_eq]
    rfl
  category_eq := by
    intro position hposition
    rw [Array.getElem?_push, h.size_eq, Slots.held_of_set hset, hslot]
    by_cases heq : position = names.size
    · rw [if_pos heq, if_pos heq]
    · have hlt : position < names.size := by
        have : position < names.size + 1 := by
          simpa only [size, Array.size_push] using hposition
        omega
      rw [if_neg heq, if_neg heq, h.category_eq position hlt]

/-- A declaration with the category of a value, followed by the store of that value, keeps
what is known of the variables true. -/
theorem Tracks.declare (h : names.Tracks slots) {value : Value}
    (hdeclare : names.declare name (.ofValue value) = some (slot, names'))
    (hset : slots.set slot value = .ok () slots') : names'.Tracks slots' := by
  rcases declare_cases hdeclare with ⟨-, rfl⟩ | ⟨-, hslot, rfl⟩
  · exact h.setCategory hset
  · exact h.push hslot hset

end NameTable

end StackLang
