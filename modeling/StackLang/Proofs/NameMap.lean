/-
The name table is a map that keeps the order of its names.

A table has its names and their categories in two sequences.  A declaration goes by the name
and may extend both, a change of a category goes by the slot and may find none.  Whatever the
calls are, the two sequences stay one map.

* `NameMap`: names with their categories, each name once; `NameMap.perform` is what a call does
  to them.
* `NameMap.table`: the table that has a map's names and categories.  `NameMap.perform_table`: a
  call on the table of a map leaves the table of the map after the call; `NameMap.ofCalls_table`
  is the induction over the calls.
* `NameMap.names_ofCalls`: the names are those that were declared, in the order in which they
  were declared first.
* `NameTable.ofCalls_refines_map`: the table after any calls, and what each further call does.

Design notes: a slot is a word of 32 bits, so a table takes no new name once it has `2 ^ 32` of
them.  The map has the same limit, and no statement here assumes that it is not reached.
-/
import Mathlib.Data.List.Induction
import StackLang.Proofs.Tables

namespace StackLang

namespace NameTable

/-- A call that changes a name table. -/
inductive Call where
  | declare (name : String) (category : Category)
  | setCategory (slot : UInt32) (category : Category)

/-- The name that a call declares. -/
def Call.declared? : Call → Option String
  | declare name _ => some name
  | setCategory _ _ => none

/-- The table after a call.  A declaration for which there is no slot leaves it as it is. -/
def perform (table : NameTable) : Call → NameTable
  | .declare name category =>
    match table.declare name category with
    | some (_, table') => table'
    | none => table
  | .setCategory slot category => table.setCategory slot category

/-- The table after calls, the first of them on a table without names. -/
def ofCalls (calls : List Call) : NameTable :=
  calls.foldl perform {}

/-- The table with the names and the categories of some entries. -/
def ofEntries (entries : List (String × Category)) : NameTable where
  names := (entries.map Prod.fst).toArray
  categories := (entries.map Prod.snd).toArray

end NameTable

/-! ### The map -/

theorem map_fst_modify (entries : List (String × Category)) (position : Nat)
    (category : Category) :
    (entries.modify position fun entry => (entry.1, category)).map Prod.fst =
      entries.map Prod.fst := by
  apply List.ext_getElem?
  intro i
  rw [List.getElem?_map, List.getElem?_map, List.getElem?_modify]
  cases entries[i]? with
  | none => rfl
  | some entry =>
    by_cases h : position = i
    · simp [h]
    · simp [h]

/-- Names with their categories: each name once, and no more of them than words can name. -/
@[ext]
structure NameMap where
  entries : List (String × Category)
  distinct : (entries.map Prod.fst).Nodup
  addressable : entries.length ≤ UInt32.size

namespace NameMap

/-- The map without names. -/
def empty : NameMap :=
  ⟨[], List.nodup_nil, Nat.zero_le _⟩

variable (map : NameMap) {name : String}

/-- The names in their order. -/
def names : List String :=
  map.entries.map Prod.fst

/-- The map with another category at a position, if there is an entry. -/
def setCategory (position : Nat) (category : Category) : NameMap where
  entries := map.entries.modify position fun entry => (entry.1, category)
  distinct := by
    rw [map_fst_modify]
    exact map.distinct
  addressable := by
    rw [List.length_modify]
    exact map.addressable

/-- The map with a category for a name, which comes behind all others if it is new. -/
def declare (name : String) (category : Category) : NameMap :=
  if hknown : name ∈ map.names then
    { entries := map.entries.map fun entry =>
        (entry.1, if entry.1 = name then category else entry.2)
      distinct := by
        rw [List.map_map]
        exact map.distinct
      addressable := by
        rw [List.length_map]
        exact map.addressable }
  else if hroom : map.entries.length < UInt32.size then
    { entries := map.entries ++ [(name, category)]
      distinct := by
        rw [List.map_append, List.map_singleton, ← List.concat_eq_append]
        exact map.distinct.concat hknown
      addressable := by
        rw [List.length_append, List.length_singleton]
        exact hroom }
  else map

/-- The map after a call. -/
def perform : NameTable.Call → NameMap
  | .declare name category => map.declare name category
  | .setCategory slot category => map.setCategory slot.toNat category

/-- The map after calls, the first of them on a map without names. -/
def ofCalls (calls : List NameTable.Call) : NameMap :=
  calls.foldl perform empty

/-- The table with the names and the categories of the map. -/
def table : NameTable :=
  .ofEntries map.entries

theorem names_setCategory (position : Nat) (category : Category) :
    (map.setCategory position category).names = map.names :=
  map_fst_modify map.entries position category

/-- A name that is there gets its category at its position. -/
theorem declare_of_getElem? {position : Nat} (h : map.names[position]? = some name)
    (category : Category) : map.declare name category = map.setCategory position category := by
  rw [declare, dif_pos (List.mem_of_getElem? h)]
  apply NameMap.ext
  apply List.ext_getElem?
  intro i
  simp only [setCategory, List.getElem?_map, List.getElem?_modify]
  cases hentry : map.entries[i]? with
  | none => rfl
  | some entry =>
    -- the name stands at one position only
    have hname : map.names[i]? = some entry.1 := by
      rw [names, List.getElem?_map, hentry]
      rfl
    obtain ⟨hlt, -⟩ := List.getElem?_eq_some_iff.mp h
    have hiff : entry.1 = name ↔ position = i := by
      rw [← List.getElem?_inj hlt map.distinct, h, hname, Option.some_inj, eq_comm]
    by_cases heq : position = i
    · simp [heq, hiff.mpr heq]
    · simp [heq, mt hiff.mp heq]

theorem names_declare (category : Category) :
    (map.declare name category).names =
      if name ∈ map.names then map.names
      else if map.names.length < UInt32.size then map.names ++ [name]
      else map.names := by
  rw [declare, show map.names.length = map.entries.length from List.length_map _]
  split
  · exact List.map_map
  · split
    · exact List.map_append
    · rfl

/-! ### The table of a map -/

theorem size_table : map.table.size = map.entries.length := by
  rw [table, NameTable.ofEntries, NameTable.size, List.size_toArray, List.length_map]

theorem name?_table (slot : UInt32) : map.table.name? slot = map.names[slot.toNat]? :=
  List.getElem?_toArray

theorem setCategory_table (slot : UInt32) (category : Category) :
    map.table.setCategory slot category = (map.setCategory slot.toNat category).table := by
  have hcategories : (map.entries.modify slot.toNat fun entry => (entry.1, category)).map
      Prod.snd = (map.entries.map Prod.snd).set slot.toNat category := by
    apply List.ext_getElem?
    intro i
    rw [List.getElem?_map, List.getElem?_modify, List.getElem?_set, List.length_map,
      List.getElem?_map]
    by_cases h : slot.toNat = i
    · by_cases hlt : i < map.entries.length
      · simp [h, hlt]
      · simp [h, hlt]
    · simp [h]
  rw [table, table, NameTable.setCategory, NameTable.ofEntries, NameTable.ofEntries, setCategory,
    map_fst_modify, hcategories]
  exact congrArg _ (List.setIfInBounds_toArray _ _ _)

/-- A name is found at a slot exactly if it is the name of that slot. -/
theorem resolve_table {slot : UInt32} :
    map.table.resolve name = some slot ↔ map.table.name? slot = some name := by
  have hnames : map.table.names.toList = map.names := rfl
  rw [NameTable.resolve_eq_some_iff, hnames, name?_table, List.idxOf?_eq_some_iff,
    List.getElem?_eq_some_iff]
  constructor
  · rintro ⟨hlt, hname, -⟩
    exact ⟨hlt, hname⟩
  · rintro ⟨hlt, hname⟩
    refine ⟨hlt, hname, fun j hj heq => ?_⟩
    have := (List.Nodup.getElem_inj_iff map.distinct).mp (heq.trans hname.symm)
    omega

/-- A name that is there is declared at its slot, and only its category changes. -/
theorem declare_table_of_name? {slot : UInt32} (h : map.table.name? slot = some name)
    (category : Category) :
    map.table.declare name category = some (slot, (map.setCategory slot.toNat category).table) := by
  rw [NameTable.declare, map.resolve_table.mpr h]
  dsimp only
  rw [setCategory_table]

theorem resolve_table_of_not_mem (h : name ∉ map.names) : map.table.resolve name = none := by
  rw [Option.eq_none_iff_forall_ne_some]
  intro slot hslot
  rw [resolve_table, name?_table] at hslot
  exact h (List.mem_of_getElem? hslot)

/-- A new name is declared behind all others, if there is a slot for it. -/
theorem declare_table_of_not_mem (h : name ∉ map.names) (category : Category) :
    map.table.declare name category =
      if map.table.size < UInt32.size then
        some (UInt32.ofNat map.table.size, .ofEntries (map.entries ++ [(name, category)]))
      else none := by
  rw [NameTable.declare, map.resolve_table_of_not_mem h]
  dsimp only
  rw [index32]
  have htable : (⟨map.table.names.push name, map.table.categories.push category⟩ : NameTable) =
      .ofEntries (map.entries ++ [(name, category)]) := by
    simp [table, NameTable.ofEntries]
  rw [htable]
  split
  · rfl
  · rfl

/-- A name that is there has a slot, because there are no more names than words. -/
theorem exists_slot_of_mem (h : name ∈ map.names) :
    ∃ slot : UInt32, map.table.name? slot = some name := by
  obtain ⟨position, hposition⟩ := List.mem_iff_getElem?.mp h
  obtain ⟨hlt, -⟩ := List.getElem?_eq_some_iff.mp hposition
  have hword : position < UInt32.size := by
    have := map.addressable
    rw [names, List.length_map] at hlt
    omega
  refine ⟨UInt32.ofNat position, ?_⟩
  rw [name?_table, UInt32.toNat_ofNat_of_lt' hword]
  exact hposition

/-- A call on the table of a map leaves the table of the map after the call. -/
theorem perform_table (call : NameTable.Call) :
    map.table.perform call = (map.perform call).table := by
  cases call with
  | setCategory slot category => exact map.setCategory_table slot category
  | declare name category =>
    rw [NameTable.perform, perform]
    by_cases hknown : name ∈ map.names
    · obtain ⟨slot, hslot⟩ := map.exists_slot_of_mem hknown
      rw [map.declare_table_of_name? hslot]
      rw [name?_table] at hslot
      rw [map.declare_of_getElem? hslot]
    · rw [map.declare_table_of_not_mem hknown, declare, dif_neg hknown, size_table]
      by_cases hroom : map.entries.length < UInt32.size
      · rw [if_pos hroom, dif_pos hroom]
        rfl
      · rw [if_neg hroom, dif_neg hroom]

/-- The table after calls is that of the map after them. -/
theorem ofCalls_table (calls : List NameTable.Call) :
    NameTable.ofCalls calls = (ofCalls calls).table := by
  induction calls using List.reverseRecOn with
  | nil => rfl
  | append_singleton calls call ih =>
    rw [NameTable.ofCalls, ofCalls, List.foldl_append, List.foldl_append]
    change (NameTable.ofCalls calls).perform call = ((ofCalls calls).perform call).table
    rw [ih, perform_table]

/-! ### The order of the names -/

theorem eraseDups_concat (names : List String) (name : String) :
    (names ++ [name]).eraseDups =
      if name ∈ names then names.eraseDups else names.eraseDups ++ [name] := by
  rw [List.eraseDups_append]
  by_cases h : name ∈ names
  · simp [h, List.removeAll]
  · simp [h, List.removeAll, List.eraseDups_cons]

/-- One name more: it is among the first names already, or it comes behind them while there are
too few, or there is no room for it. -/
theorem take_eraseDups_concat (names : List String) (name : String) (limit : Nat) :
    (if name ∈ names.eraseDups.take limit then names.eraseDups.take limit
      else if (names.eraseDups.take limit).length < limit then
        names.eraseDups.take limit ++ [name]
      else names.eraseDups.take limit) =
      (names ++ [name]).eraseDups.take limit := by
  rw [eraseDups_concat]
  by_cases hroom : names.eraseDups.length < limit
  · -- all names are among the first ones
    have hall : names.eraseDups.take limit = names.eraseDups :=
      List.take_of_length_le (Nat.le_of_lt hroom)
    simp only [hall, List.mem_eraseDups, if_pos hroom]
    split
    · exact hall.symm
    · rw [List.take_of_length_le (by rw [List.length_append, List.length_singleton]; omega)]
  · -- what comes behind the first ones is cut off
    have hfull : (names.eraseDups.take limit).length = limit := by
      rw [List.length_take]
      omega
    rw [hfull, if_neg (Nat.lt_irrefl limit), ite_self]
    split
    · rfl
    · rw [List.take_append_of_le_length (Nat.not_lt.mp hroom)]

/-- The names are those that were declared, in the order of their first declarations. -/
theorem names_ofCalls (calls : List NameTable.Call) :
    (ofCalls calls).names =
      (calls.filterMap NameTable.Call.declared?).eraseDups.take UInt32.size := by
  induction calls using List.reverseRecOn with
  | nil => rfl
  | append_singleton calls call ih =>
    rw [ofCalls, List.foldl_append, List.filterMap_append]
    change ((ofCalls calls).perform call).names = _
    cases call with
    | setCategory slot category =>
      have hnone : [NameTable.Call.setCategory slot category].filterMap
          NameTable.Call.declared? = [] := rfl
      rw [perform, names_setCategory, ih, hnone, List.append_nil]
    | declare name category =>
      rw [perform, names_declare, ih]
      exact take_eraseDups_concat (calls.filterMap NameTable.Call.declared?) name _

end NameMap

/-- **The name table is a map that keeps the order of its names.**  After any declarations and
changes of categories, on any names and slots, the table holds the names that were declared, in
the order of their first declarations, and for each of them the category that the map has.  A
name is found at a slot exactly if it is the name of that slot.  To declare a name that is there
gives its slot and changes its category only; to declare a new one gives the next slot and
appends it, as long as a word can name that slot.  To set the category of a slot changes that
category only, and nothing if there is no such slot. -/
theorem NameTable.ofCalls_refines_map (calls : List Call) :
    let table := ofCalls calls
    let entries := (NameMap.ofCalls calls).entries
    table = ofEntries entries ∧
    entries.map Prod.fst = (calls.filterMap Call.declared?).eraseDups.take UInt32.size ∧
    (∀ name slot, table.resolve name = some slot ↔ table.name? slot = some name) ∧
    (∀ name category slot, table.resolve name = some slot →
      table.declare name category =
        some (slot, ofEntries (entries.modify slot.toNat fun entry => (entry.1, category)))) ∧
    (∀ name category, table.resolve name = none →
      table.declare name category =
        if table.size < UInt32.size then
          some (UInt32.ofNat table.size, ofEntries (entries ++ [(name, category)]))
        else none) ∧
    ∀ slot category, table.setCategory slot category =
      ofEntries (entries.modify slot.toNat fun entry => (entry.1, category)) := by
  intro table entries
  have htable : table = (NameMap.ofCalls calls).table := NameMap.ofCalls_table calls
  rw [htable]
  refine ⟨rfl, NameMap.names_ofCalls calls, ?_, ?_, ?_, ?_⟩
  · intro name slot
    exact NameMap.resolve_table _
  · intro name category slot hslot
    exact NameMap.declare_table_of_name? _ ((NameMap.resolve_table _).mp hslot) category
  · intro name category hnew
    refine NameMap.declare_table_of_not_mem _ (fun hmem => ?_) category
    obtain ⟨slot, hslot⟩ := NameMap.exists_slot_of_mem _ hmem
    rw [(NameMap.resolve_table _).mpr hslot] at hnew
    cases hnew
  · intro slot category
    exact NameMap.setCategory_table _ slot category

/-- Two names, of which the first one is declared again, and categories of a slot that is there
and of one that is not. -/
def NameTable.mixedCalls : List Call :=
  [.declare "x" .float, .declare "y" .string, .setCategory 5 .boolean, .declare "x" .boolean,
    .setCategory 1 .unknown]

theorem NameTable.ofCalls_mixedCalls :
    let table := ofCalls mixedCalls
    table = ⟨#["x", "y"], #[.boolean, .unknown]⟩ ∧
      table.resolve "y" = some 1 ∧ table.resolve "z" = none ∧
      table.declare "y" .float = some (1, ⟨#["x", "y"], #[.boolean, .float]⟩) ∧
      table.declare "z" .float = some (2, ⟨#["x", "y", "z"], #[.boolean, .unknown, .float]⟩) := by
  intro table
  obtain ⟨-, -, hiff, hknown, hnew, -⟩ := ofCalls_refines_map mixedCalls
  have hy : table.resolve "y" = some 1 := (hiff "y" 1).mpr (by decide +kernel)
  have hz : table.resolve "z" = none := by decide +kernel
  exact ⟨by decide +kernel, hy, hz, hknown "y" .float 1 hy,
    (hnew "z" .float hz).trans (by decide +kernel)⟩

end StackLang
