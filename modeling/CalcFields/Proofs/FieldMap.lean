import CalcFields.FieldMap
import Mathlib.Data.List.Sort

/-! Laws of field maps: what a lookup sees of each operation, and that lookups determine a map. -/

namespace CalcFields

namespace FieldMap

universe u

variable {α : Type u}

/-- Among entries of distinct names, a lookup finds exactly the entries. -/
theorem lookup_eq_some_iff_mem {entries : List (String × α)}
    (distinct : entries.Pairwise (fun a b => a.1 ≠ b.1)) {name : String} {value : α} :
    entries.lookup name = some value ↔ (name, value) ∈ entries := by
  induction entries with
  | nil => simp
  | cons head rest ih =>
    obtain ⟨other, held⟩ := head
    obtain ⟨fresh, restDistinct⟩ := List.pairwise_cons.1 distinct
    rw [lookup_entry, List.mem_cons, Prod.mk.injEq]
    by_cases same : name = other
    · subst same
      -- The head has taken the name, so that no later entry can have it.
      have absent : (name, value) ∉ rest := fun found => fresh _ found rfl
      simp only [if_pos, Option.some.injEq, true_and, absent, or_false]
      exact eq_comm
    · -- The head has another name, and the lookup goes on in the rest.
      simp only [same, false_and, false_or]
      exact ih restDistinct

/-- The names of a map are distinct. -/
theorem distinct (map : FieldMap α) : map.entries.Pairwise (fun a b => a.1 ≠ b.1) := by
  -- Names that come one after the other in a strict order are not the same.
  refine map.sorted.imp fun {a b} less => ?_
  intro same
  rw [same] at less
  exact String.lt_irrefl _ less

/-- A value is found under a name exactly when the two are an entry. -/
theorem get?_eq_some_iff {map : FieldMap α} {name : String} {value : α} :
    map.get? name = some value ↔ (name, value) ∈ map.entries :=
  lookup_eq_some_iff_mem map.distinct

/-- Two maps are the same when every lookup gives the same. -/
theorem ext_get? {a b : FieldMap α} (agree : ∀ name, a.get? name = b.get? name) : a = b := by
  -- Sorted lists without repetition are determined by their members.
  have irrefl : Std.Irrefl fun a b : String × α => a.1 < b.1 :=
    ⟨fun entry => String.lt_irrefl entry.1⟩
  have antisymm : Std.Antisymm fun a b : String × α => a.1 < b.1 :=
    ⟨fun a _ less more => absurd (String.lt_trans less more) (String.lt_irrefl a.1)⟩
  have members : ∀ entry, entry ∈ a.entries ↔ entry ∈ b.entries := by
    intro entry
    rw [← get?_eq_some_iff, ← get?_eq_some_iff, agree]
  have same : a.entries = b.entries := List.Pairwise.eq_of_mem_iff a.sorted b.sorted members
  cases a
  cases b
  cases same
  rfl

/-- A lookup after several insertions sees the last one of its name. -/
theorem get?_insertAll (map : FieldMap α) (entries : List (String × α)) (name : String) :
    (map.insertAll entries).get? name = (entries.reverse.lookup name).or (map.get? name) := by
  -- Each entry goes into the map before the rest does, so that the map varies in the induction.
  induction entries generalizing map with
  | nil => simp [insertAll]
  | cons entry rest ih =>
    have first : map.insertAll (entry :: rest) = (map.insert entry.1 entry.2).insertAll rest := rfl
    rw [first, ih, get?_insert, List.reverse_cons, List.lookup_append, Option.or_assoc,
      lookup_entry]
    by_cases same : name = entry.1 <;> simp [same]

/-- A lookup in the map of a list of entries sees the last one of its name. -/
theorem get?_ofList (entries : List (String × α)) (name : String) :
    (ofList entries).get? name = entries.reverse.lookup name := by
  rw [ofList, get?_insertAll, get?_empty, Option.or_none]

/-- Every entry of the map of a list is in the list. -/
theorem mem_of_mem_ofList {entries : List (String × α)} {entry : String × α}
    (member : entry ∈ (ofList entries).entries) : entry ∈ entries := by
  -- What is found under a name is one of the entries that were put there.
  have found : (ofList entries).get? entry.1 = some entry.2 := get?_eq_some_iff.2 member
  rw [get?_ofList] at found
  obtain ⟨before, after, split, _⟩ := List.lookup_eq_some_iff.1 found
  rw [← List.mem_reverse, split]
  exact List.mem_append_right before List.mem_cons_self

/-- A lookup in an extended map sees the extension first. -/
@[simp] theorem get?_extend (map updates : FieldMap α) (name : String) :
    (map.extend updates).get? name = (updates.get? name).or (map.get? name) := by
  rw [extend, get?_insertAll]
  -- The names of the extension are distinct, so that the last entry of a name is its only one.
  have reversed : updates.entries.reverse.Pairwise (fun a b => a.1 ≠ b.1) :=
    List.pairwise_reverse.2 (updates.distinct.imp Ne.symm)
  have turned : updates.entries.reverse.lookup name = updates.get? name := by
    refine Option.ext fun value => ?_
    rw [lookup_eq_some_iff_mem reversed, List.mem_reverse, get?_eq_some_iff]
  rw [turned]

/-- The entries of an extended map are entries of the map or of the extension. -/
theorem mem_entries_extend {map updates : FieldMap α} {e : String × α}
    (member : e ∈ (map.extend updates).entries) : e ∈ updates.entries ∨ e ∈ map.entries := by
  -- A lookup finds the update, and the map's own entry only without one.
  rw [← get?_eq_some_iff, get?_extend, Option.or_eq_some_iff] at member
  simp only [get?_eq_some_iff] at member
  exact member.imp_right And.right

/-- A map is the map of its entries. -/
theorem ofList_entries (map : FieldMap α) : ofList map.entries = map := by
  refine ext_get? fun name => ?_
  -- Taking the entries of a map one by one extends the empty map by it.
  have extended : ofList map.entries = empty.extend map := rfl
  rw [extended, get?_extend, get?_empty, Option.or_none]

/-- A map whose values do not change is the same map. -/
theorem mapValues_eq_self {map : FieldMap α} {change : String → α → α}
    (same : ∀ e ∈ map.entries, change e.1 e.2 = e.2) : map.mapValues change = map := by
  -- The entries decide which map it is.
  cases map with
  | mk entries sorted =>
    simp only [mapValues, FieldMap.mk.injEq]
    have each : ∀ e ∈ entries, (e.1, change e.1 e.2) = e := fun e member =>
      Prod.ext rfl (same e member)
    rw [List.map_congr_left each, List.map_id']

/-- A lookup in changed entries sees the change of the value. -/
theorem lookup_map {β : Type u} (entries : List (String × α)) (change : String → α → β)
    (name : String) :
    (entries.map fun entry => (entry.1, change entry.1 entry.2)).lookup name =
      (entries.lookup name).map (change name) := by
  -- Induction on the entries; the names are left alone.
  induction entries with
  | nil => rfl
  | cons entry rest ih =>
    obtain ⟨other, value⟩ := entry
    rw [List.map_cons, lookup_entry, lookup_entry, ih]
    by_cases same : name = other <;> simp [same]

/-- A lookup in a changed map sees the change of the value. -/
@[simp] theorem get?_mapValues {β : Type u} (map : FieldMap α) (change : String → α → β)
    (name : String) : (map.mapValues change).get? name = (map.get? name).map (change name) :=
  lookup_map map.entries change name

/-- Changing the values of a map of a list changes those in the list. -/
theorem mapValues_ofList {β : Type u} (entries : List (String × α)) (change : String → α → β) :
    (ofList entries).mapValues change =
      ofList (entries.map fun entry => (entry.1, change entry.1 entry.2)) := by
  refine ext_get? fun name => ?_
  rw [get?_mapValues, get?_ofList, get?_ofList, ← List.map_reverse, lookup_map]

/-- A lookup in a filtered map sees what the test accepts. -/
@[simp] theorem get?_filter (map : FieldMap α) (keep : String → α → Bool) (name : String) :
    (map.filter keep).get? name = (map.get? name).filter (keep name) := by
  -- A filtered map has the entries that the test accepts.
  refine Option.ext fun value => ?_
  rw [get?_eq_some_iff, Option.filter_eq_some_iff, get?_eq_some_iff]
  exact List.mem_filter

/-- A name has a value exactly when it is among the names. -/
theorem isSome_get?_iff {map : FieldMap α} {name : String} :
    (map.get? name).isSome = true ↔ name ∈ map.keys := by
  rw [get?, List.lookup_isSome_iff, keys, List.mem_map]
  simp only [beq_iff_eq, eq_comm (a := name)]

/-- A map is empty exactly when no name has a value. -/
theorem isEmpty_iff {map : FieldMap α} :
    map.isEmpty = true ↔ ∀ name, map.get? name = none := by
  constructor
  · intro blank name
    rw [get?, List.isEmpty_iff.1 blank]
    rfl
  · -- A map without a value under any name is the empty one.
    intro absent
    have same : map = empty := ext_get? absent
    rw [same]
    rfl

end FieldMap

end CalcFields
