/-! A field map holds at most one value under each name, in the order of the names. -/

namespace CalcFields

universe u v

/-- A finite map from names to values whose entries are strictly sorted by name. -/
structure FieldMap (α : Type u) where
  entries : List (String × α)
  sorted : entries.Pairwise (fun a b => a.1 < b.1)

namespace FieldMap

variable {α : Type u} {β : Type v}

/-- Puts an entry at its sorted place, over an entry of the same name. -/
def insertEntry (name : String) (value : α) : List (String × α) → List (String × α)
  | [] => [(name, value)]
  | (other, held) :: rest =>
    if name < other then (name, value) :: (other, held) :: rest
    else if name = other then (name, value) :: rest
    else (other, held) :: insertEntry name value rest

/-- Inserting adds no name but the given one. -/
theorem mem_insertEntry {name : String} {value : α} {entries : List (String × α)}
    {entry : String × α} (found : entry ∈ insertEntry name value entries) :
    entry = (name, value) ∨ entry ∈ entries := by
  induction entries with
  | nil => simpa [insertEntry] using found
  | cons head rest ih =>
    obtain ⟨other, held⟩ := head
    simp only [insertEntry] at found
    split at found
    · simpa using found
    · split at found
      · rcases List.mem_cons.1 found with rfl | later
        · exact .inl rfl
        · exact .inr (List.mem_cons_of_mem _ later)
      · rcases List.mem_cons.1 found with rfl | later
        · exact .inr List.mem_cons_self
        · exact (ih later).imp_right (List.mem_cons_of_mem _)

/-- Inserting into sorted entries leaves them sorted. -/
theorem sorted_insertEntry (name : String) (value : α) {entries : List (String × α)}
    (sorted : entries.Pairwise (fun a b => a.1 < b.1)) :
    (insertEntry name value entries).Pairwise (fun a b => a.1 < b.1) := by
  induction entries with
  | nil => simp [insertEntry]
  | cons head rest ih =>
    obtain ⟨other, held⟩ := head
    obtain ⟨least, restSorted⟩ := List.pairwise_cons.1 sorted
    simp only [insertEntry]
    split
    · rename_i before
      refine List.pairwise_cons.2 ⟨fun entry found => ?_, sorted⟩
      rcases List.mem_cons.1 found with rfl | later
      · exact before
      · exact String.lt_trans before (least entry later)
    · rename_i notBefore
      split
      · rename_i same
        subst same
        exact List.pairwise_cons.2 ⟨least, restSorted⟩
      · rename_i differ
        refine List.pairwise_cons.2 ⟨fun entry found => ?_, ih restSorted⟩
        rcases mem_insertEntry found with rfl | later
        · -- Two names that are neither equal nor in this order are in the other order.
          have atMost : other ≤ name := String.not_lt.1 notBefore
          exact Std.lt_of_le_of_ne atMost (fun same => differ same.symm)
        · exact least entry later

/-- The map without entries. -/
def empty : FieldMap α :=
  ⟨[], List.Pairwise.nil⟩

instance : EmptyCollection (FieldMap α) := ⟨empty⟩

instance : Inhabited (FieldMap α) := ⟨empty⟩

instance [BEq α] : BEq (FieldMap α) := ⟨fun a b => a.entries == b.entries⟩

/-- Sets the value under a name. -/
def insert (map : FieldMap α) (name : String) (value : α) : FieldMap α :=
  ⟨insertEntry name value map.entries, sorted_insertEntry name value map.sorted⟩

/-- The value under a name, when there is one. -/
def get? (map : FieldMap α) (name : String) : Option α :=
  map.entries.lookup name

/-- A name is present when it has a value. -/
def contains (map : FieldMap α) (name : String) : Bool :=
  (map.get? name).isSome

/-- The names in order. -/
def keys (map : FieldMap α) : List String :=
  map.entries.map Prod.fst

/-- The values in the order of their names. -/
def values (map : FieldMap α) : List α :=
  map.entries.map Prod.snd

/-- The number of names. -/
def size (map : FieldMap α) : Nat :=
  map.entries.length

/-- A map is empty when it has no entry. -/
def isEmpty (map : FieldMap α) : Bool :=
  map.entries.isEmpty

/-- Inserts entries from first to last, so that the last one of a name stays. -/
def insertAll (map : FieldMap α) (entries : List (String × α)) : FieldMap α :=
  entries.foldl (fun grown entry => grown.insert entry.1 entry.2) map

/-- The map of a list of entries, where the last one of a name stays. -/
def ofList (entries : List (String × α)) : FieldMap α :=
  empty.insertAll entries

/-- Extends a map by another, whose values win. -/
def extend (map updates : FieldMap α) : FieldMap α :=
  map.insertAll updates.entries

/-- Keeps the entries that a test accepts. -/
def filter (map : FieldMap α) (keep : String → α → Bool) : FieldMap α :=
  ⟨map.entries.filter (fun entry => keep entry.1 entry.2), map.sorted.filter _⟩

/-- Changes every value and keeps the names. -/
def mapValues (map : FieldMap α) (change : String → α → β) : FieldMap β :=
  ⟨map.entries.map (fun entry => (entry.1, change entry.1 entry.2)),
    List.pairwise_map.2 map.sorted⟩

/-- Replaces the value under a name by a change of it, or of nothing when the name is absent. -/
def alter (map : FieldMap α) (name : String) (change : Option α → α) : FieldMap α :=
  map.insert name (change (map.get? name))

/-- A lookup takes the first entry when its name matches and goes on otherwise. -/
theorem lookup_entry (wanted name : String) (value : α) (rest : List (String × α)) :
    ((name, value) :: rest).lookup wanted =
      if wanted = name then some value else rest.lookup wanted := by
  -- The lookup compares by a Bool, the statement by an equation.
  by_cases same : wanted = name
  · simp [same]
  · simp [List.lookup_cons, same, beq_false_of_ne same]

/-- Looking up an inserted entry finds it, and every other name is as before. -/
theorem lookup_insertEntry (name : String) (value : α) (entries : List (String × α))
    (wanted : String) :
    (insertEntry name value entries).lookup wanted =
      if wanted = name then some value else entries.lookup wanted := by
  induction entries with
  | nil => simp [insertEntry, lookup_entry]
  | cons head rest ih =>
    obtain ⟨other, held⟩ := head
    simp only [insertEntry]
    split
    · simp only [lookup_entry]
    · split
      · rename_i same
        subst same
        by_cases found : wanted = name <;> simp [lookup_entry, found]
      · rename_i differ
        by_cases found : wanted = other
        · subst found
          simp [Ne.symm differ]
        · simp [lookup_entry, found, ih]

/-- A lookup after an insertion sees the new value under its name only. -/
@[simp] theorem get?_insert (map : FieldMap α) (name : String) (value : α) (wanted : String) :
    (map.insert name value).get? wanted = if wanted = name then some value else map.get? wanted :=
  lookup_insertEntry name value map.entries wanted

/-- The empty map has no value under any name. -/
@[simp] theorem get?_empty (wanted : String) : (empty : FieldMap α).get? wanted = none := rfl

end FieldMap

end CalcFields
