import CalcFields.Store.Lines

/-!
A definition store keeps definitions in a line file. A write leaves them in the order of their keys,
and of several with one key it replaces the first and removes all.
-/

namespace CalcFields

namespace Definition

/-- Keys are ordered by collection and then by field. -/
def compareKeys (a b : Definition) : Ordering :=
  (compare a.collection b.collection).then (compare a.field b.field)

/-- The definitions in the order of their keys, those of one key as they come. -/
def sortedByKey (definitions : List Definition) : List Definition :=
  definitions.mergeSort fun a b => (compareKeys a b).isLE

/-- Replaces the first definition of the same key; none when there is no such definition. -/
def replaceFirst? (d : Definition) : List Definition → Option (List Definition)
  | [] => none
  | other :: rest =>
    if other.key = d.key then some (d :: rest)
    else (replaceFirst? d rest).map (other :: ·)

end Definition

/-- A store of definitions in a line file of a file tree. -/
structure DefinitionStore where
  files : Files
  file : LineFile

namespace DefinitionStore

/-- The definitions as the file lists them. -/
def all (store : DefinitionStore) : Except StoreError (List Definition) :=
  store.file.readItems store.files

/-- The definitions of one collection. -/
def ofCollection (store : DefinitionStore) (collection : String) :
    Except StoreError (List Definition) :=
  store.all.map fun definitions => definitions.filter (·.collection = collection)

/-- Saves definitions in place of those in the file, in the order of keys. -/
def saveAll (store : DefinitionStore) (definitions : List Definition) :
    Except StoreError DefinitionStore :=
  (store.file.writeItems store.files (Definition.sortedByKey definitions)).map fun files =>
    { store with files := files }

/-- Adds a definition or replaces the one of its key, and tells whether it replaced one. -/
def upsert (store : DefinitionStore) (d : Definition) :
    Except StoreError (Bool × DefinitionStore) := do
  let definitions ← store.all
  match d.replaceFirst? definitions with
  | some replaced => return (true, ← store.saveAll replaced)
  | none => return (false, ← store.saveAll (definitions ++ [d]))

/-- Removes every definition of a key and tells whether there was one. -/
def remove (store : DefinitionStore) (key : String × String) :
    Except StoreError (Bool × DefinitionStore) := do
  let definitions ← store.all
  let kept := definitions.filter (·.key ≠ key)
  if kept.length = definitions.length then return (false, store)
  else return (true, ← store.saveAll kept)

end DefinitionStore

end CalcFields
