import CalcFields.Store.Lines
import CalcFields.Store.Query

/-!
A record store reads and writes the records of collections. Stores that load and save collections
as whole lists answer every operation by the same rules.
-/

namespace CalcFields

/-- A store of records. -/
class RecordStore (σ : Type) where
  readOne (store : σ) (collection id : String) (fields : Option (List String)) :
    Except StoreError (Option Record)
  readMany (store : σ) (collection : String) (query : RecordQuery) : Except StoreError (List Record)
  /-- The number of records that meet a filter, when the store can tell. -/
  count (store : σ) (collection : String) (filter : Record) : Except StoreError (Option Nat)
  /-- Extends a record; false when there is none of the id. -/
  updateOne (store : σ) (collection id : String) (updates : Record) :
    Except StoreError (Bool × σ)
  /-- Creates or extends a record and gives its id. -/
  put (store : σ) (collection : String) (record : Record) : Except StoreError (String × σ)
  /-- No collection holds more records than this, so that reading page by page ends. -/
  bound (store : σ) (collection : String) : Nat
  page_le_bound (store : σ) (collection : String) (query : RecordQuery) (page : List Record) :
    readMany store collection query = .ok page → page ≠ [] →
      query.offset + page.length ≤ bound store collection

/-- A place that loads and saves the records of a collection as a whole. -/
class RecordShelf (σ : Type) where
  load (store : σ) (collection : String) : Except StoreError (List Record)
  save (store : σ) (collection : String) (records : List Record) : Except StoreError σ

namespace RecordShelf

variable {σ : Type} [RecordShelf σ]

/-- The number of records on a shelf, none when they cannot be loaded. -/
def size (store : σ) (collection : String) : Nat :=
  match load store collection with
  | .ok records => records.length
  | .error _ => 0

/-- Reads the first record of an id. -/
def readOne (store : σ) (collection id : String) (fields : Option (List String)) :
    Except StoreError (Option Record) :=
  (load store collection).map fun records =>
    (records.find? (·.hasId id)).map (·.cutTo fields)

/-- Reads what a query asks for. -/
def readMany (store : σ) (collection : String) (query : RecordQuery) :
    Except StoreError (List Record) :=
  (load store collection).map query.select

/-- Counts the records that meet a filter. -/
def count (store : σ) (collection : String) (filter : Record) : Except StoreError (Option Nat) :=
  (load store collection).map fun records => some (records.countP (·.meets filter))

/-- Extends the first record of an id, and saves nothing when there is none. -/
def updateOne (store : σ) (collection id : String) (updates : Record) :
    Except StoreError (Bool × σ) := do
  let records ← load store collection
  match Record.updateFirst? records id updates with
  | none => return (false, store)
  | some updated => return (true, ← save store collection updated)

/-- Puts a record into its collection. -/
def put (store : σ) (collection : String) (record : Record) : Except StoreError (String × σ) := do
  let records ← load store collection
  let (id, updated) := Record.putInto records record
  return (id, ← save store collection updated)

/-- A page that is not empty ends within the collection. -/
theorem readMany_le_size (store : σ) (collection : String) (query : RecordQuery)
    (page : List Record) (read : readMany store collection query = .ok page) (filled : page ≠ []) :
    query.offset + page.length ≤ size store collection := by
  unfold readMany at read
  unfold size
  cases loaded : (load store collection : Except StoreError (List Record)) with
  | error e => simp [loaded, Except.map] at read
  | ok records =>
    simp only [loaded, Except.map, Except.ok.injEq] at read
    subst read
    exact query.offset_add_length_select_le records filled

instance : RecordStore σ where
  readOne := readOne
  readMany := readMany
  count := count
  updateOne := updateOne
  put := put
  bound := size
  page_le_bound := readMany_le_size

end RecordShelf

/-- A store in memory. -/
structure MemoryStore where
  collections : FieldMap (List Record)

namespace MemoryStore

/-- The store without collections. -/
def empty : MemoryStore := ⟨.empty⟩

/-- The records of a collection. -/
def records (store : MemoryStore) (collection : String) : List Record :=
  (store.collections.get? collection).getD []

end MemoryStore

instance : RecordShelf MemoryStore where
  load store collection := .ok (store.records collection)
  save store collection records := .ok ⟨store.collections.insert collection records⟩

/-- A store with one line file for each collection in a directory of a file tree. -/
structure LineStore where
  files : Files
  directory : Path

namespace LineStore

/-- A collection name is made of plain letters and digits, low lines and hyphens. -/
def isName (collection : String) : Bool :=
  !collection.isEmpty && collection.toList.all fun c =>
    ('a' ≤ c && c ≤ 'z') || ('A' ≤ c && c ≤ 'Z') || ('0' ≤ c && c ≤ '9') || c == '_' || c == '-'

/-- The file of a collection. -/
def file (store : LineStore) (collection : String) : Except StoreError LineFile :=
  if isName collection then .ok ⟨store.directory, collection⟩
  else .error (.invalidName collection)

/-- The records of a collection. -/
def records (store : LineStore) (collection : String) : Except StoreError (List Record) := do
  (← store.file collection).readItems store.files

/-- Saves records in place of those in the file of a collection. -/
def saveAll (store : LineStore) (collection : String) (records : List Record) :
    Except StoreError LineStore := do
  let files ← (← store.file collection).writeItems store.files records
  return { store with files := files }

end LineStore

instance : RecordShelf LineStore where
  load := LineStore.records
  save := LineStore.saveAll

end CalcFields
