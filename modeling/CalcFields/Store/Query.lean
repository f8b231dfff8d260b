import CalcFields.Value.Change

/-!
Records of a collection are told apart by the text of their id. A query picks records in the order
in which they are kept, and a record without an id gets the next whole number when it is put.
-/

namespace CalcFields

/-- The field that identifies a record. -/
def idField : String := "id"

namespace Record

/-- The id of a record as text, unless it is absent or null. -/
def id? (record : Record) : Option String :=
  match record.get? idField with
  | some .null => none
  | some v => some v.text
  | none => none

/-- The record has a given id. -/
def hasId (record : Record) (id : String) : Bool :=
  record.id? == some id

/-- Every field of a filter says the same as the field of the record. -/
def meets (record filter : Record) : Bool :=
  filter.entries.all fun entry => (record.field entry.1).equivalent entry.2

/-- The record cut down to the id and some fields. -/
def cutTo (record : Record) : Option (List String) → Record
  | none => record
  | some fields => record.filter fun name _ => name == idField || fields.contains name

end Record

/-- What to read of a collection. -/
structure RecordQuery where
  /-- Every entry must be met. -/
  filter : Record
  /-- Only records with one of these ids. -/
  ids : Option (List String)
  /-- The fields to read beside the id. -/
  fields : Option (List String)
  limit : Option Nat
  offset : Nat

namespace RecordQuery

/-- The query for all records. -/
def all : RecordQuery := ⟨.empty, none, none, none, 0⟩

/-- The query for the records of some ids, whatever their other fields hold. -/
def byIds (ids : List String) : RecordQuery := { all with ids := some ids }

/-- The query for the ids on one page of the records that meet a filter. -/
def idPage (filter : Record) (offset limit : Nat) : RecordQuery :=
  ⟨filter, none, some [], some limit, offset⟩

/-- A record has a listed id and meets the filter. -/
def accepts (query : RecordQuery) (record : Record) : Bool :=
  let listed :=
    match query.ids with
    | none => true
    | some ids => record.id?.any ids.contains
  listed && record.meets query.filter

/-- The page of accepted records after the offset. -/
def page (query : RecordQuery) (records : List Record) : List Record :=
  let later := (records.filter query.accepts).drop query.offset
  match query.limit with
  | none => later
  | some limit => later.take limit

/-- The records that a query reads out of a collection. -/
def select (query : RecordQuery) (records : List Record) : List Record :=
  (query.page records).map (·.cutTo query.fields)

/-- A page that is not empty ends within the collection. -/
theorem offset_add_length_select_le (query : RecordQuery) (records : List Record)
    (some_read : query.select records ≠ []) :
    query.offset + (query.select records).length ≤ records.length := by
  have within := List.length_filter_le query.accepts records
  have later :
      (query.select records).length ≤ (records.filter query.accepts).length - query.offset := by
    simp only [select, page, List.length_map]
    split
    · simp
    · rw [List.length_take, List.length_drop]
      omega
  have := List.length_pos_iff.2 some_read
  omega

end RecordQuery

namespace Record

/-- Extends the first record of an id; none when no record has it. -/
def updateFirst? (records : List Record) (id : String) (updates : Record) : Option (List Record) :=
  match records with
  | [] => none
  | record :: rest =>
    if record.hasId id then some (record.extend updates :: rest)
    else (updateFirst? rest id updates).map (record :: ·)

/-- The greatest of the numeric ids, and zero when all are less. -/
def greatestId (records : List Record) : Float :=
  (records.filterMap fun record => (record.field idField).toNumber?).foldl
    (fun greatest x => if greatest < x then x else greatest) 0

/-- The whole number after the greatest id. -/
def nextId (records : List Record) : Int :=
  saturated64 (floorFloat (greatestId records)) + 1

/-- Creates a record or extends the one of the same id, and gives the id as text. -/
def putInto (records : List Record) (record : Record) : String × List Record :=
  match record.id? with
  | some id =>
    match updateFirst? records id record with
    | some updated => (id, updated)
    | none => (id, records ++ [record])
  | none =>
    let next := nextId records
    (toString next, records ++ [record.insert idField (.ofInt next)])

end Record

end CalcFields
