import CalcFields.Json.Reader
import CalcFields.Value.Basic

/-! Values leave as JSON documents and come back, and the objects of a document become sorted. -/

namespace CalcFields

/-- Whole numbers up to this size are written without a point. -/
def maxWhole : Nat := 9007199254740991

namespace Json

/-- A whole number of moderate size stays whole, and a number without a finite value is null. -/
def ofFloat (x : Float) : Json :=
  if !x.isFinite then null
  else
    match wholeNumber? x with
    | some n => if n.natAbs ≤ maxWhole then integer n else real x
    | none => real x

end Json

namespace Value

mutual

/-- The document of a value. -/
def toJson : Value → Json
  | null => .null
  | bool b => .bool b
  | number x => .ofFloat x
  | string s => .string s
  | array items => .array (itemsToJson items)
  | object members => .object (membersToJson members)

/-- The documents of the items of an array. -/
def itemsToJson : List Value → List Json
  | [] => []
  | item :: rest => item.toJson :: itemsToJson rest

/-- The documents of the members of an object. -/
def membersToJson : List (String × Value) → List (String × Json)
  | [] => []
  | (name, item) :: rest => (name, item.toJson) :: membersToJson rest

end

mutual

/-- The value of a document, where the last member of a name stays. -/
def ofJson : Json → Value
  | .null => null
  | .bool b => bool b
  | .integer n => ofInt n
  | .real x => number x
  | .string s => string s
  | .array items => array (ofItems items)
  | .object members => object (FieldMap.ofList (ofMembers members)).entries
  | .unreadable => null

/-- The values of the items of an array. -/
def ofItems : List Json → List Value
  | [] => []
  | item :: rest => ofJson item :: ofItems rest

/-- The values of the members of an object. -/
def ofMembers : List (String × Json) → List (String × Value)
  | [] => []
  | (name, item) :: rest => (name, ofJson item) :: ofMembers rest

end

end Value

namespace Record

/-- The record of an object, and the empty record for any other document. -/
def ofJson : Json → Record
  | .object members => FieldMap.ofList (Value.ofMembers members)
  | _ => .empty

/-- The object of a record. -/
def toJson (record : Record) : Json :=
  .object (Value.membersToJson record.entries)

/-- A line of text reads as a record when it is one object. -/
def read? (line : String) : Option Record :=
  match Json.read? line with
  | some (.object members) => some (Record.ofJson (.object members))
  | _ => none

end Record

end CalcFields
