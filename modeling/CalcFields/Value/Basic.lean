import CalcFields.Decimal.Numeral
import CalcFields.FieldMap
import CalcFields.Text.Blank

/-! Values are the contents of fields: null, truth values, numbers, strings, arrays and objects. -/

namespace CalcFields

/-- A value that a field holds or a formula gives. -/
inductive Value where
  | null
  | bool (b : Bool)
  | number (x : Float)
  | string (s : String)
  | array (items : List Value)
  /-- The members of an object are strictly sorted by name. -/
  | object (members : List (String × Value))
deriving Inhabited

/-- A record holds a value in each of its fields, and a field that is absent reads as null. -/
abbrev Record := FieldMap Value

/-- A field of a record, null when it is absent. -/
def Record.field (record : Record) (name : String) : Value :=
  (record.get? name).getD .null

/-- A text is read as a number after trimming, and infinity only by its full name. -/
def parseNumber? (text : String) : Option Float :=
  let body := trimChars text.toList
  if body == "Infinity".toList || body == "+Infinity".toList then some (1.0 / 0.0)
  else if body == "-Infinity".toList then some (-1.0 / 0.0)
  else (Numeral.read? body).map Numeral.toFloat

namespace Value

/-- The value is null. -/
def isNull : Value → Bool
  | null => true
  | _ => false

/-- Null, false, zero, what is not a number and the empty string count as false. -/
def isTruthy : Value → Bool
  | null => false
  | bool b => b
  | number x => x != 0 && !x.isNaN
  | string s => !s.isEmpty
  | array _ => true
  | object _ => true

/-- The text of a string. -/
def asString? : Value → Option String
  | string s => some s
  | _ => none

/-- Truth values count as one and zero, strings as the number they spell, and the rest as none. -/
def toNumber? : Value → Option Float
  | null => none
  | bool b => some (if b then 1 else 0)
  | number x => if x.isNaN then none else some x
  | string s => parseNumber? s
  | array _ => none
  | object _ => none

/-- The name of the value's kind. -/
def kind : Value → String
  | null => "null"
  | bool _ => "boolean"
  | number _ => "number"
  | string _ => "string"
  | array _ => "array"
  | object _ => "object"

/-- The number when there is one, and null otherwise. -/
def ofNumber? : Option Float → Value
  | some x => number x
  | none => null

/-- A whole number as a value. -/
def ofInt (n : Int) : Value :=
  number (Float.ofInt n)

mutual

/-- Stored values hold no number without a finite value; such a number is stored as null. -/
def storable : Value → Value
  | number x => if x.isFinite then number x else null
  | array items => array (storableItems items)
  | object members => object (storableMembers members)
  | other => other

/-- The stored form of every item of an array. -/
def storableItems : List Value → List Value
  | [] => []
  | item :: rest => item.storable :: storableItems rest

/-- The stored form of every member of an object. -/
def storableMembers : List (String × Value) → List (String × Value)
  | [] => []
  | (name, item) :: rest => (name, item.storable) :: storableMembers rest

end

mutual

/-- Values are the same when kind and contents agree, numbers by their numeric equality. -/
def same : Value → Value → Bool
  | null, null => true
  | bool a, bool b => a == b
  | number x, number y => x == y
  | string a, string b => a == b
  | array a, array b => sameItems a b
  | object a, object b => sameMembers a b
  | _, _ => false

/-- Two arrays are the same when they agree item by item. -/
def sameItems : List Value → List Value → Bool
  | [], [] => true
  | a :: restA, b :: restB => a.same b && sameItems restA restB
  | _, _ => false

/-- Two objects are the same when they agree member by member. -/
def sameMembers : List (String × Value) → List (String × Value) → Bool
  | [], [] => true
  | (nameA, a) :: restA, (nameB, b) :: restB =>
    nameA == nameB && a.same b && sameMembers restA restB
  | _, _ => false

end

instance : BEq Value := ⟨same⟩

end Value

end CalcFields
