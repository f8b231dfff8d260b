import CalcFields.FieldMap

/-!
JSON documents keep whole numbers apart from doubles and the members of an object in order; a sorted
document has them in the order of their names.
-/

namespace CalcFields

/-- A JSON document. -/
inductive Json where
  | null
  | bool (b : Bool)
  | integer (n : Int)
  | real (x : Float)
  | string (s : String)
  | array (items : List Json)
  | object (members : List (String × Json))
  /-- A well-formed literal without a value here: a number out of range or half a character. -/
  | unreadable
deriving Inhabited

namespace Json

mutual

/-- A document is readable when every literal has a value and it nests no deeper than the budget. -/
def isReadable (budget : Nat) : Json → Bool
  | unreadable => false
  | array items => 0 < budget && allReadable (budget - 1) items
  | object members => 0 < budget && allMembersReadable (budget - 1) members
  | _ => true

/-- Every item of an array is readable. -/
def allReadable (budget : Nat) : List Json → Bool
  | [] => true
  | item :: rest => item.isReadable budget && allReadable budget rest

/-- Every member of an object is readable. -/
def allMembersReadable (budget : Nat) : List (String × Json) → Bool
  | [] => true
  | (_, item) :: rest => item.isReadable budget && allMembersReadable budget rest

end

/-- The first member of a name, for an object that has one. -/
def member? (name : String) : Json → Option Json
  | object members => members.lookup name
  | _ => none

/-- Documents may nest this deep. -/
def depthLimit : Nat := 127

mutual

/-- The document with sorted objects, where the last member of a name stays. -/
def sorted : Json → Json
  | array items => array (sortedItems items)
  | object members => object (FieldMap.ofList (sortedMembers members)).entries
  | other => other

/-- The sorted items of an array. -/
def sortedItems : List Json → List Json
  | [] => []
  | item :: rest => item.sorted :: sortedItems rest

/-- The members of an object with sorted values. -/
def sortedMembers : List (String × Json) → List (String × Json)
  | [] => []
  | (name, item) :: rest => (name, item.sorted) :: sortedMembers rest

end

end Json

end CalcFields
