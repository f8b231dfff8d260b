import CalcFields.Json.Reader
import CalcFields.Json.Writer
import CalcFields.Text.Blank
import CalcFields.Text.LetterCase

/-! A formula definition names a calculated field of a collection and the formula that gives it. -/

namespace CalcFields

/-- The publication status of a definition. -/
inductive Status where
  | published
  | draft
  | archived
deriving DecidableEq, Repr, Inhabited

namespace Status

/-- The word for a status. -/
def word : Status → String
  | published => "published"
  | draft => "draft"
  | archived => "archived"

/-- Only published definitions take part in calculations. -/
def isActive : Status → Bool
  | published => true
  | _ => false

/-- The status that a word names exactly. -/
def ofWord? (word : String) : Option Status :=
  [published, draft, archived].find? (·.word == word)

/-- A word names a status in any letter case and with blanks around it; a failure gives the word
that was looked up. -/
def read (text : String) : Except String Status :=
  let word := lowercase (trim text)
  match ofWord? word with
  | some status => .ok status
  | none => .error word

/-- The message about a word that names no status. -/
def unknownMessage (word : String) : String :=
  "Invalid status '" ++ word ++ "': expected published, draft or archived"

end Status

/-- The definition of a calculated field; collection and field identify it. -/
structure Definition where
  collection : String
  field : String
  formula : String
  status : Status
  /-- The suggested place within the collection. -/
  sort : Option Int
  description : Option String
deriving DecidableEq, Repr

namespace Definition

/-- The definition that an object without members reads as. -/
def blank : Definition := ⟨"", "", "", .published, none, none⟩

/-- Collection and field together identify a definition. -/
def key (d : Definition) : String × String := (d.collection, d.field)

/-- A definition is complete when collection, field and formula hold more than blanks. -/
def isComplete (d : Definition) : Bool :=
  !isBlankText d.collection && !isBlankText d.field && !isBlankText d.formula

/-- A text column, where null stands for the empty text. -/
def textColumn? : Json → Option String
  | .null => some ""
  | .string s => some s
  | _ => none

/-- A status column: null, a word, or an object with null under a word. -/
def statusColumn? : Json → Option Status
  | .null => some .published
  | .string s => Status.ofWord? s
  | .object [(word, .null)] => Status.ofWord? word
  | _ => none

/-- A sort column: null or a whole number of 64 bits. -/
def sortColumn? : Json → Option (Option Int)
  | .null => some none
  | .integer n => if minInt64 ≤ n && n ≤ maxInt64 then some (some n) else none
  | _ => none

/-- A description column: null or a text. -/
def descriptionColumn? : Json → Option (Option String)
  | .null => some none
  | .string s => some (some s)
  | _ => none

/-- The names of the columns, in the order in which they are written. -/
def columns : List String :=
  ["collection_cible", "champ_cible", "formula", "status", "sort", "description"]

/-- Reads one column into a definition; a column of another name is passed over. -/
def readColumn (d : Definition) (column : String) (item : Json) : Option Definition :=
  match column with
  | "collection_cible" => (textColumn? item).map fun s => { d with collection := s }
  | "champ_cible" => (textColumn? item).map fun s => { d with field := s }
  | "formula" => (textColumn? item).map fun s => { d with formula := s }
  | "status" => (statusColumn? item).map fun s => { d with status := s }
  | "sort" => (sortColumn? item).map fun n => { d with sort := n }
  | "description" => (descriptionColumn? item).map fun s => { d with description := s }
  | _ => some d

/-- Reads the columns one after the other. -/
def readColumns (d : Definition) : List (String × Json) → Option Definition
  | [] => some d
  | (column, item) :: rest => do
    let next ← d.readColumn column item
    next.readColumns rest

/-- A column is repeated when it is named twice; other names may repeat. -/
def repeatsColumn (names : List String) : Bool :=
  columns.any fun column => 1 < names.count column

/-- An object gives columns by name and an array in their order; absent ones stay blank. -/
def ofJson? : Json → Option Definition
  | .object members =>
    if repeatsColumn (members.map Prod.fst) then none else blank.readColumns members
  | .array items =>
    if items.length ≤ columns.length then blank.readColumns (columns.zip items) else none
  | _ => none

/-- A line of text reads as a definition when it is one document of that shape. -/
def read? (line : String) : Option Definition :=
  (Json.parse? line).bind ofJson?

/-- The object of a definition leaves out an absent sort and an absent description. -/
def toJson (d : Definition) : Json :=
  .object <|
    [("collection_cible", .string d.collection), ("champ_cible", .string d.field),
      ("formula", .string d.formula), ("status", .string d.status.word)] ++
    (d.sort.map fun n => ("sort", Json.integer n)).toList ++
    (d.description.map fun s => ("description", Json.string s)).toList

end Definition

end CalcFields
