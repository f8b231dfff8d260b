/-!
A settings document is a table of values under names. What may still be added to a table depends on
how it came to be.
-/

namespace CalcFields

/-- How a table came to be. -/
inductive TableOrigin where
  /-- Written between braces, and closed for good. -/
  | inline
  /-- Opened by a header of its own. -/
  | header
  /-- On the way to the table of a header. -/
  | implied
  /-- On the way to the last name of a dotted key. -/
  | dotted
deriving DecidableEq, Repr

/-- A value of a settings document; real numbers and moments are told apart and not kept. -/
inductive Toml where
  | string (s : String)
  | integer (n : Int)
  | real
  | bool (b : Bool)
  | moment
  | array (items : List Toml)
  | table (origin : TableOrigin) (members : List (String × Toml))
  /-- Tables of one repeated header, of which there is at least one. -/
  | tables (items : List (List (String × Toml)))
deriving Inhabited

/-- The members of a table in the order in which they come. -/
abbrev TomlTable : Type := List (String × Toml)

namespace TomlTable

/-- Sets the value of a name that is present. -/
def set (name : String) (item : Toml) (members : TomlTable) : TomlTable :=
  members.map fun (other, held) => (other, if other = name then item else held)

/-- Changes the last of some tables. -/
def changeLast (change : TomlTable → Option TomlTable) : List TomlTable → Option (List TomlTable)
  | [] => none
  | [last] => (change last).map ([·])
  | first :: rest => (changeLast change rest).map (first :: ·)

/-- Adds a value under a dotted key. A table takes the last name directly only when it is the one
being written or came to be by dotted keys. -/
def addPair (item : Toml) (direct : Bool) : List String → TomlTable → Option TomlTable
  | [], _ => none
  | [name], members =>
    if direct && (members.lookup name).isNone then some (members ++ [(name, item)]) else none
  | name :: rest, members =>
    match members.lookup name with
    | none => (addPair item true rest []).map fun inner => members ++ [(name, .table .dotted inner)]
    | some (.table .dotted inner) =>
      (addPair item true rest inner).map fun grown => set name (.table .dotted grown) members
    | some (.table .implied inner) =>
      (addPair item false rest inner).map fun grown => set name (.table .implied grown) members
    | some (.tables items) =>
      (changeLast (addPair item false rest) items).map fun grown =>
        set name (.tables grown) members
    | some _ => none

/-- Adds values under dotted keys one after the other. -/
def addPairs (pairs : List (List String × Toml)) (members : TomlTable) : Option TomlTable :=
  pairs.foldlM (fun grown pair => addPair pair.2 true pair.1 grown) members

/-- Changes the table that names lead to, through the last table of a repeated header, and makes
tables on the way where there is nothing. -/
def within (change : TomlTable → Option TomlTable) : List String → TomlTable → Option TomlTable
  | [], members => change members
  | name :: rest, members =>
    match members.lookup name with
    | none => (within change rest []).map fun inner => members ++ [(name, .table .implied inner)]
    | some (.table .inline _) => none
    | some (.table origin inner) =>
      (within change rest inner).map fun grown => set name (.table origin grown) members
    | some (.tables items) =>
      (changeLast (within change rest) items).map fun grown => set name (.tables grown) members
    | some _ => none

end TomlTable

/-- The pairs under one header, or those above the first header. -/
structure TomlSection where
  /-- The header repeats, each time for a table of its own. -/
  repeated : Bool
  /-- The names of the header, none above the first one. -/
  names : List String
  pairs : List (List String × Toml)

namespace TomlSection

/-- Adds a section under the last name of its header to the table that holds it. -/
def open? (part : TomlSection) (name : String) (parent : TomlTable) : Option TomlTable :=
  match parent.lookup name, part.repeated with
  | none, false =>
    (TomlTable.addPairs part.pairs []).map fun inner => parent ++ [(name, .table .header inner)]
  | some (.table .implied start), false =>
    (TomlTable.addPairs part.pairs start).map fun grown => parent.set name (.table .header grown)
  | none, true =>
    (TomlTable.addPairs part.pairs []).map fun inner => parent ++ [(name, .tables [inner])]
  | some (.tables items), true =>
    (TomlTable.addPairs part.pairs []).map fun inner => parent.set name (.tables (items ++ [inner]))
  | _, _ => none

/-- Adds a section to a document. -/
def addTo (part : TomlSection) (document : TomlTable) : Option TomlTable :=
  match part.names.getLast? with
  | none => TomlTable.addPairs part.pairs document
  | some name => TomlTable.within (part.open? name) part.names.dropLast document

end TomlSection

end CalcFields
