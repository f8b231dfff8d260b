import CalcFields.Formula.Lexer
import CalcFields.Text.Property.Word

/-!
The scope of a formula is read off its raw text, so that it is known for formulas that do not
compile: which fields it refers to, and whether it stays within one record.
-/

namespace CalcFields

/-- A name, perhaps a dot and another name, at the front of a text. -/
def spanReference (cs : List Char) : Option (List Char × List Char) :=
  let (name, rest) := cs.span isNameChar
  if name.isEmpty then none
  else
    match rest with
    | '.' :: tail =>
      let (inner, after) := tail.span isNameChar
      if inner.isEmpty then some (name, rest) else some (name ++ '.' :: inner, after)
    | _ => some (name, rest)

/-- The reference that opening braces start: its name and what follows its closing braces. -/
def readReference? (inside : List Char) : Option (List Char × List Char) :=
  match spanReference (trimFront inside) with
  | none => none
  | some (name, rest) =>
    match trimFront rest with
    | '}' :: '}' :: after => some (name, after)
    | _ => none

/-- The references of a text from left to right, where the fuel bounds the number of steps. -/
def referencesIn : Nat → List Char → List (List Char)
  | 0, _ => []
  | _, [] => []
  | fuel + 1, '{' :: '{' :: inside =>
    match readReference? inside with
    | some (name, after) => name :: referencesIn fuel after
    | none => referencesIn fuel ('{' :: inside)
  | fuel + 1, _ :: rest => referencesIn fuel rest

/-- Every field that a formula refers to, each once, in the order of first mention. -/
def extractFields (formula : String) : List String :=
  let cs := formula.toList
  ((referencesIn cs.length cs).map String.ofList).eraseDups

/-- A reference to a field of another collection has a dot. -/
def isForeignName (name : String) : Bool :=
  name.toList.contains '.'

/-- The fields of the same record that a formula refers to. -/
def extractDependencies (formula : String) : List String :=
  (extractFields formula).filter (!isForeignName ·)

/-- The functions that reach beyond the record. -/
def relationalFunctions : List String :=
  ["LOOKUP", "PARENT", "CHILDREN", "RELATED", "SUM", "AVG", "COUNT", "MIN", "MAX", "COUNT_DISTINCT"]

/-- A character stands for a capital when case folding makes them equal; two letters have a third
form beyond the first 128 characters. -/
def foldsTo (capital c : Char) : Bool :=
  c.toUpper == capital || (capital == 'S' && c == 'ſ') || (capital == 'K' && c == '\u212a')

/-- The text after a word in capitals, matched in any letter case. -/
def dropFolded? : List Char → List Char → Option (List Char)
  | [], cs => some cs
  | capital :: more, c :: rest => if foldsTo capital c then dropFolded? more rest else none
  | _ :: _, [] => none

/-- The text starts with the name of a relational function and an opening parenthesis. -/
def startsRelational (cs : List Char) : Bool :=
  relationalFunctions.any fun name =>
    match dropFolded? name.toList cs with
    | some rest => (trimFront rest).head? == some '('
    | none => false

/-- A relational function is called somewhere that no word character precedes. -/
def callsRelational (afterWord : Bool) : List Char → Bool
  | [] => false
  | c :: rest => (!afterWord && startsRelational (c :: rest)) || callsRelational (isWordChar c) rest

/-- A formula is local when it reads fields of its own record only and calls nothing relational. -/
def isLocal (formula : String) : Bool :=
  !(extractFields formula).any isForeignName && !callsRelational false formula.toList

end CalcFields
