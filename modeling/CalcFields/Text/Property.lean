import CalcFields.Text.CodeSet
import CalcFields.Text.Property.Category
import CalcFields.Text.Property.Flag
import CalcFields.Text.Property.Script
import CalcFields.Text.Property.ScriptExtension

/-! Character properties are looked up by their names, in any letter case and without separators. -/

namespace CalcFields

/-- A character that counts in a property name: one of the first 128 and no separator. -/
def countsInName (c : Char) : Bool :=
  c.toNat < 128 && c != ' ' && c != '-' && c != '_'

/-- The key of a property name: small letters without separators and without a leading "is". -/
def propertyKey (name : List Char) : List Char :=
  let plain (cs : List Char) : List Char := (cs.filter countsInName).map Char.toLower
  match name with
  | i :: s :: rest =>
    let key := plain rest
    if i.toLower == 'i' && s.toLower == 's' && key != ['c'] then key else plain name
  | _ => plain name

/-- The row of a table whose names include a key. -/
def findRow? (rows : List PropertyRow) (key : List Char) : Option CodeSet :=
  (rows.find? fun row => row.names.any fun name => propertyKey name.toList == key).map fun row =>
    readRanges row.lines

/-- The categories that a group of categories joins, by the letters of its members. -/
def categoryGroups : List (List Char × List String) := [
  ("l".toList, ["Lu", "Ll", "Lt", "Lm", "Lo"]),
  ("letter".toList, ["Lu", "Ll", "Lt", "Lm", "Lo"]),
  ("lc".toList, ["Lu", "Ll", "Lt"]),
  ("casedletter".toList, ["Lu", "Ll", "Lt"]),
  ("m".toList, ["Mn", "Mc", "Me"]),
  ("mark".toList, ["Mn", "Mc", "Me"]),
  ("combiningmark".toList, ["Mn", "Mc", "Me"]),
  ("n".toList, ["Nd", "Nl", "No"]),
  ("number".toList, ["Nd", "Nl", "No"]),
  ("p".toList, ["Pc", "Pd", "Ps", "Pe", "Pi", "Pf", "Po"]),
  ("punctuation".toList, ["Pc", "Pd", "Ps", "Pe", "Pi", "Pf", "Po"]),
  ("s".toList, ["Sm", "Sc", "Sk", "So"]),
  ("symbol".toList, ["Sm", "Sc", "Sk", "So"]),
  ("z".toList, ["Zs", "Zl", "Zp"]),
  ("separator".toList, ["Zs", "Zl", "Zp"]),
  ("c".toList, ["Cc", "Cf", "Cs", "Co", "Cn"]),
  ("other".toList, ["Cc", "Cf", "Cs", "Co", "Cn"])]

/-- The set of a general category or of a group of them. -/
def categorySet? (key : List Char) : Option CodeSet :=
  if key == "any".toList then some CodeSet.full
  else if key == "ascii".toList then some [⟨0, 0x7F⟩]
  else if key == "assigned".toList then
    (findRow? categoryRows "cn".toList).map CodeSet.complement
  else
    match categoryGroups.lookup key with
    | some members =>
      some <| CodeSet.ofRanges <| members.flatMap fun member =>
        (findRow? categoryRows (propertyKey member.toList)).getD []
    | none => findRow? categoryRows key

/-- The set of a property that a name alone gives: a yes-or-no property, a category or a script. -/
def namedSet? (name : List Char) : Option CodeSet :=
  let key := propertyKey name
  -- Three short names mean categories and not the properties that share them.
  let flag :=
    if ["cf".toList, "sc".toList, "lc".toList].contains key then none else findRow? flagRows key
  flag <|> categorySet? key <|> findRow? scriptRows key

/-- The set of a value of a property. -/
def valuedSet? (property value : List Char) : Option CodeSet :=
  let key := propertyKey value
  match String.ofList (propertyKey property) with
  | "gc" => categorySet? key
  | "generalcategory" => categorySet? key
  | "sc" => findRow? scriptRows key
  | "script" => findRow? scriptRows key
  | "scx" => findRow? scriptExtensionRows key
  | "scriptextensions" => findRow? scriptExtensionRows key
  | _ => none

end CalcFields
