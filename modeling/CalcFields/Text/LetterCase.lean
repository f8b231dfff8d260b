import CalcFields.Text.CodeRange
import CalcFields.Text.Property.Case
import CalcFields.Text.Property.Flag

/-!
Letter case follows the full mappings of the standard, where one character may become several and
a capital sigma has a form of its own at the end of a word.
-/

namespace CalcFields

/-- A run of characters at equal distances whose images are at the same distances. -/
structure CaseRun where
  first : Nat
  last : Nat
  step : Nat
  /-- The image of the first character. -/
  image : List Nat

namespace CaseRun

/-- The image of a character of the run. -/
def imageOf? (run : CaseRun) (code : Nat) : Option (List Nat) :=
  if run.first ≤ code && code ≤ run.last && (code - run.first) % run.step == 0 then
    some (run.image.map (· + (code - run.first)))
  else none

/-- A run is written as its range, a mark when every second character is meant, and its image. -/
def read (word : List Char) : CaseRun :=
  match splitAtEvery '>' word with
  | [source, target] =>
    let image := (splitAtEvery '+' target).map hexNumber
    match splitAtEvery '/' source with
    | [range, _] =>
      let bounds := readRange range
      ⟨bounds.first, bounds.last, 2, image⟩
    | _ =>
      let bounds := readRange source
      ⟨bounds.first, bounds.last, 1, image⟩
  | _ => ⟨1, 0, 1, []⟩

end CaseRun

/-- The runs of a case table. -/
def caseRuns (lines : List String) : List CaseRun :=
  (wordsOf lines).map CaseRun.read

/-- The runs that change in upper case. -/
def upperRuns : List CaseRun := caseRuns upperLines

/-- The runs that change in lower case. -/
def lowerRuns : List CaseRun := caseRuns lowerLines

/-- The image of a character under a case table, itself when no run has it. -/
def mapCase (runs : List CaseRun) (c : Char) : List Char :=
  match runs.findSome? (·.imageOf? c.toNat) with
  | some image => image.map Char.ofNat
  | none => [c]

/-- The upper case of a character. -/
def upperChar (c : Char) : List Char :=
  if c.toNat < 128 then [c.toUpper] else mapCase upperRuns c

/-- The lower case of a character outside of any word. -/
def lowerChar (c : Char) : List Char :=
  if c.toNat < 128 then [c.toLower] else mapCase lowerRuns c

/-- The ranges of a yes-or-no property, none when the standard has no such property. -/
def flagRanges (name : String) : Array CodeRange :=
  match flagRows.find? (·.names.contains name) with
  | some row => (readRanges row.lines).toArray
  | none => #[]

/-- The characters that have a case. -/
def casedRanges : Array CodeRange := flagRanges "Cased"

/-- The characters that the search for a neighbouring letter passes over. -/
def caseIgnorableRanges : Array CodeRange := flagRanges "Case_Ignorable"

/-- Past the characters that do not matter, the next one has a case. -/
def meetsCased (cs : List Char) : Bool :=
  match cs.dropWhile (inRanges caseIgnorableRanges) with
  | c :: _ => inRanges casedRanges c
  | [] => false

/-- Lower case from the characters before, nearest first, and those still to come. -/
def lowerFrom (before : List Char) : List Char → List Char
  | [] => []
  | c :: after =>
    let image :=
      if c == 'Σ' then
        if meetsCased before && !meetsCased after then ['ς'] else ['σ']
      else lowerChar c
    image ++ lowerFrom (c :: before) after

/-- The lower case of a string. -/
def lowercase (s : String) : String :=
  String.ofList (lowerFrom [] s.toList)

/-- The upper case of a string. -/
def uppercase (s : String) : String :=
  String.ofList (s.toList.flatMap upperChar)

end CalcFields
