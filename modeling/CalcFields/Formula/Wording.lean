import CalcFields.Formula.Function
import CalcFields.Pattern.Replace
import CalcFields.Text.LetterCase
import CalcFields.Value.Text

/-!
The functions on texts take the texts of their arguments, where null is the empty text. Lengths and
places are counted in characters. A malformed pattern matches nothing.
-/

namespace CalcFields

/-- Part of a text between two places, which are held within the text and swapped when reversed. -/
def slice (text : String) (start stop : Int) : String :=
  let cs := text.toList
  let within (n : Int) : Nat := (max 0 (min n cs.length)).toNat
  let low := min (within start) (within stop)
  let high := max (within start) (within stop)
  String.ofList ((cs.take high).drop low)

/-- Replaces a run of characters wherever it stands, from left to right; fuel bounds the steps. -/
def replaceRun (wanted replacement : List Char) : Nat → List Char → List Char
  | 0, cs => cs
  | _, [] => []
  | fuel + 1, c :: rest =>
    if wanted.isPrefixOf (c :: rest) then
      replacement ++ replaceRun wanted replacement fuel ((c :: rest).drop wanted.length)
    else c :: replaceRun wanted replacement fuel rest

/-- Replaces a text wherever it stands; the empty text stands nowhere. -/
def replaceText (text wanted replacement : String) : String :=
  let cs := text.toList
  if wanted.isEmpty then text
  else String.ofList (replaceRun wanted.toList replacement.toList cs.length cs)

namespace Wording

/-- A count in an argument, without its fraction; what is no number counts as zero. -/
def countIn (v : Value) : Int :=
  match v.toNumber? with
  | some x => saturated64 x
  | none => 0

/-- The first characters of a text. -/
def leftPart (text : String) (count : Int) : String :=
  String.ofList (text.toList.take count.toNat)

/-- The last characters of a text. -/
def rightPart (text : String) (count : Int) : String :=
  let cs := text.toList
  String.ofList (cs.drop (cs.length - count.toNat))

/-- Part of a text from a place on, of a given length or up to the end. -/
def partFrom (text : String) (start : Int) (span : Value) : String :=
  match span with
  | .null => slice text start text.length
  | _ => slice text start (start + countIn span)

/-- Some part of a text matches a pattern. -/
def matchesPattern (v pattern : Value) : Bool :=
  if v.isNull || pattern.isNull then false
  else
    match Matcher.read? pattern.text with
    | some m => (m.search? v.text.toList.toArray 0).isSome
    | none => false

/-- The text of a group of the first match. -/
def extractGroup (v pattern : Value) (group : Int) : Value :=
  if v.isNull || pattern.isNull || group < 0 then .null
  else
    let text := v.text.toList.toArray
    let found := do
      let m ← Matcher.read? pattern.text
      let slots ← m.search? text 0
      Matcher.groupText? text slots group.toNat
    match found with
    | some s => .string s
    | none => .null

/-- The text with its matches replaced. -/
def replaceMatches (v pattern replacement : Value) (everywhere : Bool) : Value :=
  if v.isNull || pattern.isNull then .null
  else
    match Matcher.read? pattern.text with
    | some m => .string (m.replace v.text replacement.text everywhere)
    | none => .null

/-- The texts of the values that are not null. -/
def presentTexts (args : List Value) : List String :=
  (args.filter (!·.isNull)).map Value.text

/-- The group that is extracted, the first one unless a number says otherwise. -/
def groupIn (v : Value) : Int :=
  match v.toNumber? with
  | some x => saturated64 x
  | none => 1

/-- The value of a function on texts, none when the number of arguments does not fit. -/
def evaluate? : Wording → List Value → Option Value
  | upper, [a] => some (.string (uppercase a.text))
  | lower, [a] => some (.string (lowercase a.text))
  | length, [a] => some (.ofInt a.text.length)
  | left, [a, count] => some (.string (leftPart a.text (countIn count)))
  | right, [a, count] => some (.string (rightPart a.text (countIn count)))
  | substr, [a, start] => some (.string (partFrom a.text (countIn start) .null))
  | substr, [a, start, span] => some (.string (partFrom a.text (countIn start) span))
  | substring, [a, start] => some (.string (partFrom a.text (countIn start) .null))
  | substring, [a, start, span] => some (.string (partFrom a.text (countIn start) span))
  | trim, [a] => some (.string (CalcFields.trim a.text))
  | trimFront, [a] => some (.string (String.ofList (CalcFields.trimFront a.text.toList)))
  | trimBack, [a] => some (.string (String.ofList (CalcFields.trimBack a.text.toList)))
  | replace, [a, wanted, replacement] =>
    some (.string (replaceText a.text wanted.text replacement.text))
  | regexMatch, [a, pattern] => some (.bool (matchesPattern a pattern))
  | regexExtract, [a, pattern] => some (extractGroup a pattern 1)
  | regexExtract, [a, pattern, group] => some (extractGroup a pattern (groupIn group))
  | regexReplace, [a, pattern] => some (replaceMatches a pattern .null true)
  | regexReplace, [a, pattern, replacement] => some (replaceMatches a pattern replacement true)
  | regexReplace, [a, pattern, replacement, everywhere] =>
    some (replaceMatches a pattern replacement everywhere.isTruthy)
  | concat, args => some (.string (String.join (presentTexts args)))
  | concatWith, separator :: args => some (.string (separator.text.intercalate (presentTexts args)))
  | _, _ => none

end Wording

end CalcFields
