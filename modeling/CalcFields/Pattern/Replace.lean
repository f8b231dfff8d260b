import CalcFields.Decimal.Numeral
import CalcFields.Pattern.Search

/-!
Replacing puts a text in the place of matches. A dollar sign in it refers to a group by number or by
name, in braces or not, and two dollar signs stand for one.
-/

namespace CalcFields

/-- A part of a replacement. -/
inductive ReplacementPart where
  | text (cs : List Char)
  | group (index : Nat)
  /-- A group by a name, which may be the name of none. -/
  | named (name : String)

/-- The characters of a reference without braces. -/
def isReferenceChar (c : Char) : Bool :=
  c.isAlphanum || c == '_'

/-- The greatest number of a group. -/
def maxGroupNumber : Nat := Nat.pow 2 64 - 1

/-- A reference of digits, perhaps after a plus sign, is a number, and any other one is a name. -/
def referenceOf (cs : List Char) : ReplacementPart :=
  let digits := match cs with
    | '+' :: rest => rest
    | _ => cs
  if !digits.isEmpty && digits.all Char.isDigit && digitsValue digits ≤ maxGroupNumber then
    .group (digitsValue digits)
  else .named (String.ofList cs)

/-- The reference after a dollar sign, with what follows it. -/
def readGroupReference? : List Char → Option (ReplacementPart × List Char)
  | '{' :: inside =>
    match inside.span (· != '}') with
    | (name, _ :: rest) => some (referenceOf name, rest)
    | (_, []) => none
  | cs =>
    let (name, rest) := cs.span isReferenceChar
    if name.isEmpty then none else some (referenceOf name, rest)

/-- The parts of a replacement; the fuel bounds the number of steps. -/
def replacementParts : Nat → List Char → List ReplacementPart
  | 0, _ => []
  | _, [] => []
  | fuel + 1, '$' :: '$' :: rest => .text ['$'] :: replacementParts fuel rest
  | fuel + 1, '$' :: rest =>
    match readGroupReference? rest with
    | some (part, after) => part :: replacementParts fuel after
    | none => .text ['$'] :: replacementParts fuel rest
  | fuel + 1, c :: rest => .text [c] :: replacementParts fuel rest

namespace Matcher

/-- The characters of a group of a match, none for a group that took no part in it. -/
def groupChars (text : Array Char) (slots : Slots) (index : Nat) : List Char :=
  match bounds? slots index with
  | some (first, last) => (text.extract first last).toList
  | none => []

/-- What a part of a replacement becomes for a match. -/
def partChars (m : Matcher) (text : Array Char) (slots : Slots) : ReplacementPart → List Char
  | .text cs => cs
  | .group index => groupChars text slots index
  | .named name =>
    match m.pattern.names.lookup name with
    | some index => groupChars text slots index
    | none => []

/-- The next match from a position on; an empty one is not taken where the last match ended. -/
def next? (m : Matcher) (text : Array Char) (lastEnd : Option Nat) (position : Nat) :
    Option (Slots × Nat × Nat) := do
  let slots ← m.search? text position
  let (first, last) ← bounds? slots 0
  if first == last && lastEnd == some last then
    let slots ← m.search? text (position + 1)
    let (first, last) ← bounds? slots 0
    return (slots, first, last)
  else return (slots, first, last)

/-- Replaces at most so many matches from a position on. -/
def replaceFrom (m : Matcher) (text : Array Char) (parts : List ReplacementPart) :
    Nat → Option Nat → Nat → List Char
  | 0, _, position => (text.extract position text.size).toList
  | count + 1, lastEnd, position =>
    match m.next? text lastEnd position with
    | none => (text.extract position text.size).toList
    | some (slots, first, last) =>
      (text.extract position first).toList ++ parts.flatMap (m.partChars text slots) ++
        replaceFrom m text parts count (some last) last

/-- Replaces every match of a text, or the first one only. -/
def replace (m : Matcher) (text replacement : String) (everywhere : Bool) : String :=
  let chars := text.toList.toArray
  let cs := replacement.toList
  -- Matches end at ever greater positions, so there are no more than these.
  let count := if everywhere then chars.size + 2 else 1
  String.ofList (m.replaceFrom chars (replacementParts (cs.length + 1) cs) count none 0)

end Matcher

end CalcFields
