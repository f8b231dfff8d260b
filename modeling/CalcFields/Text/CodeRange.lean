import CalcFields.Json.Reader

/-! Ranges of code points are written as pairs of hexadecimal numbers. -/

namespace CalcFields

/-- A range of code points holds both of its ends. -/
structure CodeRange where
  first : Nat
  last : Nat
deriving DecidableEq, Repr, Inhabited

namespace CodeRange

/-- A code point lies in a range when it is between the ends. -/
def holds (range : CodeRange) (code : Nat) : Bool :=
  range.first ≤ code && code ≤ range.last

end CodeRange

/-- A named property is a row of alternative names and lines of ranges. -/
structure PropertyRow where
  names : List String
  lines : List String

/-- The number that hexadecimal digits spell, other characters counting as zero. -/
def hexNumber (cs : List Char) : Nat :=
  cs.foldl (fun n c => 16 * n + (Json.hexValue? c).getD 0) 0

/-- Splits a list at every separator; there is always at least one part. -/
def splitAtEvery (separator : Char) : List Char → List (List Char)
  | [] => [[]]
  | c :: rest =>
    if c == separator then [] :: splitAtEvery separator rest
    else
      match splitAtEvery separator rest with
      | [] => [[c]]
      | part :: parts => (c :: part) :: parts

/-- The words of lines that are separated by single spaces. -/
def wordsOf (lines : List String) : List (List Char) :=
  lines.flatMap fun line => splitAtEvery ' ' line.toList

/-- A word is one code point, or two with a dash between. -/
def readRange (word : List Char) : CodeRange :=
  match splitAtEvery '-' word with
  | [first, last] => ⟨hexNumber first, hexNumber last⟩
  | _ => ⟨hexNumber word, hexNumber word⟩

/-- The ranges that lines of words list. -/
def readRanges (lines : List String) : List CodeRange :=
  (wordsOf lines).map readRange

/-- A code point is looked up in sorted ranges by halving, within the given number of steps. -/
def searchRanges (ranges : Array CodeRange) (code : Nat) : Nat → Nat → Nat → Bool
  | 0, _, _ => false
  | steps + 1, low, high =>
    if high ≤ low then false
    else
      let middle := (low + high) / 2
      match ranges[middle]? with
      | none => false
      | some range =>
        if code < range.first then searchRanges ranges code steps low middle
        else if range.last < code then searchRanges ranges code steps (middle + 1) high
        else true

/-- A character lies in sorted ranges when one of them holds its code point. -/
def inRanges (ranges : Array CodeRange) (c : Char) : Bool :=
  searchRanges ranges c.toNat 32 0 ranges.size

end CalcFields
