import CalcFields.Text.CodeRange

/-! Sets of code points are sorted ranges with gaps between them. -/

namespace CalcFields

/-- A set of code points as its ranges. -/
abbrev CodeSet : Type := List CodeRange

namespace CodeSet

/-- The greatest code point. -/
def greatest : Nat := 0x10FFFF

/-- Joins a range with the ranges after it for as long as they touch. -/
def joinFrom (range : CodeRange) : List CodeRange → List CodeRange
  | [] => [range]
  | next :: rest =>
    if next.first ≤ range.last + 1 then joinFrom ⟨range.first, max range.last next.last⟩ rest
    else range :: joinFrom next rest

/-- Joins ranges that are sorted by their first code point where they touch. -/
def join : List CodeRange → List CodeRange
  | [] => []
  | range :: rest => joinFrom range rest

/-- The set of ranges in any order. -/
def ofRanges (ranges : List CodeRange) : CodeSet :=
  join (ranges.mergeSort fun a b => decide (a.first ≤ b.first))

/-- The set of one character. -/
def single (c : Char) : CodeSet := [⟨c.toNat, c.toNat⟩]

/-- Every code point. -/
def full : CodeSet := [⟨0, greatest⟩]

/-- The code points of either set. -/
def union (a b : CodeSet) : CodeSet := ofRanges (a ++ b)

/-- The gaps of a set from a code point on. -/
def gaps (start : Nat) : CodeSet → CodeSet
  | [] => if start ≤ greatest then [⟨start, greatest⟩] else []
  | range :: rest =>
    if start < range.first then ⟨start, range.first - 1⟩ :: gaps (range.last + 1) rest
    else gaps (range.last + 1) rest

/-- The code points outside a set. -/
def complement (a : CodeSet) : CodeSet := gaps 0 a

/-- The code points of both sets. -/
def inter (a b : CodeSet) : CodeSet :=
  complement (union (complement a) (complement b))

/-- The code points of the first set that are not in the second. -/
def diff (a b : CodeSet) : CodeSet := inter a (complement b)

/-- The code points of exactly one of two sets. -/
def symmDiff (a b : CodeSet) : CodeSet := union (diff a b) (diff b a)

end CodeSet

end CalcFields
