/-! Finite doubles are signed significands times powers of two, so whole parts are exact. -/

namespace CalcFields

/-- A dyadic number is a signed significand times a power of two. -/
structure Dyadic where
  negative : Bool
  significand : Nat
  exponent : Int
deriving DecidableEq, Repr

/-- A power of two scales a natural number up, or down with the remainder dropped. -/
def shiftBy (n : Nat) (power : Int) : Nat :=
  if 0 ≤ power then n * Nat.pow 2 power.toNat else n / Nat.pow 2 (-power).toNat

namespace Dyadic

/-- A double decodes into sign, significand and exponent unless it is infinite or not a number. -/
def ofFloat? (x : Float) : Option Dyadic :=
  let bits := x.toBits.toNat
  let negative := bits / Nat.pow 2 63 == 1
  let biased : Nat := bits / Nat.pow 2 52 % 2048
  let stored := bits % Nat.pow 2 52
  if biased == 2047 then none
  else if biased == 0 then some ⟨negative, stored, -1074⟩
  else some ⟨negative, Nat.pow 2 52 + stored, (biased : Int) - 1075⟩

/-- The double of a dyadic number is exact whenever one exists, and drops low bits otherwise. -/
def toFloat (d : Dyadic) : Float :=
  let sign := if d.negative then Nat.pow 2 63 else 0
  -- The leading bit fixes the exponent, except below the least normal number.
  let least : Int := max (d.exponent + (Nat.log2 d.significand : Int) - 52) (-1074)
  let aligned := shiftBy d.significand (d.exponent - least)
  let magnitude :=
    if aligned < Nat.pow 2 52 then aligned
    else if 972 ≤ least then 2047 * Nat.pow 2 52
    else (least + 1074).toNat * Nat.pow 2 52 + aligned
  Float.ofBits (UInt64.ofNat (sign + magnitude))

/-- The whole part drops the fraction, toward zero. -/
def truncated (d : Dyadic) : Int :=
  let size : Int := shiftBy d.significand d.exponent
  if d.negative then -size else size

/-- A dyadic number is whole when it equals its whole part. -/
def isWhole (d : Dyadic) : Bool :=
  0 ≤ d.exponent || d.significand % Nat.pow 2 (-d.exponent).toNat == 0

/-- The floor is the greatest whole number at or below. -/
def floor (d : Dyadic) : Int :=
  if d.negative && !d.isWhole then d.truncated - 1 else d.truncated

/-- The ceiling is the least whole number at or above. -/
def ceiling (d : Dyadic) : Int :=
  if !d.negative && !d.isWhole then d.truncated + 1 else d.truncated

end Dyadic

/-- A whole number becomes a double under a given sign, which a zero keeps. -/
def wholeFloat (negative : Bool) (n : Int) : Float :=
  Dyadic.toFloat ⟨negative, n.natAbs, 0⟩

/-- Truncation of a double drops its fraction and keeps its sign. -/
def truncate (x : Float) : Float :=
  match Dyadic.ofFloat? x with
  | some d => wholeFloat d.negative d.truncated
  | none => x

/-- The floor of a double is a double again, and a zero keeps its sign. -/
def floorFloat (x : Float) : Float :=
  match Dyadic.ofFloat? x with
  | some d => wholeFloat d.negative d.floor
  | none => x

/-- The ceiling of a double is a double again, and a zero keeps its sign. -/
def ceilingFloat (x : Float) : Float :=
  match Dyadic.ofFloat? x with
  | some d => wholeFloat d.negative d.ceiling
  | none => x

/-- A double that is a whole number gives that number. -/
def wholeNumber? (x : Float) : Option Int :=
  match Dyadic.ofFloat? x with
  | some d => if d.isWhole then some d.truncated else none
  | none => none

/-- The least signed number of 64 bits. -/
def minInt64 : Int := -9223372036854775808

/-- The greatest signed number of 64 bits. -/
def maxInt64 : Int := 9223372036854775807

/-- A double read as a signed number of 64 bits is truncated and then held within range. -/
def saturated64 (x : Float) : Int :=
  match Dyadic.ofFloat? x with
  | some d => max minInt64 (min maxInt64 d.truncated)
  | none => if x.isNaN then 0 else if x < 0 then minInt64 else maxInt64

/-- The remainder of truncated division has the sign of the dividend and is exact. -/
def remainder (x y : Float) : Float :=
  match Dyadic.ofFloat? x, Dyadic.ofFloat? y with
  | some a, some b =>
    if b.significand == 0 then 0.0 / 0.0
    else
      -- Both operands are whole multiples of the finer of the two powers.
      let least := min a.exponent b.exponent
      let left := shiftBy a.significand (a.exponent - least)
      let right := shiftBy b.significand (b.exponent - least)
      Dyadic.toFloat ⟨a.negative, left % right, least⟩
  | some _, none => if y.isNaN then y else x
  | none, _ => 0.0 / 0.0

end CalcFields
