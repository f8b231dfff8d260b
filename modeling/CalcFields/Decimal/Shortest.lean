import CalcFields.Decimal.Dyadic

/-!
The shortest decimal of a double has the fewest digits that read back as it, and of those digits
the nearest, a tie going to the even one.
-/

namespace CalcFields

/-- A decimal is a whole number of digits times a power of ten. -/
structure Decimal where
  digits : Nat
  exponent : Int
deriving DecidableEq, Repr

/-- The reals that round to one double, as three numerators over one denominator. -/
structure RoundingInterval where
  low : Nat
  middle : Nat
  high : Nat
  scale : Nat
  /-- The ends belong to the interval when the significand is even. -/
  closed : Bool

namespace RoundingInterval

/-- The interval reaches halfway to both neighbours, and half as far below a power of two. -/
def ofDyadic (d : Dyadic) : RoundingInterval :=
  let m := d.significand
  let below := if m == Nat.pow 2 52 && -1074 < d.exponent then 1 else 2
  -- Quarters of the last binary place are the common unit.
  let up := Nat.pow 2 d.exponent.toNat
  let down := Nat.pow 2 (-d.exponent).toNat
  ⟨(4 * m - below) * up, 4 * m * up, (4 * m + 2) * up, 4 * down, m % 2 == 0⟩

/-- On the grid of one power of ten, the step up and the factor down share the interval's scale. -/
def grid (interval : RoundingInterval) (power : Int) : Nat × Nat :=
  if 0 ≤ power then (interval.scale * Nat.pow 10 power.toNat, 1)
  else (interval.scale, Nat.pow 10 (-power).toNat)

/-- A point of a grid lies inside when it is between the ends. -/
def holds (interval : RoundingInterval) (power : Int) (point : Nat) : Bool :=
  let (unit, factor) := interval.grid power
  let value := point * unit
  if interval.closed then interval.low * factor ≤ value && value ≤ interval.high * factor
  else interval.low * factor < value && value < interval.high * factor

/-- The point of a grid at or just below the middle. -/
def below (interval : RoundingInterval) (power : Int) : Nat :=
  let (unit, factor) := interval.grid power
  interval.middle * factor / unit

/-- Of the two neighbours of the middle on a grid, the nearest one that lies inside. -/
def nearest? (interval : RoundingInterval) (power : Int) : Option Nat :=
  let lower := interval.below power
  let upper := lower + 1
  match interval.holds power lower, interval.holds power upper with
  | true, true =>
    let (unit, factor) := interval.grid power
    let gapDown := interval.middle * factor - lower * unit
    let gapUp := upper * unit - interval.middle * factor
    if gapDown < gapUp then some lower
    else if gapUp < gapDown then some upper
    else if lower % 2 == 0 then some lower else some upper
  | true, false => some lower
  | false, true => some upper
  | false, false => none

/-- The number of decimal digits before the point, negative for zeros after it. -/
def magnitude (interval : RoundingInterval) : Int :=
  -- Three hundred and forty places lift the least double well above one.
  let lifted := interval.middle * Nat.pow 10 340 / interval.scale
  ((Nat.toDigits 10 lifted).length : Int) - 340

/-- The first grid with a point inside wins, from the given power of ten downwards. -/
def search (interval : RoundingInterval) (power : Int) : Nat → Decimal
  | 0 => ⟨interval.below power, power⟩
  | left + 1 =>
    match interval.nearest? power with
    | some point => ⟨point, power⟩
    | none => search interval (power - 1) left

end RoundingInterval

/-- The shortest decimal that reads back as a nonzero dyadic number. -/
def shortestDecimal (d : Dyadic) : Decimal :=
  let interval := RoundingInterval.ofDyadic d
  -- The coarsest grid holds only the power of ten above; the finest has seventeen digits.
  interval.search interval.magnitude 18

end CalcFields
