import CalcFields.Decimal.Numeral
import CalcFields.Json.Basic

/-!
JSON numbers: a whole number that fits 64 bits stays whole, and every other one is the leading
digits that fit 64 bits, scaled by a power of ten in doubles.
-/

namespace CalcFields

/-- The greatest significand that is gathered digit by digit. -/
def maxSignificand : Nat := Nat.pow 2 64 - 1

/-- A significand takes digits while it fits 64 bits; the count says how many it took. -/
def gatherDigits (significand taken : Nat) : List Char → Nat × Nat
  | [] => (significand, taken)
  | c :: rest =>
    let grown := 10 * significand + digitValue c
    if grown ≤ maxSignificand then gatherDigits grown (taken + 1) rest else (significand, taken)

/-- A power of ten as the nearest double. -/
def powerOfTen (n : Nat) : Float :=
  Float.ofScientific 1 false n

/-- Division by a power of ten goes in steps of the greatest power that is a double. -/
def scaleDown (x : Float) (places : Nat) : Nat → Float
  | 0 => x
  | steps + 1 =>
    if places ≤ 308 then x / powerOfTen places
    else scaleDown (x / powerOfTen 308) (places - 308) steps

/-- A significand times a power of ten, in one multiplication or division where that is possible. -/
def scaleDecimal? (significand : Nat) (power : Int) : Option Float :=
  let x := Float.ofNat significand
  if significand == 0 then some 0.0
  else if power < 0 then some (scaleDown x power.natAbs 4)
  else if 308 < power then none
  else
    let scaled := x * powerOfTen power.toNat
    if scaled.isInf then none else some scaled

namespace Json

/-- The value of a number from its sign, digits before and after the point, and written power. -/
def ofNumber (negative : Bool) (whole fraction : List Char) (power : Option Int) : Json :=
  let (head, taken) := gatherDigits 0 0 whole
  let dropped := whole.length - taken
  if fraction.isEmpty && power.isNone && dropped == 0 then
    -- Minus zero and numbers below the signed range are doubles.
    if !negative then integer head
    else if head == 0 || Nat.pow 2 63 < head then real (-(Float.ofNat head))
    else integer (-(head : Int))
  else
    let (significand, places) := gatherDigits head 0 fraction
    let exponent := (dropped : Int) - places + power.getD 0
    match scaleDecimal? significand exponent with
    | some x => real (if negative then -x else x)
    | none => unreadable

end Json

end CalcFields
