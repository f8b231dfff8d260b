import CalcFields.Decimal.Shortest

/-! Number styles say when a decimal is written in positions and when with a power of ten. -/

namespace CalcFields

/-- The choices that a written form makes for the digits of a number. -/
structure NumberStyle where
  /-- The least power of the leading digit written in positions, when there is one. -/
  lowest : Option Int
  /-- The greatest power of the leading digit written in positions, when there is one. -/
  highest : Option Int
  /-- A whole number in positions gets a point and a zero. -/
  pointed : Bool
deriving DecidableEq, Repr

/-- A run of zeros. -/
def zeros (count : Nat) : List Char :=
  List.replicate count '0'

/-- Digits in positions, with the point after the given number of them. -/
def positional (style : NumberStyle) (digits : List Char) (point : Int) : List Char :=
  if point ≤ 0 then '0' :: '.' :: (zeros (-point).toNat ++ digits)
  else
    let before := point.toNat
    if digits.length ≤ before then
      digits ++ zeros (before - digits.length) ++ (if style.pointed then ['.', '0'] else [])
    else digits.take before ++ '.' :: digits.drop before

/-- One digit, the rest after a point, and the power of ten with its sign. -/
def scientific (digits : List Char) (power : Int) : List Char :=
  let rest := digits.drop 1
  digits.take 1 ++ (if rest.isEmpty then [] else '.' :: rest) ++
    'e' :: (if power < 0 then '-' else '+') :: Nat.toDigits 10 power.natAbs

/-- A decimal is written in positions while its leading power is within the style's bounds. -/
def NumberStyle.write (style : NumberStyle) (decimal : Decimal) : List Char :=
  let digits := Nat.toDigits 10 decimal.digits
  let point := (digits.length : Int) + decimal.exponent
  let power := point - 1
  if style.lowest.all (· ≤ power) && style.highest.all (power ≤ ·) then
    positional style digits point
  else scientific digits power

/-- A finite number is written with its sign, and a zero as one digit under the style. -/
def NumberStyle.writeDyadic (style : NumberStyle) (d : Dyadic) : String :=
  let body :=
    if d.significand == 0 then positional style ['0'] 1 else style.write (shortestDecimal d)
  String.ofList (if d.negative then '-' :: body else body)

end CalcFields
