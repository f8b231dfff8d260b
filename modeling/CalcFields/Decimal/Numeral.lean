import CalcFields.Decimal.Dyadic

/-! Numerals are decimal texts with an optional fraction and power, read to the nearest double. -/

namespace CalcFields

/-- A numeral is a sign, a whole number of digits and the power of ten of the last digit. -/
structure Numeral where
  negative : Bool
  digits : Nat
  exponent : Int
deriving DecidableEq, Repr

/-- The value of a decimal digit. -/
def digitValue (c : Char) : Nat :=
  c.toNat - '0'.toNat

/-- The number that a run of digits spells. -/
def digitsValue (cs : List Char) : Nat :=
  cs.foldl (fun n c => 10 * n + digitValue c) 0

/-- Splits off the leading run of decimal digits. -/
def takeDigits (cs : List Char) : List Char × List Char :=
  (cs.takeWhile Char.isDigit, cs.dropWhile Char.isDigit)

/-- Splits off an optional sign; the flag says whether it was a minus. -/
def takeSign : List Char → Bool × List Char
  | '-' :: rest => (true, rest)
  | '+' :: rest => (false, rest)
  | cs => (false, cs)

/-- An exponent is a mark, an optional sign and at least one digit, and absent it is zero. -/
def readExponent? : List Char → Option Int
  | [] => some 0
  | mark :: rest =>
    if mark == 'e' || mark == 'E' then
      let (negative, unsigned) := takeSign rest
      let (digits, tail) := takeDigits unsigned
      if digits.isEmpty || !tail.isEmpty then none
      else
        let size : Int := digitsValue digits
        some (if negative then -size else size)
    else none

namespace Numeral

/-- A numeral has digits before or after its point, and perhaps a sign and an exponent. -/
def read? (cs : List Char) : Option Numeral :=
  let (negative, unsigned) := takeSign cs
  let (whole, afterWhole) := takeDigits unsigned
  let (fraction, rest) :=
    match afterWhole with
    | '.' :: tail => takeDigits tail
    | _ => ([], afterWhole)
  if whole.isEmpty && fraction.isEmpty then none
  else do
    let power ← readExponent? rest
    return ⟨negative, digitsValue (whole ++ fraction), power - (fraction.length : Int)⟩

/-- The nearest double, infinite beyond the greatest and zero below half of the least. -/
def toFloat (n : Numeral) : Float :=
  let size :=
    if n.digits == 0 then 0.0
    else
      let place := ((Nat.toDigits 10 n.digits).length : Int) + n.exponent
      if 310 < place then 1.0 / 0.0
      else if place < -330 then 0.0
      else Float.ofScientific n.digits (n.exponent < 0) n.exponent.natAbs
  if n.negative then -size else size

end Numeral

end CalcFields
