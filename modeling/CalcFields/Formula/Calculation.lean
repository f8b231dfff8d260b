import CalcFields.Formula.Function
import CalcFields.Value.Basic

/-! Functions that calculate with numbers give null for what is no number, unless they say so. -/

namespace CalcFields

/-- A half rounds up at the given number of decimal places, which may be negative. -/
def roundHalfUp (x places : Float) : Float :=
  let factor := Float.pow 10 places
  floorFloat (x * factor + 0.5) / factor

/-- The sign of a number as a number. -/
def signOf (x : Float) : Float :=
  if 0 < x then 1 else if x < 0 then -1 else 0

namespace Calculation

/-- A calculation with one number. -/
def withNumber (calculate : Float → Option Float) (a : Value) : Value :=
  .ofNumber? (a.toNumber?.bind calculate)

/-- A calculation with two numbers, null when one of the arguments is none. -/
def withNumbers (calculate : Float → Float → Option Float) (a b : Value) : Value :=
  .ofNumber? <|
    match a.toNumber?, b.toNumber? with
    | some x, some y => calculate x y
    | _, _ => none

/-- The numbers among the arguments. -/
def numbersIn (args : List Value) : List Float :=
  args.filterMap Value.toNumber?

/-- Arguments that are no numbers count as zero in a sum, which starts from minus zero. -/
def sum (args : List Value) : Float :=
  (numbersIn args).foldl (· + ·) (-0.0)

/-- What follows the first argument is taken off it, where what is no number counts as zero. -/
def takeOff (first : Float) (rest : List Value) : Float :=
  rest.foldl (fun left a => left - a.toNumber?.getD 0) first

/-- The product of numbers only, none when one argument is no number. -/
def product? (args : List Value) : Option Float :=
  args.foldlM (fun x a => a.toNumber?.map (x * ·)) 1

/-- The first of the numbers that no other one beats. -/
def best? (beats : Float → Float → Bool) (args : List Value) : Option Float :=
  match numbersIn args with
  | [] => none
  | first :: rest => some (rest.foldl (fun held x => if beats x held then x else held) first)

/-- The value of a calculation, none when the number of arguments does not fit. -/
def evaluate? : Calculation → List Value → Option Value
  | round, [a] => some (withNumber (fun x => some (roundHalfUp x 2)) a)
  | round, [a, places] =>
    some (withNumber (fun x => some (roundHalfUp x (truncate (places.toNumber?.getD 0)))) a)
  | abs, [a] => some (withNumber (fun x => some x.abs) a)
  | ceiling, [a] => some (withNumber (fun x => some (ceilingFloat x)) a)
  | floor, [a] => some (withNumber (fun x => some (floorFloat x)) a)
  | add, args => some (.number (sum args))
  | subtract, [] => some .null
  | subtract, a :: rest => some (withNumber (fun x => some (takeOff x rest)) a)
  | multiply, [] => some .null
  | multiply, args => some (.ofNumber? (product? args))
  | divide, [a, b] => some (withNumbers (fun x y => if y != 0 then some (x / y) else none) a b)
  | modulo, [a, b] =>
    some (withNumbers (fun x y => if y != 0 then some (remainder x y) else none) a b)
  | negate, [a] => some (withNumber (fun x => some (-x)) a)
  | power, [a, b] => some (withNumbers (fun x y => some (Float.pow x y)) a b)
  | squareRoot, [a] => some (withNumber (fun x => if 0 ≤ x then some x.sqrt else none) a)
  | sign, [a] => some (withNumber (fun x => some (signOf x)) a)
  | greatest, args => some (.ofNumber? (best? (fun x held => held < x) args))
  | least, args => some (.ofNumber? (best? (fun x held => x < held) args))
  | _, _ => none

end Calculation

end CalcFields
