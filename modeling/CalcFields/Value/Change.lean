import CalcFields.Value.Text

/-!
A new value is a change of a stored one unless both say the same in another representation.
-/

namespace CalcFields

/-- Numbers closer than this are the same. -/
def numericTolerance : Float := 1e-7

namespace Value

/-- The usual encodings of truth values become truth values. -/
def decodeTruth : Value → Value
  | number x => if x == 1 then bool true else if x == 0 then bool false else number x
  | string s =>
    if s == "1" || s == "true" then bool true
    else if s == "0" || s == "false" then bool false
    else string s
  | other => other

/-- Two decoded values agree by tolerance for numbers and by text for other scalars. -/
def agrees : Value → Value → Bool
  | number x, number y => (x.isNaN && y.isNaN) || (x - y).abs < numericTolerance
  | array _, array _ => false
  | object _, object _ => false
  | a, b => a.text == b.text

/-- A stored and a fresh value are equivalent when writing the fresh one would change nothing. -/
def equivalent (old new : Value) : Bool :=
  if old == new then true
  else if old.isNull || new.isNull then false
  else
    let a := old.decodeTruth
    let b := new.decodeTruth
    a == b || a.agrees b

end Value

end CalcFields
