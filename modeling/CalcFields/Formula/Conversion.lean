import CalcFields.Formula.Dating
import CalcFields.Formula.Error

/-!
A cast converts a value to a type that a text names. Null stays null whatever the type; a strict
cast fails on a value without a form of the type and on an unknown type, and another one gives null.
-/

namespace CalcFields

namespace CastKind

/-- The type that a name stands for. -/
def named? : String → Option CastKind
  | "string" | "text" => some text
  | "int" | "integer" | "bigint" => some integer
  | "float" | "double" | "decimal" | "numeric" => some decimal
  | "bool" | "boolean" => some boolean
  | "date" => some date
  | "datetime" | "timestamp" => some datetime
  | _ => none

end CastKind

namespace Value

/-- The truth value that a word stands for. -/
def truthWord? : String → Option Bool
  | "true" | "1" | "yes" | "y" => some true
  | "false" | "0" | "no" | "n" => some false
  | _ => none

/-- Numbers other than zero are true; what is no number has to be one of the words. -/
def truth? : Value → Option Bool
  | bool b => some b
  | number x => some (x != 0)
  | other => truthWord? other.plainName

/-- The form of a value under a type, none when it has no such form. -/
def convert? (v : Value) : CastKind → Option Value
  | .text => some (string v.text)
  | .integer => v.toNumber?.map fun x => number (truncate x)
  | .decimal => v.toNumber?.map number
  | .boolean => v.truth?.map bool
  | .date => v.instant?.map fun t => string t.dateText
  | .datetime => v.instant?.map fun t => string t.text

/-- Casts a value to the type that a text names; the result and the error go on as the kind of the
cast wants them. -/
def castWith {α : Type} (done : Value → α) (fail : EvalError → α) (v : Value) (target : String) :
    α :=
  if v.isNull then done null
  else
    match CastKind.named? (lowercase (trim target)) with
    | none => fail (.unsupportedCastType target)
    | some kind =>
      match v.convert? kind with
      | some result => done result
      | none => fail (.cast kind v)

/-- A strict cast fails with its error. -/
def cast (v : Value) (target : String) : Except EvalError Value :=
  v.castWith .ok .error target

/-- Another cast gives null instead of an error. -/
def tryCast (v : Value) (target : String) : Value :=
  v.castWith id (fun _ => null) target

end Value

namespace Conversion

/-- The value of a conversion, none when the number of arguments does not fit. -/
def evaluate? : Conversion → List Value → Option (Except EvalError Value)
  | cast, [v, target] => some (v.cast target.text)
  | tryCast, [v, target] => some (.ok (v.tryCast target.text))
  | _, _ => none

end Conversion

end CalcFields
