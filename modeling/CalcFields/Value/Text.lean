import CalcFields.Json.Writer
import CalcFields.Value.Document

/-! The text of a value is what formulas concatenate and what messages show. -/

namespace CalcFields

/-- Numbers in texts are written in positions at any size, whole ones without a point. -/
def textStyle : NumberStyle := ⟨none, none, false⟩

/-- The text of a number: its shortest digits in positions, with one text for both zeros. -/
def numberText (x : Float) : String :=
  match Dyadic.ofFloat? x with
  | some d => if d.significand == 0 then "0" else textStyle.writeDyadic d
  | none => if x.isNaN then "NaN" else if x < 0 then "-Infinity" else "Infinity"

namespace Value

mutual

/-- Null is the empty text, arrays are joined by commas and objects are compact documents. -/
def text : Value → String
  | null => ""
  | bool b => if b then "true" else "false"
  | number x => numberText x
  | string s => s
  | array items => ",".intercalate (itemTexts items)
  | object members => (object members).toJson.write

/-- The texts of the items of an array. -/
def itemTexts : List Value → List String
  | [] => []
  | item :: rest => item.text :: itemTexts rest

end

/-- In a message, null is named and a string is quoted. -/
def display : Value → String
  | null => "null"
  | string s => "\"" ++ s ++ "\""
  | other => other.text

end Value

end CalcFields
