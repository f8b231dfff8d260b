import CalcFields.Decimal.Style
import CalcFields.Json.Basic

/-! Writing a JSON document gives its one compact text. -/

namespace CalcFields

namespace Json

/-- Doubles are written in positions for leading powers from -5 to 15, whole ones with a zero
after the point, and else with a signed power. -/
def numberStyle : NumberStyle := ⟨some (-5), some 15, true⟩

/-- A digit of a control character's escape. -/
def hexDigit (n : Nat) : Char :=
  if n < 10 then Char.ofNat (48 + n) else Char.ofNat (87 + n)

/-- Quotes, backslashes and control characters are escaped, and nothing else is. -/
def escape (c : Char) : List Char :=
  match c with
  | '"' => ['\\', '"']
  | '\\' => ['\\', '\\']
  | '\x08' => ['\\', 'b']
  | '\x0c' => ['\\', 'f']
  | '\n' => ['\\', 'n']
  | '\r' => ['\\', 'r']
  | '\t' => ['\\', 't']
  | _ =>
    if c.toNat < 0x20 then
      ['\\', 'u', '0', '0', hexDigit (c.toNat / 16), hexDigit (c.toNat % 16)]
    else [c]

/-- A string literal puts quotes around its escaped characters. -/
def writeString (s : String) : String :=
  String.ofList ('"' :: s.toList.flatMap escape ++ ['"'])

/-- A double without a finite value is written as null. -/
def writeReal (x : Float) : String :=
  match Dyadic.ofFloat? x with
  | some d => numberStyle.writeDyadic d
  | none => "null"

mutual

/-- The compact text of a document. -/
def write : Json → String
  | null => "null"
  | bool b => if b then "true" else "false"
  | integer n => toString n
  | real x => writeReal x
  | string s => writeString s
  | array items => "[" ++ ",".intercalate (writeItems items) ++ "]"
  | object members => "\x7b" ++ ",".intercalate (writeMembers members) ++ "\x7d"
  | unreadable => "null"

/-- The texts of the items of an array. -/
def writeItems : List Json → List String
  | [] => []
  | item :: rest => item.write :: writeItems rest

/-- The texts of the members of an object. -/
def writeMembers : List (String × Json) → List String
  | [] => []
  | (name, item) :: rest => (writeString name ++ ":" ++ item.write) :: writeMembers rest

end

end Json

end CalcFields
