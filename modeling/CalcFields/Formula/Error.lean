import CalcFields.Formula.Function
import CalcFields.Formula.Token

/-! A formula fails to compile for one cause at one position, or fails on one record. -/

namespace CalcFields

/-- What a parser could have gone on with. -/
inductive Expectation where
  | operand
  | endOfFormula
  | closing
  | separator
deriving DecidableEq, Repr

/-- The words for an expectation. -/
def Expectation.label : Expectation → String
  | operand => "an operand"
  | endOfFormula => "end of formula"
  | closing => "')'"
  | separator => "',' or ')'"

/-- What is wrong with the text of a formula. -/
inductive SyntaxError where
  | unexpectedChar (c : Char)
  | unterminatedString
  /-- Double braces without their end, or with something other than a name between them. -/
  | invalidFieldRef (text : String)
  | invalidNumber (text : String)
  | unexpectedToken (found : Token) (expected : Expectation)
  | unexpectedEnd (expected : Expectation)
  | unknownIdentifier (name : String)
  | unknownFunction (name : String)
  | arity (f : Function) (got : Nat)

/-- The message of a cause. -/
def SyntaxError.message : SyntaxError → String
  | unexpectedChar c => "unexpected character '" ++ c.toString ++ "'"
  | unterminatedString => "unterminated string literal"
  | invalidFieldRef text => "malformed field reference '" ++ text ++ "'"
  | invalidNumber text => "invalid number '" ++ text ++ "'"
  | unexpectedToken found expected =>
    "unexpected " ++ found.label ++ ", expected " ++ expected.label
  | unexpectedEnd expected => "unexpected end of formula, expected " ++ expected.label
  | unknownIdentifier name => "unknown identifier '" ++ name ++ "'"
  | unknownFunction name => "unknown function " ++ name ++ "()"
  | arity f got =>
    f.name ++ "() takes " ++ f.arity.label ++ " argument(s), got " ++ toString got

/-- A cause and the byte position where it was met. -/
structure Fault where
  position : Nat
  cause : SyntaxError

/-- A formula that does not compile. -/
structure CompileError where
  formula : String
  fault : Fault

/-- The message names the formula, the cause and the position. -/
def CompileError.message (e : CompileError) : String :=
  "Failed to compile formula `" ++ e.formula ++ "`: " ++ e.fault.cause.message ++
    " (at offset " ++ toString e.fault.position ++ ")"

/-- A type that a cast converts to. -/
inductive CastKind where
  | text
  | integer
  | decimal
  | boolean
  | date
  | datetime
deriving DecidableEq, Repr

/-- The word for a type in a message. -/
def CastKind.label : CastKind → String
  | text => "text"
  | integer => "integer"
  | decimal => "decimal"
  | boolean => "boolean"
  | date => "date"
  | datetime => "datetime"

/-- A formula that compiles can fail on a record only in a strict cast. -/
inductive EvalError where
  /-- The value has no form of the wanted type. -/
  | cast (kind : CastKind) (value : Value)
  /-- No type has this name. -/
  | unsupportedCastType (target : String)

/-- The message of an evaluation error. -/
def EvalError.message : EvalError → String
  | cast kind value => "Invalid " ++ kind.label ++ " cast for value " ++ value.display
  | unsupportedCastType target => "Unsupported cast type: " ++ target

end CalcFields
