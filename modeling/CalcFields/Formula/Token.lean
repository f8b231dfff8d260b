import CalcFields.Value.Text

/-! Tokens are the words of a formula, each with the byte position at which it starts. -/

namespace CalcFields

/-- A word of a formula. -/
inductive Token where
  /-- A field of the same record, in double braces. -/
  | field (name : String)
  /-- A field of another collection, with a dot inside the braces. -/
  | foreign (collection name : String)
  | number (x : Float)
  | string (s : String)
  /-- A function name or one of the words for operators and constants. -/
  | word (name : String)
  | plus
  | minus
  | star
  | slash
  | percent
  | equal
  | notEqual
  | less
  | lessEqual
  | greater
  | greaterEqual
  | bang
  | opening
  | closing
  | comma

namespace Token

/-- A number in a message, where infinity has its short name. -/
def numberLabel (x : Float) : String :=
  if x.isInf then (if x < 0 then "-inf" else "inf") else numberText x

/-- The name of a token in a message. -/
def label : Token → String
  | field name => "field \x7b\x7b" ++ name ++ "\x7d\x7d"
  | foreign collection name => "field \x7b\x7b" ++ collection ++ "." ++ name ++ "\x7d\x7d"
  | number x => "number " ++ numberLabel x
  | string s => "string \"" ++ s ++ "\""
  | word name => "'" ++ name ++ "'"
  | plus => "'+'"
  | minus => "'-'"
  | star => "'*'"
  | slash => "'/'"
  | percent => "'%'"
  | equal => "'='"
  | notEqual => "'<>'"
  | less => "'<'"
  | lessEqual => "'<='"
  | greater => "'>'"
  | greaterEqual => "'>='"
  | bang => "'!'"
  | opening => "'('"
  | closing => "')'"
  | comma => "','"

end Token

/-- A token and the byte position of its first character. -/
structure Placed where
  token : Token
  position : Nat

end CalcFields
