import CalcFields.Formula.Function
import CalcFields.Value.Basic

/-! Expressions are the syntax trees of formulas. -/

namespace CalcFields

/-- An operator in front of one operand. -/
inductive UnaryOp where
  | negate
  | plus
  | not
deriving DecidableEq, Repr

/-- An operator between two operands. -/
inductive BinaryOp where
  | add
  | subtract
  | multiply
  | divide
  | modulo
  | equal
  | notEqual
  | less
  | lessEqual
  | greater
  | greaterEqual
  | and
  | or
deriving DecidableEq, Repr

/-- The symbol of an operator. -/
def BinaryOp.symbol : BinaryOp → String
  | add => "+"
  | subtract => "-"
  | multiply => "*"
  | divide => "/"
  | modulo => "%"
  | equal => "="
  | notEqual => "<>"
  | less => "<"
  | lessEqual => "<="
  | greater => ">"
  | greaterEqual => ">="
  | and => "AND"
  | or => "OR"

/-- The syntax tree of a formula. -/
inductive Expr where
  | literal (v : Value)
  /-- A field of the record that the formula is evaluated on. -/
  | field (name : String)
  /-- A field of another collection, which has no value here. -/
  | foreign (collection name : String)
  | unary (op : UnaryOp) (operand : Expr)
  | binary (op : BinaryOp) (left right : Expr)
  | call (f : Function) (args : List Expr)
deriving Inhabited

namespace Expr

mutual

/-- The fields of the record that a tree names, from left to right, as often as it names them. -/
def mentions : Expr → List String
  | literal _ => []
  | field name => [name]
  | foreign _ _ => []
  | unary _ operand => operand.mentions
  | binary _ left right => left.mentions ++ right.mentions
  | call _ args => mentionsAll args

/-- The fields that a list of trees names. -/
def mentionsAll : List Expr → List String
  | [] => []
  | arg :: rest => arg.mentions ++ mentionsAll rest

end

/-- The fields that a tree names, each once, in the order of their first mention. -/
def fields (e : Expr) : List String :=
  e.mentions.eraseDups

end Expr

end CalcFields
