import CalcFields.Formula.Comparison
import CalcFields.Formula.Expr
import CalcFields.Value.Text

/-!
Operators act on values. Arithmetic is null unless both operands are numbers, and where it divides
by zero; a sum joins texts when it cannot add and one side is a string.
-/

namespace CalcFields

/-- The quotient of two numbers, none by zero. -/
def quotient? (x y : Float) : Option Float :=
  if y == 0 then none else some (x / y)

/-- The remainder of two numbers, none by zero. -/
def remainder? (x y : Float) : Option Float :=
  if y == 0 then none else some (remainder x y)

namespace Value

/-- A calculation with two numbers is null when an operand is no number or there is no result. -/
def arithmetic (calculate : Float → Float → Option Float) (a b : Value) : Value :=
  match a.toNumber?, b.toNumber? with
  | some x, some y => ofNumber? (calculate x y)
  | _, _ => null

/-- The value is a string. -/
def isString : Value → Bool
  | string _ => true
  | _ => false

/-- The sum of two numbers, or the joined texts when one side is a string. -/
def plus (a b : Value) : Value :=
  match a.toNumber?, b.toNumber? with
  | some x, some y => number (x + y)
  | _, _ => if a.isString || b.isString then string (a.text ++ b.text) else null

/-- A number with its sign changed, and null for what is no number. -/
def negated (a : Value) : Value :=
  ofNumber? (a.toNumber?.map fun x => -x)

/-- A relational operator accepts some orders of its operands. -/
def related (accepts : Ordering → Bool) (a b : Value) : Value :=
  bool ((looseOrder? a b).any accepts)

end Value

/-- The value of an operator in front of an operand. -/
def UnaryOp.apply (op : UnaryOp) (a : Value) : Value :=
  match op with
  | negate => a.negated
  | plus => .ofNumber? a.toNumber?
  | not => .bool !a.isTruthy

namespace BinaryOp

/-- An operator that is decided by its left operand gives that operand. -/
def stopsAt (op : BinaryOp) (left : Value) : Bool :=
  match op with
  | and => !left.isTruthy
  | or => left.isTruthy
  | _ => false

/-- The value of an operator between two operands that its left one does not decide. -/
def apply (op : BinaryOp) (a b : Value) : Value :=
  match op with
  | add => a.plus b
  | subtract => .arithmetic (fun x y => some (x - y)) a b
  | multiply => .arithmetic (fun x y => some (x * y)) a b
  | divide => .arithmetic quotient? a b
  | modulo => .arithmetic remainder? a b
  | equal => .bool (a == b)
  | notEqual => .bool (a != b)
  | less => .related Ordering.isLT a b
  | lessEqual => .related Ordering.isLE a b
  | greater => .related Ordering.isGT a b
  | greaterEqual => .related Ordering.isGE a b
  | and => b
  | or => b

end BinaryOp

end CalcFields
