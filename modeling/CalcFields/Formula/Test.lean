import CalcFields.Formula.Comparison
import CalcFields.Formula.Function

/-! The functions that test and compare values give truth values. -/

namespace CalcFields

namespace Test

/-- An array among the candidates is searched item by item. -/
def isCandidate (wanted : Value) : Value → Bool
  | .array items => items.any (· == wanted)
  | other => other == wanted

/-- A comparison function accepts some orders of its operands. -/
def ordered (accepts : Ordering → Bool) (a b : Value) : Value :=
  .bool ((a.order? b).any accepts)

/-- The value of a test, none when the number of arguments does not fit. -/
def evaluate? : Test → List Value → Option Value
  | not, [a] => some (.bool !a.isTruthy)
  | nullIf, [a, b] => some (if a == b then .null else a)
  | isNull, [a] => some (.bool a.isNull)
  | oneOf, wanted :: candidates => some (.bool (candidates.any (isCandidate wanted)))
  | between, [v, low, high] => some (.bool (v.liesBetween low high))
  | equal, [a, b] => some (.bool (a == b))
  | notEqual, [a, b] => some (.bool (a != b))
  | less, [a, b] => some (ordered Ordering.isLT a b)
  | lessEqual, [a, b] => some (ordered Ordering.isLE a b)
  | greater, [a, b] => some (ordered Ordering.isGT a b)
  | greaterEqual, [a, b] => some (ordered Ordering.isGE a b)
  | _, _ => none

end Test

end CalcFields
