import CalcFields.Calendar.Reader
import CalcFields.Value.Basic

/-!
Values are compared in two ways. The relational operators compare two strings as texts and all else
as numbers, where null and blank strings are zero. The comparison functions first try both values as
numbers, then as instants, and fall back to the operators.
-/

namespace CalcFields

/-- The order of two numbers, none when one of them is not a number. -/
def compareNumbers (x y : Float) : Option Ordering :=
  if x < y then some .lt
  else if y < x then some .gt
  else if x == y then some .eq
  else none

namespace Value

/-- The number that a relational operator sees: null and blank strings are zero. -/
def looseNumber? : Value → Option Float
  | null => some 0
  | string s => if isBlankText s then some 0 else parseNumber? s
  | other => other.toNumber?

/-- The order of two values under the relational operators, none when they have none. -/
def looseOrder? : Value → Value → Option Ordering
  | string a, string b => some (compare a b)
  | a, b => do compareNumbers (← a.looseNumber?) (← b.looseNumber?)

/-- The instant of a finite number of milliseconds since the start of 1970, or of a text. -/
def instant? : Value → Option Instant
  | number x => if x.isFinite then Instant.ofMillis? (saturated64 x) else none
  | string s => readInstant? s
  | _ => none

/-- The order of two values under the comparison functions. -/
def order? (a b : Value) : Option Ordering :=
  match a.toNumber?, b.toNumber? with
  | some x, some y => compareNumbers x y
  | _, _ =>
    match a.instant?, b.instant? with
    | some s, some t => some (s.compare t)
    | _, _ => looseOrder? a b

/-- A value lies between two others when all three are numbers, all three are instants, or else by
the relational operators. -/
def liesBetween (v low high : Value) : Bool :=
  if v.isNull || low.isNull || high.isNull then false
  else
    match v.toNumber?, low.toNumber?, high.toNumber? with
    | some x, some a, some b => a ≤ x && x ≤ b
    | _, _, _ =>
      match v.instant?, low.instant?, high.instant? with
      | some t, some a, some b => (t.compare a).isGE && (t.compare b).isLE
      | _, _, _ => (looseOrder? v low).any Ordering.isGE && (looseOrder? v high).any Ordering.isLE

end Value

end CalcFields
