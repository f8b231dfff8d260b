import CalcFields.Calendar.Writer
import CalcFields.Formula.Comparison
import CalcFields.Formula.Function
import CalcFields.Text.LetterCase
import CalcFields.Value.Text

/-!
The functions on dates and instants take the name of a unit and give texts: dates for units of a day
or more, instants in universal time for finer ones. They give null when something does not fit.
-/

namespace CalcFields

/-- A name in an argument counts without the blanks around it and in any letter case. -/
def Value.plainName (v : Value) : String :=
  lowercase (trim v.text)

/-- The unit that an argument names. -/
def Value.timeUnit? (v : Value) : Option TimeUnit :=
  TimeUnit.ofWord? v.plainName

namespace Instant

/-- Adds an amount of units: whole months for calendar units, whole milliseconds for fixed ones. -/
def addUnits? (t : Instant) (unit : TimeUnit) (amount : Float) : Option Instant :=
  if !amount.isFinite then none
  else
    match unit.measure with
    | .calendar months => t.addMonths? (saturated64 (amount * Float.ofNat months))
    | .fixed millis => t.addMillis? (saturated64 (amount * Float.ofNat millis))

/-- A part of an instant by its name; weeks are counted from the first Thursday of the year and days
of the week from Monday. -/
def part? (t : Instant) (name : String) : Option Int :=
  let date := t.date
  match name with
  | "year" => some date.year
  | "month" => some date.month
  | "day" => some date.day
  | "day_of_month" => some date.day
  | "hour" => some (t.second / 3600 : Nat)
  | "minute" => some (t.second / 60 % 60 : Nat)
  | "second" => some (t.second % 60 : Nat)
  | "quarter" => some ((date.month - 1) / 3 + 1 : Nat)
  | "week" => some (weekOfYear t.day)
  | "dow" => some (weekday t.day + 1 : Nat)
  | "day_of_week" => some (weekday t.day + 1 : Nat)
  | _ => none

end Instant

namespace Dating

/-- The text of a result in a unit, or null without one. -/
def inUnit (unit : TimeUnit) : Option Instant → Value
  | some t => .string (t.textFor unit)
  | none => .null

/-- The whole units from a start to an end. -/
def differenceOf (unit start stop : Value) : Value :=
  match unit.timeUnit?, start.instant?, stop.instant? with
  | some u, some a, some b => .ofInt (Instant.unitsBetween u a b)
  | _, _, _ => .null

/-- The instant that lies an amount of units after a base. -/
def sumOf (unit amount base : Value) : Value :=
  match unit.timeUnit?, amount.toNumber?, base.instant? with
  | some u, some x, some t => inUnit u (t.addUnits? u x)
  | _, _, _ => .null

/-- The start of the unit around an instant. -/
def unitStart (unit v : Value) : Value :=
  match unit.timeUnit?, v.instant? with
  | some u, some t => inUnit u (t.startOf? u)
  | _, _ => .null

/-- The last millisecond of the unit around an instant. -/
def unitEnd (unit v : Value) : Value :=
  match unit.timeUnit?, v.instant? with
  | some u, some t => inUnit u (t.endOf? u)
  | _, _ => .null

/-- The named part of an instant. -/
def partOf (name v : Value) : Value :=
  match v.instant? with
  | some t =>
    match t.part? name.plainName with
    | some n => .ofInt n
    | none => .null
  | none => .null

/-- The date of a year, a month and a day, each without its fraction. -/
def dateOf (year month day : Value) : Value :=
  match year.toNumber?, month.toNumber?, day.toNumber? with
  | some y, some m, some d =>
    match Date.rolledOver? (saturated64 y) (saturated64 m) (saturated64 d) with
    | some date => .string date.text
    | none => .null
  | _, _, _ => .null

/-- The value of a function at a clock, none when the number of arguments does not fit. -/
def evaluate? (now : Instant) : Dating → List Value → Option Value
  | .today, [] => some (.string now.dateText)
  | .now, [] => some (.string now.text)
  | .difference, [unit, start, stop] => some (differenceOf unit start stop)
  | .differenceEndFirst, [stop, start, unit] => some (differenceOf unit start stop)
  | .add, [unit, amount, base] => some (sumOf unit amount base)
  | .truncate, [unit, v] => some (unitStart unit v)
  | .startOf, [unit, v] => some (unitStart unit v)
  | .endOf, [unit, v] => some (unitEnd unit v)
  | .extract, [name, v] => some (partOf name v)
  | .makeDate, [year, month, day] => some (dateOf year month day)
  | _, _ => none

end Dating

end CalcFields
