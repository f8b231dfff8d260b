import CalcFields.Calendar.Instant

/-! Dates are written year first, and instants with milliseconds in universal time. -/

namespace CalcFields

/-- A number with zeros in front up to a width. -/
def padded (width n : Nat) : String :=
  let digits := Nat.toDigits 10 n
  String.ofList (List.replicate (width - digits.length) '0' ++ digits)

/-- Years from 0 to 9999 have four digits; the others have a sign and at least four. -/
def yearText (year : Int) : String :=
  if 0 ≤ year && year ≤ 9999 then padded 4 year.toNat
  else (if year < 0 then "-" else "+") ++ padded 4 year.natAbs

/-- The text of a date. -/
def Date.text (date : Date) : String :=
  yearText date.year ++ "-" ++ padded 2 date.month ++ "-" ++ padded 2 date.day

namespace Instant

/-- The text of the date of an instant. -/
def dateText (t : Instant) : String :=
  t.date.text

/-- The text of an instant; a leap second is the sixtieth of its minute. -/
def text (t : Instant) : String :=
  let second := t.second % 60 + t.nano / nanosPerSecond
  let millis := t.nano % nanosPerSecond / 1000000
  t.dateText ++ "T" ++ padded 2 (t.second / 3600) ++ ":" ++ padded 2 (t.second / 60 % 60) ++ ":" ++
    padded 2 second ++ "." ++ padded 3 millis ++ "Z"

/-- The text of a result in a unit: a date for a day or more, else an instant. -/
def textFor (t : Instant) (unit : TimeUnit) : String :=
  if unit.isDateOnly then t.dateText else t.text

end Instant

end CalcFields
