/-!
The proleptic Gregorian calendar numbers days from the first of January 1970, before which numbers
are negative, and extends its leap rule to all years.
-/

namespace CalcFields

/-- A year is leap when four divides it, except for the hundreds that four hundred does not. -/
def isLeap (year : Int) : Bool :=
  year % 4 == 0 && (year % 100 != 0 || year % 400 == 0)

/-- The day number of the first of January. -/
def yearStart (year : Int) : Int :=
  let past := year - 1
  365 * past + past / 4 - past / 100 + past / 400 - 719162

/-- The lengths of the months of a year. -/
def monthLengths (year : Int) : List Nat :=
  [31, if isLeap year then 29 else 28, 31, 30, 31, 30, 31, 31, 30, 31, 30, 31]

/-- The length of a month, where January is one. -/
def monthLength (year : Int) (month : Nat) : Nat :=
  ((monthLengths year)[month - 1]?).getD 0

/-- The number of days of a year before one of its months. -/
def daysBeforeMonth (year : Int) (month : Nat) : Nat :=
  ((monthLengths year).take (month - 1)).foldl (· + ·) 0

/-- A date of the calendar, where January and the first of a month are one. -/
structure Date where
  year : Int
  month : Nat
  day : Nat
deriving DecidableEq, Repr

/-- The earliest year that dates are kept in. -/
def minYear : Int := -262143

/-- The latest year that dates are kept in. -/
def maxYear : Int := 262142

/-- The year of a day number is near the mean estimate, which is off by one at most. -/
def yearOfDay (day : Int) : Int :=
  let guess := (day + 719162) * 400 / 146097 + 1
  if day < yearStart guess then guess - 1
  else if yearStart (guess + 1) ≤ day then guess + 1
  else guess

/-- Counts months off a day of the year; the result is the month and the day in it. -/
def splitMonth (month : Nat) (dayOfYear : Nat) : List Nat → Nat × Nat
  | [] => (month, dayOfYear + 1)
  | length :: rest =>
    if dayOfYear < length || rest.isEmpty then (month, dayOfYear + 1)
    else splitMonth (month + 1) (dayOfYear - length) rest

namespace Date

/-- The day number of a date. -/
def toDay (date : Date) : Int :=
  yearStart date.year + daysBeforeMonth date.year date.month + date.day - 1

/-- The date of a day number. -/
def ofDay (day : Int) : Date :=
  let year := yearOfDay day
  let (month, inMonth) := splitMonth 1 (day - yearStart year).toNat (monthLengths year)
  ⟨year, month, inMonth⟩

/-- A year is kept when it lies within the bounds. -/
def keepsYear (year : Int) : Bool :=
  minYear ≤ year && year ≤ maxYear

/-- A date exists when its month has its day and its year is kept. -/
def exists? (year : Int) (month day : Nat) : Option Date :=
  if keepsYear year && 1 ≤ month && month ≤ 12 && 1 ≤ day && day ≤ monthLength year month then
    some ⟨year, month, day⟩
  else none

end Date

/-- A day number is kept when its year is. -/
def keepsDay (day : Int) : Bool :=
  yearStart minYear ≤ day && day < yearStart (maxYear + 1)

/-- Months out of range roll over into other years, and days out of range into other months. -/
def Date.rolledOver? (year month day : Int) : Option Date :=
  let months := year * 12 + (month - 1)
  let first := Date.toDay ⟨months / 12, (months % 12).toNat + 1, 1⟩
  if Date.keepsYear (months / 12) && keepsDay (first + (day - 1)) then
    some (Date.ofDay (first + (day - 1)))
  else none

/-- The day of the week, where Monday is zero. -/
def weekday (day : Int) : Nat :=
  ((day + 3) % 7).toNat

/-- The number of the week, which belongs to the year of its Thursday. -/
def weekOfYear (day : Int) : Nat :=
  let thursday := day - weekday day + 3
  ((thursday - yearStart (yearOfDay thursday)) / 7 + 1).toNat

end CalcFields
