import CalcFields.Calendar.Gregorian

/-!
Instants are seconds of days in universal time with a fraction, which reaches past one second
within a leap second. Units of time start, end and are counted on them.
-/

namespace CalcFields

/-- The nanoseconds of a second. -/
abbrev nanosPerSecond : Nat := 1000000000

/-- A remainder of an integer is less than its divisor. -/
theorem toNat_emod_lt (a : Int) (n : Nat) (positive : 0 < n) : (a % n).toNat < n := by
  -- The remainder is neither negative nor as great as the divisor, so its size is itself.
  have := Int.emod_nonneg a (by omega : (n : Int) ≠ 0)
  have := Int.emod_lt_of_pos a (by omega : (0 : Int) < n)
  omega

/-- An instant: a day, a second of it and the nanoseconds since, up to two seconds of them. -/
structure Instant where
  day : Int
  second : Nat
  nano : Nat
  second_lt : second < 86400
  nano_lt : nano < 2000000000
deriving DecidableEq, Repr

/-- The units in which time is counted. -/
inductive TimeUnit where
  | millisecond
  | second
  | minute
  | hour
  | day
  | week
  | month
  | quarter
  | year
deriving DecidableEq, Repr

namespace TimeUnit

/-- The word for a unit. -/
def word : TimeUnit → String
  | millisecond => "millisecond"
  | second => "second"
  | minute => "minute"
  | hour => "hour"
  | day => "day"
  | week => "week"
  | month => "month"
  | quarter => "quarter"
  | year => "year"

/-- Every unit. -/
def all : List TimeUnit :=
  [millisecond, second, minute, hour, day, week, month, quarter, year]

/-- The unit of a word. -/
def ofWord? (word : String) : Option TimeUnit :=
  all.find? (·.word == word)

/-- Results in units of a day or more are dates without a time. -/
def isDateOnly : TimeUnit → Bool
  | day => true
  | week => true
  | month => true
  | quarter => true
  | year => true
  | _ => false

/-- How a unit is measured. -/
inductive Measure where
  /-- The same number of milliseconds always. -/
  | fixed (millis : Nat)
  /-- A number of calendar months. -/
  | calendar (months : Nat)

/-- The measure of a unit. -/
def measure : TimeUnit → Measure
  | millisecond => .fixed 1
  | second => .fixed 1000
  | minute => .fixed 60000
  | hour => .fixed 3600000
  | day => .fixed 86400000
  | week => .fixed 604800000
  | month => .calendar 1
  | quarter => .calendar 3
  | year => .calendar 12

end TimeUnit

namespace Instant

/-- The start of a day. -/
def midnight (day : Int) : Instant := ⟨day, 0, 0, by decide, by decide⟩

/-- The date of an instant. -/
def date (t : Instant) : Date := Date.ofDay t.day

/-- Instants are ordered by day, then second, then fraction. -/
def compare (a b : Instant) : Ordering :=
  (Ord.compare a.day b.day).then ((Ord.compare a.second b.second).then (Ord.compare a.nano b.nano))

/-- The instant of a number of milliseconds since the start of 1970. -/
def ofMillis? (millis : Int) : Option Instant :=
  let day := millis / 86400000
  if keepsDay day then
    have small : (millis % 86400000).toNat < 86400000 := toNat_emod_lt millis 86400000 (by decide)
    some ⟨day, (millis % 86400000).toNat / 1000, (millis % 86400000).toNat % 1000 * 1000000,
      by omega, by omega⟩
  else none

/-- The second of a day that a number of seconds from its start falls on, with its day. -/
def ofSeconds (day seconds : Int) (nano : Nat) (nano_lt : nano < 2000000000) : Instant :=
  ⟨day + seconds / 86400, (seconds % 86400).toNat, nano, toNat_emod_lt seconds 86400 (by decide),
    nano_lt⟩

/-- Moves an instant by whole seconds and keeps its fraction. -/
def shiftSeconds (t : Instant) (seconds : Int) : Instant :=
  ofSeconds t.day (t.second + seconds) t.nano t.nano_lt

/-- The instant a number of nanoseconds after a second of a day. -/
def ofNanos (day second nanos : Int) : Instant :=
  have small : (nanos % 1000000000).toNat < 1000000000 := toNat_emod_lt nanos 1000000000 (by decide)
  ofSeconds day (second + nanos / 1000000000) (nanos % 1000000000).toNat (by omega)

/-- Adds milliseconds. An instant in a leap second stays in that second while only a fraction moves
it, and else leaves it for the second after or the one before. -/
def addMillis (t : Instant) (millis : Int) : Instant :=
  let seconds := millis.tdiv 1000
  let fraction := millis.tmod 1000 * 1000000
  let sum := (t.nano : Int) + millis * 1000000
  if t.nano < nanosPerSecond then ofNanos t.day t.second sum
  else if 0 < seconds || (0 < fraction && 2 * (nanosPerSecond : Int) - fraction ≤ t.nano) then
    ofNanos t.day t.second (sum - nanosPerSecond)
  else if seconds < 0 then
    ofNanos t.day (t.second + 1) (sum - nanosPerSecond)
  else
    let nano := ((t.nano : Int) + fraction).toNat
    if small : nano < 2000000000 then ⟨t.day, t.second, nano, t.second_lt, small⟩ else t

/-- Adds milliseconds when the sum is kept. -/
def addMillis? (t : Instant) (millis : Int) : Option Instant :=
  let sum := t.addMillis millis
  if millis.natAbs ≤ maxMillis && keepsDay sum.day then some sum else none
where
  /-- The longest span of milliseconds. -/
  maxMillis : Nat := Nat.pow 2 63 - 1

/-- The length of a month by the first day of the month after it. -/
def lengthOfMonth (year : Int) (month : Nat) : Nat :=
  let (nextYear, nextMonth) := if month == 12 then (year + 1, 1) else (year, month + 1)
  if Date.keepsYear nextYear && keepsDay (Date.toDay ⟨nextYear, nextMonth, 1⟩ - 1) then
    monthLength year month
  else 28

/-- Adds calendar months; a day that the month lacks becomes its last one. -/
def addMonths? (t : Instant) (months : Int) : Option Instant :=
  let date := t.date
  let total := date.year * 12 + (date.month - 1 : Nat) + months
  let year := total / 12
  let month := (total % 12).toNat + 1
  if year < -2147483648 || 2147483647 < year then none
  else
    (Date.exists? year month (min date.day (lengthOfMonth year month))).map fun target =>
      { t with day := target.toDay }

/-- The time between two instants in nanoseconds. A leap second counts when it lies between the
times of day of the two. -/
def nanosBetween (start stop : Instant) : Int :=
  let seconds := (stop.second : Int) - start.second
  let leap : Int :=
    if start.second < stop.second then (if nanosPerSecond ≤ start.nano then 1 else 0)
    else if stop.second < start.second then (if nanosPerSecond ≤ stop.nano then -1 else 0)
    else 0
  ((stop.day - start.day) * 86400 + seconds + leap) * nanosPerSecond +
    ((stop.nano : Int) - start.nano)

/-- The time between two instants in milliseconds, toward zero. -/
def millisBetween (start stop : Instant) : Int :=
  (nanosBetween start stop).tdiv 1000000

/-- The months from one instant to another, less one when the day of the month is not reached. -/
def monthsBetween (start stop : Instant) : Int :=
  let a := start.date
  let b := stop.date
  let months := (b.year - a.year) * 12 + ((b.month : Int) - a.month)
  let millis := millisBetween start stop
  if 0 ≤ millis && b.day < a.day then months - 1
  else if millis < 0 && a.day < b.day then months + 1
  else months

/-- The whole units from one instant to another, toward zero. -/
def unitsBetween (unit : TimeUnit) (start stop : Instant) : Int :=
  match unit.measure with
  | .fixed millis => (millisBetween start stop).tdiv millis
  | .calendar months => (monthsBetween start stop).tdiv months

/-- The start of a month of the year of an instant. -/
def monthStart (year : Int) (month : Nat) : Instant :=
  midnight (Date.toDay ⟨year, month, 1⟩)

/-- The start of the unit that an instant lies in; milliseconds have none. -/
def startOf? (t : Instant) (unit : TimeUnit) : Option Instant :=
  have inDay := t.second_lt
  let date := t.date
  match unit with
  | .millisecond => none
  | .second => some ⟨t.day, t.second, 0, t.second_lt, by decide⟩
  | .minute => some ⟨t.day, t.second / 60 * 60, 0, by omega, by decide⟩
  | .hour => some ⟨t.day, t.second / 3600 * 3600, 0, by omega, by decide⟩
  | .day => some (midnight t.day)
  | .week =>
    let monday := t.day - weekday t.day
    if keepsDay monday then some (midnight monday) else none
  | .month => some (monthStart date.year date.month)
  | .quarter => some (monthStart date.year ((date.month - 1) / 3 * 3 + 1))
  | .year => some (monthStart date.year 1)

/-- The last millisecond of the unit that an instant lies in. -/
def endOf? (t : Instant) (unit : TimeUnit) : Option Instant :=
  match unit with
  | .day => some ⟨t.day, 86399, 999000000, by decide, by decide⟩
  | _ => do
    let start ← t.startOf? unit
    let next ← match unit.measure with
      | .fixed millis => start.addMillis? millis
      | .calendar months => start.addMonths? months
    return next.addMillis (-1)

end Instant

end CalcFields
