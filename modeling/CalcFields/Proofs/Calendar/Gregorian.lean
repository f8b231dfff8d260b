import CalcFields.Calendar.Gregorian
import Mathlib

/-!
Months follow each other without gaps. Counted through all years, each month starts where the one
before it ends, so that the date of a day is the month around it with the place of the day in it.
-/

namespace CalcFields

/-- Of intervals that start one after the other, the one of a later point is no earlier one. -/
theorem le_of_starts {starts : Int → Int} (grow : StrictMono starts) {a b point : Int}
    (begun : starts a ≤ point) (open_ : point < starts (b + 1)) : a ≤ b :=
  Int.lt_add_one_iff.1 (grow.lt_iff_lt.1 (lt_of_le_of_lt begun open_))

/-- A leap year is a day longer than another one. -/
theorem yearStart_succ (year : Int) :
    yearStart (year + 1) = yearStart year + if isLeap year then 366 else 365 := by
  -- The three divisions step over a multiple exactly when the leap rule asks about it.
  unfold yearStart isLeap
  simp only [Bool.and_eq_true, Bool.or_eq_true, beq_iff_eq, bne_iff_ne]
  split <;> omega

/-- The year of a day has started on it and has not ended before it. -/
theorem yearOfDay_bounds (day : Int) :
    yearStart (yearOfDay day) ≤ day ∧ day < yearStart (yearOfDay day + 1) := by
  unfold yearOfDay yearStart
  simp only
  -- The estimate is checked against both ends of the year and moved by one where it fails.
  split
  · omega
  · split <;> omega

/-- There are twelve months in a year. -/
theorem length_monthLengths (year : Int) : (monthLengths year).length = 12 :=
  rfl

/-- Before the month after a month lie the days of the month as well. -/
theorem daysBeforeMonth_succ (year : Int) (month : Nat) (counted : 1 ≤ month) :
    daysBeforeMonth year (month + 1) = daysBeforeMonth year month + monthLength year month := by
  -- One month more is taken from the list of lengths.
  have next : month + 1 - 1 = month - 1 + 1 := by omega
  rw [daysBeforeMonth, daysBeforeMonth, monthLength, next, List.take_add_one, List.foldl_append]
  cases (monthLengths year)[month - 1]? <;> rfl

/-- The months make up the year. -/
theorem daysBeforeMonth_thirteen (year : Int) :
    daysBeforeMonth year 13 = if isLeap year then 366 else 365 := by
  -- The twelve lengths are added up, for both kinds of years.
  unfold daysBeforeMonth monthLengths
  cases isLeap year <;> rfl

/-- A month has from 28 to 31 days. -/
theorem monthLength_bounds (year : Int) {month : Nat} (first : 1 ≤ month) (last : month ≤ 12) :
    28 ≤ monthLength year month ∧ monthLength year month ≤ 31 := by
  -- The bounds hold of every length in the list, and the month picks one of them.
  have each : ∀ length ∈ monthLengths year, 28 ≤ length ∧ length ≤ 31 := by
    unfold monthLengths
    cases isLeap year <;> decide
  have inside : month - 1 < (monthLengths year).length := by
    rw [length_monthLengths]
    omega
  rw [monthLength, List.getElem?_eq_getElem inside]
  exact each _ (List.getElem_mem inside)

/-- Counting months off a day stops at the month that the day lies in. -/
theorem splitMonth_spec {lengths : List Nat} (month : Nat) {day : Nat}
    (inside : day < lengths.foldl (· + ·) 0) :
    ∃ passed < lengths.length, (lengths.take passed).foldl (· + ·) 0 ≤ day ∧
      day < (lengths.take (passed + 1)).foldl (· + ·) 0 ∧
      splitMonth month day lengths =
        (month + passed, day - (lengths.take passed).foldl (· + ·) 0 + 1) := by
  -- The sums are written with the library's sum, which has the lemmas.
  simp only [← List.sum_eq_foldl_nat] at inside ⊢
  induction lengths generalizing month day with
  | nil => exact absurd inside (Nat.not_lt_zero _)
  | cons length rest ih =>
    rw [List.sum_cons] at inside
    by_cases here : day < length
    · -- The day lies in the first of the months.
      refine ⟨0, Nat.zero_lt_succ _, Nat.zero_le _, by simpa using here, ?_⟩
      simp [splitMonth, here]
    · -- The first month is passed, and the count goes on in the rest.
      have filled : rest.isEmpty = false := by
        cases rest with
        | nil => simp at inside; omega
        | cons => rfl
      have left : day - length < rest.sum := by omega
      obtain ⟨passed, less, below, above, split⟩ := ih (month + 1) left
      refine ⟨passed + 1, Nat.succ_lt_succ less, ?_, ?_, ?_⟩
      · rw [List.take_succ_cons, List.sum_cons]
        omega
      · rw [List.take_succ_cons, List.sum_cons]
        omega
      · rw [splitMonth, if_neg (by simp [here, filled]), split, List.take_succ_cons, List.sum_cons,
          Prod.mk.injEq]
        omega

namespace Date

/-- A date of a kept year whose month has its day. -/
structure Kept (date : Date) : Prop where
  year : keepsYear date.year = true
  one_le_month : 1 ≤ date.month
  month_le : date.month ≤ 12
  one_le_day : 1 ≤ date.day
  day_le : date.day ≤ monthLength date.year date.month

/-- A date exists from its parts exactly when it is kept. -/
theorem exists?_eq_some_iff {year : Int} {month day : Nat} {date : Date} :
    exists? year month day = some date ↔ date = ⟨year, month, day⟩ ∧ date.Kept := by
  -- The program asks for the same conditions one after another.
  simp only [exists?, Option.ite_none_right_eq_some, Bool.and_eq_true, decide_eq_true_eq,
    Option.some_inj]
  constructor
  · rintro ⟨⟨⟨⟨⟨year, first⟩, last⟩, one⟩, within⟩, rfl⟩
    exact ⟨rfl, year, first, last, one, within⟩
  · rintro ⟨rfl, year, first, last, one, within⟩
    exact ⟨⟨⟨⟨⟨year, first⟩, last⟩, one⟩, within⟩, rfl⟩

end Date

/-- The number of a month when months are counted through the years, from January of year zero. -/
def Date.monthNumber (date : Date) : Int :=
  date.year * 12 + (date.month - 1 : Nat)

/-- The length of a month by its number. -/
def monthSize (number : Int) : Nat :=
  monthLength (number / 12) ((number % 12).toNat + 1)

/-- The day number of the first of a month by its number. -/
def firstOfMonth (number : Int) : Int :=
  Date.toDay ⟨number / 12, (number % 12).toNat + 1, 1⟩

/-- The day number of a date counts on from the first of its month. -/
theorem toDay_eq (number : Int) (day : Nat) :
    Date.toDay ⟨number / 12, (number % 12).toNat + 1, day⟩ = firstOfMonth number + day - 1 := by
  -- The first of the month is its first day, so only the day is added.
  simp only [firstOfMonth, Date.toDay]
  omega

/-- A month has from 28 to 31 days, by its number as well. -/
theorem monthSize_bounds (number : Int) : 28 ≤ monthSize number ∧ monthSize number ≤ 31 :=
  monthLength_bounds _ (by omega) (by omega)

/-- The parts of the number of a month are its year and its place in it. -/
theorem monthNumber_parts (year : Int) {passed : Nat} (less : passed < 12) :
    (year * 12 + passed) / 12 = year ∧ ((year * 12 + passed) % 12).toNat = passed := by
  omega

/-- The first of a month comes after the days of the year before it. -/
theorem firstOfMonth_eq (year : Int) {passed : Nat} (less : passed < 12) :
    firstOfMonth (year * 12 + passed) = yearStart year + daysBeforeMonth year (passed + 1) := by
  -- The number of a month has its year and its place in the year as quotient and rest.
  obtain ⟨whole, place⟩ := monthNumber_parts year less
  rw [firstOfMonth, whole, place, Date.toDay]
  simp only
  omega

/-- A year starts with its January. -/
theorem firstOfMonth_january (year : Int) : firstOfMonth (year * 12) = yearStart year := by
  -- No month precedes a January.
  have first := firstOfMonth_eq year (by decide : 0 < 12)
  have none : daysBeforeMonth year (0 + 1) = 0 := rfl
  rwa [none, Int.natCast_zero, Int.add_zero, Int.add_zero] at first

/-- Each month starts where the one before it ends. -/
theorem firstOfMonth_succ (number : Int) :
    firstOfMonth (number + 1) = firstOfMonth number + monthSize number := by
  have days := daysBeforeMonth_succ (number / 12) ((number % 12).toNat + 1) (by omega)
  by_cases december : number % 12 = 11
  · -- The month after a December is a January, which starts the next year.
    have next : number + 1 = (number / 12 + 1) * 12 := by omega
    have twelve : (number % 12).toNat + 1 = 12 := by omega
    have year := yearStart_succ (number / 12)
    have whole := daysBeforeMonth_thirteen (number / 12)
    rw [next, firstOfMonth_january, year, monthSize, firstOfMonth, Date.toDay]
    simp only [twelve] at days ⊢
    rw [days] at whole
    split at whole <;> simp only [*, if_true, Bool.false_eq_true, if_false] <;> omega
  · -- Any other month has its successor in the same year.
    have year : (number + 1) / 12 = number / 12 := by omega
    have month : ((number + 1) % 12).toNat + 1 = (number % 12).toNat + 1 + 1 := by omega
    rw [firstOfMonth, firstOfMonth, Date.toDay, Date.toDay, year, month, monthSize]
    simp only [days]
    omega

/-- Months start one after the other. -/
theorem firstOfMonth_strictMono : StrictMono firstOfMonth := by
  -- Every month has days, so the next one starts later.
  refine strictMono_int_of_lt_succ fun number => ?_
  have := monthSize_bounds number
  have := firstOfMonth_succ number
  omega

namespace Date

/-- A date is the month around its day and the place of the day in it. -/
theorem exists_ofDay_eq (day : Int) : ∃ number, firstOfMonth number ≤ day ∧
    day < firstOfMonth (number + 1) ∧
    ofDay day = ⟨number / 12, (number % 12).toNat + 1, (day - firstOfMonth number).toNat + 1⟩ := by
  -- First the year around the day is placed, then the month in what is left of the year.
  obtain ⟨started, within⟩ := yearOfDay_bounds day
  have year := yearStart_succ (yearOfDay day)
  have whole := daysBeforeMonth_thirteen (yearOfDay day)
  have inside : (day - yearStart (yearOfDay day)).toNat <
      (monthLengths (yearOfDay day)).foldl (· + ·) 0 := by
    show _ < daysBeforeMonth (yearOfDay day) 13
    rw [whole]
    split <;> simp only [*, if_true, Bool.false_eq_true, if_false] at year <;> omega
  -- The day lies in one of the months of its year, after those that are passed.
  obtain ⟨passed, less, below, above, split⟩ := splitMonth_spec 1 inside
  rw [length_monthLengths] at less
  obtain ⟨whole, place⟩ := monthNumber_parts (yearOfDay day) less
  have first := firstOfMonth_eq (yearOfDay day) less
  have next := firstOfMonth_succ (yearOfDay day * 12 + passed)
  have days := daysBeforeMonth_succ (yearOfDay day) (passed + 1) (by omega)
  rw [monthSize, whole, place] at next
  change daysBeforeMonth (yearOfDay day) (passed + 1) ≤ _ at below
  change _ < daysBeforeMonth (yearOfDay day) (passed + 1 + 1) at above
  refine ⟨yearOfDay day * 12 + passed, by omega, by omega, ?_⟩
  -- The rest that the split leaves is the distance to the first of the month.
  have counted : (day - yearStart (yearOfDay day)).toNat -
      daysBeforeMonth (yearOfDay day) (passed + 1) =
        (day - firstOfMonth (yearOfDay day * 12 + passed)).toNat := by omega
  rw [ofDay, split, whole, place, ← counted, Nat.add_comm 1]
  rfl

/-- The month of a day has started on it and has not ended before it. -/
theorem monthNumber_bounds (day : Int) : firstOfMonth (ofDay day).monthNumber ≤ day ∧
    day < firstOfMonth ((ofDay day).monthNumber + 1) := by
  -- The month that the day was placed in is the one of its date.
  obtain ⟨number, started, within, date⟩ := exists_ofDay_eq day
  have same : (ofDay day).monthNumber = number := by
    rw [date, monthNumber]
    simp only
    omega
  rw [same]
  exact ⟨started, within⟩

/-- A day lies in the one month that has started on it and has not ended before it. -/
theorem monthNumber_eq_iff {day number : Int} : (ofDay day).monthNumber = number ↔
    firstOfMonth number ≤ day ∧ day < firstOfMonth (number + 1) := by
  have bounds := monthNumber_bounds day
  constructor
  · rintro rfl
    exact bounds
  · -- Months start one after the other, so no other one has the day between its starts.
    rintro ⟨started, within⟩
    exact Int.le_antisymm (le_of_starts firstOfMonth_strictMono bounds.1 within)
      (le_of_starts firstOfMonth_strictMono started bounds.2)

/-- The parts of the date of a day are those of the number of its month, and the place of the day
in the month. -/
theorem ofDay_eq {day number : Int} (month : (ofDay day).monthNumber = number) :
    ofDay day = ⟨number / 12, (number % 12).toNat + 1, (day - firstOfMonth number).toNat + 1⟩ := by
  -- The date is known by some month, which can only be the given one.
  obtain ⟨other, started, within, date⟩ := exists_ofDay_eq day
  rw [monthNumber_eq_iff.2 ⟨started, within⟩] at month
  rw [← month, date]

/-- A place in a month is the date of the day so far from the first of the month. -/
theorem ofDay_place (number : Int) {place : Nat} (first : 1 ≤ place)
    (last : place ≤ monthSize number) :
    ofDay (firstOfMonth number + place - 1) =
      ⟨number / 12, (number % 12).toNat + 1, place⟩ := by
  -- The day lies between the starts of the month and of the next one.
  have next := firstOfMonth_succ number
  have month : (ofDay (firstOfMonth number + place - 1)).monthNumber = number :=
    monthNumber_eq_iff.2 ⟨by omega, by omega⟩
  have counted : (firstOfMonth number + place - 1 - firstOfMonth number).toNat + 1 = place := by
    omega
  rw [ofDay_eq month, counted]

/-- The date of a day has the number of the day. -/
theorem toDay_ofDay (day : Int) : (ofDay day).toDay = day := by
  -- The date has the day as its distance to the first of its month.
  have started := (monthNumber_bounds day).1
  rw [ofDay_eq rfl, toDay_eq]
  omega

/-- The day of the month counts from the first of it. -/
theorem day_ofDay (day : Int) :
    (ofDay day).day = (day - firstOfMonth (ofDay day).monthNumber).toNat + 1 :=
  congrArg Date.day (ofDay_eq rfl)

/-- The day of a month counts from one up to the length of the month. -/
theorem day_bounds (day : Int) : 1 ≤ (ofDay day).day ∧
    (ofDay day).day ≤ monthSize (ofDay day).monthNumber := by
  -- The distance to the first of the month is less than its length.
  obtain ⟨started, within⟩ := monthNumber_bounds day
  have next := firstOfMonth_succ (ofDay day).monthNumber
  have place := day_ofDay day
  omega

end Date

end CalcFields
