import CalcFields.Proofs.Calendar.Reading
import CalcFields.Proofs.Formula.Dating

/-!
A date that exists is made as it is, and its text has its parts. Days past the end of a month roll
over into the next month, as long as both months lie in the years that are kept: a month outside of
them gives no date, not even with days that lead back into them.
-/

namespace CalcFields

namespace Date

/-- The date of a year, a month and a day is counted from the first of the month, by its number. -/
theorem rolledOver?_eq (year month day : Int) : rolledOver? year month day =
    if keepsMonth (year * 12 + (month - 1)) &&
        CalcFields.keepsDay (firstOfMonth (year * 12 + (month - 1)) + (day - 1)) then
      some (ofDay (firstOfMonth (year * 12 + (month - 1)) + (day - 1)))
    else none :=
  rfl

/-- No date is made of a month outside the kept years. -/
theorem rolledOver?_eq_none {year month : Int} (lost : keepsMonth (year * 12 + (month - 1)) = false)
    (day : Int) : rolledOver? year month day = none := by
  rw [rolledOver?_eq, lost]
  rfl

/-- A kept day is not far from the start of 1970. -/
theorem bounds_of_keepsDay {day : Int} (kept : CalcFields.keepsDay day = true) :
    -100000000 ≤ day ∧ day ≤ 100000000 := by
  -- Kept days lie between the start of the first year and the end of the last.
  have first : -100000000 ≤ yearStart minYear := by decide
  have last : yearStart (maxYear + 1) ≤ 100000000 := by decide
  rw [CalcFields.keepsDay, Bool.and_eq_true, decide_eq_true_eq, decide_eq_true_eq] at kept
  omega

/-- A day held within 64 bits makes the same date, since no kept day is so far from its month. -/
theorem rolledOver?_held (year month day : Int) :
    rolledOver? year month (max minInt64 (min maxInt64 day)) = rolledOver? year month day := by
  cases kept : keepsMonth (year * 12 + (month - 1)) with
  | false => rw [rolledOver?_eq_none kept, rolledOver?_eq_none kept]
  | true =>
    by_cases within : minInt64 ≤ day ∧ day ≤ maxInt64
    · rw [min_eq_right within.2, max_eq_right within.1]
    · -- From a kept month no kept day is reached by so many days.
      have first := bounds_of_keepsDay ((keepsDay_firstOfMonth _).trans kept)
      have far {n : Int} (outside : n ≤ minInt64 ∨ maxInt64 ≤ n) : CalcFields.keepsDay
          (firstOfMonth (year * 12 + (month - 1)) + (n - 1)) = false := by
        rw [Bool.eq_false_iff]
        intro near
        have day := bounds_of_keepsDay near
        rw [minInt64, maxInt64] at outside
        omega
      have held : max minInt64 (min maxInt64 day) ≤ minInt64 ∨
          maxInt64 ≤ max minInt64 (min maxInt64 day) := by
        rw [minInt64, maxInt64] at within ⊢
        omega
      rw [rolledOver?_eq, rolledOver?_eq, far held, far (n := day) (by omega), Bool.and_false]
      rfl

/-- Days by the length of a month make the date of the month after it, when both months or neither
of them are kept. -/
theorem rolledOver?_succ {year month : Int}
    (alike : keepsMonth (year * 12 + (month - 1)) = keepsMonth (year * 12 + (month + 1 - 1)))
    (day : Int) : rolledOver? year month (day + monthSize (year * 12 + (month - 1))) =
      rolledOver? year (month + 1) day := by
  -- Both are the same day, counted from the first of two months that follow each other.
  have next : year * 12 + (month + 1 - 1) = year * 12 + (month - 1) + 1 := by ring
  have same : firstOfMonth (year * 12 + (month - 1)) +
      (day + monthSize (year * 12 + (month - 1)) - 1) =
        firstOfMonth (year * 12 + (month - 1) + 1) + (day - 1) := by
    rw [firstOfMonth_succ]
    ring
  rw [rolledOver?_eq, rolledOver?_eq, ← alike, next, same]

/-- No month follows the last kept one, so that its last day is no day before that month. -/
example : rolledOver? 262142 12 31 = some ⟨262142, 12, 31⟩ ∧ rolledOver? 262142 13 0 = none := by
  decide

/-- A date that is kept is made of its parts. -/
theorem Kept.rolledOver?_eq {date : Date} (kept : date.Kept) :
    rolledOver? date.year date.month date.day = some date := by
  -- The parts count from one, so rolling over starts from the month itself and its own day.
  have number : date.year * 12 + ((date.month : Int) - 1) = date.monthNumber := by
    have := kept.one_le_month
    rw [monthNumber]
    omega
  have day : firstOfMonth date.monthNumber + ((date.day : Int) - 1) = date.toDay := by
    rw [kept.toDay_eq]
    ring
  have month : keepsMonth date.monthNumber = true := by
    rw [keepsMonth, kept.parts.1]
    exact kept.year
  rw [Date.rolledOver?_eq, number, day, month, kept.keepsDay, kept.ofDay_toDay]
  rfl

end Date

/-- A value counts as a whole number when the number that it reads as is this one. -/
def Value.Whole (v : Value) (n : Int) : Prop :=
  ∃ x, v.toNumber? = some x ∧ wholeNumber? x = some n

/-- A whole number of few bits counts as itself. -/
theorem Value.whole_ofInt {n : Int} (few : n.natAbs ≤ 9007199254740992) :
    (Value.ofInt n).Whole n := by
  have whole : wholeNumber? (.ofInt n) = some n := Dyadic.wholeNumber?_ofInt few
  refine ⟨.ofInt n, ?_, whole⟩
  rw [wholeNumber?] at whole
  -- What is whole decodes, and so is a number.
  cases decoded : Dyadic.ofFloat? (.ofInt n) with
  | none =>
    rw [decoded] at whole
    cases whole
  | some d =>
    rw [ofInt, toNumber?, Dyadic.isNaN_of_ofFloat? decoded]
    rfl

namespace Dating

/-- The months of a year from one of its months to the next are counted within 64 bits. -/
structure Counted (year month : Int) : Prop where
  ofYear : minInt64 ≤ year * 12 ∧ year * 12 ≤ maxInt64
  ofMonth : minInt64 ≤ month - 1 ∧ month + 1 ≤ maxInt64
  ofBoth : minInt64 ≤ year * 12 + (month - 1) ∧ year * 12 + month ≤ maxInt64

/-- Within 64 bits there are a year, a month and the month after it. -/
theorem Counted.fits {year month : Int} (counted : Counted year month) :
    (minInt64 ≤ year ∧ year ≤ maxInt64) ∧ (minInt64 ≤ month ∧ month ≤ maxInt64) ∧
      minInt64 ≤ month + 1 ∧ month + 1 ≤ maxInt64 := by
  -- The months of the years before this one are within 64 bits, so the year is as well.
  obtain ⟨ofYear, ofMonth, -⟩ := counted
  rw [minInt64, maxInt64] at *
  omega

/-- The date of whole numbers is counted from the first of their month. -/
theorem dateOf_eq {year month day : Value} {y m d : Int} (years : year.Whole y)
    (months : month.Whole m) (days : day.Whole d) (yearFits : minInt64 ≤ y ∧ y ≤ maxInt64)
    (monthFits : minInt64 ≤ m ∧ m ≤ maxInt64) : dateOf year month day =
      ((Date.rolledOver? y m d).map fun date => Value.string date.text).getD .null := by
  -- Each number is held within 64 bits, which changes none but the days, and those do not matter.
  obtain ⟨yearNumber, yearRead, yearWhole⟩ := years
  obtain ⟨monthNumber, monthRead, monthWhole⟩ := months
  obtain ⟨dayNumber, dayRead, dayWhole⟩ := days
  simp only [dateOf, yearRead, monthRead, dayRead]
  rw [saturated64_of_wholeNumber? yearWhole, saturated64_of_wholeNumber? monthWhole,
    saturated64_of_wholeNumber? dayWhole, min_eq_right yearFits.2, max_eq_right yearFits.1,
    min_eq_right monthFits.2, max_eq_right monthFits.1, Date.rolledOver?_held]
  cases Date.rolledOver? y m d <;> rfl

/-- The year, the month and the day of the text of a date are those of the date. -/
theorem partOf_text {date : Date} (kept : date.Kept) (name : Value) :
    (name.plainName = "year" → partOf name (.string date.text) = .ofInt date.year) ∧
    (name.plainName = "month" → partOf name (.string date.text) = .ofInt date.month) ∧
    (name.plainName = "day" → partOf name (.string date.text) = .ofInt date.day) := by
  -- The text of a date is read as its midnight.
  have read : (Value.string date.text).instant? = some (.midnight date.toDay) :=
    kept.readInstant?_text
  have same : (Instant.midnight date.toDay).date = date := kept.ofDay_toDay
  refine ⟨fun part => ?_, fun part => ?_, fun part => ?_⟩ <;>
    simp only [partOf, read, part, Instant.part?, same]

/-- A date that exists is made of its parts, and they are the parts of its text. Days by the length
of a month make the date of the month after it, unless only one of the two months lies in the kept
years; then there is no date of the other one. -/
theorem dateOf_rollsOver {year month next day far : Value} {y m d : Int} (years : year.Whole y)
    (months : month.Whole m) (nexts : next.Whole (m + 1)) (days : day.Whole d)
    (fars : far.Whole (d + monthSize (y * 12 + (m - 1)))) (counted : Counted y m) :
    (∀ date : Date, date.Kept → date.year = y → (date.month : Int) = m → (date.day : Int) = d →
      dateOf year month day = .string date.text ∧
        ∀ name : Value,
          (name.plainName = "year" → partOf name (dateOf year month day) = .ofInt y) ∧
          (name.plainName = "month" → partOf name (dateOf year month day) = .ofInt m) ∧
          (name.plainName = "day" → partOf name (dateOf year month day) = .ofInt d)) ∧
    (keepsMonth (y * 12 + (m - 1)) = keepsMonth (y * 12 + m) →
      dateOf year month far = dateOf year next day) ∧
    (keepsMonth (y * 12 + (m - 1)) = false → dateOf year month far = .null) ∧
    (keepsMonth (y * 12 + m) = false → dateOf year next day = .null) := by
  -- The three values are read as whole numbers, and the date is rolled over from them.
  obtain ⟨yearFits, monthFits, nextFits⟩ := counted.fits
  have made := dateOf_eq years months days yearFits monthFits
  have rolled := dateOf_eq years months fars yearFits monthFits
  have later := dateOf_eq years nexts days yearFits nextFits
  have number : y * 12 + (m + 1 - 1) = y * 12 + m := by ring
  refine ⟨?exact, fun alike => ?rolls, fun lost => ?before, fun lost => ?after⟩
  case exact =>
    rintro date kept rfl rfl rfl
    rw [kept.rolledOver?_eq] at made
    rw [made]
    exact ⟨rfl, partOf_text kept⟩
  case rolls =>
    rw [rolled, later, Date.rolledOver?_succ (by rw [number, alike])]
  case before =>
    rw [rolled, Date.rolledOver?_eq_none lost]
    rfl
  case after =>
    rw [later, Date.rolledOver?_eq_none (number ▸ lost)]
    rfl

/-- The leap day of 2024 and, by the days of February, the one of March. -/
theorem dateOf_rollsOver_leapDay :
    (dateOf (.ofInt 2024) (.ofInt 2) (.ofInt 29) = .string "2024-02-29" ∧
      partOf (.string "day") (dateOf (.ofInt 2024) (.ofInt 2) (.ofInt 29)) = .ofInt 29) ∧
    dateOf (.ofInt 2024) (.ofInt 2) (.ofInt 58) = dateOf (.ofInt 2024) (.ofInt 3) (.ofInt 29) := by
  -- February of 2024 has twenty-nine days, so its fifty-eighth is in March.
  have counted : Counted 2024 2 := ⟨by decide, by decide, by decide⟩
  have kept : (⟨2024, 2, 29⟩ : Date).Kept := by constructor <;> decide
  obtain ⟨exact, rolls, -, -⟩ := dateOf_rollsOver (y := 2024) (m := 2) (d := 29)
    (Value.whole_ofInt (by decide)) (Value.whole_ofInt (by decide))
    (Value.whole_ofInt (n := 3) (by decide)) (Value.whole_ofInt (by decide))
    (Value.whole_ofInt (n := 58) (by decide)) counted
  obtain ⟨made, parts⟩ := exact ⟨2024, 2, 29⟩ kept rfl rfl rfl
  exact ⟨⟨made, (parts (.string "day")).2.2 (by decide)⟩, rolls (by decide)⟩

end Dating

end CalcFields
