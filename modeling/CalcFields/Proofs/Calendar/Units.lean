import CalcFields.Proofs.Calendar.Months

/-!
Units of time tile the time line. Units of one kind follow each other without gaps, an instant lies
in one of them, and the start and the end of a unit are the first instant and the last millisecond
of the one around it.
-/

namespace CalcFields

namespace TimeUnit

/-- The second at which a unit starts, when units of its kind are numbered through the time line:
weeks from a Monday, months, quarters and years from year zero, and the others from 1970. A
millisecond has no start of its own and counts with its second. -/
def firstSecond : TimeUnit → Int → Int
  | millisecond, number => number
  | second, number => number
  | minute, number => number * 60
  | hour, number => number * 3600
  | day, number => number * 86400
  | week, number => (number * 7 - 3) * 86400
  | month, number => firstOfMonth number * 86400
  | quarter, number => firstOfMonth (number * 3) * 86400
  | year, number => firstOfMonth (number * 12) * 86400

/-- The number of the unit that a second lies in. -/
def numberOf : TimeUnit → Int → Int
  | millisecond, seconds => seconds
  | second, seconds => seconds
  | minute, seconds => seconds / 60
  | hour, seconds => seconds / 3600
  | day, seconds => seconds / 86400
  | week, seconds => (seconds / 86400 + 3) / 7
  | month, seconds => (Date.ofDay (seconds / 86400)).monthNumber
  | quarter, seconds => (Date.ofDay (seconds / 86400)).monthNumber / 3
  | year, seconds => (Date.ofDay (seconds / 86400)).monthNumber / 12

/-- Units of one kind start one after the other. -/
theorem firstSecond_strictMono (unit : TimeUnit) : StrictMono unit.firstSecond := by
  intro a b less
  -- Months of several widths are taken from the starts of single ones.
  have months (width : Int) (positive : 0 < width) :
      firstOfMonth (a * width) < firstOfMonth (b * width) :=
    firstOfMonth_strictMono (Int.mul_lt_mul_of_pos_right less positive)
  have single := firstOfMonth_strictMono less
  have quarters := months 3 (by decide)
  have years := months 12 (by decide)
  -- Units of a fixed width start at multiples of it.
  cases unit <;> simp only [firstSecond] <;> omega

/-- A second lies in the unit that has started on it and has not ended before it. -/
theorem numberOf_bounds (unit : TimeUnit) (seconds : Int) :
    unit.firstSecond (unit.numberOf seconds) ≤ seconds ∧
      seconds < unit.firstSecond (unit.numberOf seconds + 1) := by
  have days := Date.monthNumber_bounds (seconds / 86400)
  generalize number : (Date.ofDay (seconds / 86400)).monthNumber = month at days
  -- A unit of several months starts with or before the month, and ends with or after it.
  have months (width : Int) (positive : 0 < width) :
      firstOfMonth (month / width * width) ≤ firstOfMonth month ∧
        firstOfMonth (month + 1) ≤ firstOfMonth ((month / width + 1) * width) := by
    have rounded := Int.emod_add_mul_ediv month width
    have low := Int.emod_nonneg month positive.ne'
    have high := Int.emod_lt_of_pos month positive
    rw [firstOfMonth_strictMono.le_iff_le, firstOfMonth_strictMono.le_iff_le, Int.add_mul,
      Int.mul_comm (month / width)]
    omega
  have quarters := months 3 (by decide)
  have years := months 12 (by decide)
  -- The other units are multiples of seconds, found by one division.
  cases unit <;> simp only [firstSecond, numberOf, number] <;> omega

/-- A second lies in a unit exactly when the unit has started and has not ended. -/
theorem numberOf_eq_iff {unit : TimeUnit} {seconds number : Int} :
    unit.numberOf seconds = number ↔
      unit.firstSecond number ≤ seconds ∧ seconds < unit.firstSecond (number + 1) := by
  -- Units start one after the other, so no second lies in two of them.
  have bounds := unit.numberOf_bounds seconds
  have grow := unit.firstSecond_strictMono
  constructor
  · rintro rfl
    exact bounds
  · rintro ⟨started, within⟩
    exact Int.le_antisymm (le_of_starts grow bounds.1 within) (le_of_starts grow started bounds.2)

/-- A later second lies in no earlier unit. -/
theorem numberOf_mono (unit : TimeUnit) {a b : Int} (before : a ≤ b) :
    unit.numberOf a ≤ unit.numberOf b :=
  -- The later second lies before the end of its unit, where the earlier one has started.
  le_of_starts unit.firstSecond_strictMono (unit.numberOf_bounds a).1
    (before.trans_lt (unit.numberOf_bounds b).2)

/-- The unit around an instant and the one after it start on days that are kept. -/
structure Fits (unit : TimeUnit) (t : Instant) : Prop where
  kept : keepsDay (unit.firstSecond (unit.numberOf t.secondNumber) / 86400) = true
  next : keepsDay (unit.firstSecond (unit.numberOf t.secondNumber + 1) / 86400) = true

end TimeUnit

namespace Instant

/-- The first of a month starts a month of its number. -/
theorem monthStart_eq (number : Int) :
    monthStart (number / 12) ((number % 12).toNat + 1) =
      atSecond (firstOfMonth number * 86400) :=
  midnight_eq _

/-- The start of the unit around an instant is the start of its first second. -/
theorem startOf?_eq {unit : TimeUnit} (counted : unit ≠ .millisecond) {t : Instant} {number : Int}
    (around : unit.numberOf t.secondNumber = number)
    (kept : keepsDay (unit.firstSecond number / 86400) = true) :
    t.startOf? unit = some (atSecond (unit.firstSecond number)) := by
  have inDay := t.second_lt
  have date (number : Int) (month : (Date.ofDay t.day).monthNumber = number) : t.date =
      ⟨number / 12, (number % 12).toNat + 1, (t.day - firstOfMonth number).toNat + 1⟩ :=
    Date.ofDay_eq month
  subst around
  -- Up to the hour a start lies inside the day of the instant; from the day on it is a midnight.
  cases unit with
  | millisecond => exact absurd rfl counted
  | second => exact congrArg some (eq_atSecond rfl rfl)
  | minute =>
    refine congrArg some (eq_atSecond ?_ rfl)
    simp only [TimeUnit.firstSecond, TimeUnit.numberOf, secondNumber]
    omega
  | hour =>
    refine congrArg some (eq_atSecond ?_ rfl)
    simp only [TimeUnit.firstSecond, TimeUnit.numberOf, secondNumber]
    omega
  | day =>
    simp only [TimeUnit.firstSecond, TimeUnit.numberOf, secondNumber_div]
    exact congrArg some (midnight_eq t.day)
  | week =>
    simp only [TimeUnit.firstSecond, TimeUnit.numberOf, secondNumber_div] at kept ⊢
    -- Weeks are counted so that the start of 1970 is a Thursday.
    have monday : t.day - weekday t.day = (t.day + 3) / 7 * 7 - 3 := by
      rw [weekday]
      omega
    rw [Int.mul_ediv_cancel _ (by decide)] at kept
    rw [startOf?]
    simp only [monday]
    rw [if_pos kept, midnight_eq]
  | month =>
    simp only [TimeUnit.firstSecond, TimeUnit.numberOf, secondNumber_div]
    rw [startOf?, date _ rfl]
    exact congrArg some (monthStart_eq _)
  | quarter =>
    simp only [TimeUnit.firstSecond, TimeUnit.numberOf, secondNumber_div]
    rw [← monthStart_eq, startOf?, date _ rfl]
    refine congrArg some (congrArg₂ monthStart ?_ ?_) <;> simp only <;> omega
  -- The first month of a year has the number of the year times twelve.
  | year =>
    simp only [TimeUnit.firstSecond, TimeUnit.numberOf, secondNumber_div]
    rw [← monthStart_eq, startOf?, date _ rfl]
    refine congrArg some (congrArg₂ monthStart ?_ ?_)
    · simp only
      omega
    · omega

/-- Whole seconds lead in milliseconds from the start of a second to that of another one, when its
day is kept. -/
theorem addMillis?_atSecond {seconds : Int} {more : Nat} (few : more ≤ 604800)
    (kept : keepsDay ((seconds + more) / 86400) = true) :
    (atSecond seconds).addMillis? (more * 1000 : Nat) = some (atSecond (seconds + more)) := by
  -- The milliseconds are few enough for the limit that the program sets.
  have greatest : addMillis?.maxMillis = 9223372036854775807 := rfl
  have within : ((more * 1000 : Nat) : Int).natAbs ≤ addMillis?.maxMillis := by omega
  have scaled : ((more * 1000 : Nat) : Int) = (more : Int) * 1000 := Int.natCast_mul more 1000
  rw [scaled] at within ⊢
  rw [addMillis?, addMillis_atSecond]
  simp only [day_atSecond, kept, within, decide_true, Bool.and_self, if_true]

/-- Months lead from the first of a month to the first of another one, when that is kept. -/
theorem addMonths?_first {number months : Int} (kept : keepsMonth (number + months) = true) :
    (atSecond (firstOfMonth number * 86400)).addMonths? months =
      some (atSecond (firstOfMonth (number + months) * 86400)) := by
  have bounds := lengthOfMonth_bounds (number + months)
  have size := monthSize_bounds number
  have date : (midnight (firstOfMonth number)).date =
      ⟨number / 12, (number % 12).toNat + 1, 1⟩ := by
    have place := Date.ofDay_place number (Nat.le_refl 1) (by omega)
    rwa [Int.natCast_one, Int.add_sub_cancel] at place
  -- The first of a month is in that month, from which the months are counted.
  have month : (midnight (firstOfMonth number)).date.monthNumber + months = number + months := by
    rw [date, Date.monthNumber]
    simp only
    omega
  -- Every month has a first day, so nothing is cut off.
  have clamped : min (midnight (firstOfMonth number)).date.day
      (lengthOfMonth ((number + months) / 12) (((number + months) % 12).toNat + 1)) = 1 := by
    rw [date]
    exact Nat.min_eq_left (by simp only; omega)
  rw [← midnight_eq, ← midnight_eq, addMonths?_eq _ month kept clamped, Int.natCast_one,
    Int.add_sub_cancel]
  rfl

variable {unit : TimeUnit} {t : Instant} {number : Int}

/-- A unit of a fixed length ends a millisecond before the unit that starts so much later. -/
theorem endOf?_of_fixed (width : Nat) (other : unit ≠ .day) (few : width ≤ 604800)
    (measure : unit.measure = .fixed (width * 1000))
    (adjacent : unit.firstSecond (number + 1) = unit.firstSecond number + width)
    (start : t.startOf? unit = some (atSecond (unit.firstSecond number)))
    (next : keepsDay (unit.firstSecond (number + 1) / 86400) = true) :
    t.endOf? unit = some ((atSecond (unit.firstSecond (number + 1))).addMillis (-1)) := by
  -- A unit that is not a day ends a millisecond before its start and its width.
  rw [adjacent] at next ⊢
  have moved := addMillis?_atSecond few next
  unfold endOf?
  split
  · exact absurd rfl other
  · rw [start, measure]
    simp only [bind, Option.bind_some, moved]
    rfl

/-- A unit of months ends a millisecond before the unit that starts so many months later. -/
theorem endOf?_of_calendar (months : Nat) (measure : unit.measure = .calendar months)
    (first : ∀ n, unit.firstSecond n = firstOfMonth (n * months) * 86400)
    (start : t.startOf? unit = some (atSecond (unit.firstSecond number)))
    (next : keepsDay (unit.firstSecond (number + 1) / 86400) = true) :
    t.endOf? unit = some ((atSecond (unit.firstSecond (number + 1))).addMillis (-1)) := by
  -- The next unit starts as many months later, so its start is reached by adding them.
  have later : (number + 1) * (months : Int) = number * months + months := by
    rw [Int.add_mul, Int.one_mul]
  rw [first, Int.mul_ediv_cancel _ (by decide), keepsDay_firstOfMonth, later] at next
  have moved := addMonths?_first next
  rw [first] at start
  rw [first, later]
  unfold endOf?
  split
  · -- A day has no months.
    cases measure
  · rw [start, measure]
    simp only [bind, Option.bind_some, moved]
    rfl

/-- The end of the unit around an instant is the last millisecond before the unit after it. -/
theorem endOf?_eq (counted : unit ≠ .millisecond) (fits : unit.Fits t)
    (around : unit.numberOf t.secondNumber = number) :
    t.endOf? unit = some ((atSecond (unit.firstSecond (number + 1))).addMillis (-1)) := by
  obtain ⟨kept, next⟩ := fits
  rw [around] at kept next
  have start := startOf?_eq counted around kept
  cases unit with
  | millisecond => exact absurd rfl counted
  | day =>
    -- The end of a day is spelled out.
    obtain ⟨second, nano⟩ := addMillis_neg_one (TimeUnit.firstSecond .day (number + 1))
    refine congrArg some (ext_secondNumber ?_ nano.symm)
    rw [second, ← around]
    simp only [TimeUnit.firstSecond, TimeUnit.numberOf, secondNumber_div]
    simp only [secondNumber]
    omega
  -- The other units are as wide as they are, or as many months.
  | second => exact endOf?_of_fixed 1 (by decide) (by decide) rfl rfl start next
  | minute =>
    exact endOf?_of_fixed 60 (by decide) (by decide) rfl (Int.add_mul number 1 60) start next
  | hour =>
    exact endOf?_of_fixed 3600 (by decide) (by decide) rfl (Int.add_mul number 1 3600) start
      next
  | week =>
    have adjacent : ((number + 1) * 7 - 3) * 86400 = (number * 7 - 3) * 86400 + (604800 : Nat) := by
      omega
    exact endOf?_of_fixed 604800 (by decide) (by decide) rfl adjacent start next
  | month =>
    have first (n : Int) :
        TimeUnit.firstSecond .month n = firstOfMonth (n * (1 : Nat)) * 86400 := by
      rw [Int.natCast_one, Int.mul_one, TimeUnit.firstSecond]
    exact endOf?_of_calendar 1 rfl first start next
  | quarter => exact endOf?_of_calendar 3 rfl (fun _ => rfl) start next
  | year => exact endOf?_of_calendar 12 rfl (fun _ => rfl) start next

/-- Units tile the time line. The unit around an instant starts no later than the instant and ends
no earlier, to the millisecond; its start and its end lie in it, and a millisecond after its end the
next unit starts. The start of a later instant is no earlier, and the end of a day is a millisecond
before the day after its start. -/
theorem units_tile (counted : unit ≠ .millisecond) (plain : t.nano < nanosPerSecond)
    (fits : unit.Fits t) :
    ∃ start stop next, t.startOf? unit = some start ∧ t.endOf? unit = some stop ∧
      stop.addMillis? 1 = some next ∧
      (start.compare t).isLE = true ∧ (t.wholeMillis.compare stop).isLE = true ∧
      start.startOf? unit = some start ∧ stop.startOf? unit = some start ∧
      next.startOf? unit = some next ∧
      (∀ later, (t.compare later).isLE = true → unit.Fits later →
        ∃ startLater, later.startOf? unit = some startLater ∧
          (start.compare startLater).isLE = true) ∧
      (unit = .day → ∃ tomorrow, start.addMillis? 86400000 = some tomorrow ∧
        tomorrow.addMillis? (-1) = some stop) := by
  generalize around : unit.numberOf t.secondNumber = number
  obtain ⟨started, within⟩ := TimeUnit.numberOf_eq_iff.1 around
  obtain ⟨kept, next⟩ := fits
  have grow := unit.firstSecond_strictMono (Int.lt_add_one_iff.2 (Int.le_refl number))
  have start {s : Instant} (inside : unit.numberOf s.secondNumber = number) :=
    startOf?_eq counted inside (around ▸ kept)
  obtain ⟨lastSecond, _⟩ := addMillis_neg_one (unit.firstSecond (number + 1))
  -- A start depends on the number of the unit only: what is left is to place each instant.
  refine ⟨_, _, _, start around, endOf?_eq counted ⟨kept, next⟩ around,
    addMillis?_one (around ▸ next), isLE_atSecond_iff.2 started, wholeMillis_isLE plain within,
    start ?_, start ?_, startOf?_eq counted ?_ (around ▸ next), ?_, ?_⟩
  · -- The start lies in its own unit.
    rw [secondNumber_atSecond]
    exact TimeUnit.numberOf_eq_iff.2 ⟨Int.le_refl _, grow⟩
  · -- So does the millisecond before the next start.
    exact TimeUnit.numberOf_eq_iff.2 ⟨by omega, by omega⟩
  · rw [secondNumber_atSecond]
    exact TimeUnit.numberOf_eq_iff.2 ⟨Int.le_refl _, unit.firstSecond_strictMono (by omega)⟩
  · -- A later instant is in the same unit or a later one.
    intro later after fitsLater
    have ordered : t.secondNumber ≤ later.secondNumber := by
      have := isLE_compare_iff.1 after
      omega
    refine ⟨_, startOf?_eq counted rfl fitsLater.kept, isLE_atSecond_iff.2 ?_⟩
    rw [secondNumber_atSecond, unit.firstSecond_strictMono.le_iff_le, ← around]
    exact unit.numberOf_mono ordered
  · -- A day is as many milliseconds as are added, so the next midnight is reached.
    rintro rfl
    simp only [TimeUnit.firstSecond, around] at kept next ⊢
    have adjacent : (number + 1) * 86400 = number * 86400 + (86400 : Nat) := by omega
    have today : ((number + 1) * 86400 - 1) / 86400 = number * 86400 / 86400 := by omega
    rw [adjacent] at next
    refine ⟨_, addMillis?_atSecond (by decide) next, ?_⟩
    rw [← adjacent]
    exact addMillis?_neg_one (today ▸ kept)

/-- The quarter around an instant on a leap day. -/
theorem units_tile_quarter :
    TimeUnit.quarter ≠ .millisecond ∧ 789123456 < nanosPerSecond ∧
      TimeUnit.quarter.Fits ⟨19782, 45296, 789123456, by decide, by decide⟩ ∧
      (midnight 19723).startOf? .quarter = some (midnight 19723) := by
  -- The instant lies in the first quarter of 2024, which started on the first of January.
  have fits : TimeUnit.quarter.Fits ⟨19782, 45296, 789123456, by decide, by decide⟩ :=
    ⟨by decide, by decide⟩
  obtain ⟨start, _, _, started, _, _, _, _, own, _⟩ := units_tile (by decide) (by decide) fits
  obtain rfl : midnight 19723 = start := Option.some.inj started
  exact ⟨by decide, by decide, fits, own⟩

end Instant

end CalcFields
