import CalcFields.Proofs.Calendar.Gregorian
import CalcFields.Proofs.Calendar.Instant

/-!
Adding months moves a date by whole months and never spills into the month after the target, since
the day goes down to the length of the target month where that is shorter.
-/

namespace CalcFields

/-- A month is kept when its year is. -/
def keepsMonth (number : Int) : Bool :=
  Date.keepsYear (number / 12)

/-- A month is kept when it is none before the first and none after the last month of the kept
years. -/
theorem keepsMonth_iff {number : Int} :
    keepsMonth number = true ↔ minYear * 12 ≤ number ∧ number < (maxYear + 1) * 12 := by
  -- The year of a month is its number by twelve, rounded down.
  simp only [keepsMonth, Date.keepsYear, Bool.and_eq_true, decide_eq_true_eq]
  omega

/-- A day is kept when it lies in the months of the kept years. -/
theorem keepsDay_iff {day : Int} : keepsDay day = true ↔
    firstOfMonth (minYear * 12) ≤ day ∧ day < firstOfMonth ((maxYear + 1) * 12) := by
  -- Days are kept from the first of one January to the first of another.
  rw [firstOfMonth_january, firstOfMonth_january, keepsDay, Bool.and_eq_true, decide_eq_true_eq,
    decide_eq_true_eq]

/-- The first of a month is kept when the month is. -/
theorem keepsDay_firstOfMonth (number : Int) :
    keepsDay (firstOfMonth number) = keepsMonth number := by
  -- Firsts come in the order of their months, so the bounds of days are bounds of months.
  rw [Bool.eq_iff_iff, keepsDay_iff, keepsMonth_iff, firstOfMonth_strictMono.le_iff_le,
    firstOfMonth_strictMono.lt_iff_lt]

/-- A day is kept when its month is. -/
theorem keepsDay_eq (day : Int) : keepsDay day = keepsMonth (Date.ofDay day).monthNumber := by
  obtain ⟨started, within⟩ := Date.monthNumber_bounds day
  rw [Bool.eq_iff_iff, keepsDay_iff, keepsMonth_iff]
  -- The bounds of the kept days are starts of months, so a day and its month lie between them
  -- alike.
  constructor
  · rintro ⟨first, last⟩
    exact ⟨le_of_starts firstOfMonth_strictMono first within,
      firstOfMonth_strictMono.lt_iff_lt.1 (started.trans_lt last)⟩
  · rintro ⟨first, last⟩
    exact ⟨(firstOfMonth_strictMono.monotone first).trans started,
      within.trans_le (firstOfMonth_strictMono.monotone last)⟩

namespace Date

variable {date : Date}

/-- The number of the month of a date has its year and its month as parts. -/
theorem Kept.parts (kept : date.Kept) :
    date.monthNumber / 12 = date.year ∧ (date.monthNumber % 12).toNat + 1 = date.month := by
  -- Months are named from one to twelve, so the quotient by twelve is the year.
  have := kept.one_le_month
  have := kept.month_le
  rw [monthNumber]
  omega

/-- The day of a date is counted from the first of its month. -/
theorem Kept.toDay_eq (kept : date.Kept) :
    date.toDay = firstOfMonth date.monthNumber + date.day - 1 := by
  -- The parts of the date are those of its month's number.
  obtain ⟨year, month⟩ := kept.parts
  rw [← CalcFields.toDay_eq, year, month]

/-- A date that is kept is the date of its day. -/
theorem Kept.ofDay_toDay (kept : date.Kept) : ofDay date.toDay = date := by
  -- The day of the month is one of the days that the month has.
  obtain ⟨year, month⟩ := kept.parts
  have within : date.day ≤ monthSize date.monthNumber := by
    rw [monthSize, year, month]
    exact kept.day_le
  rw [kept.toDay_eq, ofDay_place _ kept.one_le_day within, year, month]

/-- The day of a date that is kept is kept. -/
theorem Kept.keepsDay (kept : date.Kept) : CalcFields.keepsDay date.toDay = true := by
  -- Whether a day is kept depends on the month of its date alone.
  rw [keepsDay_eq, kept.ofDay_toDay, keepsMonth, kept.parts.1]
  exact kept.year

/-- The date of a day that is kept is kept. -/
theorem kept_ofDay {day : Int} (kept : CalcFields.keepsDay day = true) : (ofDay day).Kept := by
  -- The date of a day has its parts by the number of its month.
  obtain ⟨first, last⟩ := day_bounds day
  have date : ofDay day = _ := ofDay_eq rfl
  have year : (ofDay day).monthNumber / 12 = (ofDay day).year := (congrArg Date.year date).symm
  have month : ((ofDay day).monthNumber % 12).toNat + 1 = (ofDay day).month :=
    (congrArg Date.month date).symm
  rw [keepsDay_eq, keepsMonth, year] at kept
  rw [monthSize, year, month] at last
  exact ⟨kept, by omega, by omega, first, last⟩

end Date

/-- A month and the one after it are kept. -/
structure MonthFits (number : Int) : Prop where
  kept : keepsMonth number = true
  next : keepsMonth (number + 1) = true

namespace Instant

/-- The month after a month is the first of the next year when there is none left in its own. -/
theorem nextMonth_eq (number : Int) :
    (if (number % 12).toNat + 1 == 12 then (number / 12 + 1, 1)
      else (number / 12, (number % 12).toNat + 1 + 1)) =
    ((number + 1) / 12, ((number + 1) % 12).toNat + 1) := by
  -- After December the year goes on, else the month.
  simp only [beq_iff_eq]
  split <;> (rw [Prod.mk.injEq]; omega)

/-- The length of a month is read off the first of the month after it when both are kept. -/
theorem lengthOfMonth_eq {number : Int} (fits : MonthFits number) :
    lengthOfMonth (number / 12) ((number % 12).toNat + 1) = monthSize number := by
  -- The last day lies between two firsts that are kept.
  have last : keepsDay (firstOfMonth (number + 1) - 1) = true := by
    have first := keepsDay_firstOfMonth number
    have after := keepsDay_firstOfMonth (number + 1)
    rw [fits.kept, keepsDay_iff] at first
    rw [fits.next, keepsDay_iff] at after
    have := monthSize_bounds number
    have := firstOfMonth_succ number
    rw [keepsDay_iff]
    omega
  have year : Date.keepsYear ((number + 1) / 12) = true := fits.next
  rw [lengthOfMonth, nextMonth_eq]
  simp only
  rw [if_pos]
  · rfl
  · -- The program reads the length off the last day, which it finds.
    rw [year, Bool.true_and]
    exact last

/-- A month is taken for no longer than it is, and for no shorter than the shortest. -/
theorem lengthOfMonth_bounds (number : Int) :
    28 ≤ lengthOfMonth (number / 12) ((number % 12).toNat + 1) ∧
      lengthOfMonth (number / 12) ((number % 12).toNat + 1) ≤ monthSize number := by
  -- The length is that of the month where its last day is found, and the least length where not.
  have bounds := monthSize_bounds number
  rw [lengthOfMonth, nextMonth_eq]
  simp only
  split
  · exact ⟨bounds.1, Nat.le_refl _⟩
  · exact ⟨Nat.le_refl _, bounds.1⟩

/-- Adding months leads to a kept month, to the same day of it or to its last one. -/
theorem addMonths?_eq (t : Instant) {months number : Int} {day : Nat}
    (target : t.date.monthNumber + months = number) (kept : keepsMonth number = true)
    (clamped : min t.date.day (lengthOfMonth (number / 12) ((number % 12).toNat + 1)) = day) :
    t.addMonths? months = some { t with day := firstOfMonth number + day - 1 } := by
  have counted : 1 ≤ t.date.day := (Date.day_bounds t.day).1
  have bounds := lengthOfMonth_bounds number
  -- Years that are kept have few digits.
  have year : ¬ (number / 12 < -2147483648 ∨ 2147483647 < number / 12) := by
    rw [keepsMonth_iff, minYear, maxYear] at kept
    omega
  have first : 1 ≤ day := by omega
  have within : day ≤ monthLength (number / 12) ((number % 12).toNat + 1) := by
    rw [← clamped]
    exact (Nat.min_le_right _ _).trans bounds.2
  -- The target has a month from one to twelve and a day within it, so the date exists.
  have found : Date.exists? (number / 12) ((number % 12).toNat + 1) day =
      some ⟨number / 12, (number % 12).toNat + 1, day⟩ := by
    have there : Date.keepsYear (number / 12) = true := kept
    have place : (number % 12).toNat + 1 ≤ 12 := by omega
    rw [Date.exists?, there]
    simp only [decide_eq_true place, decide_eq_true first, decide_eq_true within,
      decide_eq_true (Nat.le_add_left 1 _), Bool.and_self, if_true]
  rw [Date.monthNumber] at target
  -- The program works the same target out from the number of the month.
  rw [addMonths?]
  simp only [target, clamped, Bool.or_eq_true, decide_eq_true_eq]
  rw [if_neg year, found, Option.map_some, toDay_eq]

/-- The instant in the month of a number that months are added up to: the time of day stays, and the
day goes down to the last one of the month where that is less. -/
def inMonth (t : Instant) (number : Int) : Instant :=
  { t with day := firstOfMonth number + (min t.date.day (monthSize number) : Nat) - 1 }

/-- Months that are added lead into a month that is kept together with the one after it. -/
theorem addMonths?_of_fits (t : Instant) {months number : Int}
    (target : t.date.monthNumber + months = number) (fits : MonthFits number) :
    t.addMonths? months = some (t.inMonth number) :=
  addMonths?_eq t target fits.kept (by rw [lengthOfMonth_eq fits])

/-- The date in a month has the same day as before, or the last one of the month. -/
theorem date_inMonth (t : Instant) (number : Int) : (t.inMonth number).date =
    ⟨number / 12, (number % 12).toNat + 1, min t.date.day (monthSize number)⟩ := by
  -- The day is cut to the length of the month, so it is one of its days.
  have counted : 1 ≤ t.date.day := (Date.day_bounds t.day).1
  have bounds := monthSize_bounds number
  exact Date.ofDay_place number (by omega) (Nat.min_le_right _ _)

/-- The date in a month has the number of the month. -/
theorem monthNumber_inMonth (t : Instant) (number : Int) :
    (t.inMonth number).date.monthNumber = number := by
  -- Year and month are the quotient and the rest of the number.
  rw [date_inMonth, Date.monthNumber]
  simp only
  omega

/-- In a later month, or on the same or a later day of it, a date is no earlier. -/
theorem inMonth_mono {s t : Instant} {number later : Int} (before : number ≤ later)
    (within : number = later → s.date.day ≤ t.date.day) :
    (s.inMonth number).day ≤ (t.inMonth later).day := by
  have counted : 1 ≤ t.date.day := (Date.day_bounds t.day).1
  have bounds := monthSize_bounds later
  simp only [inMonth]
  obtain rfl | less := before.eq_or_lt
  · -- In one month the days are cut by the same length.
    have := within rfl
    omega
  · -- The whole of the earlier month lies before the later one.
    have next := firstOfMonth_succ number
    have := firstOfMonth_strictMono.monotone (Int.add_one_le_iff.2 less)
    omega

/-- Of two dates in order, the months are in order, and the days when the months are one. -/
theorem monthNumber_mono {s t : Instant} (before : s.day ≤ t.day) :
    s.date.monthNumber ≤ t.date.monthNumber ∧
      (s.date.monthNumber = t.date.monthNumber → s.date.day ≤ t.date.day) := by
  -- Months begin one after the other, and within one month the days are counted from its first.
  have first := Date.monthNumber_bounds s.day
  have second := Date.monthNumber_bounds t.day
  refine ⟨le_of_starts firstOfMonth_strictMono first.1 (before.trans_lt second.2), fun same => ?_⟩
  simp only [date] at same ⊢
  rw [Date.day_ofDay, Date.day_ofDay, same]
  omega

/-- In two goes a date comes to no later day than at once. -/
theorem inMonth_inMonth_le (t : Instant) (between number : Int) :
    ((t.inMonth between).inMonth number).day ≤ (t.inMonth number).day := by
  -- On the way the day may only have been cut.
  refine inMonth_mono (Int.le_refl number) fun _ => ?_
  rw [date_inMonth]
  exact Nat.min_le_left _ _

/-- A day that every month has stays on the way through another month. -/
theorem inMonth_inMonth_eq {t : Instant} (short : t.date.day ≤ 28) (between number : Int) :
    (t.inMonth between).inMonth number = t.inMonth number := by
  have bounds := monthSize_bounds between
  -- No month cuts off a day that they all have.
  have same : (t.inMonth between).date.day = t.date.day := by
    rw [date_inMonth]
    exact Nat.min_eq_left (by omega)
  have days : ((t.inMonth between).inMonth number).day = (t.inMonth number).day := by
    show firstOfMonth number + (min (t.inMonth between).date.day (monthSize number) : Nat) - 1 = _
    rw [same]
    rfl
  exact congrArg (fun day => ({ t with day := day } : Instant)) days

/-- Adding months leads to the month that lies so many months away, at the same time of day, and to
the same day of the month, or to its last one where the month is shorter. Dates stay in their order.
Adding in two goes comes no later than adding at once, and as late for the days that every month
has. -/
theorem addMonths_stays_in_month (t : Instant) (months : Int)
    (fits : MonthFits (t.date.monthNumber + months)) :
    ∃ r, t.addMonths? months = some r ∧
      r.date.monthNumber = t.date.monthNumber + months ∧
      r.second = t.second ∧ r.nano = t.nano ∧
      r.date.day = min t.date.day (monthLength r.date.year r.date.month) ∧
      (∀ s : Instant, t.day ≤ s.day → MonthFits (s.date.monthNumber + months) →
        ∃ q, s.addMonths? months = some q ∧ r.day ≤ q.day) ∧
      ∀ more : Int, MonthFits (t.date.monthNumber + (months + more)) →
        ∃ twice once, r.addMonths? more = some twice ∧
          t.addMonths? (months + more) = some once ∧ (twice.compare once).isLE = true ∧
          (t.date.day ≤ 28 → twice = once) := by
  -- Month after month, the sum is the instant moved into the target month.
  have date := date_inMonth t (t.date.monthNumber + months)
  have number := monthNumber_inMonth t (t.date.monthNumber + months)
  refine ⟨_, addMonths?_of_fits t rfl fits, number, rfl, rfl, ?_, ?_, ?_⟩
  · -- The day is cut by the length of the month of the date that is made.
    rw [date]
    rfl
  · -- Instants in the order of their days move into months of the same order.
    intro s later fitsToo
    obtain ⟨month, day⟩ := monthNumber_mono later
    refine ⟨_, addMonths?_of_fits s rfl fitsToo, inMonth_mono (by omega) fun same => ?_⟩
    exact day (by omega)
  · -- Two steps go through a month that may cut the day, one step does not.
    intro more fitsToo
    refine ⟨_, _, addMonths?_of_fits _ (by rw [number]; omega) fitsToo,
      addMonths?_of_fits t rfl fitsToo, ?_, ?_⟩
    · have before := inMonth_inMonth_le t (t.date.monthNumber + months)
        (t.date.monthNumber + (months + more))
      rw [isLE_compare_iff]
      simp only [secondNumber, inMonth] at before ⊢
      omega
    · exact fun short => inMonth_inMonth_eq short _ _

/-- A month after the last day of January in a leap year, late in a leap second. -/
theorem addMonths_stays_in_month_january :
    MonthFits ((⟨19753, 86399, 1999999999, by decide, by decide⟩ : Instant).date.monthNumber + 1) ∧
      ∃ r, (⟨19753, 86399, 1999999999, by decide, by decide⟩ : Instant).addMonths? 1 = some r ∧
        r.date.day = min 31 (monthLength r.date.year r.date.month) := by
  -- The last of January goes to a February, which is shorter.
  have fits : MonthFits
      ((⟨19753, 86399, 1999999999, by decide, by decide⟩ : Instant).date.monthNumber + 1) :=
    ⟨by decide, by decide⟩
  obtain ⟨r, found, _, _, _, day, _⟩ := addMonths_stays_in_month _ 1 fits
  exact ⟨fits, r, found, day⟩

end Instant

end CalcFields
