import CalcFields.Calendar.Instant

/-!
An instant outside a leap second is a second of the time line and a fraction of it: both together
determine the instant, order it and take up the milliseconds that are added to it.
-/

namespace CalcFields

namespace Instant

variable {a b t : Instant}

/-- The number of seconds from the start of 1970 to the second of an instant. -/
def secondNumber (t : Instant) : Int :=
  t.day * 86400 + t.second

/-- The second of an instant lies on its day. -/
theorem secondNumber_div (t : Instant) : t.secondNumber / 86400 = t.day := by
  -- The seconds of a day do not reach the next one.
  have := t.second_lt
  rw [secondNumber]
  omega

/-- Instants with the same second of the time line and the same fraction are one. -/
theorem ext_secondNumber (seconds : a.secondNumber = b.secondNumber) (nanos : a.nano = b.nano) :
    a = b := by
  -- Quotient and rest by the seconds of a day give the day and the second back.
  obtain ⟨day, second, nano, second_lt, nano_lt⟩ := a
  obtain ⟨dayToo, secondToo, nanoToo, second_ltToo, nano_ltToo⟩ := b
  simp only [secondNumber] at seconds
  obtain ⟨rfl, rfl⟩ : day = dayToo ∧ second = secondToo := by omega
  obtain rfl : nano = nanoToo := nanos
  rfl

/-- Instants are ordered by their seconds and then by their fractions. -/
theorem isLE_compare_iff : (a.compare b).isLE = true ↔
    a.secondNumber < b.secondNumber ∨ a.secondNumber = b.secondNumber ∧ a.nano ≤ b.nano := by
  -- Day and second are compared one after the other, which is how their number compares.
  have first := a.second_lt
  have second := b.second_lt
  rw [compare, Ordering.isLE_then_iff_or, Ordering.isLE_then_iff_or, Nat.isLE_compare,
    Int.compare_eq_lt, Nat.compare_eq_lt, Int.compare_eq_eq, Nat.compare_eq_eq, secondNumber,
    secondNumber]
  omega

/-- A second of the time line is found on its day. -/
theorem secondNumber_ofSeconds (day seconds : Int) (nano : Nat) (small : nano < 2000000000) :
    (ofSeconds day seconds nano small).secondNumber = day * 86400 + seconds := by
  -- Seconds past a day, or before it, are carried over to the day.
  simp only [ofSeconds, secondNumber]
  omega

/-- A fraction may be zero. -/
theorem nano_zero_lt : 0 < 2000000000 := by
  decide

/-- The start of a second of the time line. -/
def atSecond (seconds : Int) : Instant :=
  ofSeconds 0 seconds 0 nano_zero_lt

/-- The start of a second of the time line lies in this second. -/
@[simp] theorem secondNumber_atSecond (seconds : Int) :
    (atSecond seconds).secondNumber = seconds := by
  -- Counted from 1970 the seconds are all that is split.
  rw [atSecond, secondNumber_ofSeconds]
  omega

/-- The start of a second of the time line lies on the day of this second. -/
@[simp] theorem day_atSecond (seconds : Int) : (atSecond seconds).day = seconds / 86400 :=
  Int.zero_add _

/-- The start of a second has no fraction. -/
@[simp] theorem nano_atSecond (seconds : Int) : (atSecond seconds).nano = 0 :=
  rfl

/-- The start of a second lies in no leap second. -/
theorem plain_atSecond (seconds : Int) : (atSecond seconds).nano < nanosPerSecond :=
  Nat.zero_lt_succ _

/-- An instant without a fraction is the start of its second. -/
theorem eq_atSecond {seconds : Int} (second : t.secondNumber = seconds) (whole : t.nano = 0) :
    t = atSecond seconds :=
  ext_secondNumber (by rw [second, secondNumber_atSecond]) whole

/-- The start of a day is the start of its first second. -/
theorem midnight_eq (day : Int) : midnight day = atSecond (day * 86400) :=
  eq_atSecond (by simp [midnight, secondNumber]) rfl

/-- Milliseconds that are added outside a leap second go into the fraction, and the whole seconds of
it into the second. -/
theorem addMillis_eq (plain : t.nano < nanosPerSecond) (millis : Int) :
    (t.addMillis millis).secondNumber =
        t.secondNumber + (t.nano + millis * 1000000) / 1000000000 ∧
      ((t.addMillis millis).nano : Int) = (t.nano + millis * 1000000) % 1000000000 := by
  -- A plain instant adds by the clock, with the fraction carried into the seconds.
  rw [addMillis, if_pos plain, ofNanos]
  refine ⟨?_, ?_⟩
  · rw [secondNumber_ofSeconds, secondNumber]
    omega
  · exact Int.toNat_of_nonneg (Int.emod_nonneg _ (by decide))

/-- One millisecond before the start of a second is the last millisecond of the second before. -/
theorem addMillis_neg_one (seconds : Int) :
    ((atSecond seconds).addMillis (-1)).secondNumber = seconds - 1 ∧
      ((atSecond seconds).addMillis (-1)).nano = 999000000 := by
  -- A millisecond less borrows from the second.
  obtain ⟨second, nano⟩ := addMillis_eq (plain_atSecond seconds) (-1)
  rw [secondNumber_atSecond, nano_atSecond] at second
  rw [nano_atSecond] at nano
  omega

/-- Whole seconds that are added to the start of a second lead to the start of another one. -/
theorem addMillis_atSecond (seconds more : Int) :
    (atSecond seconds).addMillis (more * 1000) = atSecond (seconds + more) := by
  -- A thousand milliseconds are a second, and leave no fraction.
  obtain ⟨second, nano⟩ := addMillis_eq (plain_atSecond seconds) (more * 1000)
  refine eq_atSecond ?_ ?_
  · rw [second, secondNumber_atSecond, nano_atSecond]
    omega
  · rw [nano_atSecond] at nano
    omega

/-- A millisecond can be taken off the start of a second when the day of the second before is
kept. -/
theorem addMillis?_neg_one {seconds : Int} (kept : keepsDay ((seconds - 1) / 86400) = true) :
    (atSecond seconds).addMillis? (-1) = some ((atSecond seconds).addMillis (-1)) := by
  -- The day of the sum is the day of the second before.
  have few : (-1 : Int).natAbs ≤ addMillis?.maxMillis := by decide
  rw [← (addMillis_neg_one seconds).1, secondNumber_div] at kept
  rw [addMillis?, kept, decide_eq_true few]
  rfl

/-- The last millisecond before the start of a second is followed by that start. -/
theorem addMillis?_one {seconds : Int} (kept : keepsDay (seconds / 86400) = true) :
    ((atSecond seconds).addMillis (-1)).addMillis? 1 = some (atSecond seconds) := by
  obtain ⟨second, nano⟩ := addMillis_neg_one seconds
  generalize (atSecond seconds).addMillis (-1) = last at second nano
  -- The last millisecond of a second is no leap second, so one more goes on to the start.
  have plain : last.nano < nanosPerSecond := by rw [nano]; decide
  have back : last.addMillis 1 = atSecond seconds := by
    obtain ⟨secondToo, nanoToo⟩ := addMillis_eq plain 1
    rw [nano] at secondToo nanoToo
    exact eq_atSecond (by omega) (by omega)
  have few : (1 : Int).natAbs ≤ addMillis?.maxMillis := by decide
  rw [addMillis?, back, day_atSecond, kept, decide_eq_true few]
  rfl

/-- The start of a second is no later than an instant when the instant lies in no earlier second. -/
theorem isLE_atSecond_iff {seconds : Int} :
    ((atSecond seconds).compare t).isLE = true ↔ seconds ≤ t.secondNumber := by
  -- An instant without a fraction is the first of its second.
  rw [isLE_compare_iff, secondNumber_atSecond, nano_atSecond]
  omega

/-- An instant without the part of it that is less than a millisecond. -/
def wholeMillis (t : Instant) : Instant :=
  { t with nano := t.nano / 1000000 * 1000000, nano_lt := by have := t.nano_lt; omega }

/-- Before the start of a second and outside a leap second there is no later millisecond than the
last one before that start. -/
theorem wholeMillis_isLE {seconds : Int} (plain : t.nano < nanosPerSecond)
    (before : t.secondNumber < seconds) :
    (t.wholeMillis.compare ((atSecond seconds).addMillis (-1))).isLE = true := by
  -- The last whole millisecond before a second has the greatest fraction that is whole.
  obtain ⟨second, nano⟩ := addMillis_neg_one seconds
  have same : t.wholeMillis.secondNumber = t.secondNumber := rfl
  have whole : t.wholeMillis.nano = t.nano / 1000000 * 1000000 := rfl
  rw [isLE_compare_iff, second, nano, same, whole]
  rw [nanosPerSecond] at plain
  omega

end Instant

end CalcFields
