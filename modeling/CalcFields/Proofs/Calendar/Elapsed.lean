import CalcFields.Proofs.Calendar.Difference

/-!
What is added to an instant is the time that has passed since. Only from a leap second to another
day a second may be missing, since a leap second counts by the times of day.
-/

namespace CalcFields

namespace Instant

variable {t r : Instant}

/-- The time to an instant outside a leap second is what the seconds and the fractions differ by,
and the leap second that one starts from if the time of day is later. -/
theorem nanosBetween_of_plain (plain : r.nano < nanosPerSecond) :
    nanosBetween t r = (r.secondNumber - t.secondNumber) * 1000000000 + (r.nano - t.nano) +
      if nanosPerSecond ≤ t.nano ∧ t.second < r.second then 1000000000 else 0 := by
  -- The second that a leap second adds is counted in one order of the clocks only.
  simp only [nanosBetween, secondNumber, nanosPerSecond] at plain ⊢
  split_ifs <;> omega

/-- Nanoseconds from a second of a day lead outside of any leap second. -/
theorem ofNanos_eq (day second nanos : Int) :
    (ofNanos day second nanos).nano < nanosPerSecond ∧
      (ofNanos day second nanos).secondNumber * 1000000000 + (ofNanos day second nanos).nano =
        (day * 86400 + second) * 1000000000 + nanos := by
  -- Whole seconds are split off, and what is left is less than one.
  rw [ofNanos, secondNumber_ofSeconds]
  simp only [ofSeconds, nanosPerSecond]
  omega

/-- Milliseconds that are added to a leap second either move its fraction only, or go on from it by
the clock: forward from the second before it ends, and back from the one in which it starts. -/
theorem addMillis_of_leap (leap : nanosPerSecond ≤ t.nano) {millis : Int}
    (added : t.addMillis millis = r) :
    r.day = t.day ∧ r.second = t.second ∧ (r.nano : Int) = t.nano + millis * 1000000 ∨
      r.nano < nanosPerSecond ∧
        (0 < millis ∧ t.secondNumber < r.secondNumber ∧
            (r.secondNumber - t.secondNumber) * 1000000000 + (r.nano - t.nano) =
              (millis - 1000) * 1000000 ∨
          millis < 0 ∧ r.secondNumber ≤ t.secondNumber ∧
            (r.secondNumber - t.secondNumber) * 1000000000 + (r.nano - t.nano) =
              millis * 1000000) := by
  have small := t.nano_lt
  have whole := Int.mul_tdiv_add_tmod millis 1000
  have low := Int.lt_tmod_of_pos millis (by decide : (0 : Int) < 1000)
  have high := Int.tmod_lt_of_pos millis (by decide : (0 : Int) < 1000)
  -- What is left of the whole seconds has the sign of the milliseconds.
  have forward := Int.tmod_nonneg (a := millis) 1000
  have back := Int.tmod_nonneg (a := -millis) 1000
  rw [Int.neg_tmod] at back
  subst added
  rw [addMillis]
  generalize millis.tdiv 1000 = seconds at *
  generalize millis.tmod 1000 = rest at *
  simp only [nanosPerSecond] at leap ⊢
  simp only [Bool.or_eq_true, Bool.and_eq_true, decide_eq_true_eq, Nat.cast_ofNat]
  rw [if_neg (by omega)]
  -- The program leaves the leap second forward or backward, or stays in it; the last case cannot
  -- be.
  split_ifs with later earlier inside
  · refine .inr ?_
    have moved := ofNanos_eq t.day t.second (t.nano + millis * 1000000 - 1000000000)
    simp only [secondNumber, nanosPerSecond] at moved ⊢
    omega
  · refine .inr ?_
    have moved := ofNanos_eq t.day (t.second + 1) (t.nano + millis * 1000000 - 1000000000)
    simp only [secondNumber, nanosPerSecond] at moved ⊢
    omega
  · -- Within the leap second only the fraction moves.
    exact .inl ⟨rfl, rfl, by simp only; omega⟩
  · omega

/-- From a leap second to another day a second is lost: on a later day when it is no later there by
the clock, and on an earlier day when it is later there. -/
def LosesLeap (start stop : Instant) : Prop :=
  nanosPerSecond ≤ start.nano ∧
    (start.day < stop.day ∧ stop.second ≤ start.second ∨
      stop.day < start.day ∧ start.second < stop.second)

instance (start stop : Instant) : Decidable (LosesLeap start stop) :=
  inferInstanceAs (Decidable (_ ∧ _))

/-- The milliseconds that were added have passed since, less a second where one is lost. -/
theorem millisBetween_addMillis {millis : Int} (added : t.addMillis millis = r) :
    ¬ LosesLeap t r ∧ millisBetween t r = millis ∨
      LosesLeap t r ∧ (0 < millis ∧ millisBetween t r = millis - 1000 ∨
        millis < 0 ∧ millisBetween t r = millis + 1000) := by
  have first := t.second_lt
  have second := r.second_lt
  -- The elapsed time is cut to milliseconds, which leaves whole ones alone.
  have exact (whole : Int) (nanos : nanosBetween t r = whole * 1000000) :
      millisBetween t r = whole := by
    rw [millisBetween, nanos, Int.mul_tdiv_cancel _ (by decide)]
  by_cases plain : t.nano < nanosPerSecond
  · -- From a plain second the clock moves by exactly what was added.
    obtain ⟨seconds, nano⟩ := addMillis_eq plain millis
    rw [added] at seconds nano
    have plainToo : r.nano < nanosPerSecond := by
      rw [nanosPerSecond]
      omega
    refine .inl ⟨fun lost => absurd lost.1 plain.not_ge, exact millis ?_⟩
    rw [nanosBetween_of_plain plainToo, if_neg fun leap => absurd leap.1 plain.not_ge]
    omega
  · obtain ⟨day, clock, nano⟩ | ⟨plainToo, passed⟩ := addMillis_of_leap (not_lt.1 plain) added
    · -- Staying within the leap second, the sum keeps the day and the clock.
      refine .inl ⟨fun lost => by have := lost.2; omega, exact millis ?_⟩
      rw [nanosBetween, day, clock, nano]
      simp only [lt_irrefl, if_false]
      omega
    · have nanos := nanosBetween_of_plain (t := t) plainToo
      simp only [LosesLeap, not_lt.1 plain, true_and] at nanos ⊢
      -- The leap second counts when it is later by the clock, whatever the day.
      obtain ⟨forward, ahead, clock⟩ | ⟨back, behind, clock⟩ := passed
      · rw [clock] at nanos
        rw [secondNumber, secondNumber] at ahead
        split_ifs at nanos with later
        · exact .inl ⟨by omega, exact _ (by omega)⟩
        · exact .inr ⟨by omega, .inl ⟨forward, exact _ (by omega)⟩⟩
      · rw [clock] at nanos
        rw [secondNumber, secondNumber] at behind
        split_ifs at nanos with later
        · exact .inr ⟨by omega, .inr ⟨back, exact _ (by omega)⟩⟩
        · exact .inl ⟨by omega, exact _ (by omega)⟩

/-- By the clock an instant moves by what is added to it, or by a second less. -/
theorem addMillis_clock {millis : Int} (added : t.addMillis millis = r) :
    ∃ passed, (r.secondNumber - t.secondNumber) * 1000000000 + (r.nano - t.nano) =
      passed * 1000000 ∧ (passed = millis ∨ passed = millis - 1000) := by
  -- Only from a leap second is the clock a second behind what was added.
  by_cases plain : t.nano < nanosPerSecond
  · obtain ⟨seconds, nano⟩ := addMillis_eq plain millis
    rw [added] at seconds nano
    exact ⟨millis, by omega, .inl rfl⟩
  · obtain ⟨day, clock, nano⟩ | ⟨-, ⟨-, -, clock⟩ | ⟨-, -, clock⟩⟩ :=
      addMillis_of_leap (not_lt.1 plain) added
    · -- Within the leap second the fraction alone has moved.
      rw [secondNumber, secondNumber, day, clock, nano]
      exact ⟨millis, by omega, .inl rfl⟩
    · exact ⟨_, clock, .inr rfl⟩
    · exact ⟨_, clock, .inl rfl⟩

/-- Months that can be added lead to a month that is kept. -/
theorem keepsMonth_of_addMonths? {months : Int} (added : t.addMonths? months = some r) :
    keepsMonth (t.date.monthNumber + months) = true := by
  -- The target date exists, and a date that exists is in a kept year.
  rw [addMonths?] at added
  simp only [Option.ite_none_left_eq_some, Option.map_eq_some_iff,
    Date.exists?_eq_some_iff] at added
  obtain ⟨-, target, ⟨rfl, kept⟩, -⟩ := added
  exact kept.year

/-- Months that are added move the month of the date by as many. -/
theorem monthNumber_of_addMonths? {months : Int} (added : t.addMonths? months = some r) :
    r.date.monthNumber = t.date.monthNumber + months := by
  have counted : 1 ≤ t.date.day := (Date.day_bounds t.day).1
  have bounds := lengthOfMonth_bounds (t.date.monthNumber + months)
  have next := firstOfMonth_succ (t.date.monthNumber + months)
  have moved := addMonths?_eq t rfl (keepsMonth_of_addMonths? added) rfl
  rw [moved, Option.some_inj] at added
  subst added
  -- The day is one of the target month, the last one at most.
  exact Date.monthNumber_eq_iff.2 ⟨by simp only; omega, by simp only; omega⟩

/-- Between the same days of two months there are as many months as the months are apart. -/
theorem monthsBetween_of_day_eq (same : r.date.day = t.date.day) :
    monthsBetween t r = r.date.monthNumber - t.date.monthNumber := by
  -- On the same day of the month neither comparison takes a month off.
  have apart := monthNumber_sub t r
  simp only [monthsBetween, apart, same, lt_irrefl, decide_false, Bool.and_false,
    Bool.false_eq_true, if_false]

end Instant

end CalcFields
