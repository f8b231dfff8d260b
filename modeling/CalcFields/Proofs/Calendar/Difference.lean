import CalcFields.Proofs.Calendar.Months

/-!
The time from one instant to another is the time back but for its sign. So are the whole units in
it, apart from months: their sign goes by whole milliseconds, and midnight may be nearer than one.
-/

namespace CalcFields

/-- Truncated division gives zero for what is less than the divisor. -/
theorem tdiv_eq_zero_iff {n : Int} {width : Nat} (positive : 0 < width) :
    n.tdiv width = 0 ↔ n.natAbs < width := by
  -- A quotient that is cut off has no sign left when it is zero, so sizes decide.
  rw [← Int.natAbs_eq_zero, Int.natAbs_tdiv, Int.natAbs_natCast]
  exact Nat.div_eq_zero_iff_lt positive

namespace Date

/-- A month of the calendar counts from one. -/
theorem one_le_month (day : Int) : 1 ≤ (ofDay day).month := by
  -- Months are counted from zero and named from one.
  rw [ofDay_eq rfl]
  exact Nat.le_add_left 1 _

end Date

namespace Instant

variable {a b : Instant}

/-- The time between two instants in nanoseconds is the time back but for its sign. -/
theorem nanosBetween_swap (a b : Instant) : nanosBetween b a = -nanosBetween a b := by
  -- The leap second of either instant counts both ways, once with each sign.
  have leap : (if b.second < a.second then (if nanosPerSecond ≤ b.nano then (1 : Int) else 0)
      else if a.second < b.second then (if nanosPerSecond ≤ a.nano then -1 else 0) else 0) =
      -(if a.second < b.second then (if nanosPerSecond ≤ a.nano then 1 else 0)
        else if b.second < a.second then (if nanosPerSecond ≤ b.nano then -1 else 0) else 0) := by
    split_ifs <;> omega
  simp only [nanosBetween, leap]
  ring

/-- The time between two instants in milliseconds is the time back but for its sign. -/
theorem millisBetween_swap (a b : Instant) : millisBetween b a = -millisBetween a b := by
  rw [millisBetween, millisBetween, nanosBetween_swap a b, Int.neg_tdiv]

/-- Instants less than a millisecond apart lie on one day or on adjacent ones. -/
theorem days_of_millisBetween_eq_zero (near : millisBetween a b = 0) :
    b.day ≤ a.day + 1 ∧ a.day ≤ b.day + 1 := by
  have first := a.second_lt
  have second := b.second_lt
  have firstNano := a.nano_lt
  have secondNano := b.nano_lt
  rw [millisBetween] at near
  -- A leap second reaches at most one second beyond its day.
  have small := (tdiv_eq_zero_iff (by decide : 0 < 1000000)).1 near
  simp only [nanosBetween, nanosPerSecond] at small
  split_ifs at small <;> omega

/-- On one day or on adjacent ones the months are one or adjacent as well. -/
theorem months_of_days (next : b.day ≤ a.day + 1) :
    b.date.monthNumber ≤ a.date.monthNumber + 1 := by
  -- A month is at least a day long, so a day more reaches at most the next month.
  have first := Date.monthNumber_bounds a.day
  have second := Date.monthNumber_bounds b.day
  have after := firstOfMonth_succ (a.date.monthNumber + 1)
  have long := monthSize_bounds (a.date.monthNumber + 1)
  simp only [date] at after long ⊢
  exact le_of_starts firstOfMonth_strictMono second.1 (by omega)

/-- The months between two dates are the difference of the numbers of their months. -/
theorem monthNumber_sub (a b : Instant) :
    (b.date.year - a.date.year) * 12 + ((b.date.month : Int) - a.date.month) =
      b.date.monthNumber - a.date.monthNumber := by
  -- The number of a month counts from zero, and both names are off by the same one.
  have first : 1 ≤ a.date.month := Date.one_le_month a.day
  have second : 1 ≤ b.date.month := Date.one_le_month b.day
  simp only [Date.monthNumber]
  omega

/-- Two instants on different days of the month are torn apart by a midnight when there is no whole
millisecond between them, so that neither of them counts as the later one. -/
def Torn (a b : Instant) : Prop :=
  millisBetween a b = 0 ∧ a.date.day ≠ b.date.day

instance (a b : Instant) : Decidable (Torn a b) :=
  inferInstanceAs (Decidable (_ ∧ _))

/-- The months back are the months there but for their sign, less one between instants that are torn
apart. -/
theorem monthsBetween_swap (a b : Instant) :
    monthsBetween b a = if Torn a b then -monthsBetween a b - 1 else -monthsBetween a b := by
  -- Both ways count the same months and take one off by the same comparison, turned around.
  have there := monthNumber_sub a b
  have back := monthNumber_sub b a
  simp only [monthsBetween, millisBetween_swap a b, there, back, Torn, Bool.and_eq_true,
    decide_eq_true_eq]
  split_ifs <;> omega

/-- Between instants that are torn apart there are few months. -/
theorem Torn.monthsBetween_bounds (torn : Torn a b) :
    -2 ≤ monthsBetween a b ∧ monthsBetween a b ≤ 1 := by
  -- Torn instants lie a day apart at most, hence in the same month or in neighbours.
  obtain ⟨next, previous⟩ := days_of_millisBetween_eq_zero torn.1
  have later := months_of_days next
  have earlier := months_of_days previous
  have there := monthNumber_sub a b
  simp only [monthsBetween, there, torn.1, Bool.and_eq_true, decide_eq_true_eq]
  split_ifs <;> omega

/-- The whole units back are the units there but for their sign, and only single months are one less
between instants that are torn apart: in three months or more nothing is left of that one. -/
theorem unitsBetween_swap (unit : TimeUnit) (a b : Instant) :
    unitsBetween unit b a = if unit = .month ∧ Torn a b then -unitsBetween unit a b - 1
      else -unitsBetween unit a b := by
  have fixed (millis : Nat) :
      (millisBetween b a).tdiv millis = -(millisBetween a b).tdiv millis := by
    rw [millisBetween_swap a b, Int.neg_tdiv]
  have calendar (months : Nat) (several : 3 ≤ months) :
      (monthsBetween b a).tdiv months = -(monthsBetween a b).tdiv months := by
    rw [monthsBetween_swap a b]
    split
    · -- There are at most two months between torn instants, so three or more give none either way.
      rename_i torn
      obtain ⟨low, high⟩ := torn.monthsBetween_bounds
      rw [(tdiv_eq_zero_iff (by omega)).2 (by omega), (tdiv_eq_zero_iff (by omega)).2 (by omega)]
      rfl
    · exact Int.neg_tdiv ..
  cases unit with
  | month =>
    have single (n : Int) : n.tdiv (1 : Nat) = n := Int.tdiv_one n
    simp only [unitsBetween, TimeUnit.measure, single, true_and]
    exact monthsBetween_swap a b
  -- Several months at a time hide the one month by which the two ways may differ.
  | quarter => exact calendar 3 (by decide)
  | year => exact calendar 12 (by decide)
  | _ => exact fixed _

end Instant

end CalcFields
