import CalcFields.Formula.Dating
import CalcFields.Proofs.Calendar.Elapsed
import CalcFields.Proofs.Decimal.Whole

/-!
Adding units and counting them are inverse to each other, and counting them back changes the sign.
Both laws have their exceptions at the ends of a day: a leap second is lost on the way to another
day, and there is no whole millisecond across a midnight that is near enough.
-/

namespace CalcFields

/-- Truncated division of less than a positive multiple gives less. -/
theorem tdiv_sub_ne {n less : Int} {width : Nat} (more : 0 < n * width) (part : 0 < less) :
    (n * width - less).tdiv width ≠ n := by
  -- The quotient times the width would be more than there is, by a part of the width.
  intro same
  have split := Int.tdiv_mul_add_tmod (n * width - less) width
  have forward := Int.tmod_nonneg (a := n * width - less) width
  have back := Int.tdiv_nonneg (a := -(n * width - less)) (b := width)
  rw [Int.neg_tdiv, same] at back
  rw [same] at split
  -- The rest is negative, so that the dividend is, and then the quotient is not positive.
  have nonpos : n ≤ 0 := by omega
  exact more.not_ge (mul_nonpos_of_nonpos_of_nonneg nonpos (Int.natCast_nonneg width))

/-- A double that is a whole number is cut off to it, within the range of 64 bits. -/
theorem saturated64_of_wholeNumber? {x : Float} {n : Int} (whole : wholeNumber? x = some n) :
    saturated64 x = max minInt64 (min maxInt64 n) := by
  -- A whole number decodes, and its whole part is cut off to the bounds.
  rw [wholeNumber?] at whole
  cases decoded : Dyadic.ofFloat? x with
  | none =>
    rw [decoded] at whole
    cases whole
  | some d =>
    rw [decoded] at whole
    obtain ⟨-, same⟩ := Option.ite_none_right_eq_some.1 whole
    rw [saturated64, decoded, ← Option.some.inj same]

namespace TimeUnit

/-- The length of a unit, in milliseconds or in months. -/
def length (unit : TimeUnit) : Nat :=
  match unit.measure with
  | .fixed millis => millis
  | .calendar months => months

/-- Units of months have no fixed length. -/
def isCalendar (unit : TimeUnit) : Bool :=
  match unit.measure with
  | .fixed _ => false
  | .calendar _ => true

/-- Units have a length. -/
theorem length_pos (unit : TimeUnit) : 0 < unit.length := by
  cases unit <;> decide

end TimeUnit

namespace Instant

variable {t r : Instant} {unit : TimeUnit}

/-- The seconds of kept days are few. -/
theorem secondNumber_bounds (kept : keepsDay t.day = true) :
    -8400000000000 < t.secondNumber ∧ t.secondNumber < 8400000000000 := by
  have := t.second_lt
  have first : yearStart minYear = -96465292 := by decide
  have last : yearStart (maxYear + 1) = 95026237 := by decide
  -- The kept days lie between the first and the last of the years.
  simp only [keepsDay, first, last, Bool.and_eq_true, decide_eq_true_eq] at kept
  rw [secondNumber]
  omega

/-- Milliseconds that lead from a kept day to another one fit 64 bits by far. -/
theorem addMillis_of_saturated (kept : keepsDay t.day = true) {millis : Int}
    (added : t.addMillis? (max minInt64 (min maxInt64 millis)) = some r) :
    t.addMillis millis = r := by
  rw [addMillis?] at added
  simp only [Option.ite_none_right_eq_some, Bool.and_eq_true, Option.some_inj] at added
  obtain ⟨⟨-, keptToo⟩, sum⟩ := added
  rw [sum] at keptToo
  obtain ⟨passed, clock, near⟩ := addMillis_clock sum
  have first := secondNumber_bounds kept
  have second := secondNumber_bounds keptToo
  have firstNano := t.nano_lt
  have secondNano := r.nano_lt
  -- Kept days lie far less than 64 bits of milliseconds apart, so nothing was cut off.
  have exact : max minInt64 (min maxInt64 millis) = millis := by
    rw [minInt64, maxInt64] at near ⊢
    omega
  rwa [exact] at sum

/-- Months that lead from a kept day to another one fit 64 bits by far. -/
theorem addMonths?_of_saturated (kept : keepsDay t.day = true) {months : Int}
    (added : t.addMonths? (max minInt64 (min maxInt64 months)) = some r) :
    t.addMonths? months = some r := by
  have target := keepsMonth_of_addMonths? added
  have start : keepsMonth t.date.monthNumber = true := keepsDay_eq t.day ▸ kept
  rw [keepsMonth_iff, minYear, maxYear] at target start
  -- Kept months are far fewer than 64 bits hold.
  have exact : max minInt64 (min maxInt64 months) = months := by
    rw [minInt64, maxInt64] at target ⊢
    omega
  rwa [exact] at added

/-- Units of a fixed length are added as the milliseconds that they make. -/
theorem addMillis_of_addUnits? {x : Float} {n : Int} (kept : keepsDay t.day = true)
    (exact : wholeNumber? (x * .ofNat unit.length) = some n) (fixed : unit.isCalendar = false)
    (added : t.addUnits? unit x = some r) : t.addMillis n = r := by
  obtain ⟨-, sum⟩ := Option.ite_none_left_eq_some.1 added
  rw [TimeUnit.length] at exact
  rw [TimeUnit.isCalendar] at fixed
  -- The length of a unit of months counts months, so only the other kind is left.
  cases measure : unit.measure with
  | calendar months => simp only [measure, Bool.true_eq_false] at fixed
  | fixed millis =>
    simp only [measure] at exact sum
    rw [saturated64_of_wholeNumber? exact] at sum
    exact addMillis_of_saturated kept sum

/-- Units of months are added as the months that they make. -/
theorem addMonths?_of_addUnits? {x : Float} {n : Int} (kept : keepsDay t.day = true)
    (exact : wholeNumber? (x * .ofNat unit.length) = some n) (calendar : unit.isCalendar = true)
    (added : t.addUnits? unit x = some r) : t.addMonths? n = some r := by
  obtain ⟨-, sum⟩ := Option.ite_none_left_eq_some.1 added
  rw [TimeUnit.length] at exact
  rw [TimeUnit.isCalendar] at calendar
  -- The length of a fixed unit counts milliseconds, so only the other kind is left.
  cases measure : unit.measure with
  | fixed millis => simp only [measure, Bool.false_eq_true] at calendar
  | calendar months =>
    simp only [measure] at exact sum
    rw [saturated64_of_wholeNumber? exact] at sum
    exact addMonths?_of_saturated kept sum

/-- Units of a fixed length are counted in milliseconds and the others in months. -/
theorem unitsBetween_eq (unit : TimeUnit) (a b : Instant) : unitsBetween unit a b =
    (if unit.isCalendar then monthsBetween a b else millisBetween a b).tdiv unit.length := by
  -- Calendar units are measured in months, all others in milliseconds.
  rw [unitsBetween, TimeUnit.isCalendar, TimeUnit.length]
  cases unit.measure <;> rfl

/-- Whole units that are added are counted from the instant to the sum, where months keep the day of
the month. A unit of fixed length that loses a leap second is the one exception. -/
theorem unitsBetween_addUnits?_eq_iff (kept : keepsDay t.day = true) {x : Float} {n : Int}
    (exact : wholeNumber? (x * .ofNat unit.length) = some (n * unit.length))
    (added : t.addUnits? unit x = some r)
    (unclamped : unit.isCalendar = true → r.date.day = t.date.day) :
    unitsBetween unit t r = n ↔ ¬ (unit.isCalendar = false ∧ LosesLeap t r) := by
  have positive := unit.length_pos
  rw [unitsBetween_eq]
  cases calendar : unit.isCalendar with
  -- Months are counted by their numbers, and the day is kept.
  | true =>
    have sum := addMonths?_of_addUnits? kept exact calendar added
    have months : monthsBetween t r = n * unit.length := by
      rw [monthsBetween_of_day_eq (unclamped calendar), monthNumber_of_addMonths? sum]
      omega
    simp only [if_true, months, Int.mul_tdiv_cancel _ (by omega : (unit.length : Int) ≠ 0),
      Bool.true_eq_false, false_and, not_false_eq_true]
  | false =>
    have sum := addMillis_of_addUnits? kept exact calendar added
    simp only [Bool.false_eq_true, if_false, true_and]
    -- Milliseconds come back whole unless a leap second is lost, in either direction.
    obtain ⟨whole, millis⟩ | ⟨lost, ⟨forward, millis⟩ | ⟨back, millis⟩⟩ :=
      millisBetween_addMillis sum
    · rw [millis, Int.mul_tdiv_cancel _ (by omega)]
      exact iff_of_true rfl whole
    · rw [millis]
      exact iff_of_false (tdiv_sub_ne forward (by decide)) (not_not_intro lost)
    · -- Backward it is the same with the other sign.
      have turned : (-n * unit.length - 1000).tdiv unit.length ≠ -n :=
        tdiv_sub_ne (by rw [Int.neg_mul]; omega) (by decide)
      have sign : n * unit.length + 1000 = -(-n * unit.length - 1000) := by
        rw [Int.neg_mul]
        omega
      rw [millis, sign, Int.neg_tdiv]
      exact iff_of_false (by omega) (not_not_intro lost)

/-- Sixteen quarters lead from one leap day to the next but three. -/
theorem unitsBetween_addUnits?_leapDay :
    keepsDay 19782 = true ∧
      wholeNumber? (16 * .ofNat TimeUnit.quarter.length) = some (16 * TimeUnit.quarter.length) ∧
      (⟨19782, 45296, 789123456, by decide, by decide⟩ : Instant).addUnits? .quarter 16 =
        some ⟨21243, 45296, 789123456, by decide, by decide⟩ ∧
      unitsBetween .quarter ⟨19782, 45296, 789123456, by decide, by decide⟩
        ⟨21243, 45296, 789123456, by decide, by decide⟩ = 16 := by
  -- Sixteen quarters lead from one leap day to the next.
  have kept : keepsDay 19782 = true := by decide
  have exact : wholeNumber? (16 * .ofNat TimeUnit.quarter.length) =
      some (16 * TimeUnit.quarter.length) := by decide
  have added : (⟨19782, 45296, 789123456, by decide, by decide⟩ : Instant).addUnits? .quarter 16 =
      some ⟨21243, 45296, 789123456, by decide, by decide⟩ := by decide
  exact ⟨kept, exact, added, (unitsBetween_addUnits?_eq_iff kept exact added
    fun _ => by decide).2 (by decide)⟩

/-- An hour from the leap second at the end of 2016 leads into the next day by the clock, and no
whole hour is counted there. -/
theorem unitsBetween_addUnits?_leapSecond : ¬ ∀ (t r : Instant) (unit : TimeUnit) (x : Float)
    (n : Int), keepsDay t.day = true →
      wholeNumber? (x * .ofNat unit.length) = some (n * unit.length) →
        t.addUnits? unit x = some r → (unit.isCalendar = true → r.date.day = t.date.day) →
          unitsBetween unit t r = n := by
  -- An hour from within the leap second ends a second short.
  intro all
  have hour := all ⟨17166, 86399, 1000000000, by decide, by decide⟩
    ⟨17167, 3599, 0, by decide, by decide⟩ .hour 1 1 (by decide) (by decide)
    (by decide) (fun calendar => absurd calendar (by decide))
  exact absurd hour (by decide)

end Instant

namespace Dating

/-- The units from one value to another are the units back but for their sign. Between instants that
are torn apart by a midnight the months are the one exception, and are one less. -/
theorem differenceOf_swap {name start stop : Value} {unit : TimeUnit} {s e : Instant}
    (known : name.timeUnit? = some unit) (first : start.instant? = some s)
    (second : stop.instant? = some e) :
    ∃ n : Int, differenceOf name start stop = .ofInt n ∧
      differenceOf name stop start =
        .ofInt (if unit = .month ∧ s.Torn e then -n - 1 else -n) := by
  -- Both directions count from the same two instants, and the exact swap is a fact about instants.
  refine ⟨Instant.unitsBetween unit s e, ?_, ?_⟩
  · simp only [differenceOf, known, first, second]
  · simp only [differenceOf, known, first, second, Instant.unitsBetween_swap unit s e]

/-- The quarters over a midnight from half a millisecond before it, there and back. -/
theorem differenceOf_swap_midnight :
    (Value.string " Quarter").timeUnit? = some .quarter ∧
      (Value.string "2024-12-31T23:59:59.9995Z").instant? =
        some ⟨20088, 86399, 999500000, by decide, by decide⟩ ∧
      (Value.string "2025-01-01").instant? = some (.midnight 20089) ∧
      ∃ n : Int, differenceOf (.string " Quarter") (.string "2024-12-31T23:59:59.9995Z")
          (.string "2025-01-01") = .ofInt n ∧
        differenceOf (.string " Quarter") (.string "2025-01-01")
          (.string "2024-12-31T23:59:59.9995Z") = .ofInt (-n) := by
  have known : (Value.string " Quarter").timeUnit? = some .quarter := by decide
  have first : (Value.string "2024-12-31T23:59:59.9995Z").instant? =
      some ⟨20088, 86399, 999500000, by decide, by decide⟩ := by decide
  have second : (Value.string "2025-01-01").instant? = some (.midnight 20089) := by
    decide
  -- Half a millisecond is no quarter, in either direction.
  obtain ⟨n, there, back⟩ := differenceOf_swap known first second
  exact ⟨known, first, second, n, there, back⟩

/-- From half a millisecond before the end of January to that end there is no month, and back there
is one. -/
theorem differenceOf_torn : ¬ ∀ (name start stop : Value) (n : Int),
    differenceOf name start stop = .ofInt n → differenceOf name stop start = .ofInt (-n) := by
  have known : (Value.string "month").timeUnit? = some .month := by decide
  have first : (Value.string "2025-01-31T23:59:59.9995Z").instant? =
      some ⟨20119, 86399, 999500000, by decide, by decide⟩ := by decide
  have second : (Value.string "2025-02-01T00:00:00Z").instant? = some (.midnight 20120) := by
    decide
  have there : differenceOf (.string "month") (.string "2025-01-31T23:59:59.9995Z")
      (.string "2025-02-01T00:00:00Z") = .ofInt 0 := by
    simp only [differenceOf, known, first, second]
    exact congrArg Value.ofInt (by decide)
  -- Back in time the half millisecond takes a whole one.
  have back : differenceOf (.string "month") (.string "2025-02-01T00:00:00Z")
      (.string "2025-01-31T23:59:59.9995Z") = .ofInt (-1) := by
    simp only [differenceOf, known, first, second]
    exact congrArg Value.ofInt (by decide)
  intro all
  have none := (all _ _ _ 0 there).symm.trans back
  exact absurd (Value.number.inj none) (by decide)

end Dating

end CalcFields
