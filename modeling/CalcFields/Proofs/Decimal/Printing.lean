import CalcFields.Proofs.Decimal.Whole
import CalcFields.Value.Text

/-!
A whole number of few bits is written as its digits, and no other double is written so: the decimal
that is found for a double lies in its rounding interval, where no second whole number lies.
-/

namespace CalcFields

/-- A positive number times a power of ten is written with as many zeros behind its digits. -/
theorem toDigits_mul_pow {n : Nat} (positive : 0 < n) (places : Nat) :
    Nat.toDigits 10 (n * 10 ^ places) = Nat.toDigits 10 n ++ zeros places := by
  -- Induction on the zeros that are written behind.
  induction places with
  | zero => simp [zeros]
  | succ places ih =>
    -- The last digit is split off, and it is a zero.
    have last : n * 10 ^ (places + 1) = 10 * (n * 10 ^ places) + 0 := by
      rw [pow_succ]
      ring
    rw [last, ← Nat.toDigits_append_toDigits (by decide)
      (Nat.mul_pos positive (Nat.pow_pos (by decide))) (by decide), ih, List.append_assoc]
    refine congrArg _ ?_
    rw [zeros, zeros, Nat.toDigits_zero, List.replicate_succ']

namespace RoundingInterval

variable {interval : RoundingInterval} {power : Int} {point : Nat}

/-- A neighbour of the middle that is taken lies inside. -/
theorem holds_of_nearest? (found : interval.nearest? power = some point) :
    interval.holds power point = true := by
  simp only [nearest?] at found
  split at found
  · rename_i lower upper
    -- When both neighbours lie inside, whichever is taken does.
    split at found
    · cases found
      exact lower
    · split at found
      · cases found
        exact upper
      · split at found
        · cases found
          exact lower
        · cases found
          exact upper
  · -- When one of them lies inside, it is the one that is taken.
    rename_i lower _
    cases found
    exact lower
  · rename_i _ upper
    cases found
    exact upper
  · cases found

/-- The search ends with a point inside, or below all the grids that it tried. -/
theorem search_spec (interval : RoundingInterval) (power : Int) (tries : Nat) :
    interval.holds (interval.search power tries).exponent (interval.search power tries).digits =
        true ∨
      (interval.search power tries) = ⟨interval.below (power - tries), power - tries⟩ := by
  -- Induction on the grids that are left to try.
  induction tries generalizing power with
  | zero => exact .inr (by simp [search])
  | succ tries ih =>
    rw [search]
    split
    · rename_i found
      exact .inl (holds_of_nearest? found)
    · -- The next grid is finer by one place, and has one try less.
      have later : power - 1 - tries = power - (tries + 1 : Nat) := by omega
      rw [← later]
      exact ih (power - 1)

/-- The search finds a point inside no finer a grid than one on which there is a point. -/
theorem search_of_isSome {target : Int} (there : (interval.nearest? target).isSome = true)
    (power : Int) (tries : Nat) (coarser : target ≤ power) (near : power - target < tries) :
    target ≤ (interval.search power tries).exponent ∧
      interval.holds (interval.search power tries).exponent
        (interval.search power tries).digits = true := by
  -- Induction on the grids that are left, of which the target is one.
  induction tries generalizing power with
  -- No try is left, so the target was passed.
  | zero => omega
  | succ tries ih =>
    rw [search]
    split
    · rename_i found
      exact ⟨coarser, holds_of_nearest? found⟩
    · -- There is a point on the target, so it is not this grid and must be finer.
      rename_i missing
      have below : target ≠ power := by
        rintro rfl
        rw [missing] at there
        cases there
      exact ih (power - 1) (by omega) (by omega)

variable {d : Dyadic}

/-- How far the interval of a number reaches down, in quarters of a place. -/
def reach (d : Dyadic) : Nat :=
  if d.significand = 4503599627370496 ∧ -1074 < d.exponent then 1 else 2

/-- A grid of whole numbers has a point inside when it is at most so far from the middle. -/
theorem holds_iff (whole : 0 ≤ power) :
    (ofDyadic d).holds power point = true ↔
      if d.significand % 2 = 0 then
        (4 * d.significand - reach d) * 2 ^ d.exponent.toNat ≤
            4 * (point * 10 ^ power.toNat * 2 ^ (-d.exponent).toNat) ∧
          4 * (point * 10 ^ power.toNat * 2 ^ (-d.exponent).toNat) ≤
            (4 * d.significand + 2) * 2 ^ d.exponent.toNat
      else
        (4 * d.significand - reach d) * 2 ^ d.exponent.toNat <
            4 * (point * 10 ^ power.toNat * 2 ^ (-d.exponent).toNat) ∧
          4 * (point * 10 ^ power.toNat * 2 ^ (-d.exponent).toNat) <
            (4 * d.significand + 2) * 2 ^ d.exponent.toNat := by
  have scaled : point * (4 * 2 ^ (-d.exponent).toNat * 10 ^ power.toNat) =
      4 * (point * 10 ^ power.toNat * 2 ^ (-d.exponent).toNat) := by ring
  -- The interval reaches down as far as the lowest significand of its exponent allows.
  have least : (if (d.significand == Nat.pow 2 52 && decide (-1074 < d.exponent)) = true then 1
      else 2) = reach d := by
    simp only [reach, Bool.and_eq_true, beq_iff_eq, decide_eq_true_iff]
  rw [holds, grid, if_pos whole, ofDyadic]
  simp only [least, mul_one, beq_iff_eq]
  rw [← scaled]
  split <;> simp

/-- On a grid of whole numbers, the points inside are within half a place of the middle, and within
a quarter below a power of two. -/
theorem near_of_holds (whole : 0 ≤ power) (inside : (ofDyadic d).holds power point = true) :
    (4 * d.significand - reach d) * 2 ^ d.exponent.toNat ≤
      4 * (point * 10 ^ power.toNat * 2 ^ (-d.exponent).toNat) ∧
      4 * (point * 10 ^ power.toNat * 2 ^ (-d.exponent).toNat) ≤
        (4 * d.significand + 2) * 2 ^ d.exponent.toNat := by
  rw [holds_iff whole] at inside
  -- An open interval lies in the closed one.
  split at inside
  · exact inside
  · exact ⟨inside.1.le, inside.2.le⟩

/-- A whole number inside the interval of a double of few places is the double. -/
theorem size_of_holds (double : d.IsDouble) (whole : 0 ≤ power)
    (inside : (ofDyadic d).holds power point = true)
    (few : d.exponent ≤ 0 ∨ point * 10 ^ power.toNat ≤ 9007199254740992) :
    d.size = point * 10 ^ power.toNat * Dyadic.one := by
  obtain ⟨low, high⟩ := near_of_holds whole inside
  have leading := double.leading
  rw [reach] at low
  generalize point * 10 ^ power.toNat = n at few low high ⊢
  by_cases places : d.exponent ≤ 0
  · -- The places after the point are enough to tell whole numbers apart.
    have up : d.exponent.toNat = 0 := by omega
    rw [up, pow_zero, mul_one] at low high
    have same : d.significand = n * 2 ^ (-d.exponent).toNat := by
      split at low <;> omega
    obtain fraction | zero := lt_or_eq_of_le places
    · rw [Dyadic.one_of_neg double.le_exponent fraction, Dyadic.size, same, mul_assoc]
    · rw [Dyadic.size_of_nonneg zero.ge, same, zero]
      simp
  · -- Two to the fifty-third is the only one that remains.
    have down : (-d.exponent).toNat = 0 := by omega
    rw [down, pow_zero, mul_one] at low high
    have few : n ≤ 9007199254740992 := few.resolve_left places
    rw [Dyadic.size_of_nonneg (by omega)]
    congr 1
    -- The last double before it and the next one are two apart or more.
    obtain ⟨more, up⟩ : ∃ more, d.exponent.toNat = more + 1 := ⟨d.exponent.toNat - 1, by omega⟩
    rw [up] at low ⊢
    have large : 4503599627370496 ≤ d.significand := leading.resolve_right (by omega)
    cases more with
    | zero =>
      split at low <;> omega
    | succ more =>
      have twice : 4 ≤ 2 ^ (more + 1 + 1) := by
        have := Nat.one_le_two_pow (n := more)
        omega
      have wide : 18014398509481982 ≤ 4 * d.significand -
          (if d.significand = 4503599627370496 ∧ -1074 < d.exponent then 1 else 2) := by
        split <;> omega
      have := Nat.mul_le_mul wide twice
      omega

/-- The middle of the interval of a whole number is the number in units of the scale. -/
theorem middle_eq {n : Nat} (double : d.IsDouble) (units : d.size = n * Dyadic.one) :
    d.significand * 2 ^ d.exponent.toNat = n * 2 ^ (-d.exponent).toNat := by
  refine Nat.eq_of_mul_eq_mul_right Dyadic.one_pos ?_
  -- Either the exponent scales the significand up, or the number of ones is scaled down by it.
  by_cases whole : 0 ≤ d.exponent
  · -- Without places the exponent counts them itself.
    have down : (-d.exponent).toNat = 0 := by omega
    rw [← Dyadic.size_of_nonneg whole, units, down, pow_zero, mul_one]
  · have up : d.exponent.toNat = 0 := by omega
    have split := Dyadic.one_of_neg double.le_exponent (by omega)
    rw [up, pow_zero, mul_one, mul_right_comm, ← units, Dyadic.size]
    nth_rewrite 1 [split]
    ring

/-- On the grid of ones, the interval of a whole number holds the number. -/
theorem isSome_nearest?_zero {n : Nat} (double : d.IsDouble) (positive : 0 < d.significand)
    (units : d.size = n * Dyadic.one) : ((ofDyadic d).nearest? 0).isSome = true := by
  have middle := middle_eq double units
  have up : 0 < 2 ^ d.exponent.toNat := Nat.two_pow_pos _
  have down : 0 < 2 ^ (-d.exponent).toNat := Nat.two_pow_pos _
  -- The grid of whole numbers has the number itself on it.
  have lower : (ofDyadic d).below 0 = n := by
    simp only [below, grid, ofDyadic, le_refl, if_true, Int.toNat_zero, mul_one]
    show 4 * d.significand * 2 ^ d.exponent.toNat / (4 * 2 ^ (-d.exponent).toNat * 1) = n
    rw [mul_assoc, middle, mul_one, ← mul_assoc, mul_right_comm 4 n, mul_comm _ n,
      Nat.mul_div_cancel _ (by omega)]
  -- The middle of the interval lies strictly inside.
  have inside : (ofDyadic d).holds 0 n = true := by
    have here : 4 * (n * 10 ^ (0 : Int).toNat * 2 ^ (-d.exponent).toNat) =
        4 * d.significand * 2 ^ d.exponent.toNat := by
      rw [Int.toNat_zero, pow_zero, mul_one, ← middle, mul_assoc]
    have short : 4 * d.significand - reach d < 4 * d.significand := by
      unfold reach
      split <;> omega
    have low := Nat.mul_lt_mul_of_pos_right short up
    have high := Nat.mul_lt_mul_of_pos_right (show 4 * d.significand < 4 * d.significand + 2 by
      omega) up
    rw [holds_iff (le_refl 0), here]
    split
    · exact ⟨low.le, high.le⟩
    · exact ⟨low, high⟩
  rw [nearest?]
  simp only [lower, inside]
  -- Whether the next number lies inside as well or not, one of the two is taken.
  split
  · split
    · rfl
    · split
      · rfl
      · split <;> rfl
  · rfl
  · rfl
  · rename_i outside _
    cases outside

/-- The magnitude counts the digits of the middle lifted by some places, without the places. -/
theorem exists_magnitude_eq (interval : RoundingInterval) : ∃ lift : Nat,
    interval.magnitude =
      ((Nat.toDigits 10 (interval.middle * Nat.pow 10 lift / interval.scale)).length : Int) -
        lift :=
  ⟨340, rfl⟩

/-- The interval of a whole number is as great as the digits of the number are many. -/
theorem magnitude_eq {n : Nat} (double : d.IsDouble) (positive : 0 < n)
    (units : d.size = n * Dyadic.one) :
    (ofDyadic d).magnitude = (Nat.toDigits 10 n).length := by
  have middle := middle_eq double units
  have down : 0 < 2 ^ (-d.exponent).toNat := Nat.two_pow_pos _
  obtain ⟨lift, magnitude⟩ := (ofDyadic d).exists_magnitude_eq
  -- The middle is lifted until its digits are enough, and those are the number's with zeros
  -- behind.
  have lifted : (ofDyadic d).middle * Nat.pow 10 lift / (ofDyadic d).scale = n * 10 ^ lift := by
    show 4 * d.significand * 2 ^ d.exponent.toNat * 10 ^ lift / (4 * 2 ^ (-d.exponent).toNat) = _
    rw [mul_assoc 4, middle, show 4 * (n * 2 ^ (-d.exponent).toNat) * 10 ^ lift =
      n * 10 ^ lift * (4 * 2 ^ (-d.exponent).toNat) by ring, Nat.mul_div_cancel _ (by omega)]
  rw [magnitude, lifted, toDigits_mul_pow positive, List.length_append, zeros,
    List.length_replicate]
  omega

/-- Below all the grids that a search tries there are many points up to the middle. -/
theorem le_below_of_magnitude (positive : 0 < interval.scale) {places : Nat}
    (magnitude : interval.magnitude = places + 18) :
    100000000000000000 ≤ interval.below (interval.magnitude - (18 : Nat)) := by
  obtain ⟨lift, counted⟩ := interval.exists_magnitude_eq
  -- The magnitude counts the digits of the middle, without those that it was lifted by.
  have long : ¬ (Nat.toDigits 10
      (interval.middle * Nat.pow 10 lift / interval.scale)).length ≤ places + 17 + lift := by
    omega
  -- So the middle has one digit more than that many places.
  have enough : 10 ^ (places + 17) * interval.scale ≤ interval.middle := by
    rw [Nat.length_toDigits_le_iff (by decide) (by omega), Nat.not_lt,
      Nat.le_div_iff_mul_le positive, pow_add _ (places + 17), mul_right_comm, Nat.pow_eq] at long
    exact Nat.le_of_mul_le_mul_right long (Nat.pow_pos (by decide))
  have grid : interval.magnitude - (18 : Nat) = places := by omega
  rw [grid, below, RoundingInterval.grid, if_pos (by omega)]
  simp only [mul_one, Int.toNat_natCast, Nat.pow_eq]
  rw [Nat.le_div_iff_mul_le (Nat.mul_pos positive (Nat.pow_pos (by decide)))]
  calc 100000000000000000 * (interval.scale * 10 ^ places) =
        10 ^ (places + 17) * interval.scale := by ring
    _ ≤ interval.middle := enough

end RoundingInterval

/-- The shortest decimal of a whole number of few digits is the number. -/
theorem shortestDecimal_whole {d : Dyadic} {n : Nat} (double : d.IsDouble)
    (significand : 0 < d.significand) (places : d.exponent ≤ 0) (positive : 0 < n)
    (few : (Nat.toDigits 10 n).length ≤ 17) (units : d.size = n * Dyadic.one) :
    0 ≤ (shortestDecimal d).exponent ∧
      (shortestDecimal d).digits * 10 ^ (shortestDecimal d).exponent.toNat = n := by
  have there := RoundingInterval.isSome_nearest?_zero double significand units
  have magnitude := RoundingInterval.magnitude_eq double positive units
  -- The grid of ones is reached before the tries are used up.
  obtain ⟨whole, inside⟩ := RoundingInterval.search_of_isSome there
    (RoundingInterval.ofDyadic d).magnitude 18 (by omega) (by omega)
  have same := RoundingInterval.size_of_holds double whole inside (.inl places)
  rw [units] at same
  exact ⟨whole, (Nat.eq_of_mul_eq_mul_right Dyadic.one_pos same).symm⟩

/-- A double whose shortest decimal is a whole number of few bits is the number. -/
theorem size_of_shortestDecimal {d : Dyadic} {n : Nat} (double : d.IsDouble)
    (whole : 0 ≤ (shortestDecimal d).exponent)
    (same : (shortestDecimal d).digits * 10 ^ (shortestDecimal d).exponent.toNat = n)
    (few : n ≤ 9007199254740992) : d.size = n * Dyadic.one := by
  -- Either a grid has a point in the interval, or the search gave up below all of them.
  have spec := RoundingInterval.search_spec (.ofDyadic d)
    (RoundingInterval.ofDyadic d).magnitude 18
  rw [shortestDecimal] at whole same
  generalize (RoundingInterval.ofDyadic d).search (RoundingInterval.ofDyadic d).magnitude 18 =
    decimal at spec whole same
  obtain inside | rfl := spec
  · rw [← same]
    exact RoundingInterval.size_of_holds double whole inside (.inr (same ▸ few))
  · -- What lies below all the grids has too many digits.
    simp only at whole same
    have scale : 0 < (RoundingInterval.ofDyadic d).scale :=
      Nat.mul_pos (by decide) (Nat.two_pow_pos _)
    obtain ⟨places, grid⟩ := Int.eq_ofNat_of_zero_le whole
    have many := RoundingInterval.le_below_of_magnitude scale
      (show (RoundingInterval.ofDyadic d).magnitude = places + 18 by omega)
    rw [grid] at same many
    have more := Nat.le_mul_of_pos_right ((RoundingInterval.ofDyadic d).below places)
      (Nat.pow_pos (show 0 < 10 by decide) (n := (places : Int).toNat))
    omega

/-- In texts, a decimal of a whole number is written as its digits and zeros. -/
theorem write_textStyle_of_nonneg {decimal : Decimal} (whole : 0 ≤ decimal.exponent) :
    textStyle.write decimal =
      Nat.toDigits 10 decimal.digits ++ zeros decimal.exponent.toNat := by
  have filled : 0 < (Nat.toDigits 10 decimal.digits).length := Nat.length_toDigits_pos
  -- The point would stand behind the digits and the zeros, so none is written.
  have point : ((Nat.toDigits 10 decimal.digits).length + decimal.exponent).toNat =
      (Nat.toDigits 10 decimal.digits).length + decimal.exponent.toNat := by omega
  rw [NumberStyle.write]
  simp only [textStyle, Option.all_none, Bool.and_self, if_true]
  rw [positional, if_neg (by omega), point]
  simp only [Nat.le_add_right, if_true, Nat.add_sub_cancel_left, Bool.false_eq_true, if_false,
    List.append_nil]

/-- In texts, a decimal with places after the point is written with the point. -/
theorem point_mem_write_textStyle {decimal : Decimal} (fraction : decimal.exponent < 0) :
    '.' ∈ textStyle.write decimal := by
  -- The style is positional always, and a place after the point needs the point.
  rw [NumberStyle.write]
  simp only [textStyle, Option.all_none, Bool.and_self, if_true]
  rw [positional]
  split
  · simp
  · rw [if_neg (by omega)]
    simp

/-- The text of a whole number of few bits is its digits. -/
theorem numberText_ofNat {n : Nat} (positive : 0 < n) (few : n ≤ 9007199254740992) :
    numberText (.ofNat n) = toString n := by
  -- Below the bound the number is a double, and its shortest decimal has no places.
  obtain less | rfl := Nat.lt_or_eq_of_le few
  · obtain ⟨short, leading, within⟩ := leading_shift positive less
    have decoded := ofFloat?_ofNat_of_lt positive less
    have significand : 0 < n * 2 ^ (52 - n.log2) := by omega
    have digits : (Nat.toDigits 10 n).length ≤ 17 :=
      (Nat.length_toDigits_le_iff (by decide) (by decide)).2 (by omega)
    obtain ⟨whole, same⟩ := shortestDecimal_whole (Dyadic.isDouble_of_ofFloat? decoded) significand
      (by simp only; omega) positive digits (Dyadic.size_leading false short)
    have filled := Nat.pos_of_mul_pos_right (same ▸ positive)
    rw [numberText, decoded]
    simp only [beq_iff_eq, significand.ne', if_false]
    rw [NumberStyle.writeDyadic]
    simp only [beq_iff_eq, significand.ne', if_false, Bool.false_eq_true]
    rw [write_textStyle_of_nonneg whole, ← toDigits_mul_pow filled, same]
    exact (Nat.toString_eq_ofList_toDigits).symm
  · -- Only the bound itself has more bits than the significand of a double.
    decide +kernel

/-- The digits of a number determine the number. -/
theorem toDigits_injective {n m : Nat} (same : Nat.toDigits 10 n = Nat.toDigits 10 m) : n = m := by
  rw [← Nat.ofDigitChars_ten_toDigits (n := n), same, Nat.ofDigitChars_ten_toDigits]

/-- A run of zeros starts with one. -/
theorem zeros_succ (count : Nat) : zeros (count + 1) = '0' :: zeros count :=
  List.replicate_succ

/-- Zeros spell zero. -/
theorem ofDigitChars_zeros (count : Nat) : Nat.ofDigitChars 10 (zeros count) 0 = 0 := by
  -- Leading zeros leave the value at zero.
  induction count with
  | zero => rfl
  | succ count ih =>
    rw [zeros_succ, Nat.ofDigitChars_cons]
    exact ih

/-- A double that is written as the digits of a positive whole number of few bits is the number. -/
theorem size_of_numberText {x : Float} {n : Nat} (positive : 0 < n) (few : n ≤ 9007199254740992)
    (text : numberText x = toString n) :
    ∃ d, Dyadic.ofFloat? x = some d ∧ d.negative = false ∧ d.size = n * Dyadic.one := by
  have chars := congrArg String.toList text
  have spelled : (toString n).toList = Nat.toDigits 10 n := Nat.toList_repr
  -- The text is one of digits alone, which rules the other forms out.
  have digits : ∀ c ∈ Nat.toDigits 10 n, c.isDigit = true :=
    fun c member => Nat.isDigit_of_mem_toDigits (by decide) (by decide) member
  rw [spelled, numberText] at chars
  cases decoded : Dyadic.ofFloat? x with
  | none =>
    -- The words for what is no number are not made of digits.
    rw [decoded] at chars
    simp only at chars
    rw [← chars] at digits
    split at digits
    · exact absurd (digits 'N' (by decide)) (by decide)
    · split at digits
      · exact absurd (digits 'I' (by decide)) (by decide)
      · exact absurd (digits 'I' (by decide)) (by decide)
  | some d =>
    refine ⟨d, rfl, ?_⟩
    rw [decoded] at chars
    simp only [beq_iff_eq] at chars
    split at chars
    · -- A zero is written with a zero.
      have zero : Nat.toDigits 10 0 = Nat.toDigits 10 n := chars
      have := toDigits_injective zero
      omega
    · rename_i significand
      rw [NumberStyle.writeDyadic, String.toList_ofList] at chars
      simp only [beq_iff_eq, significand, if_false] at chars
      cases negative : d.negative with
      | true =>
        rw [negative, if_pos rfl] at chars
        -- A negative number is written with its sign.
        exact absurd (digits '-' (chars ▸ List.mem_cons_self)) (by decide)
      | false =>
        rw [negative, if_neg Bool.false_ne_true] at chars
        by_cases whole : 0 ≤ (shortestDecimal d).exponent
        · rw [write_textStyle_of_nonneg whole] at chars
          obtain none | filled := Nat.eq_zero_or_pos (shortestDecimal d).digits
          · -- Digits of which the first is zero spell zero.
            rw [none, Nat.toDigits_zero, List.singleton_append, ← zeros_succ] at chars
            have spelled := ofDigitChars_zeros ((shortestDecimal d).exponent.toNat + 1)
            rw [chars, Nat.ofDigitChars_ten_toDigits] at spelled
            omega
          · rw [← toDigits_mul_pow filled] at chars
            have same := toDigits_injective chars
            exact ⟨rfl, size_of_shortestDecimal (Dyadic.isDouble_of_ofFloat? decoded) whole
              same few⟩
        · -- A decimal with places is written with a point.
          exact absurd (digits '.' (chars ▸ point_mem_write_textStyle (by omega))) (by decide)

end CalcFields
