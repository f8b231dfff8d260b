import CalcFields.Proofs.Decimal.Difference
import CalcFields.Proofs.Decimal.Whole
import CalcFields.Proofs.Json.Number
import CalcFields.Value.Change

/-!
Two numbers are the same value when their exact difference is below the tolerance, as it is rounded.
A number that encodes a truth value is the same as its equals only.
-/

namespace CalcFields

namespace Dyadic

variable {d : Dyadic}

/-- The rational number that a dyadic number is. -/
def value (d : Dyadic) : ℚ :=
  (if d.negative then -1 else 1) * d.significand * 2 ^ d.exponent

/-- The units of a number are its value in units of the least double. -/
theorem cast_units (least : -1074 ≤ d.exponent) : (d.units : ℚ) = d.value * (one : ℚ) := by
  -- Over the rationals an exponent may be negative, and is taken apart from that of the least
  -- double.
  have scaled : (2 : ℚ) ^ d.exponent * (one : ℚ) = 2 ^ (d.exponent + 1074).toNat := by
    have sum : ((d.exponent + 1074).toNat : Int) = d.exponent + (places : Int) := by
      rw [places_eq, Int.toNat_of_nonneg (by omega)]
      rfl
    rw [one, Nat.cast_pow, Nat.cast_ofNat, ← zpow_natCast, ← zpow_add₀ two_ne_zero, ← sum,
      zpow_natCast]
  -- The size is the value without its sign.
  have sized : (d.size : ℚ) = d.significand * 2 ^ d.exponent * (one : ℚ) := by
    rw [mul_assoc, scaled, size]
    push_cast
    rfl
  rw [units, value]
  cases d.negative with
  | true =>
    simp only [if_true]
    push_cast
    rw [sized]
    ring
  | false =>
    simp only [Bool.false_eq_true, if_false]
    push_cast
    rw [sized]
    ring

/-- Doubles that are equal stand for one number. -/
theorem value_eq_of_beq {x y : Float} {a b : Dyadic} (left : ofFloat? x = some a)
    (right : ofFloat? y = some b) (equal : (x == y) = true) : a.value = b.value := by
  have nonzero : (one : ℚ) ≠ 0 := by exact_mod_cast one_pos.ne'
  -- Both sides are counted in units of the least double, where equal doubles agree.
  refine mul_right_cancel₀ nonzero ?_
  rw [← cast_units (isDouble_of_ofFloat? left).le_exponent,
    ← cast_units (isDouble_of_ofFloat? right).le_exponent, (beq_iff_units left right).1 equal]

end Dyadic

/-- The tolerance is a double of even significand. -/
theorem ofFloat?_numericTolerance :
    Dyadic.ofFloat? numericTolerance = some ⟨false, 7555786372591432, -76⟩ := by
  rfl

/-- Halfway to the double of the tolerance from the double before. -/
def closeness : ℚ :=
  (2 * 7555786372591432 - 1) / 2 ^ 77

/-- Numbers are closer than this at least when they are equal. -/
theorem closeness_pos : 0 < closeness := by
  unfold closeness
  norm_num

/-- Numbers are closer than this just below a ten-millionth. -/
theorem closeness_bounds : 1 / 10 ^ 7 - 1 / 2 ^ 76 < closeness ∧ closeness < 1 / 10 ^ 7 := by
  unfold closeness
  norm_num

/-- The rounded difference of two doubles is below the tolerance when their exact difference is
close. -/
theorem abs_sub_lt_numericTolerance_iff {x y : Float} {a b : Dyadic}
    (left : Dyadic.ofFloat? x = some a) (right : Dyadic.ofFloat? y = some b) :
    (x - y).abs < numericTolerance ↔ |a.value - b.value| < closeness := by
  have first := Dyadic.cast_units (Dyadic.isDouble_of_ofFloat? left).le_exponent
  have second := Dyadic.cast_units (Dyadic.isDouble_of_ofFloat? right).le_exponent
  have positive : (0 : ℚ) < Dyadic.one := by exact_mod_cast Dyadic.one_pos
  -- The difference is exact when it is counted in units.
  have difference : (((a.units - b.units).natAbs : Nat) : ℚ) =
      |a.value - b.value| * (Dyadic.one : ℚ) := by
    rw [Nat.cast_natAbs, Int.cast_abs, Int.cast_sub, first, second, ← sub_mul, abs_mul,
      abs_of_pos positive]
  -- The power of two stays a variable, because its numeral would be computed.
  have halfway {places : Nat} (split : Dyadic.one = 2 ^ places * 2 ^ 76) :
      (((2 * 7555786372591432 - 1) * 2 ^ places : Nat) : ℚ) =
        2 * (closeness * (Dyadic.one : ℚ)) := by
    rw [split, closeness]
    push_cast
    ring
  have split : Dyadic.one = 2 ^ ((-76 : Int) + 1074).toNat * 2 ^ 76 := Dyadic.one_eq rfl
  rw [abs_sub_lt_iff left right ofFloat?_numericTolerance rfl (by decide) (by decide)]
  rw [← Nat.cast_lt (α := ℚ), halfway split, Nat.cast_mul, difference, Nat.cast_ofNat,
    mul_lt_mul_iff_of_pos_left two_pos, mul_lt_mul_iff_of_pos_right positive]

/-- The text of a finite number is made of characters of numbers. -/
theorem isNumberChar_numberText {x : Float} {d : Dyadic} (decoded : Dyadic.ofFloat? x = some d) :
    ∀ c ∈ (numberText x).toList, Json.isNumberChar c = true := by
  rw [numberText, decoded]
  dsimp only
  -- Zero is written as one digit, any other number as its decimals.
  split
  · exact List.forall_mem_singleton.2 rfl
  · exact Json.isNumberChar_writeDyadic _ _

/-- The numbers that encode truth values. -/
def EncodesTruth (x : Float) : Prop :=
  x == 1 ∨ x == 0

instance {x : Float} : Decidable (EncodesTruth x) :=
  inferInstanceAs (Decidable (_ ∨ _))

/-- The encoding of a truth value is a double. -/
theorem ofFloat?_encoding (truth : Bool) :
    Dyadic.ofFloat? (if truth then 1 else 0) =
      some (if truth then ⟨false, 4503599627370496, -52⟩ else ⟨false, 0, -1074⟩) := by
  cases truth <;> rfl

namespace Value

/-- A number that encodes a truth value becomes the truth value of which it is the encoding. -/
theorem decodeTruth_of_encodesTruth {x : Float} (encodes : EncodesTruth x) :
    ∃ b : Bool, (number x).decodeTruth = bool b ∧ (x == if b then 1 else 0) = true := by
  rw [decodeTruth]
  -- One is tried before zero.
  split
  · rename_i one
    exact ⟨true, rfl, one⟩
  · rename_i other
    have zero := encodes.resolve_left other
    exact ⟨false, if_pos zero, zero⟩

/-- Any other number stays a number. -/
theorem decodeTruth_of_not_encodesTruth {x : Float} (plain : ¬ EncodesTruth x) :
    (number x).decodeTruth = number x := by
  -- Neither comparison of the decoding holds.
  obtain ⟨one, zero⟩ := not_or.1 plain
  rw [decodeTruth, if_neg one, if_neg zero]

variable {x y : Float} {a b : Dyadic}

/-- A truth value has a text that no number has. -/
theorem text_bool_ne (truth : Bool) (decoded : Dyadic.ofFloat? x = some a) :
    (bool truth).text ≠ numberText x := by
  -- The first letters of the two words stand in no number.
  intro same
  have plain := isNumberChar_numberText decoded
  rw [← same] at plain
  cases truth with
  | true => exact absurd (plain 't' (by decide)) (by decide)
  | false => exact absurd (plain 'f' (by decide)) (by decide)

/-- Two numbers are equivalent when they are equal, or when neither encodes a truth value and their
rounded difference is below the tolerance. -/
theorem equivalent_number_iff (left : Dyadic.ofFloat? x = some a)
    (right : Dyadic.ofFloat? y = some b) :
    (number x).equivalent (number y) = true ↔
      (x == y) = true ∨
        ¬ EncodesTruth x ∧ ¬ EncodesTruth y ∧ (x - y).abs < numericTolerance := by
  have plain : (number x == number y) = (x == y) := rfl
  rw [equivalent, plain]
  by_cases equal : (x == y) = true
  · simp [equal]
  rw [if_neg equal, or_iff_right equal]
  simp only [isNull, Bool.or_self, Bool.false_eq_true, if_false]
  -- Numbers that differ are compared as what they become, truth values or numbers.
  by_cases encodes : EncodesTruth x
  · obtain ⟨truth, becomes, same⟩ := decodeTruth_of_encodesTruth encodes
    refine iff_of_false ?_ fun close => close.1 encodes
    rw [becomes]
    by_cases encodesToo : EncodesTruth y
    · -- Both are truth values, and one truth value would make the numbers equal.
      obtain ⟨truthToo, becomesToo, sameToo⟩ := decodeTruth_of_encodesTruth encodesToo
      rw [becomesToo]
      have differ : truth ≠ truthToo := by
        rintro rfl
        have encoding := ofFloat?_encoding truth
        exact equal ((beq_iff_units left right).2 (((beq_iff_units left encoding).1 same).trans
          ((beq_iff_units right encoding).1 sameToo).symm))
      revert differ
      cases truth <;> cases truthToo <;> decide
    · -- A truth value and a number are compared by their texts.
      rw [decodeTruth_of_not_encodesTruth encodesToo]
      exact fun agree => text_bool_ne truth right (beq_iff_eq.1 agree)
  · by_cases encodesToo : EncodesTruth y
    · obtain ⟨truth, becomes, same⟩ := decodeTruth_of_encodesTruth encodesToo
      refine iff_of_false ?_ fun close => close.2.1 encodesToo
      rw [becomes, decodeTruth_of_not_encodesTruth encodes]
      exact fun agree => text_bool_ne truth left (beq_iff_eq.1 agree).symm
    · -- Two numbers are compared as numbers.
      rw [decodeTruth_of_not_encodesTruth encodes, decodeTruth_of_not_encodesTruth encodesToo,
        plain, agrees, Dyadic.isNaN_of_ofFloat? left]
      simp [equal, encodes, encodesToo]

/-- Numbers that are equivalent are close, and close numbers are equivalent when they are equal or
when neither encodes a truth value. What is close is the tolerance up to its rounding. -/
theorem equivalent_by_closeness (left : Dyadic.ofFloat? x = some a)
    (right : Dyadic.ofFloat? y = some b) :
    (1 / 10 ^ 7 - 1 / 2 ^ 76 < closeness ∧ closeness < 1 / 10 ^ 7) ∧
      ((number x).equivalent (number y) = true → |a.value - b.value| < closeness) ∧
      (|a.value - b.value| < closeness →
        (x == y) = true ∨ ¬ EncodesTruth x ∧ ¬ EncodesTruth y →
          (number x).equivalent (number y) = true) := by
  refine ⟨closeness_bounds, ?_, ?_⟩
  · intro same
    obtain equal | ⟨_, _, near⟩ := (equivalent_number_iff left right).1 same
    · -- Equal doubles stand for one number.
      rw [Dyadic.value_eq_of_beq left right equal, sub_self, abs_zero]
      exact closeness_pos
    · exact (abs_sub_lt_numericTolerance_iff left right).1 near
  · rintro close (equal | ⟨plain, plainToo⟩)
    · exact (equivalent_number_iff left right).2 (.inl equal)
    · have near := (abs_sub_lt_numericTolerance_iff left right).2 close
      exact (equivalent_number_iff left right).2 (.inr ⟨plain, plainToo, near⟩)

/-- A sum that was rounded is equivalent to the number that it should be, and is not equal to it. -/
theorem equivalent_by_closeness_sum :
    Dyadic.ofFloat? (0.1 + 0.2) = some ⟨false, 5404319552844596, -54⟩ ∧
      Dyadic.ofFloat? 0.3 = some ⟨false, 5404319552844595, -54⟩ ∧
      ((0.1 + 0.2 : Float) == 0.3) = false ∧
      (number (0.1 + 0.2)).equivalent (number 0.3) = true := by
  have left : Dyadic.ofFloat? (0.1 + 0.2) = some ⟨false, 5404319552844596, -54⟩ := by
    decide +kernel
  have right : Dyadic.ofFloat? 0.3 = some ⟨false, 5404319552844595, -54⟩ := by decide +kernel
  have plain : ¬ EncodesTruth (0.1 + 0.2) ∧ ¬ EncodesTruth 0.3 := by decide +kernel
  refine ⟨left, right, by decide +kernel, ?_⟩
  -- The sum and the number are neighbours, far closer than the tolerance.
  refine (equivalent_by_closeness left right).2.2 ?_ (.inr plain)
  norm_num [Dyadic.value, closeness]

/-- A number next to one is no equivalent of one, and a difference that is rounded up to the
tolerance is none below it: closer than a ten-millionth is not enough in either case. -/
theorem equivalent_number_misses :
    (Dyadic.ofFloat? 1 = some ⟨false, 4503599627370496, -52⟩ ∧
      Dyadic.ofFloat? 1.00000005 = some ⟨false, 4503599852550477, -52⟩ ∧
      |Dyadic.value ⟨false, 4503599627370496, -52⟩ -
        Dyadic.value ⟨false, 4503599852550477, -52⟩| < 1 / 10 ^ 7 ∧
      (number 1).equivalent (number 1.00000005) = false) ∧
    (Dyadic.ofFloat? 1e-7 = some ⟨false, 7555786372591432, -76⟩ ∧
      Dyadic.ofFloat? 1e-24 = some ⟨false, 5444517870735015, -132⟩ ∧
      |Dyadic.value ⟨false, 7555786372591432, -76⟩ -
        Dyadic.value ⟨false, 5444517870735015, -132⟩| < 1 / 10 ^ 7 ∧
      (number 1e-7).equivalent (number 1e-24) = false) := by
  refine ⟨⟨by decide +kernel, by decide +kernel, ?_, by decide +kernel⟩,
    by decide +kernel, by decide +kernel, ?_, by decide +kernel⟩
  · -- Both differences are exact dyadic numbers.
    norm_num [Dyadic.value, abs_lt]
  · norm_num [Dyadic.value, abs_lt]

end Value

end CalcFields
