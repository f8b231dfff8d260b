import CalcFields.Proofs.Decimal.Whole

/-!
The whole part of a double is a double again, with the same sign, and is its own whole part.
-/

namespace CalcFields

namespace Dyadic

variable {d : Dyadic} {x : Float}

/-- The whole part has the size of the significand shifted by the exponent. -/
theorem natAbs_truncated (d : Dyadic) :
    d.truncated.natAbs = shiftBy d.significand d.exponent := by
  rw [truncated]
  split <;> omega

/-- The double of a whole number under a sign decodes with the sign and the whole number, when it
has few bits. -/
theorem exists_ofFloat?_wholeFloat (negative : Bool) {n : Int} (few : n.natAbs < 2 ^ 53) :
    ∃ w, ofFloat? (wholeFloat negative n) = some w ∧ w.negative = negative ∧
      w.truncated.natAbs = n.natAbs := by
  -- Zero has no leading bit, and is built with its sign as it stands.
  obtain zero | positive := Nat.eq_zero_or_pos n.natAbs
  · rw [wholeFloat, zero]
    cases negative
    · exact ⟨⟨false, 0, -1074⟩, by decide, rfl, (natAbs_truncated _).trans (Nat.zero_div _)⟩
    · exact ⟨⟨true, 0, -1074⟩, by decide, rfl, (natAbs_truncated _).trans (Nat.zero_div _)⟩
  · have short : n.natAbs.log2 < 53 := (Nat.log2_lt positive.ne').2 few
    refine ⟨_, ofFloat?_toFloat negative positive (by omega), rfl, ?_⟩
    -- The size of the whole part does not depend on the sign.
    have size := truncated_leading (k := n.natAbs) (by omega)
    rw [natAbs_truncated]
    have unsigned := natAbs_truncated
      ⟨false, shiftBy n.natAbs (52 - (n.natAbs.log2 : Int)), (n.natAbs.log2 : Int) - 52⟩
    rw [size] at unsigned
    exact unsigned.symm

/-- A double without a fraction is its own whole part. -/
theorem truncate_of_nonneg (decoded : ofFloat? x = some d) (whole : 0 ≤ d.exponent) :
    truncate x = x := by
  obtain ⟨small, -, greatest, leading⟩ := isDouble_of_ofFloat? decoded
  have leading : 2 ^ 52 ≤ d.significand := leading.resolve_right (by omega)
  obtain ⟨places, power⟩ := Int.eq_ofNat_of_zero_le whole
  -- Without places the whole part is all of the number.
  have size : d.truncated.natAbs = d.significand * 2 ^ places := by
    rw [natAbs_truncated, shiftBy, if_pos whole, power]
    rfl
  have positive : 0 < d.significand * 2 ^ places := Nat.mul_pos (by omega) (Nat.two_pow_pos _)
  have bits : (d.significand * 2 ^ places).log2 = 52 + places := by
    refine (Nat.log2_eq_iff positive.ne').2 ⟨?_, ?_⟩
    · rw [pow_add]
      exact Nat.mul_le_mul_right _ leading
    · rw [Nat.add_right_comm, pow_add]
      exact Nat.mul_lt_mul_of_pos_right small (Nat.two_pow_pos _)
  -- The shift that builds the double undoes the exponent.
  have back : shiftBy (d.significand * 2 ^ places) (52 - ((52 + places : Nat) : Int)) =
      d.significand := by
    have down : (-(52 - ((52 + places : Nat) : Int))).toNat = places := by omega
    rw [shiftBy]
    split
    · obtain rfl : places = 0 := by omega
      exact (Nat.mul_one _).trans (Nat.mul_one _)
    · rw [down]
      exact Nat.mul_div_cancel _ (Nat.two_pow_pos _)
  -- Putting the leading bit in place gives back the significand and the exponent.
  have again := ofFloat?_toFloat d.negative positive (by omega)
  have exponent : ((52 + places : Nat) : Int) - 52 = d.exponent := by omega
  rw [bits, back, exponent] at again
  refine ofFloat?_injective ?_ decoded
  rw [truncate, decoded]
  simp only [wholeFloat, size]
  exact again

/-- The whole part of a double has its sign and is its own whole part. -/
theorem exists_ofFloat?_truncate (decoded : ofFloat? x = some d) :
    ∃ w, ofFloat? (truncate x) = some w ∧ w.negative = d.negative ∧
      w.truncated.natAbs = d.truncated.natAbs := by
  -- Without places nothing is cut off.
  by_cases whole : 0 ≤ d.exponent
  · exact ⟨d, by rw [truncate_of_nonneg decoded whole, decoded], rfl, rfl⟩
  · -- With a fraction the whole part has no more bits than the significand.
    have few : d.truncated.natAbs < 2 ^ 53 := by
      rw [natAbs_truncated, shiftBy, if_neg whole]
      exact (Nat.div_le_self _ _).trans_lt (isDouble_of_ofFloat? decoded).significand_lt
    obtain ⟨w, placed, same⟩ := exists_ofFloat?_wholeFloat d.negative few
    refine ⟨w, ?_, same⟩
    rw [truncate, decoded]
    exact placed

end Dyadic

/-- What is truncated has no fraction to lose. -/
theorem truncate_truncate (x : Float) : truncate (truncate x) = truncate x := by
  -- What is no number stays as it is, both times.
  cases decoded : Dyadic.ofFloat? x with
  | none =>
    have same : truncate x = x := by rw [truncate, decoded]
    rw [same, same]
  | some d =>
    -- What was truncated decodes into its whole part, with the sign that it had.
    obtain ⟨w, placed, sign, size⟩ := Dyadic.exists_ofFloat?_truncate decoded
    have once : truncate x = wholeFloat d.negative d.truncated := by rw [truncate, decoded]
    rw [truncate, placed, once]
    show wholeFloat w.negative w.truncated = _
    rw [wholeFloat, wholeFloat, sign, size]

/-- The whole part of a number is a number. -/
theorem isNaN_truncate {x : Float} (number : x.isNaN = false) : (truncate x).isNaN = false := by
  -- Infinities stay, and every other result decodes.
  cases decoded : Dyadic.ofFloat? x with
  | none =>
    have same : truncate x = x := by rw [truncate, decoded]
    rwa [same]
  | some d =>
    obtain ⟨w, placed, -⟩ := Dyadic.exists_ofFloat?_truncate decoded
    exact Dyadic.isNaN_of_ofFloat? placed

end CalcFields
