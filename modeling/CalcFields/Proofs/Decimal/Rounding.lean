import CalcFields.Proofs.Decimal.Decoding

/-!
A number is rounded to a double by the nearest multiple of a power of two, a tie going to the even
one. So a number is rounded below a double of even significand exactly when it is less than halfway
to that from the double before.
-/

namespace CalcFields

open Float.Model (Format UnpackedFloat)
open Float.Model.UnpackedFloat (Sign ExtendedMantissa)

/-- How many times a power of two goes into a number, to the nearest, and to the even one of two
that are equally near. -/
def nearestMultiple (n places : Nat) : Nat :=
  let rest := 2 * (n % 2 ^ places)
  if rest < 2 ^ places then n / 2 ^ places
  else if rest = 2 ^ places then n / 2 ^ places + n / 2 ^ places % 2
  else n / 2 ^ places + 1

/-- The nearest multiple is next to the quotient. -/
theorem nearestMultiple_bounds (n places : Nat) :
    n / 2 ^ places ≤ nearestMultiple n places ∧ nearestMultiple n places ≤ n / 2 ^ places + 1 := by
  -- Rounding takes the quotient or the one above it.
  unfold nearestMultiple
  dsimp only
  split
  · omega
  · split
    · omega
    · omega

/-- Zeros behind a number change nothing. -/
theorem nearestMultiple_mul_two_pow (n places zeros : Nat) :
    nearestMultiple (n * 2 ^ zeros) (places + zeros) = nearestMultiple n places := by
  -- Both the remainder and the half scale with the zeros.
  have positive : 0 < 2 ^ zeros := Nat.two_pow_pos zeros
  have rest : 2 * (n * 2 ^ zeros % 2 ^ (places + zeros)) = 2 * (n % 2 ^ places) * 2 ^ zeros := by
    rw [pow_add, Nat.mul_mod_mul_right, mul_assoc]
  have quotient : n * 2 ^ zeros / 2 ^ (places + zeros) = n / 2 ^ places := by
    rw [pow_add, Nat.mul_div_mul_right _ _ positive]
  simp only [nearestMultiple, rest, quotient]
  simp only [pow_add, Nat.mul_lt_mul_right positive, Nat.mul_left_inj positive.ne']

/-- The nearest multiple is below an even one when the number is less than halfway to it from the
multiple before. -/
theorem nearestMultiple_lt_iff {n places m : Nat} (even : m % 2 = 0) :
    nearestMultiple n places < m ↔ 2 * n < (2 * m - 1) * 2 ^ places := by
  have split := Nat.div_add_mod n (2 ^ places)
  have less := Nat.mod_lt n (Nat.two_pow_pos places)
  have bounds := nearestMultiple_bounds n places
  obtain lower | here | upper := Nat.lt_trichotomy (n / 2 ^ places + 1) m
  · -- The number is below the multiple before.
    refine iff_of_true (by omega) ?_
    have next : (2 * (n / 2 ^ places) + 2) * 2 ^ places =
        2 * (2 ^ places * (n / 2 ^ places)) + 2 * 2 ^ places := by ring
    calc 2 * n < (2 * (n / 2 ^ places) + 2) * 2 ^ places := by omega
      _ ≤ (2 * m - 1) * 2 ^ places := Nat.mul_le_mul_right _ (by omega)
  · -- The multiple before is odd, and left for the even one at halfway.
    have halfway : (2 * m - 1) * 2 ^ places =
        2 * (2 ^ places * (n / 2 ^ places)) + 2 ^ places := by
      rw [show 2 * m - 1 = 2 * (n / 2 ^ places) + 1 by omega]
      ring
    have stays : nearestMultiple n places < m ↔ 2 * (n % 2 ^ places) < 2 ^ places := by
      unfold nearestMultiple
      dsimp only
      split
      · omega
      · split
        · omega
        · omega
    rw [stays]
    omega
  · -- The number is at or above the even multiple.
    refine iff_of_false (by omega) ?_
    have multiple : 2 * (n / 2 ^ places) * 2 ^ places =
        2 * (2 ^ places * (n / 2 ^ places)) := by ring
    have : (2 * m - 1) * 2 ^ places ≤ 2 * (n / 2 ^ places) * 2 ^ places :=
      Nat.mul_le_mul_right _ (by omega)
    omega

/-- A number whose lower places are shifted out leaves its quotient, the first bit of the rest and
whether any other bit of it was set. -/
theorem repeat_shiftRightOne (n places : Nat) :
    places.repeat ExtendedMantissa.shiftRightOne ⟨n, false, false⟩ =
      ⟨n / 2 ^ places, decide (2 ^ places ≤ 2 * (n % 2 ^ places)),
        decide (2 * (n % 2 ^ places) ≠ 0 ∧ 2 * (n % 2 ^ places) ≠ 2 ^ places)⟩ := by
  -- Induction on the shifts, each of which drops the last bit that is left.
  induction places with
  | zero => simp [Nat.repeat, Nat.mod_one]
  | succ places ih =>
    have quotient : n / 2 ^ places / 2 = n / 2 ^ (places + 1) := by
      rw [Nat.div_div_eq_div_mul, pow_succ]
    -- The next bit stands above the rest so far.
    have rest : n % 2 ^ (places + 1) = n % 2 ^ places + 2 ^ places * (n / 2 ^ places % 2) :=
      Nat.mod_pow_succ
    have less := Nat.mod_lt n (Nat.two_pow_pos places)
    rw [Nat.repeat, ih, ExtendedMantissa.shiftRightOne, ExtendedMantissa.mk.injEq, rest, pow_succ]
    refine ⟨by rw [quotient, pow_succ], ?_, ?_⟩
    · -- The round bit is the bit that was dropped last.
      rw [Bool.eq_iff_iff, bne_iff_ne, decide_eq_true_iff]
      obtain clear | set := Nat.mod_two_eq_zero_or_one (n / 2 ^ places)
      · rw [clear]
        omega
      · rw [set]
        omega
    · -- The sticky bit gathers those that were dropped before.
      rw [Bool.eq_iff_iff, Bool.or_eq_true, decide_eq_true_iff, decide_eq_true_iff,
        decide_eq_true_iff]
      obtain clear | set := Nat.mod_two_eq_zero_or_one (n / 2 ^ places)
      · rw [clear]
        omega
      · rw [set]
        omega

/-- What is left of a number is rounded to the nearest multiple. -/
theorem roundedMantissa_repeat (n places : Nat) :
    (places.repeat ExtendedMantissa.shiftRightOne ⟨n, false, false⟩).roundedMantissa =
      nearestMultiple n places := by
  -- The two bits say on which side of halfway the remainder lies.
  have unit := Nat.two_pow_pos places
  rw [repeat_shiftRightOne, ExtendedMantissa.roundedMantissa, nearestMultiple]
  dsimp only
  obtain less | half | more := Nat.lt_trichotomy (2 * (n % 2 ^ places)) (2 ^ places)
  · rw [if_pos less, decide_eq_false less.not_ge]
    -- Below halfway the quotient stays, exact or not.
    cases decide (2 * (n % 2 ^ places) ≠ 0 ∧ 2 * (n % 2 ^ places) ≠ 2 ^ places) <;> rfl
  · -- At halfway the sticky bit is clear, and the even one is taken.
    rw [if_neg (by omega), if_pos half, decide_eq_true (by omega), decide_eq_false (by omega)]
    rfl
  · rw [if_neg (by omega), if_neg (by omega), decide_eq_true (by omega),
      decide_eq_true (by omega)]
    rfl

/-- The binary places of a number beyond those that a double keeps. -/
def excess (n : Nat) : Nat :=
  n.log2 - 52

/-- A number rounded to the binary places that a double keeps. -/
def rounded (n : Nat) : Nat :=
  nearestMultiple n (excess n) * 2 ^ excess n

/-- Without its excess a number fits into a double. -/
theorem lt_of_excess (n : Nat) : n < 2 ^ 53 * 2 ^ excess n := by
  -- What exceeds fifty-three bits is counted by the excess.
  have bound : 2 ^ (n.log2 + 1) ≤ 2 ^ (53 + excess n) :=
    Nat.pow_le_pow_right (by decide) (by unfold excess; omega)
  rw [← pow_add]
  exact Nat.lt_log2_self.trans_le bound

/-- Where there is an excess, no place of a double is left free. -/
theorem le_of_excess {n : Nat} (more : 0 < excess n) : 2 ^ 52 * 2 ^ excess n ≤ n := by
  have long : 52 + excess n = n.log2 := by
    unfold excess at more ⊢
    omega
  -- Zero has no excess.
  have nonzero : n ≠ 0 := by
    rintro rfl
    simp [excess] at more
  rw [← pow_add, long]
  exact Nat.log2_self_le nonzero

/-- The excess is the number of places without which a number just fits. -/
theorem excess_eq {n places : Nat} (fits : n < 2 ^ 53 * 2 ^ places)
    (filled : places = 0 ∨ 2 ^ 52 * 2 ^ places ≤ n) : excess n = places := by
  rw [← pow_add] at fits filled
  obtain rfl | nonzero := Nat.eq_zero_or_pos n
  · obtain rfl | full := filled
    · rfl
    · exact absurd (Nat.two_pow_pos (52 + places)) full.not_gt
  · have below := (Nat.log2_lt nonzero.ne').2 fits
    unfold excess
    -- With no places there is no excess, and with some the logarithm is squeezed between the two
    -- bounds.
    obtain rfl | full := filled
    · omega
    · have above := (Nat.le_log2 nonzero.ne').2 full
      omega

/-- Rounding keeps a number within the places of a double, or one beyond them. -/
theorem nearestMultiple_excess (n : Nat) :
    nearestMultiple n (excess n) ≤ 2 ^ 53 ∧
      (excess n = 0 ∨ 2 ^ 52 ≤ nearestMultiple n (excess n)) := by
  obtain ⟨low, high⟩ := nearestMultiple_bounds n (excess n)
  have fits := (Nat.div_lt_iff_lt_mul (Nat.two_pow_pos _)).2 (lt_of_excess n)
  refine ⟨by omega, ?_⟩
  -- With an excess the leading bit stays in its place.
  obtain none | more := Nat.eq_zero_or_pos (excess n)
  · exact .inl none
  · have full := (Nat.le_div_iff_mul_le (Nat.two_pow_pos _)).2 (le_of_excess more)
    exact .inr (full.trans low)

/-- A number is rounded below a double of even significand exactly when it is less than halfway to
it from the double before. -/
theorem rounded_lt_iff {n m places : Nat} (even : m % 2 = 0) (leading : 2 ^ 52 < m)
    (small : m < 2 ^ 53) :
    rounded n < m * 2 ^ places ↔ 2 * n < (2 * m - 1) * 2 ^ places := by
  obtain ⟨high, low⟩ := nearestMultiple_excess n
  -- One more place covers a whole exponent's worth of significands.
  have apart {few many : Nat} (less : few < many) : 2 ^ 53 * 2 ^ few ≤ 2 ^ 52 * 2 ^ many := by
    rw [← pow_add, ← pow_add]
    exact Nat.pow_le_pow_right (by decide) (by omega)
  unfold rounded
  obtain lower | same | upper := Nat.lt_trichotomy (excess n) places
  · -- With less excess the number is below the doubles of this exponent, rounded or not.
    refine iff_of_true ?_ ?_
    · calc nearestMultiple n (excess n) * 2 ^ excess n ≤ 2 ^ 53 * 2 ^ excess n :=
            Nat.mul_le_mul_right _ high
        _ ≤ 2 ^ 52 * 2 ^ places := apart lower
        _ < m * 2 ^ places := Nat.mul_lt_mul_of_pos_right leading (Nat.two_pow_pos _)
    · calc 2 * n < 2 * (2 ^ 53 * 2 ^ excess n) := by have := lt_of_excess n; omega
        _ ≤ 2 * (2 ^ 52 * 2 ^ places) := Nat.mul_le_mul_left 2 (apart lower)
        _ = 2 ^ 53 * 2 ^ places := by ring
        _ ≤ (2 * m - 1) * 2 ^ places := Nat.mul_le_mul_right _ (by omega)
  · -- With the same excess both are multiples of one power.
    rw [same, Nat.mul_lt_mul_right (Nat.two_pow_pos places), nearestMultiple_lt_iff even]
  · -- With more excess it is above them.
    refine iff_of_false ?_ ?_
    · refine Nat.not_lt.2 ?_
      calc m * 2 ^ places ≤ 2 ^ 53 * 2 ^ places := Nat.mul_le_mul_right _ small.le
        _ ≤ 2 ^ 52 * 2 ^ excess n := apart upper
        _ ≤ nearestMultiple n (excess n) * 2 ^ excess n :=
            Nat.mul_le_mul_right _ (low.resolve_left (by omega))
    · refine Nat.not_lt.2 ?_
      calc (2 * m - 1) * 2 ^ places ≤ 2 * 2 ^ 53 * 2 ^ places :=
            Nat.mul_le_mul_right _ (by omega)
        _ = 2 * (2 ^ 53 * 2 ^ places) := mul_assoc _ _ _
        _ ≤ 2 * (2 ^ 52 * 2 ^ excess n) := Nat.mul_le_mul_left 2 (apart upper)
        _ ≤ 2 * n := Nat.mul_le_mul_left 2 (le_of_excess (by omega))

namespace Dyadic

variable {d : Dyadic}

/-- A number of a double has the excess of its exponent. -/
theorem IsDouble.excess_size (double : d.IsDouble) : excess d.size = (d.exponent + 1074).toNat := by
  -- The significand fits, and is full unless the exponent is the least.
  refine excess_eq (Nat.mul_lt_mul_of_pos_right double.significand_lt (Nat.two_pow_pos _)) ?_
  obtain full | least := double.leading
  · exact .inr (Nat.mul_le_mul_right _ full)
  · exact .inl (by rw [least]; rfl)

/-- A number of a double is not rounded. -/
theorem IsDouble.rounded_size (double : d.IsDouble) : rounded d.size = d.size := by
  -- A double is a multiple already, with nothing left over to round.
  have kept := nearestMultiple_mul_two_pow d.significand 0 (d.exponent + 1074).toNat
  rw [zero_add] at kept
  rw [rounded, double.excess_size, size, kept]
  simp [nearestMultiple, Nat.mod_one]

/-- The exponent that a number is rounded to drops its excess. -/
theorem targetExponent_eq {significand n : Nat} {exponent : Int}
    (units : significand * 2 ^ (exponent + 1074).toNat = n) (positive : 0 < n)
    (least : -1074 ≤ exponent) :
    Format.binary64.targetExponent (Float.Model.totalExponent significand exponent) =
      (excess n : Int) - 1074 := by
  have width : ((Format.binary64.mantissaBits : Nat) : Int) = 53 := rfl
  have lowest : Format.binary64.minExponent = -1074 := rfl
  have nonzero : significand ≠ 0 := by
    rintro rfl
    omega
  -- Scaling by a power of two adds its exponent to the logarithm.
  have logarithm : n.log2 = significand.log2 + (exponent + 1074).toNat := by
    rw [Nat.log2_eq_iff positive.ne', ← units, add_right_comm, pow_add, pow_add]
    exact ⟨Nat.mul_le_mul_right _ (Nat.log2_self_le nonzero),
      Nat.mul_lt_mul_of_pos_right Nat.lt_log2_self (Nat.two_pow_pos _)⟩
  -- Fifty-three bits below the leading one, but not under the least exponent.
  rw [Format.targetExponent, Float.Model.totalExponent, width, lowest, excess, logarithm]
  omega

/-- A number is shifted until its excess is dropped. -/
theorem shiftToTargetExponent_units {significand n : Nat} {exponent : Int}
    (units : significand * 2 ^ (exponent + 1074).toNat = n) (positive : 0 < n)
    (least : -1074 ≤ exponent) (most : exponent ≤ (excess n : Int) - 1074) :
    UnpackedFloat.shiftToTargetExponent Format.binary64 significand exponent .exact =
      ((excess n - (exponent + 1074).toNat).repeat ExtendedMantissa.shiftRightOne
        ⟨significand, false, false⟩, (excess n : Int) - 1074) := by
  -- The shift takes the exponent up to the one that the excess asks for.
  have shift : ((excess n : Int) - 1074 - exponent).toNat =
      excess n - (exponent + 1074).toNat := by omega
  rw [UnpackedFloat.shiftToTargetExponent, targetExponent_eq units positive least,
    UnpackedFloat.shiftToExponent, shift]
  refine Prod.ext rfl ?_
  show exponent + ((excess n - (exponent + 1074).toNat : Nat) : Int) = _
  omega

/-- A significand that was rounded to one beyond the places of a double is shifted once more. -/
theorem exists_shiftToTargetExponent {multiple places : Nat} (positive : 0 < multiple)
    (most : multiple ≤ 2 ^ 53) (leading : places = 0 ∨ 2 ^ 52 ≤ multiple) :
    ∃ significand exponent,
      UnpackedFloat.shiftToTargetExponent Format.binary64 multiple ((places : Int) - 1074) .exact =
        (⟨significand, false, false⟩, exponent) ∧
      0 < significand ∧ significand < 9007199254740992 ∧ -1074 ≤ exponent ∧
      (4503599627370496 ≤ significand ∨ exponent = -1074) ∧
      significand * 2 ^ (exponent + 1074).toNat = multiple * 2 ^ places := by
  have sum : ((places : Int) - 1074 + 1074).toNat = places := by omega
  have shifted (more : Nat) (counted : excess (multiple * 2 ^ places) = places + more) :
      UnpackedFloat.shiftToTargetExponent Format.binary64 multiple ((places : Int) - 1074) .exact =
        (more.repeat ExtendedMantissa.shiftRightOne ⟨multiple, false, false⟩,
          ((places + more : Nat) : Int) - 1074) := by
    rw [shiftToTargetExponent_units (congrArg (multiple * 2 ^ ·) sum)
      (Nat.mul_pos positive (Nat.two_pow_pos _)) (by omega) (by omega), counted, sum,
      Nat.add_sub_cancel_left]
  -- A multiple below the bound is left where it is.
  obtain fits | rfl := Nat.lt_or_eq_of_le most
  · refine ⟨multiple, (places : Int) - 1074, shifted 0 ?_, positive, fits, by omega,
      by omega, by rw [sum]⟩
    exact excess_eq (Nat.mul_lt_mul_of_pos_right fits (Nat.two_pow_pos _))
      (leading.imp id (Nat.mul_le_mul_right _))
  · -- Only the leading bit is set, and stays set when it is shifted.
    refine ⟨2 ^ 52, (places : Int) - 1073, ?_, by decide, by decide, by omega, .inl (by decide), ?_⟩
    · have counted : excess (2 ^ 53 * 2 ^ places) = places + 1 := by
        refine excess_eq ?_ (.inr ?_)
        · exact Nat.mul_lt_mul_of_pos_left (Nat.pow_lt_pow_right (by decide) (by omega)) (by decide)
        · rw [pow_succ]
          omega
      rw [shifted 1 counted]
      refine Prod.ext rfl ?_
      simp only
      omega
    · rw [show ((places : Int) - 1073 + 1074).toNat = places + 1 by omega, pow_succ]
      omega

/-- An unpacked double stands for a number of units that was rounded, with its leading bit in place
unless the exponent is the least one. The exponent may be too great for a double. -/
def RoundsTo (u : UnpackedFloat) (sign : Sign) (n : Nat) : Prop :=
  ∃ significand exponent positive, u = .finite sign significand exponent positive ∧
    significand < 9007199254740992 ∧ -1074 ≤ exponent ∧
    (4503599627370496 ≤ significand ∨ exponent = -1074) ∧
    significand * 2 ^ (exponent + 1074).toNat = rounded n

/-- A significand that is fine enough is rounded by shifting it to the right. -/
theorem roundsTo_roundWithAccuracy (sign : Sign) {significand n : Nat} {exponent : Int}
    (units : significand * 2 ^ (exponent + 1074).toNat = n) (positive : 0 < n)
    (least : -1074 ≤ exponent) (most : exponent ≤ (excess n : Int) - 1074) :
    RoundsTo (.roundWithAccuracy Format.binary64 sign significand exponent .exact) sign n := by
  obtain ⟨high, low⟩ := nearestMultiple_excess n
  -- The bits that are dropped by the first shift round to the nearest multiple.
  have first : ((excess n - (exponent + 1074).toNat).repeat ExtendedMantissa.shiftRightOne
      ⟨significand, false, false⟩).roundedMantissa = nearestMultiple n (excess n) := by
    have places : excess n = excess n - (exponent + 1074).toNat + (exponent + 1074).toNat := by
      omega
    rw [roundedMantissa_repeat, ← nearestMultiple_mul_two_pow _ _ (exponent + 1074).toNat, units,
      ← places]
  have nonzero : 0 < nearestMultiple n (excess n) := by
    obtain none | full := low
    · -- Without an excess nothing is dropped.
      rw [none]
      simpa [nearestMultiple, Nat.mod_one] using positive
    · omega
  -- That multiple is shifted once more, in case the rounding carried over.
  obtain ⟨m, e, again, filled, conditions⟩ := exists_shiftToTargetExponent nonzero high low
  refine ⟨m, e, filled, ?_, conditions⟩
  rw [UnpackedFloat.roundWithAccuracy, shiftToTargetExponent_units units positive least most]
  simp only [first, again]
  rw [dif_neg filled.ne']

/-- Every significand is made fine enough, and then rounded. -/
theorem roundsTo_round (sign : Sign) {significand n : Nat} {exponent : Int}
    (units : significand * 2 ^ (exponent + 1074).toNat = n) (positive : 0 < n)
    (least : -1074 ≤ exponent) :
    RoundsTo (.round Format.binary64 sign significand exponent) sign n := by
  rw [UnpackedFloat.round, targetExponent_eq units positive least, UnpackedFloat.decreaseExponent,
    Nat.shiftLeft_eq]
  -- The significand is given zeros behind, so that no bit lies below the target.
  generalize places : (exponent - ((excess n : Int) - 1074)).toNat = zeros
  refine roundsTo_roundWithAccuracy sign ?_ positive (by omega) (by omega)
  have split : (exponent + 1074).toNat = zeros + (exponent - zeros + 1074).toNat := by omega
  rw [← units, split, pow_add, mul_assoc]

/-- The number of a double is rounded to itself. -/
theorem RoundsTo.eq_finite {u : UnpackedFloat} {sign : Sign} {significand n : Nat} {exponent : Int}
    (rounds : RoundsTo u sign n) (units : significand * 2 ^ (exponent + 1074).toNat = n)
    (double : IsDouble ⟨sign == .negative, significand, exponent⟩) (positive : 0 < significand) :
    u = .finite sign significand exponent positive := by
  obtain ⟨m, e, filled, rfl, small, least, leading, same⟩ := rounds
  -- The number is a double, so the rounding has its size.
  have size : Dyadic.size ⟨sign == .negative, m, e⟩ =
      Dyadic.size ⟨sign == .negative, significand, exponent⟩ := by
    rw [← double.rounded_size]
    exact same.trans (congrArg rounded units.symm)
  have other : IsDouble ⟨sign == .negative, m, e⟩ := by
    refine ⟨small, least, ?_, leading⟩
    -- With an exponent that is too great the number would be beyond all doubles.
    by_contra great
    have beyond := double.size_lt (b := ⟨sign == .negative, m, e⟩)
      (leading.resolve_right (by simp only at great; omega))
      (by have := double.exponent_le; simp only at great this ⊢; omega)
    omega
  -- With its sign it has its units too, and units that are not zero tell doubles apart.
  have counted : Dyadic.units ⟨sign == .negative, m, e⟩ =
      Dyadic.units ⟨sign == .negative, significand, exponent⟩ := by
    rw [Dyadic.units, Dyadic.units, size]
  have nonzero := units_finite sign e filled
  have one := other.eq_of_units double counted (by
    cases sign with
    | negative => exact nonzero.ne
    | positive => exact nonzero.ne')
  rw [Dyadic.mk.injEq] at one
  obtain ⟨-, rfl, rfl⟩ := one
  rfl

end Dyadic

end CalcFields
