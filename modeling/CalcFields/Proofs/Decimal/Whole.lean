import CalcFields.Proofs.Decimal.Rounding

/-!
Whole numbers up to two to the fifty-third are doubles: a double is made of each of them without
rounding, and its floor and its whole part are the number again.
-/

namespace CalcFields

open Float.Model (Format UnpackedFloat)

/-- A whole number below two to the fifty-third gets its leading bit in place by a shift. -/
theorem leading_shift {n : Nat} (positive : 0 < n) (small : n < 2 ^ 53) :
    n.log2 ≤ 52 ∧ 2 ^ 52 ≤ n * 2 ^ (52 - n.log2) ∧ n * 2 ^ (52 - n.log2) < 2 ^ 53 := by
  have short : n.log2 ≤ 52 := by
    have := Nat.log2_lt (n := n) (k := 53) (by omega)
    omega
  have low := Nat.log2_self_le (n := n) (by omega)
  have high := Nat.lt_log2_self (n := n)
  -- The bounds of a significand are the bounds of the number times what is shifted in.
  have split (more : Nat) : 2 ^ (52 + more) = 2 ^ (n.log2 + more) * 2 ^ (52 - n.log2) := by
    rw [← pow_add]
    congr 1
    omega
  refine ⟨short, ?_, ?_⟩
  · rw [split 0]
    exact Nat.mul_le_mul_right _ low
  · rw [split 1]
    exact Nat.mul_lt_mul_of_pos_right high (Nat.two_pow_pos _)

/-- A whole number of few bits with its leading bit in place is the number of a double. -/
theorem isDouble_leading {n : Nat} (positive : 0 < n) (small : n < 2 ^ 53) :
    Dyadic.IsDouble ⟨false, n * 2 ^ (52 - n.log2), n.log2 - 52⟩ := by
  -- The leading bit of the number is lifted to the place that normal doubles have it at.
  obtain ⟨short, leading, within⟩ := leading_shift positive small
  exact ⟨within, by simp only; omega, by simp only; omega, .inl leading⟩

/-- A whole number of few bits is a significand with its leading bit in place. -/
theorem ofNat_eq {n : Nat} (positive : 0 < n) (small : n < 2 ^ 53) :
    UnpackedFloat.ofNat Format.binary64 n =
      .finite .positive (n * 2 ^ (52 - n.log2)) (n.log2 - 52)
        (Nat.mul_pos positive (Nat.two_pow_pos _)) := by
  have ordered : compare (n : Int) 0 = .gt := Int.compare_eq_gt.2 (by omega)
  -- The significand is shifted up as far as its exponent is below zero.
  have places : ((0 : Int) + 1074).toNat = 52 - n.log2 + ((n.log2 : Int) - 52 + 1074).toNat := by
    have := (leading_shift positive small).1
    omega
  rw [UnpackedFloat.ofNat, UnpackedFloat.ofInt, UnpackedFloat.normalize, ordered]
  -- The number is a double, so that rounding it changes nothing.
  refine (Dyadic.roundsTo_round .positive rfl ?_ (by decide)).eq_finite ?_
    (isDouble_leading positive small) _
  · exact Nat.mul_pos positive (Nat.two_pow_pos _)
  · rw [Int.toNat_natCast, places, pow_add, mul_assoc]

/-- One is a significand with its leading bit only. -/
theorem unpack_one : (Float.ofBits 0x3FF0000000000000).toModel.unpack =
    .finite .positive (2 ^ 52) (-52) (by decide) :=
  Dyadic.eq_finite_of_ofUnpacked?
    (Dyadic.ofFloat?_eq_ofUnpacked? _ ▸ (by decide +kernel)) _

/-- A whole number of few bits is made a double by a product with one, which is not rounded. -/
theorem ofFloat?_ofNat_of_lt {n : Nat} (positive : 0 < n) (small : n < 2 ^ 53) :
    Dyadic.ofFloat? (.ofNat n) = some ⟨false, n * 2 ^ (52 - n.log2), n.log2 - 52⟩ := by
  have double := isDouble_leading positive small
  -- The number is built as a decimal without places: a product with one.
  have product : Float.ofNat n = n.toUInt64.toFloat * Float.ofBits 0x3FF0000000000000 := by
    show Float.ofScientific n false 0 = _
    rw [Float.ofScientific, dif_pos ⟨small, by decide⟩]
    rfl
  have fits : n.toUInt64.toNat = n := UInt64.toNat_ofNat_of_lt' (by simp [UInt64.size]; omega)
  have factor : n.toUInt64.toFloat.toModel.unpack =
      .finite .positive (n * 2 ^ (52 - n.log2)) (n.log2 - 52)
        (Nat.mul_pos positive (Nat.two_pow_pos _)) := by
    refine Dyadic.eq_finite_of_ofUnpacked? ?_ _
    refine Dyadic.ofUnpacked?_unpack_pack ?_ double
    rw [UnpackedFloat.ofUInt64, fits, ofNat_eq positive small]
    rfl
  rw [product]
  show Dyadic.ofFloat? (.ofModel (.pack (UnpackedFloat.mul Format.binary64
    n.toUInt64.toFloat.toModel.unpack _))) = _
  rw [factor, unpack_one]
  refine Dyadic.ofFloat?_ofModel_pack ?_ double
  -- The product has the same units, behind fifty-two more zeros.
  have units : n * 2 ^ (52 - n.log2) * 2 ^ 52 * 2 ^ ((n.log2 : Int) - 52 + -52 + 1074).toNat =
      Dyadic.size ⟨false, n * 2 ^ (52 - n.log2), n.log2 - 52⟩ := by
    have places : ((n.log2 : Int) - 52 + 1074).toNat =
        52 + ((n.log2 : Int) - 52 + -52 + 1074).toNat := by omega
    rw [Dyadic.size, places, pow_add, mul_assoc]
  have filled : 0 < n * 2 ^ (52 - n.log2) := Nat.mul_pos positive (Nat.two_pow_pos _)
  -- That size is a double, so the product is not rounded.
  have excess := double.excess_size
  have multiplied := (Dyadic.roundsTo_roundWithAccuracy .positive units
    (Nat.mul_pos filled (Nat.two_pow_pos _)) (by omega) (by simp only at excess; omega)).eq_finite
      rfl double filled
  show Dyadic.ofUnpacked? (.roundWithAccuracy Format.binary64 .positive _ _ .exact) = _
  rw [multiplied]
  rfl

namespace Dyadic

/-- The least double has this many binary places. -/
@[irreducible] def places : Nat := 1074

/-- One in units of the least double. -/
def one : Nat := 2 ^ places

/-- The least double has binary places down to the least exponent. -/
theorem places_eq : places = 1074 := by
  unfold places
  rfl

/-- There are units in one. -/
theorem one_pos : 0 < one :=
  Nat.two_pow_pos places

/-- One is a power of two, and any split of the power splits it. -/
theorem one_eq {high low : Nat} (sum : high + low = 1074) : one = 2 ^ high * 2 ^ low := by
  rw [← pow_add, sum, ← places_eq, one]

variable {d : Dyadic}

/-- A number with a whole significand and exponent is a multiple of one. -/
theorem size_of_nonneg (whole : 0 ≤ d.exponent) :
    d.size = d.significand * 2 ^ d.exponent.toNat * one := by
  -- The exponent counts from one, the size in units of the least double.
  have split : (d.exponent + 1074).toNat = d.exponent.toNat + places := by
    rw [places_eq]
    omega
  rw [size, split, pow_add, one, mul_assoc]

/-- A number with binary places after the point counts fractions of one. -/
theorem one_of_neg (least : -1074 ≤ d.exponent) (fraction : d.exponent < 0) :
    one = 2 ^ (-d.exponent).toNat * 2 ^ (d.exponent + 1074).toNat :=
  one_eq (by omega)

/-- A shift by the exponent drops what is less than one. -/
theorem shiftBy_eq (least : -1074 ≤ d.exponent) :
    shiftBy d.significand d.exponent = d.size / one := by
  unfold shiftBy
  split
  · -- The exponent shifts up by whole ones.
    rename_i whole
    rw [size_of_nonneg whole, Nat.mul_div_cancel _ one_pos]
    rfl
  · -- Or it shifts down by the part of a one that the significand counts.
    rename_i fraction
    rw [one_of_neg least (by omega), size, Nat.mul_div_mul_right _ _ (Nat.two_pow_pos _)]
    rfl

/-- A number is whole when it is a multiple of one. -/
theorem isWhole_iff (least : -1074 ≤ d.exponent) : d.isWhole = true ↔ one ∣ d.size := by
  -- From zero on the exponent counts ones; below, the significand must fill them.
  rw [isWhole, Bool.or_eq_true, decide_eq_true_iff, beq_iff_eq]
  by_cases whole : 0 ≤ d.exponent
  · refine iff_of_true (.inl whole) ?_
    rw [size_of_nonneg whole]
    exact Nat.dvd_mul_left _ _
  · rw [or_iff_right whole, one_of_neg least (by omega), size,
      Nat.mul_dvd_mul_iff_right (Nat.two_pow_pos _)]
    exact Nat.dvd_iff_mod_eq_zero.symm

/-- The floor is the floor of the number in units. -/
theorem floor_eq (least : -1074 ≤ d.exponent) : d.floor = d.units / one := by
  have whole := isWhole_iff least
  have positive : (one : Int).sign = 1 := Int.sign_eq_one_of_pos (by exact_mod_cast one_pos)
  rw [floor, truncated, shiftBy_eq least, units]
  cases d.negative with
  -- At or above zero the floor is the whole part.
  | false => simp
  | true =>
    -- Below zero the floor is one less than the whole part, unless there is no fraction.
    simp only [Bool.true_and, if_true, Int.neg_ediv, Int.natCast_ediv, Int.natCast_dvd_natCast,
      positive, ← whole]
    cases d.isWhole <;> simp

/-- The whole part of a number that is not below zero is its floor. -/
theorem truncated_eq (least : -1074 ≤ d.exponent) (positive : d.negative = false) :
    d.truncated = d.size / one := by
  rw [truncated, shiftBy_eq least, positive]
  rfl

/-- The leading bit of a whole number is put in place by a shift up or down. -/
theorem shiftBy_leading {k : Nat} (positive : 0 < k) :
    4503599627370496 ≤ shiftBy k (52 - (k.log2 : Int)) ∧
      shiftBy k (52 - (k.log2 : Int)) < 9007199254740992 := by
  have low := Nat.log2_self_le (n := k) (by omega)
  have high := Nat.lt_log2_self (n := k)
  unfold shiftBy
  split
  · -- A short number is shifted up, where nothing is lost.
    rename_i up
    have places : (52 - (k.log2 : Int)).toNat = 52 - k.log2 := by omega
    rw [places]
    exact (leading_shift positive (lt_of_lt_of_le high (Nat.pow_le_pow_right (by decide)
      (by omega)))).2
  · -- A long one is shifted down, which rounds towards zero.
    rename_i down
    have places : (-(52 - (k.log2 : Int))).toNat = k.log2 - 52 := by omega
    -- The bounds of the number are the bounds of a significand times what is shifted out.
    have split (more : Nat) : 2 ^ (k.log2 + more) = 2 ^ (52 + more) * 2 ^ (k.log2 - 52) := by
      rw [← pow_add]
      congr 1
      omega
    rw [places]
    refine ⟨(Nat.le_div_iff_mul_le (Nat.two_pow_pos _)).2 ?_,
      (Nat.div_lt_iff_lt_mul (Nat.two_pow_pos _)).2 ?_⟩
    · exact (split 0).symm.le.trans low
    · exact high.trans_le (split 1).le

/-- A whole number that is placed as a double has its leading bit in place, and loses low bits. -/
theorem ofFloat?_toFloat (negative : Bool) {k : Nat} (positive : 0 < k) (small : k.log2 ≤ 1023) :
    ofFloat? (toFloat ⟨negative, k, 0⟩) =
      some ⟨negative, shiftBy k (52 - (k.log2 : Int)), (k.log2 : Int) - 52⟩ := by
  obtain ⟨leading, within⟩ := shiftBy_leading positive
  have double : IsDouble ⟨negative, shiftBy k (52 - (k.log2 : Int)), (k.log2 : Int) - 52⟩ :=
    ⟨within, by simp only; omega, by simp only; omega, .inl leading⟩
  -- A whole number is far above the least exponent, so that its own one is taken.
  have least : max ((0 : Int) + k.log2 - 52) (-1074) = (k.log2 : Int) - 52 := by omega
  have shift : (0 : Int) - ((k.log2 : Int) - 52) = 52 - (k.log2 : Int) := by omega
  -- The bits are those of a double with its leading bit.
  have placed := ofBits?_of_isDouble double
  simp only at placed
  rw [if_neg (show ¬ shiftBy k (52 - (k.log2 : Int)) < 4503599627370496 by omega)] at placed
  have bits : toFloat ⟨negative, k, 0⟩ =
      .ofBits (.ofNat ((if negative then 9223372036854775808 else 0) +
        (((k.log2 : Int) - 52 + 1074).toNat * 4503599627370496 +
          shiftBy k (52 - (k.log2 : Int))))) := by
    rw [toFloat]
    simp only [least, shift]
    rw [if_neg (show ¬ shiftBy k (52 - (k.log2 : Int)) < Nat.pow 2 52 from leading.not_gt),
      if_neg (show ¬ 972 ≤ (k.log2 : Int) - 52 by omega)]
  -- They fit into sixty-four, the sign included.
  have size : (if negative then 9223372036854775808 else 0) +
      (((k.log2 : Int) - 52 + 1074).toNat * 4503599627370496 +
        shiftBy k (52 - (k.log2 : Int))) < 18446744073709551616 := by
    split <;> omega
  rw [bits]
  exact ofFloat?_ofBits size placed

/-- A whole number below two to the fifty-third has its number of units when its leading bit is put
in place. -/
theorem size_leading {n : Nat} (negative : Bool) (short : n.log2 ≤ 52) :
    size ⟨negative, n * 2 ^ (52 - n.log2), (n.log2 : Int) - 52⟩ = n * one := by
  -- The leading bit is shifted up as far as the exponent is below zero.
  have split : one = 2 ^ (52 - n.log2) * 2 ^ ((n.log2 : Int) - 52 + 1074).toNat :=
    one_eq (by omega)
  rw [split, ← mul_assoc]
  rfl

/-- A whole number of few bits is the whole part when its leading bit is put in place. -/
theorem truncated_leading {k : Nat} (short : k.log2 ≤ 52) :
    truncated ⟨false, shiftBy k (52 - (k.log2 : Int)), (k.log2 : Int) - 52⟩ = k := by
  have shift : shiftBy k (52 - (k.log2 : Int)) = k * 2 ^ (52 - k.log2) := by
    have up : (52 - (k.log2 : Int)).toNat = 52 - k.log2 := by omega
    rw [shiftBy, if_pos (by omega), up]
    rfl
  -- The shift and the exponent undo each other.
  have least : -1074 ≤ (k.log2 : Int) - 52 := by omega
  rw [shift, truncated_eq least rfl, size_leading false short, Nat.cast_mul,
    Int.mul_ediv_cancel _ (by exact_mod_cast one_pos.ne')]

/-- A whole number of more bits has a great whole part when its leading bit is put in place. -/
theorem le_truncated_leading {k : Nat} (long : 52 < k.log2) :
    9007199254740992 ≤
      truncated ⟨false, shiftBy k (52 - (k.log2 : Int)), (k.log2 : Int) - 52⟩ := by
  have positive : 0 < k := Nat.pos_of_ne_zero fun zero => by simp [zero] at long
  obtain ⟨leading, _⟩ := shiftBy_leading positive
  obtain ⟨more, down⟩ : ∃ more, ((k.log2 : Int) - 52).toNat = more + 1 := ⟨k.log2 - 53, by omega⟩
  generalize shiftBy k (52 - (k.log2 : Int)) = significand at leading ⊢
  -- At least one place is shifted back in, and that doubles the leading bit.
  have twice : 9007199254740992 ≤ shiftBy significand ((k.log2 : Int) - 52) := by
    rw [shiftBy, if_pos (by omega), down]
    show 9007199254740992 ≤ significand * 2 ^ (more + 1)
    rw [pow_succ]
    have := Nat.one_le_two_pow (n := more)
    nlinarith
  rw [truncated]
  simp only [Bool.false_eq_true, if_false]
  exact_mod_cast twice

/-- A whole number beyond the range of doubles is placed as infinity. -/
theorem toFloat_of_great {k : Nat} (great : 1024 ≤ k.log2) :
    toFloat ⟨false, k, 0⟩ = .ofBits (.ofNat 9218868437227405312) := by
  -- The greatest exponent stands for infinity, and its mantissa is dropped.
  have positive : 0 < k := Nat.pos_of_ne_zero fun zero => by simp [zero] at great
  obtain ⟨leading, _⟩ := shiftBy_leading positive
  have least : max ((0 : Int) + k.log2 - 52) (-1074) = (k.log2 : Int) - 52 := by omega
  have shift : (0 : Int) - ((k.log2 : Int) - 52) = 52 - (k.log2 : Int) := by omega
  have magnitude : 0 + 2047 * Nat.pow 2 52 = 9218868437227405312 := rfl
  rw [toFloat]
  simp only [least, shift, Bool.false_eq_true, if_false]
  rw [if_neg (show ¬ shiftBy k (52 - (k.log2 : Int)) < Nat.pow 2 52 from leading.not_gt),
    if_pos (show 972 ≤ (k.log2 : Int) - 52 by omega), magnitude]

/-- A positive whole number that is placed as a double and cut off is the number, unless that is
great, and then the result is great as well. -/
theorem le_saturated64_toFloat {k : Nat} (positive : 0 < k) :
    ((min k 9007199254740992 : Nat) : Int) ≤ saturated64 (toFloat ⟨false, k, 0⟩) := by
  -- Beyond the range of doubles the number becomes infinity, which is cut off to the greatest one.
  by_cases small : k.log2 ≤ 1023
  · rw [saturated64, ofFloat?_toFloat false positive small]
    simp only [minInt64, maxInt64]
    by_cases short : k.log2 ≤ 52
    · -- A short number is its own whole part.
      have := truncated_leading short
      omega
    · -- A longer one is at or above the bound already.
      have := le_truncated_leading (k := k) (by omega)
      omega
  · have greatest : saturated64 (.ofBits (.ofNat 9218868437227405312)) = 9223372036854775807 := by
      decide +kernel
    rw [toFloat_of_great (by omega), greatest]
    omega

/-- Rounding down to a whole number goes at least as far up as any whole number of few bits. -/
theorem le_saturated64_floorFloat {x : Float} {n : Nat} (decoded : ofFloat? x = some d)
    (few : n ≤ 9007199254740992) (atLeast : ((n * one : Nat) : Int) ≤ d.units) :
    (n : Int) ≤ saturated64 (floorFloat x) := by
  have least := (isDouble_of_ofFloat? decoded).le_exponent
  have positive : (0 : Int) < one := by exact_mod_cast one_pos
  -- What has that many ones has a floor of at least as many.
  have above : (n : Int) ≤ d.floor := by
    rw [floor_eq least]
    exact (Int.le_ediv_iff_mul_le positive).2 (by exact_mod_cast atLeast)
  rw [floorFloat, decoded]
  simp only [wholeFloat]
  obtain zero | more := Nat.eq_zero_or_pos d.floor.natAbs
  · -- A zero is cut off to zero, whatever its sign.
    have both : saturated64 (toFloat ⟨true, 0, 0⟩) = 0 ∧
        saturated64 (toFloat ⟨false, 0, 0⟩) = 0 := by
      decide +kernel
    rw [zero]
    cases d.negative with
    | true => rw [both.1]; omega
    | false => rw [both.2]; omega
  · -- A positive count of ones has no minus.
    have negative : d.negative = false := by
      by_contra negative
      rw [units, if_pos (by simpa using negative)] at atLeast
      have empty : (d.size : Int) = 0 := by omega
      rw [floor_eq least, units, if_pos (by simpa using negative), empty] at more
      simp at more
    have placed := le_saturated64_toFloat more
    rw [negative]
    omega

/-- A whole number of few bits is a double with its number of units. -/
theorem exists_ofFloat?_ofNat {n : Nat} (positive : 0 < n) (few : n ≤ 9007199254740992) :
    ∃ d, ofFloat? (.ofNat n) = some d ∧ d.negative = false ∧ d.size = n * one := by
  -- Below the bound the leading bit fits without rounding.
  obtain less | rfl := Nat.lt_or_eq_of_le few
  · have short := (leading_shift positive less).1
    exact ⟨_, ofFloat?_ofNat_of_lt positive less, rfl, size_leading false short⟩
  · -- The greatest of them is a power of two.
    have greatest : ofFloat? (.ofNat 9007199254740992) = some ⟨false, 4503599627370496, 1⟩ := by
      decide +kernel
    refine ⟨_, greatest, rfl, ?_⟩
    rw [size_of_nonneg (by decide)]
    rfl

/-- A double that decodes changes its sign only when it is negated. -/
theorem ofFloat?_neg {x : Float} (decoded : ofFloat? x = some d) :
    ofFloat? (-x) = some { d with negative := !d.negative } := by
  -- Negation turns the sign of every number, that of zero included.
  have signed (u : UnpackedFloat) : ofUnpacked? u.neg =
      (ofUnpacked? u).map fun d => { d with negative := !d.negative } := by
    cases u with
    | notANumber => rfl
    | infinity sign => rfl
    | zero sign => cases sign <;> rfl
    | finite sign significand exponent positive => cases sign <;> rfl
  exact ofFloat?_signed signed decoded

/-- A whole number of few bits is a double of its sign with its number of units. -/
theorem exists_ofFloat?_ofInt {n : Int} (nonzero : n ≠ 0) (few : n.natAbs ≤ 9007199254740992) :
    ∃ d, ofFloat? (.ofInt n) = some d ∧ d.negative = decide (n < 0) ∧
      d.size = n.natAbs * one := by
  -- A whole number is made a double by its size, and is negated afterwards.
  cases n with
  | ofNat n =>
    obtain ⟨d, decoded, positive, units⟩ := exists_ofFloat?_ofNat (n := n)
      (Nat.pos_of_ne_zero fun zero => nonzero (congrArg Int.ofNat zero)) few
    have sign : ¬ Int.ofNat n < 0 := Int.not_lt.2 (Int.natCast_nonneg n)
    exact ⟨d, decoded, by rw [positive, decide_eq_false sign], units⟩
  -- The size is one more than the constructor counts.
  | negSucc n =>
    obtain ⟨d, decoded, positive, units⟩ := exists_ofFloat?_ofNat (n := n + 1) (by omega) few
    refine ⟨_, ofFloat?_neg decoded, ?_, units⟩
    rw [positive, decide_eq_true (Int.negSucc_lt_zero n)]
    rfl

/-- A double that decodes is finite. -/
theorem isFinite_of_ofFloat? {x : Float} (decoded : ofFloat? x = some d) : x.isFinite = true := by
  -- Only zeros and finite numbers decode.
  rw [ofFloat?_eq_ofUnpacked?] at decoded
  show x.toModel.unpack.isFinite = true
  generalize x.toModel.unpack = u at decoded
  cases u with
  | infinity sign => cases decoded
  | notANumber => cases decoded
  | _ => rfl

/-- A double that decodes is a number. -/
theorem isNaN_of_ofFloat? {x : Float} (decoded : ofFloat? x = some d) : x.isNaN = false := by
  rw [ofFloat?_eq_ofUnpacked?] at decoded
  show x.toModel.unpack.isNaN = false
  generalize x.toModel.unpack = u at decoded
  cases u with
  | notANumber => cases decoded
  | _ => rfl

/-- The double of a whole number of few bits is whole. -/
theorem wholeNumber?_ofInt {n : Int} (few : n.natAbs ≤ 9007199254740992) :
    wholeNumber? (.ofInt n) = some n := by
  -- Zero has no leading bit to decode from, so it is computed.
  by_cases zero : n = 0
  · rw [zero]
    decide +kernel
  · obtain ⟨d, decoded, sign, units⟩ := exists_ofFloat?_ofInt zero few
    have least := (isDouble_of_ofFloat? decoded).le_exponent
    -- A multiple of one has no fraction.
    have whole : d.isWhole = true := (isWhole_iff least).2 (units ▸ Nat.dvd_mul_left _ _)
    rw [wholeNumber?, decoded]
    simp only [whole, if_true]
    rw [truncated, shiftBy_eq least, units, Nat.mul_div_cancel _ one_pos, sign]
    simp only [decide_eq_true_eq]
    split <;> (refine congrArg some ?_; omega)

end Dyadic

/-- A double is infinite or stands for at least a number of units. -/
def AtLeast (x : Float) (units : Int) : Prop :=
  x.toModel.unpack = .infinity .positive ∨ ∃ d, Dyadic.ofFloat? x = some d ∧ units ≤ d.units

namespace AtLeast

variable {x y : Float} {units : Int} {numbers : List Float}

/-- A greater double is at least as great. -/
theorem of_lt (atLeast : AtLeast x units) (less : x < y) : AtLeast y units := by
  -- Either the bound was met by infinity, or by a decoded number.
  have compared := lt_iff_compare.1 less
  obtain infinite | ⟨d, decoded, bound⟩ := atLeast
  · -- Nothing is greater than infinity.
    rw [infinite] at compared
    generalize y.toModel.unpack = v at compared
    cases v with
    | infinity sign => cases sign <;> cases compared
    | _ => cases compared
  · cases right : Dyadic.ofFloat? y with
    | some b =>
      have := (lt_iff_units decoded right).1 less
      exact .inr ⟨b, right, by omega⟩
    | none =>
      rw [Dyadic.ofFloat?_eq_ofUnpacked?] at decoded right
      unfold AtLeast
      generalize y.toModel.unpack = v at compared right ⊢
      generalize x.toModel.unpack = u at compared decoded
      -- Of what stands for no number, only infinity is greater than a number.
      cases v with
      | zero sign => cases right
      | finite sign significand exponent positive => cases right
      | notANumber => cases u <;> cases compared
      | infinity sign =>
        cases sign with
        | positive => exact .inl rfl
        | negative =>
          cases u with
          | infinity sign => cases decoded
          | notANumber => cases decoded
          | zero sign => cases compared
          | finite sign significand exponent positive => cases sign <;> cases compared

/-- A double that is not less than another is at least as great, if it is a number at all. -/
theorem of_not_lt {b : Dyadic} (atLeast : AtLeast x units) (decoded : Dyadic.ofFloat? y = some b)
    (notLess : ¬ x < y) : AtLeast x b.units := by
  -- A comparison that fails between decoded numbers holds the other way round.
  obtain infinite | ⟨d, decodedToo, _⟩ := atLeast
  · exact .inl infinite
  · rw [lt_iff_units decodedToo decoded] at notLess
    exact .inr ⟨d, decodedToo, by omega⟩

/-- The greatest of some numbers is at least as great as each of them, and as the first. -/
theorem foldl_greatest (atLeast : AtLeast x units) :
    AtLeast (numbers.foldl (fun greatest y => if greatest < y then y else greatest) x) units ∧
      ∀ y ∈ numbers, ∀ b, Dyadic.ofFloat? y = some b →
        AtLeast (numbers.foldl (fun greatest y => if greatest < y then y else greatest) x)
          b.units := by
  -- Induction on the numbers that are left, with the greatest so far.
  induction numbers generalizing x units with
  | nil => exact ⟨atLeast, List.forall_mem_nil _⟩
  | cons first rest ih =>
    rw [List.foldl_cons, List.forall_mem_cons]
    -- The next of the numbers stays or goes, and what stays is at least as great as both.
    have stays : AtLeast (if x < first then first else x) units ∧
        ∀ b, Dyadic.ofFloat? first = some b →
          AtLeast (if x < first then first else x) b.units := by
      split
      · rename_i less
        exact ⟨atLeast.of_lt less, fun b decoded => .inr ⟨b, decoded, Int.le_refl _⟩⟩
      · rename_i notLess
        exact ⟨atLeast, fun b decoded => atLeast.of_not_lt decoded notLess⟩
    exact ⟨(ih stays.1).1, fun b decoded => (ih (stays.2 b decoded)).1, (ih stays.1).2⟩

/-- Rounding down a double goes at least as far up as any whole number of few bits below it. -/
theorem le_saturated64_floorFloat {n : Nat} (few : n ≤ 9007199254740992)
    (atLeast : AtLeast x (n * Dyadic.one : Nat)) : (n : Int) ≤ saturated64 (floorFloat x) := by
  -- Infinity is cut off, and a decoded number has its floor.
  obtain infinite | ⟨d, decoded, bound⟩ := atLeast
  · have none : Dyadic.ofFloat? x = none := by
      rw [Dyadic.ofFloat?_eq_ofUnpacked?, infinite]
      rfl
    have number : x.isNaN = false := by
      show x.toModel.unpack.isNaN = false
      rw [infinite]
      rfl
    -- The positive infinity is not below zero, so it is cut off to the greatest number.
    have positive : ¬ x < 0 := by
      rw [lt_iff_compare, infinite]
      generalize (0 : Float).toModel.unpack = v
      cases v with
      | infinity sign => cases sign <;> exact fun same => by cases same
      | _ => exact fun same => by cases same
    rw [floorFloat, none, saturated64, none]
    simp only [number, Bool.false_eq_true, if_false, positive, maxInt64]
    omega
  · exact Dyadic.le_saturated64_floorFloat decoded few bound

end AtLeast

end CalcFields
