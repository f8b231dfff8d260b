import CalcFields.Decimal.Dyadic
import Mathlib

/-!
A finite double unpacks into a sign, a significand and an exponent within fixed bounds, and these
are what a double decodes into, so that doubles compare as the numbers that they stand for.
-/

namespace CalcFields

open Float.Model (Format UnpackedFloat)
open Float.Model.UnpackedFloat (Sign packComponents unpackSign unpackExponent unpackMantissa)

/-- The stored exponent of a double lies above its significand. -/
theorem toNat_unpackExponent (bits : BitVec Format.binary64.numBits) :
    (unpackExponent bits).toNat = bits.toNat / 4503599627370496 % 2048 := by
  simp [unpackExponent, BitVec.extractLsb, BitVec.extractLsb'_toNat, Nat.shiftRight_eq_div_pow]

/-- The stored significand of a double is its lowest part. -/
theorem toNat_unpackMantissa (bits : BitVec Format.binary64.numBits) :
    (unpackMantissa bits).toNat = bits.toNat % 4503599627370496 := by
  simp [unpackMantissa, BitVec.extractLsb, BitVec.extractLsb'_toNat]

/-- The sign of a double is its highest bit. -/
theorem ofBitVec_unpackSign (bits : BitVec Format.binary64.numBits) :
    (Sign.ofBitVec (unpackSign bits) == .negative) = (bits.toNat / 9223372036854775808 == 1) := by
  -- The sign is the highest of the sixty-four bits.
  have highest : (unpackSign bits).toNat = bits.toNat / 9223372036854775808 % 2 := by
    simp [unpackSign, BitVec.extractLsb, BitVec.extractLsb'_toNat, Nat.shiftRight_eq_div_pow]
  -- So the quotient is zero or one.
  have size : bits.toNat < 18446744073709551616 := bits.isLt
  unfold Sign.ofBitVec
  split
  · rename_i positive
    have zero : (unpackSign bits).toNat = 0 := congrArg BitVec.toNat positive
    have one : bits.toNat / 9223372036854775808 ≠ 1 := by omega
    rw [beq_false_of_ne one]
    rfl
  · rename_i negative
    have nonzero : (unpackSign bits).toNat ≠ 0 := fun zero => negative (BitVec.eq_of_toNat_eq zero)
    have one : bits.toNat / 9223372036854775808 = 1 := by omega
    rw [one]
    rfl

namespace Dyadic

/-- The number that an unpacked double stands for, unless it is infinite or not a number. -/
def ofUnpacked? : UnpackedFloat → Option Dyadic
  | .infinity _ => none
  | .notANumber => none
  | .zero sign => some ⟨sign == .negative, 0, -1074⟩
  | .finite sign significand exponent _ => some ⟨sign == .negative, significand, exponent⟩

/-- The number that the bits of a double stand for. -/
def ofBits? (bits : Nat) : Option Dyadic :=
  let negative := bits / 9223372036854775808 == 1
  let biased := bits / 4503599627370496 % 2048
  let stored := bits % 4503599627370496
  if biased == 2047 then none
  else if biased == 0 then some ⟨negative, stored, -1074⟩
  else some ⟨negative, 4503599627370496 + stored, (biased : Int) - 1075⟩

/-- What bits unpack into is what they stand for. -/
theorem ofUnpacked?_unpack (bits : BitVec Format.binary64.numBits) :
    ofUnpacked? (.unpack Format.binary64 bits) = ofBits? bits.toNat := by
  have exponent := toNat_unpackExponent bits
  have mantissa := toNat_unpackMantissa bits
  have bias : ((Format.binary64.exponentBias : Nat) : Int) +
      ((Format.binary64.mantissaBitsWithoutImplicit : Nat) : Int) = 1075 := rfl
  -- Both decoders now ask the same questions of the same three fields.
  rw [UnpackedFloat.unpack, ofBits?, ← exponent, ← mantissa, ← ofBitVec_unpackSign]
  simp only
  split
  · -- The greatest exponent is kept for what is no finite number.
    rename_i greatest
    have stored : (unpackExponent bits).toNat = 2047 := congrArg BitVec.toNat greatest
    rw [stored]
    split <;> rfl
  · rename_i finite
    have notGreatest : (unpackExponent bits).toNat ≠ 2047 := fun same =>
      finite (BitVec.eq_of_toNat_eq same)
    rw [beq_false_of_ne notGreatest]
    split
    · -- The least exponent has no leading bit.
      rename_i least
      have stored : (unpackExponent bits).toNat = 0 := congrArg BitVec.toNat least
      rw [stored]
      split
      · rename_i zero
        rw [zero]
        rfl
      · rw [bias]
        rfl
    · rename_i normal
      have notLeast : (unpackExponent bits).toNat ≠ 0 := fun same =>
        normal (BitVec.eq_of_toNat_eq same)
      -- Any other exponent has the leading bit put before the mantissa.
      have leading : (1#1 ++ unpackMantissa bits).toNat =
          4503599627370496 + (unpackMantissa bits).toNat := by
        rw [BitVec.toNat_append, ← Nat.shiftLeft_add_eq_or_of_lt (unpackMantissa bits).isLt]
        rfl
      rw [beq_false_of_ne notLeast, ofUnpacked?, leading, bias]
      rfl

/-- A double decodes into what it unpacks into. -/
theorem ofFloat?_eq_ofUnpacked? (x : Float) : ofFloat? x = ofUnpacked? x.toModel.unpack :=
  (ofUnpacked?_unpack _).symm

/-- The significand and the exponent of a number are those of a double: the leading bit is in its
place, unless the exponent is the least one. -/
structure IsDouble (d : Dyadic) : Prop where
  significand_lt : d.significand < 9007199254740992
  le_exponent : -1074 ≤ d.exponent
  exponent_le : d.exponent ≤ 971
  leading : 4503599627370496 ≤ d.significand ∨ d.exponent = -1074

/-- Bits stand for a significand and an exponent of a double. -/
theorem isDouble_of_ofBits? {bits : Nat} {d : Dyadic} (stands : ofBits? bits = some d) :
    d.IsDouble := by
  -- The fields of sixty-four bits bound each part, whichever case is decoded.
  rw [ofBits?] at stands
  simp only [beq_iff_eq] at stands
  split at stands
  · cases stands
  · split at stands
    · cases stands
      exact ⟨by simp only; omega, by simp only; omega, by simp only; omega, .inr rfl⟩
    · cases stands
      exact ⟨by simp only; omega, by simp only; omega, by simp only; omega,
        .inl (by simp only; omega)⟩

/-- A double decodes into a significand and an exponent of a double. -/
theorem isDouble_of_ofFloat? {x : Float} {d : Dyadic} (decoded : ofFloat? x = some d) :
    d.IsDouble :=
  isDouble_of_ofBits? decoded

/-- The bits of a packed number are its sign, its exponent and its significand in this order. -/
theorem toNat_packComponents (sign : Sign) (exponent : BitVec 11) (mantissa : BitVec 52) :
    (packComponents Format.binary64 sign exponent mantissa).toNat =
      (if sign == .negative then 9223372036854775808 else 0) +
        exponent.toNat * 4503599627370496 + mantissa.toNat := by
  -- What is put behind fits below the shift, so putting it there is a sum.
  have low : (sign.toBitVec ++ exponent ++ mantissa).toNat =
      (sign.toBitVec ++ exponent).toNat * 4503599627370496 + mantissa.toNat := by
    rw [BitVec.toNat_append, ← Nat.shiftLeft_add_eq_or_of_lt mantissa.isLt, Nat.shiftLeft_eq]
  have high : (sign.toBitVec ++ exponent).toNat = sign.toBitVec.toNat * 2048 + exponent.toNat := by
    rw [BitVec.toNat_append, ← Nat.shiftLeft_add_eq_or_of_lt exponent.isLt, Nat.shiftLeft_eq]
  have total := low
  rw [high] at total
  refine total.trans ?_
  -- The sign is the one bit above both.
  cases sign with
  | negative =>
    show (1 * 2048 + exponent.toNat) * 4503599627370496 + mantissa.toNat =
      9223372036854775808 + exponent.toNat * 4503599627370496 + mantissa.toNat
    omega
  | positive =>
    show (0 * 2048 + exponent.toNat) * 4503599627370496 + mantissa.toNat =
      0 + exponent.toNat * 4503599627370496 + mantissa.toNat
    omega

/-- Bits that are put together from the parts of a double stand for its number. -/
theorem ofBits?_of_isDouble {d : Dyadic} (double : d.IsDouble) :
    ofBits? ((if d.negative then 9223372036854775808 else 0) +
      (if d.significand < 4503599627370496 then d.significand
        else (d.exponent + 1074).toNat * 4503599627370496 + d.significand)) = some d := by
  obtain ⟨negative, significand, exponent⟩ := d
  obtain ⟨small, least, greatest, leading⟩ := double
  simp only at small least greatest leading ⊢
  generalize sized : (if significand < 4503599627370496 then significand
    else (exponent + 1074).toNat * 4503599627370496 + significand) = size
  -- The sign lies above the rest, which decodes as it would without the sign.
  have signed : (if negative then 9223372036854775808 else 0) + size =
      (if negative then 1 else 0) * 9223372036854775808 + size := by
    cases negative <;> simp
  -- Below the sign there are sixty-three bits.
  have within : size < 9223372036854775808 := by
    split at sized <;> omega
  have flag : (((if negative then 1 else 0) * 9223372036854775808 + size) /
      9223372036854775808 == 1) = negative := by
    rw [show ((if negative then 1 else 0) * 9223372036854775808 + size) / 9223372036854775808 =
      if negative then 1 else 0 by omega]
    cases negative <;> rfl
  rw [ofBits?, signed, flag]
  simp only [beq_iff_eq]
  split at sized
  · -- Without the leading bit the exponent is the least one.
    rw [if_neg (by omega), if_pos (by omega)]
    refine congrArg some ?_
    rw [Dyadic.mk.injEq]
    exact ⟨rfl, by omega, by omega⟩
  · -- With it the exponent is stored one higher than the shift.
    rw [if_neg (by omega), if_neg (by omega)]
    refine congrArg some ?_
    rw [Dyadic.mk.injEq]
    exact ⟨rfl, by omega, by omega⟩

/-- The bits of a double are put together from the parts of its number. -/
theorem bits_of_ofBits? {bits : Nat} {d : Dyadic} (small : bits < 18446744073709551616)
    (stands : ofBits? bits = some d) :
    bits = (if d.negative then 9223372036854775808 else 0) +
      (if d.significand < 4503599627370496 then d.significand
        else (d.exponent + 1074).toNat * 4503599627370496 + d.significand) := by
  -- The highest bit is the sign whatever the others are, so they are settled for a size first.
  have sign (size : Nat) (rest : bits % 9223372036854775808 = size) :
      bits = (if bits / 9223372036854775808 == 1 then 9223372036854775808 else 0) + size := by
    simp only [beq_iff_eq]
    split <;> omega
  rw [ofBits?] at stands
  simp only [beq_iff_eq] at stands
  split at stands
  · cases stands
  · split at stands <;> cases stands <;> refine sign _ ?_ <;> simp only
    · -- The least stored exponent and the one after it decode to the same exponent.
      rw [if_pos (by omega)]
      omega
    · rw [if_neg (by omega)]
      omega

/-- A double is determined by what it decodes into. -/
theorem ofFloat?_injective {x y : Float} {d : Dyadic} (left : ofFloat? x = some d)
    (right : ofFloat? y = some d) : x = y := by
  -- Decoding can be undone, so one number has one encoding.
  have bits : x.toBits.toNat = y.toBits.toNat :=
    (bits_of_ofBits? x.toBits.toNat_lt left).trans (bits_of_ofBits? y.toBits.toNat_lt right).symm
  obtain ⟨⟨bitsX, validX⟩⟩ := x
  obtain ⟨⟨bitsY, validY⟩⟩ := y
  obtain rfl : bitsX = bitsY := UInt64.toNat.inj bits
  rfl

/-- A number of a double is packed into bits that stand for it. -/
theorem ofUnpacked?_unpack_pack {u : UnpackedFloat} {d : Dyadic}
    (unpacked : ofUnpacked? u = some d) (double : d.IsDouble) :
    ofUnpacked? (.unpack Format.binary64 (UnpackedFloat.pack Format.binary64 u)) = some d := by
  cases u with
  | infinity sign => cases unpacked
  | notANumber => cases unpacked
  | zero sign =>
    cases unpacked
    cases sign <;> rfl
  | finite sign significand exponent positive =>
    cases unpacked
    -- The number is encoded as its parts say, and that encoding decodes.
    have placed := ofBits?_of_isDouble double
    obtain ⟨small, least, greatest, leading⟩ := double
    simp only at small least greatest leading placed
    rw [ofUnpacked?_unpack, UnpackedFloat.pack]
    have width : Format.binary64.mantissaBits = 53 := rfl
    have bias : ((Format.binary64.exponentBias : Nat) : Int) = 1023 := rfl
    have places : ((Format.binary64.mantissaBitsWithoutImplicit : Nat) : Int) = 52 := rfl
    have range : 2 ^ Format.binary64.exponentBits = 2048 := rfl
    simp only [bias, places, width, range]
    rw [if_neg (by omega)]
    -- The leading bit is in its place exactly when the logarithm says so.
    have logarithm : significand.log2 + 1 = 53 ↔ 4503599627370496 ≤ significand := by
      have below := Nat.log2_lt (n := significand) (k := 53) (by omega)
      have above := Nat.le_log2 (n := significand) (k := 52) (by omega)
      omega
    split
    · rename_i normal
      -- A normal number drops its leading bit, which the exponent makes up for.
      have large : ¬ significand < 4503599627370496 := by omega
      have stored : (BitVec.ofNat 11 (exponent + 1023 + 52).toNat).toNat =
          (exponent + 1075).toNat := by
        rw [BitVec.toNat_ofNat]
        omega
      have mantissa : (BitVec.ofNat 52 significand).toNat = significand - 4503599627370496 := by
        rw [BitVec.toNat_ofNat]
        omega
      rw [toNat_packComponents, ← placed, if_neg large]
      refine congrArg ofBits? ?_
      show _ + (BitVec.ofNat 11 _).toNat * _ + (BitVec.ofNat 52 _).toNat = _
      rw [stored, mantissa]
      omega
    · -- A subnormal number has no leading bit to drop.
      have small : significand < 4503599627370496 := by omega
      have mantissa : (BitVec.ofNat 52 significand).toNat = significand := by
        rw [BitVec.toNat_ofNat]
        omega
      rw [toNat_packComponents, ← placed, if_pos small]
      refine congrArg ofBits? ?_
      show _ + (0#11).toNat * _ + (BitVec.ofNat 52 _).toNat = _
      rw [mantissa]
      rfl

/-- What stands for a positive number is finite. -/
theorem eq_finite_of_ofUnpacked? {u : UnpackedFloat} {significand : Nat} {exponent : Int}
    (unpacked : ofUnpacked? u = some ⟨false, significand, exponent⟩)
    (positive : 0 < significand) : u = .finite .positive significand exponent positive := by
  -- Of what decodes, zero has no significand and the other sign is not this one.
  cases u with
  | infinity sign => cases unpacked
  | notANumber => cases unpacked
  | zero sign =>
    simp only [ofUnpacked?, Option.some_inj, Dyadic.mk.injEq] at unpacked
    omega
  | finite sign _ _ _ =>
    cases sign with
    | negative => cases unpacked
    | positive =>
      cases unpacked
      rfl

/-- A double that is packed from a number of a double decodes into it. -/
theorem ofFloat?_ofModel_pack {u : UnpackedFloat} {d : Dyadic} (unpacked : ofUnpacked? u = some d)
    (double : d.IsDouble) : ofFloat? (.ofModel (.pack u)) = some d := by
  rw [ofFloat?_eq_ofUnpacked?]
  exact ofUnpacked?_unpack_pack unpacked double

/-- What only changes the signs of doubles does so to the number that one decodes into. -/
theorem ofFloat?_signed {f : UnpackedFloat → UnpackedFloat} {g : Bool → Bool}
    (signed : ∀ u, ofUnpacked? (f u) =
      (ofUnpacked? u).map fun d => { d with negative := g d.negative })
    {x : Float} {d : Dyadic} (decoded : ofFloat? x = some d) :
    ofFloat? (.ofModel (.pack (f x.toModel.unpack))) =
      some { d with negative := g d.negative } := by
  -- The size stays the double it was, so that packing loses nothing.
  have double := isDouble_of_ofFloat? decoded
  refine ofFloat?_ofModel_pack ?_
    ⟨double.significand_lt, double.le_exponent, double.exponent_le, double.leading⟩
  rw [signed, ← ofFloat?_eq_ofUnpacked?, decoded]
  rfl

/-- A double that is made of bits decodes into what they stand for. -/
theorem ofFloat?_ofBits {bits : Nat} {d : Dyadic} (small : bits < 18446744073709551616)
    (stands : ofBits? bits = some d) : ofFloat? (.ofBits (.ofNat bits)) = some d := by
  -- Packing the decoded parts gives the same double back.
  refine ofFloat?_ofModel_pack ?_ (isDouble_of_ofBits? stands)
  rw [ofUnpacked?_unpack, UInt64.toNat_toBitVec, UInt64.toNat_ofNat_of_lt' small]
  exact stands

/-- The size of a number in units of the least double. -/
def size (d : Dyadic) : Nat :=
  d.significand * 2 ^ (d.exponent + 1074).toNat

/-- A number in units of the least double. -/
def units (d : Dyadic) : Int :=
  if d.negative then -d.size else d.size

/-- The units of a number are its size but for the sign. -/
theorem natAbs_units (d : Dyadic) : d.units.natAbs = d.size := by
  unfold units
  split <;> omega

variable {a b : Dyadic}

/-- A number with its leading bit in place is greater in size than one of a double with a lesser
exponent. -/
theorem IsDouble.size_lt (small : a.IsDouble) (leading : 4503599627370496 ≤ b.significand)
    (less : a.exponent < b.exponent) : a.size < b.size := by
  -- A lesser exponent is less by one at least, which makes up for the bit that significands differ
  -- by.
  obtain ⟨gap, apart⟩ : ∃ gap, (b.exponent + 1074).toNat = (a.exponent + 1074).toNat + 1 + gap :=
    ⟨(b.exponent - a.exponent - 1).toNat, by have := small.le_exponent; omega⟩
  calc a.size < 9007199254740992 * 2 ^ (a.exponent + 1074).toNat :=
        Nat.mul_lt_mul_of_pos_right small.significand_lt (Nat.two_pow_pos _)
    _ = 4503599627370496 * 2 ^ ((a.exponent + 1074).toNat + 1) := by rw [pow_succ]; ring
    _ ≤ 4503599627370496 * 2 ^ (b.exponent + 1074).toNat := by
        rw [apart]
        exact Nat.mul_le_mul_left _ (Nat.pow_le_pow_right (by decide) (Nat.le_add_right _ _))
    _ ≤ b.size := Nat.mul_le_mul_right _ leading

/-- Of two numbers of doubles, the one with the greater exponent has its leading bit in place. -/
theorem IsDouble.leading_of_lt (small : a.IsDouble) (large : b.IsDouble)
    (less : a.exponent < b.exponent) : 4503599627370496 ≤ b.significand :=
  -- A number without a leading bit has the least exponent, and this one lies above another.
  large.leading.resolve_right fun least => by
    have := small.le_exponent
    omega

/-- Numbers of doubles compare in size by their exponents and then by their significands. -/
theorem IsDouble.compare_size (first : a.IsDouble) (second : b.IsDouble) :
    (compare a.exponent b.exponent).then (compare a.significand b.significand) =
      compare a.size b.size := by
  -- A greater exponent means a greater size, as it forces a leading bit.
  obtain less | same | more := Int.lt_trichotomy a.exponent b.exponent
  · rw [compare_lt_iff_lt.2 less,
      compare_lt_iff_lt.2 (first.size_lt (first.leading_of_lt second less) less)]
    rfl
  · rw [compare_eq_iff_eq.2 same, size, size, same]
    -- Under the same exponent the significands decide.
    have positive : 0 < 2 ^ (b.exponent + 1074).toNat := Nat.two_pow_pos _
    obtain less | equal | more := Nat.lt_trichotomy a.significand b.significand
    · rw [compare_lt_iff_lt.2 less, compare_lt_iff_lt.2 (Nat.mul_lt_mul_of_pos_right less positive)]
      rfl
    · rw [equal, compare_eq_iff_eq.2 rfl, compare_eq_iff_eq.2 rfl]
      rfl
    · rw [compare_gt_iff_gt.2 more, compare_gt_iff_gt.2 (Nat.mul_lt_mul_of_pos_right more positive)]
      rfl
  · rw [compare_gt_iff_gt.2 more,
      compare_gt_iff_gt.2 (second.size_lt (second.leading_of_lt first more) more)]
    rfl

/-- Numbers of doubles with the same units are one number, unless they are zeros. -/
theorem IsDouble.eq_of_units (first : a.IsDouble) (second : b.IsDouble) (same : a.units = b.units)
    (nonzero : a.units ≠ 0) : a = b := by
  have size : a.size = b.size := by rw [← natAbs_units, same, natAbs_units]
  -- A nonzero count of units shows its sign.
  have sign : a.negative = b.negative := by
    unfold units at same nonzero
    cases left : a.negative <;> cases right : b.negative <;> simp [left, right] at same nonzero ⊢
    · omega
    · omega
  -- Of one size there is only one exponent and one significand.
  have compared := first.compare_size second
  rw [compare_eq_iff_eq.2 size, Ordering.then_eq_eq, compare_eq_iff_eq, compare_eq_iff_eq]
    at compared
  obtain ⟨negative, significand, exponent⟩ := a
  obtain ⟨negativeToo, significandToo, exponentToo⟩ := b
  obtain ⟨rfl, rfl⟩ : exponent = exponentToo ∧ significand = significandToo := compared
  exact congrArg (Dyadic.mk · significand exponent) sign

/-- Numbers compare as their sizes do, downwards when both are negative. -/
theorem compare_units (negative : Bool) (left : a.negative = negative)
    (right : b.negative = negative) :
    compare a.units b.units =
      if negative then (compare a.size b.size).swap else compare a.size b.size := by
  -- Under a minus the sizes compare the other way round.
  rw [units, units, left, right, Int.compare_eq_ite_lt]
  cases negative with
  | true =>
    simp only [if_true, neg_lt_neg_iff, Nat.cast_lt]
    rw [Nat.compare_swap, Nat.compare_eq_ite_lt]
  | false =>
    simp only [Bool.false_eq_true, if_false, Nat.cast_lt]
    rw [Nat.compare_eq_ite_lt]

/-- A zero has no units. -/
theorem units_zero (negative : Bool) : units ⟨negative, 0, -1074⟩ = 0 := by
  cases negative <;> simp [units, size]

/-- A number with a significand has units of its sign. -/
theorem units_finite (sign : Sign) {significand : Nat} (exponent : Int)
    (positive : 0 < significand) :
    match sign with
    | .negative => units ⟨sign == .negative, significand, exponent⟩ < 0
    | .positive => 0 < units ⟨sign == .negative, significand, exponent⟩ := by
  -- A significand that is not zero leaves the sign to decide.
  have filled : 0 < size ⟨sign == .negative, significand, exponent⟩ :=
    Nat.mul_pos positive (Nat.two_pow_pos _)
  cases sign with
  | negative =>
    show -(size _ : Int) < 0
    omega
  | positive =>
    show 0 < (size _ : Int)
    omega

/-- Numbers that are unpacked compare as their units do. -/
theorem compare_unpacked {u v : UnpackedFloat} (left : ofUnpacked? u = some a)
    (right : ofUnpacked? v = some b) (first : a.IsDouble) (second : b.IsDouble) :
    u.compare v = some (compare a.units b.units) := by
  have compared := first.compare_size second
  -- Only zeros and finite numbers stand for one.
  cases u with
  | infinity sign => cases left
  | notANumber => cases left
  -- A zero has no units, so the other number's sign decides.
  | zero sign =>
    cases left
    rw [units_zero]
    cases v with
    | infinity other => cases right
    | notANumber => cases right
    | zero other =>
      cases right
      rw [units_zero]
      rfl
    | finite other significand exponent positive =>
      cases right
      have there := units_finite other exponent positive
      cases other with
      | negative => exact congrArg some (Int.compare_eq_gt.2 there).symm
      | positive => exact congrArg some (Int.compare_eq_lt.2 there).symm
  | finite sign significand exponent positive =>
    cases left
    have here := units_finite sign exponent positive
    cases v with
    | infinity other => cases right
    | notANumber => cases right
    | zero other =>
      cases right
      rw [units_zero]
      cases sign with
      | negative => exact congrArg some (Int.compare_eq_lt.2 here).symm
      | positive => exact congrArg some (Int.compare_eq_gt.2 here).symm
    | finite other significandToo exponentToo positiveToo =>
      cases right
      have there := units_finite other exponentToo positiveToo
      simp only at compared
      -- Numbers of one sign compare by their sizes, and others by their signs.
      cases sign <;> cases other
      · rw [UnpackedFloat.compare, compared, compare_units true rfl rfl]
        rfl
      · exact congrArg some (Int.compare_eq_lt.2 (here.trans there)).symm
      · exact congrArg some (Int.compare_eq_gt.2 (there.trans here)).symm
      · rw [UnpackedFloat.compare, compared, compare_units false rfl rfl]
        rfl

end Dyadic

/-- A number is less than another when they compare so. -/
theorem lt_iff_compare {x y : Float} :
    x < y ↔ x.toModel.unpack.compare y.toModel.unpack = some .lt := by
  -- The order on floating-point numbers is defined by this comparison.
  show Float.lt x y = true ↔ _
  rw [Float.lt, decide_eq_true_iff]
  show (x.toModel.unpack.compare y.toModel.unpack == some .lt) = true ↔ _
  exact beq_iff_eq

/-- A number equals another when they compare so. -/
theorem beq_iff_compare {x y : Float} :
    (x == y) = true ↔ x.toModel.unpack.compare y.toModel.unpack = some .eq := by
  show (x.toModel.unpack.compare y.toModel.unpack == some .eq) = true ↔ _
  exact beq_iff_eq

/-- Doubles that decode compare as their numbers do. -/
theorem compare_decoded {x y : Float} {a b : Dyadic} (left : Dyadic.ofFloat? x = some a)
    (right : Dyadic.ofFloat? y = some b) :
    x.toModel.unpack.compare y.toModel.unpack = some (compare a.units b.units) := by
  -- What decodes is a double, and doubles compare by their units.
  have first := Dyadic.isDouble_of_ofFloat? left
  have second := Dyadic.isDouble_of_ofFloat? right
  rw [Dyadic.ofFloat?_eq_ofUnpacked?] at left right
  exact Dyadic.compare_unpacked left right first second

/-- Doubles that decode are in the order of their numbers. -/
theorem lt_iff_units {x y : Float} {a b : Dyadic} (left : Dyadic.ofFloat? x = some a)
    (right : Dyadic.ofFloat? y = some b) : x < y ↔ a.units < b.units := by
  rw [lt_iff_compare, compare_decoded left right, Option.some_inj, Int.compare_eq_lt]

/-- Doubles that decode are equal when their numbers are. -/
theorem beq_iff_units {x y : Float} {a b : Dyadic} (left : Dyadic.ofFloat? x = some a)
    (right : Dyadic.ofFloat? y = some b) : (x == y) = true ↔ a.units = b.units := by
  rw [beq_iff_compare, compare_decoded left right, Option.some_inj, Int.compare_eq_eq]

/-- A double that equals one that decodes is decoded into the same number. -/
theorem exists_units_of_beq {x y : Float} {b : Dyadic} (right : Dyadic.ofFloat? y = some b)
    (equal : (x == y) = true) : ∃ a, Dyadic.ofFloat? x = some a ∧ a.units = b.units := by
  cases left : Dyadic.ofFloat? x with
  -- Decoded numbers are equal by their units.
  | some a => exact ⟨a, rfl, (beq_iff_units left right).1 equal⟩
  | none =>
    -- What stands for no number equals none.
    rw [beq_iff_compare] at equal
    rw [Dyadic.ofFloat?_eq_ofUnpacked?] at left right
    generalize x.toModel.unpack = u at left equal
    generalize y.toModel.unpack = v at right equal
    cases u with
    | zero sign => cases left
    | finite sign significand exponent positive => cases left
    | notANumber => cases equal
    | infinity sign =>
      cases v with
      | infinity other => cases right
      | notANumber => cases right
      | zero other => cases sign <;> cases equal
      | finite other significand exponent positive => cases sign <;> cases equal

end CalcFields
