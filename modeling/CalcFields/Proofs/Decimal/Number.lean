import CalcFields.Decimal.Numeral
import CalcFields.Proofs.Decimal.Whole

/-!
A product or quotient with a finite number that is not zero is a number again, and so what a numeral
is read to is always a number.
-/

namespace CalcFields

open Float.Model (Format UnpackedFloat)
open Float.Model.UnpackedFloat (Sign)

namespace Dyadic

variable {u v : UnpackedFloat} {sign : Sign} {m : Nat} {e : Int} {positive : 0 < m}

/-- What is rounded is a number. -/
theorem isNaN_roundWithAccuracy (sign : Sign) (m : Nat) (e : Int)
    (accuracy : UnpackedFloat.Accuracy) :
    (UnpackedFloat.roundWithAccuracy Format.binary64 sign m e accuracy).isNaN = false := by
  -- Rounding ends with a finite number or with an infinity.
  unfold UnpackedFloat.roundWithAccuracy
  dsimp only
  split <;> rfl

/-- Bits are of a number unless the exponent is the greatest and the mantissa is not zero. -/
theorem isNaN_unpack {bits : BitVec Format.binary64.numBits}
    (infinite : UnpackedFloat.unpackExponent bits = -1#11 →
      UnpackedFloat.unpackMantissa bits = 0#52) :
    (UnpackedFloat.unpack Format.binary64 bits).isNaN = false := by
  -- Only the greatest exponent can decode to no number, and only with a mantissa.
  unfold UnpackedFloat.unpack
  dsimp only
  split
  · rename_i greatest
    rw [if_pos (infinite greatest)]
    rfl
  · split
    · split <;> rfl
    · rfl

/-- A number is packed into bits of a number. -/
theorem isNaN_pack (number : u.isNaN = false) :
    (UnpackedFloat.unpack Format.binary64 (UnpackedFloat.pack Format.binary64 u)).isNaN =
      false := by
  -- So it is enough to look at what is packed under the greatest exponent.
  refine isNaN_unpack fun greatest => ?_
  cases u with
  | notANumber => cases number
  | infinity sign => exact UnpackedFloat.unpackMantissa_packComponents
  | zero sign => exact UnpackedFloat.unpackMantissa_packComponents
  | finite sign m e positive =>
    rw [UnpackedFloat.pack] at greatest ⊢
    dsimp only at greatest ⊢
    split
    · exact UnpackedFloat.unpackMantissa_packComponents
    · rename_i within
      rw [if_neg within] at greatest
      -- Within the range of doubles the exponent is not the greatest.
      exfalso
      split at greatest
      · rw [UnpackedFloat.unpackExponent_packComponents] at greatest
        have stored := congrArg BitVec.toNat greatest
        have range : 2 ^ Format.binary64.exponentBits = 2048 := rfl
        have width : Format.binary64.exponentBits = 11 := rfl
        have bound : (-1#11).toNat = 2047 := rfl
        rw [BitVec.toNat_ofNat, range, bound] at stored
        rw [range] at within
        omega
      · rw [UnpackedFloat.unpackExponent_packComponents] at greatest
        cases greatest

/-- A product with a finite number that is not zero is a number. -/
theorem isNaN_mul (number : u.isNaN = false) (finite : v = .finite sign m e positive) :
    (UnpackedFloat.mul Format.binary64 u v).isNaN = false := by
  -- A finite factor neither is zero nor makes the infinite indefinite.
  subst finite
  cases u with
  | notANumber => cases number
  | infinity _ => rfl
  | zero _ => rfl
  | finite _ _ _ _ => exact isNaN_roundWithAccuracy _ _ _ _

/-- A quotient by a finite number that is not zero is a number. -/
theorem isNaN_div (number : u.isNaN = false) (finite : v = .finite sign m e positive) :
    (UnpackedFloat.div Format.binary64 u v).isNaN = false := by
  -- The divisor is finite and not zero.
  subst finite
  cases u with
  | notANumber => cases number
  | infinity _ => rfl
  | zero _ => rfl
  | finite _ _ _ _ => exact isNaN_roundWithAccuracy _ _ _ _

/-- A natural number is made a number. -/
theorem isNaN_ofNat (n : Nat) : (UnpackedFloat.ofNat Format.binary64 n).isNaN = false := by
  -- A count is rounded by its sign, and a rounding is a number.
  rw [UnpackedFloat.ofNat, UnpackedFloat.ofInt, UnpackedFloat.normalize]
  split
  · exact isNaN_roundWithAccuracy _ _ _ _
  · rfl
  · exact isNaN_roundWithAccuracy _ _ _ _

/-- A numeral of any size is made a number. -/
theorem isNaN_ofScientific (n : Nat) (power : Int) :
    (UnpackedFloat.ofScientific Format.binary64 n power).isNaN = false := by
  -- Too great, too small and zero are settled first; the rest is one product or one quotient.
  rw [UnpackedFloat.ofScientific]
  split
  · rfl
  split
  · rfl
  split
  · rfl
  split
  · exact isNaN_mul rfl rfl
  · exact isNaN_div rfl rfl

end Dyadic

/-- The powers of ten that are doubles are positive. -/
theorem exists_unpack_powerOfTen {e : Nat} (few : e < Float.exactlyRepresentablePowersOfTen.size) :
    ∃ m power positive, Float.exactlyRepresentablePowersOfTen[e].toModel.unpack =
      .finite .positive m power positive := by
  -- Each power is decoded by evaluation.
  have every : ∀ x ∈ Float.exactlyRepresentablePowersOfTen.toList,
      ((Dyadic.ofFloat? x).any fun d => !d.negative && 0 < d.significand) = true := by decide
  have one := every _ (Array.getElem_mem_toList few)
  cases decoded : Dyadic.ofFloat? Float.exactlyRepresentablePowersOfTen[e] with
  | none =>
    rw [decoded] at one
    cases one
  -- It decodes without a sign and with a significand, as such a finite number does.
  | some d =>
    rw [decoded] at one
    obtain ⟨plus, positive⟩ : d.negative = false ∧ 0 < d.significand := by simpa using one
    rw [Dyadic.ofFloat?_eq_ofUnpacked?] at decoded
    have parts : d = ⟨false, d.significand, d.exponent⟩ := by rw [← plus]
    exact ⟨_, _, positive, Dyadic.eq_finite_of_ofUnpacked? (parts ▸ decoded) positive⟩

namespace Numeral

/-- Digits with a power of ten are a number. -/
theorem isNaN_ofScientific (n : Nat) (negative : Bool) (power : Nat) :
    (Float.ofScientific n negative power).isNaN = false := by
  rw [Float.ofScientific]
  -- A small power is multiplied or divided by as it is tabled, any other is rounded from the exact
  -- number.
  split
  · rename_i short
    obtain ⟨m, e, positive, unpacked⟩ := exists_unpack_powerOfTen (e := power)
      (Nat.lt_succ_of_le short.2)
    have whole : n.toUInt64.toFloat.toModel.unpack.isNaN = false :=
      Dyadic.isNaN_pack (Dyadic.isNaN_ofNat _)
    dsimp only
    split
    · exact Dyadic.isNaN_pack (Dyadic.isNaN_div whole unpacked)
    · exact Dyadic.isNaN_pack (Dyadic.isNaN_mul whole unpacked)
  · exact Dyadic.isNaN_pack (Dyadic.isNaN_ofScientific _ _)

/-- A number with the other sign is a number. -/
theorem isNaN_neg {x : Float} (number : x.isNaN = false) : (-x).isNaN = false := by
  -- A sign makes no number of what is one.
  have opposite : x.toModel.unpack.neg.isNaN = false := by
    have unpacked : x.toModel.unpack.isNaN = false := number
    generalize x.toModel.unpack = u at unpacked ⊢
    cases u with
    | notANumber => cases unpacked
    | _ => rfl
  exact Dyadic.isNaN_pack opposite

/-- A numeral is read to a number. -/
theorem isNaN_toFloat (n : Numeral) : n.toFloat.isNaN = false := by
  have zero : (0.0 : Float).isNaN = false := by decide
  -- The sign is put on last.
  have signed {x : Float} (number : x.isNaN = false) :
      (if n.negative then -x else x).isNaN = false := by
    split
    · exact isNaN_neg number
    · exact number
  rw [toFloat]
  -- Of the numeral's cases, zero and the too small are zero and the too great is infinite.
  refine signed ?_
  split
  · exact zero
  dsimp only
  split
  · decide
  split
  · exact zero
  · exact isNaN_ofScientific _ _ _

end Numeral

end CalcFields
