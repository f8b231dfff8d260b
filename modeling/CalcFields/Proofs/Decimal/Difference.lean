import CalcFields.Proofs.Decimal.Rounding

/-!
The difference of two doubles is the difference of their numbers, rounded. So whether doubles are
closer than a bound is decided by the exact difference and a point halfway below the bound.
-/

namespace CalcFields

open Float.Model (Format UnpackedFloat)
open Float.Model.UnpackedFloat (Sign)

/-- A double has the size of a number of units that was rounded, or is infinite because no double
has it. -/
def IsRounded (x : Float) (n : Nat) : Prop :=
  (∃ d, Dyadic.ofFloat? x = some d ∧ d.size = rounded n) ∨
    (∃ sign, x.toModel.unpack = .infinity sign) ∧ ∀ d : Dyadic, d.IsDouble → d.size < rounded n

namespace Dyadic

variable {a b c d : Dyadic} {x y : Float}

/-- A number of a double is packed without rounding. -/
theorem isRounded_of_isDouble {u : UnpackedFloat} (unpacked : ofUnpacked? u = some d)
    (double : d.IsDouble) : IsRounded (.ofModel (.pack u)) d.size :=
  .inl ⟨d, ofFloat?_ofModel_pack unpacked double, double.rounded_size.symm⟩

/-- A zero has no units. -/
theorem isRounded_zero (sign : Sign) : IsRounded (.ofModel (.pack (.zero sign))) 0 := by
  -- Zero is a double, and a double is its own rounding.
  have double : IsDouble ⟨sign == .negative, 0, -1074⟩ :=
    ⟨by simp, by simp, by simp, .inr rfl⟩
  have rounds := isRounded_of_isDouble (u := .zero sign) rfl double
  rwa [size, zero_mul] at rounds

/-- An exponent that is too great for a double makes it infinite. -/
theorem unpack_pack_of_great (sign : Sign) {significand : Nat} {exponent : Int}
    (positive : 0 < significand) (great : 971 < exponent) :
    UnpackedFloat.unpack Format.binary64
        (UnpackedFloat.pack Format.binary64 (.finite sign significand exponent positive)) =
      .infinity sign := by
  -- Beyond the greatest exponent, packing writes the infinity.
  have bias : ((Format.binary64.exponentBias : Nat) : Int) = 1023 := rfl
  have places : ((Format.binary64.mantissaBitsWithoutImplicit : Nat) : Int) = 52 := rfl
  have range : 2 ^ Format.binary64.exponentBits = 2048 := rfl
  rw [UnpackedFloat.pack]
  simp only [bias, places, range]
  rw [if_pos (by omega)]
  cases sign <;> rfl

/-- What is rounded is packed into a double of the rounded size, or into infinity. -/
theorem RoundsTo.isRounded {u : UnpackedFloat} {sign : Sign} {n : Nat}
    (rounds : RoundsTo u sign n) :
    IsRounded (.ofModel (.pack u)) n := by
  obtain ⟨significand, exponent, positive, rfl, small, least, leading, same⟩ := rounds
  -- The rounding has no greatest exponent; the format does.
  by_cases great : 971 < exponent
  · -- Every double is below what overflows.
    refine .inr ⟨⟨sign, unpack_pack_of_great sign positive great⟩, fun d double => ?_⟩
    rw [← same]
    exact double.size_lt (b := ⟨false, significand, exponent⟩)
      (leading.resolve_right (by omega)) (by have := double.exponent_le; simp only; omega)
  · -- Within the range the rounding is a double.
    exact .inl ⟨_, ofFloat?_ofModel_pack rfl ⟨small, least, by simp only; omega, leading⟩, same⟩

/-- A significand that is made finer counts the same number of units. -/
theorem apply_shiftLeft (sign : Sign) (significand : Nat) {exponent least : Int}
    (fine : least ≤ exponent) (bottom : -1074 ≤ least) :
    sign.apply (significand <<< (exponent - least).toNat : Nat) * 2 ^ (least + 1074).toNat =
      units ⟨sign == .negative, significand, exponent⟩ := by
  -- The shift down to the finer exponent is a multiplication by the power between them.
  have split : (exponent + 1074).toNat = (exponent - least).toNat + (least + 1074).toNat := by omega
  have counted : size ⟨sign == .negative, significand, exponent⟩ =
      significand <<< (exponent - least).toNat * 2 ^ (least + 1074).toNat := by
    rw [size, split, pow_add, Nat.shiftLeft_eq, mul_assoc]
  cases sign with
  | positive =>
    show _ = (size _ : Int)
    rw [counted]
    push_cast
    rfl
  | negative =>
    show _ = -(size _ : Int)
    rw [counted]
    push_cast
    exact neg_mul _ _

/-- A number of units is rounded under its sign, and none are a zero. -/
theorem isRounded_normalize {units significand exponent : Int} (sign : Sign)
    (counted : significand * 2 ^ (exponent + 1074).toNat = units) (least : -1074 ≤ exponent) :
    IsRounded (.ofModel (.pack (.normalize Format.binary64 significand exponent sign)))
      units.natAbs := by
  -- The size is counted without the sign.
  have total : units.natAbs = significand.natAbs * 2 ^ (exponent + 1074).toNat := by
    rw [← counted, Int.natAbs_mul, Int.natAbs_pow]
    rfl
  rw [UnpackedFloat.normalize]
  -- The sign is taken off before the rounding, which is of a size.
  obtain negative | rfl | positive := Int.lt_trichotomy significand 0
  · rw [Int.compare_eq_lt.2 negative]
    have size : (-significand).toNat = significand.natAbs := by omega
    simp only [size]
    exact (roundsTo_round .negative total.symm
      (total ▸ Nat.mul_pos (by omega) (Nat.two_pow_pos _)) least).isRounded
  · rw [Int.compare_eq_eq.2 rfl, total, Int.natAbs_zero, zero_mul]
    exact isRounded_zero sign
  · rw [Int.compare_eq_gt.2 positive]
    have size : significand.toNat = significand.natAbs := by omega
    simp only [size]
    exact (roundsTo_round .positive total.symm
      (total ▸ Nat.mul_pos (by omega) (Nat.two_pow_pos _)) least).isRounded

/-- The difference of two doubles is the difference of their numbers, rounded. -/
theorem isRounded_sub (left : ofFloat? x = some a) (right : ofFloat? y = some b) :
    IsRounded (x - y) (a.units - b.units).natAbs := by
  have first := isDouble_of_ofFloat? left
  have second := isDouble_of_ofFloat? right
  rw [ofFloat?_eq_ofUnpacked?] at left right
  show IsRounded (.ofModel (.pack (UnpackedFloat.sub Format.binary64 x.toModel.unpack
    y.toModel.unpack))) _
  generalize x.toModel.unpack = u at left ⊢
  generalize y.toModel.unpack = v at right ⊢
  -- A zero leaves the other operand, which is a double and needs no rounding. Two finite numbers
  -- are brought to the finer of their exponents.
  cases u with
  | infinity sign => cases left
  | notANumber => cases left
  | zero sign =>
    cases left
    rw [units_zero, zero_sub, Int.natAbs_neg]
    cases v with
    | infinity other => cases right
    | notANumber => cases right
    | zero other =>
      cases right
      rw [units_zero]
      cases sign <;> cases other <;> exact isRounded_zero _
    | finite other significand exponent positive =>
      cases right
      rw [natAbs_units]
      exact isRounded_of_isDouble (u := .finite (-other) significand exponent positive)
        (d := ⟨-other == .negative, significand, exponent⟩) rfl
        ⟨second.significand_lt, second.le_exponent, second.exponent_le, second.leading⟩
  | finite sign significand exponent positive =>
    cases left
    cases v with
    | infinity other => cases right
    | notANumber => cases right
    | zero other =>
      cases right
      rw [units_zero, sub_zero, natAbs_units]
      exact isRounded_of_isDouble rfl first
    | finite other significandToo exponentToo positiveToo =>
      cases right
      have least : -1074 ≤ min exponent exponentToo :=
        le_min first.le_exponent second.le_exponent
      refine isRounded_normalize .positive ?_ least
      rw [sub_mul]
      exact congrArg₂ (· - ·) (apply_shiftLeft sign significand (min_le_left _ _) least)
        (apply_shiftLeft other significandToo (min_le_right _ _) least)

/-- A double that decodes loses its sign and nothing else. -/
theorem ofFloat?_abs (decoded : ofFloat? x = some d) :
    ofFloat? x.abs = some { d with negative := false } := by
  -- Only the sign is changed, for each kind of number.
  have signed (u : UnpackedFloat) :
      ofUnpacked? u.abs = (ofUnpacked? u).map fun d => { d with negative := false } := by
    cases u <;> rfl
  exact ofFloat?_signed (g := fun _ => false) signed decoded

end Dyadic

namespace IsRounded

variable {x bound : Float} {n : Nat} {c : Dyadic}

/-- What was rounded is in size below a positive double when the rounded number of units is. -/
theorem abs_lt_iff (rounds : IsRounded x n) (decoded : Dyadic.ofFloat? bound = some c)
    (positive : c.negative = false) : x.abs < bound ↔ rounded n < c.size := by
  have units : c.units = c.size := by rw [Dyadic.units, positive]; rfl
  obtain ⟨d, found, same⟩ | ⟨⟨sign, infinite⟩, beyond⟩ := rounds
  · -- A finite rounding is compared by its size.
    rw [lt_iff_units (Dyadic.ofFloat?_abs found) decoded, units, ← same]
    exact Nat.cast_lt
  · refine iff_of_false ?_ (beyond c (Dyadic.isDouble_of_ofFloat? decoded)).not_gt
    -- Infinity is below nothing.
    have opposite : x.abs.toModel.unpack = .infinity .positive := by
      show UnpackedFloat.unpack Format.binary64 (UnpackedFloat.pack Format.binary64
        x.toModel.unpack.abs) = _
      rw [infinite]
      cases sign <;> rfl
    rw [lt_iff_compare, opposite]
    generalize bound.toModel.unpack = v
    cases v with
    | infinity sign => cases sign <;> exact fun same => by cases same
    | _ => exact fun same => by cases same

end IsRounded

/-- Two doubles are closer than a bound of even significand exactly when their numbers are closer
than halfway to it from the double before. -/
theorem abs_sub_lt_iff {x y bound : Float} {a b c : Dyadic} (left : Dyadic.ofFloat? x = some a)
    (right : Dyadic.ofFloat? y = some b) (decoded : Dyadic.ofFloat? bound = some c)
    (positive : c.negative = false) (even : c.significand % 2 = 0)
    (leading : 2 ^ 52 < c.significand) :
    (x - y).abs < bound ↔ 2 * (a.units - b.units).natAbs <
      (2 * c.significand - 1) * 2 ^ (c.exponent + 1074).toNat := by
  rw [(Dyadic.isRounded_sub left right).abs_lt_iff decoded positive]
  exact rounded_lt_iff even leading (Dyadic.isDouble_of_ofFloat? decoded).significand_lt

end CalcFields
