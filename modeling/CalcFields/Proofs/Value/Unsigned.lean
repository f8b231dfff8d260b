import CalcFields.Proofs.Decimal.Decoding
import CalcFields.Proofs.Json.RoundTrip
import CalcFields.Value.Change

/-!
The signs of the zeros in a value show in no text, in no comparison and in no reading as a number,
so that a record without them has the same id and meets the same filters.
-/

namespace CalcFields

/-- Zero is unpacked as a zero. -/
theorem unpack_zero : (0.0 : Float).toModel.unpack = .zero .positive :=
  rfl

/-- Minus zero is unpacked as a zero of the other sign. -/
theorem unpack_negativeZero : (-0.0 : Float).toModel.unpack = .zero .negative :=
  rfl

/-- A zero compares with every number as a zero of any sign does. -/
theorem compare_zero (sign other : Float.Model.UnpackedFloat.Sign)
    (u : Float.Model.UnpackedFloat) :
    (Float.Model.UnpackedFloat.zero sign).compare u =
      (Float.Model.UnpackedFloat.zero other).compare u := by
  -- Only the sign of the other number matters.
  cases u with
  | infinity sign => cases sign <;> rfl
  | notANumber => rfl
  | zero sign => rfl
  | finite sign mantissa exponent positive => cases sign <;> rfl

/-- Every number compares with a zero as with a zero of any sign. -/
theorem compare_zero_right (sign other : Float.Model.UnpackedFloat.Sign)
    (u : Float.Model.UnpackedFloat) :
    u.compare (Float.Model.UnpackedFloat.zero sign) =
      u.compare (Float.Model.UnpackedFloat.zero other) := by
  -- As on the left, only the sign of the other number matters.
  cases u with
  | infinity sign => cases sign <;> rfl
  | notANumber => rfl
  | zero sign => rfl
  | finite sign mantissa exponent positive => cases sign <;> rfl

/-- A number without a sign at its zero compares with every number as before. -/
theorem compare_unsignedFloat (x : Float) (u : Float.Model.UnpackedFloat) :
    (unsignedFloat x).toModel.unpack.compare u = x.toModel.unpack.compare u := by
  unfold unsignedFloat
  split
  · -- The number is minus zero, and stands for zero.
    rename_i zero
    rw [zero, unpack_zero, unpack_negativeZero]
    exact compare_zero _ _ u
  · rfl

/-- Every number compares with a number without a sign at its zero as before. -/
theorem compare_unsignedFloat_right (x : Float) (u : Float.Model.UnpackedFloat) :
    u.compare (unsignedFloat x).toModel.unpack = u.compare x.toModel.unpack := by
  unfold unsignedFloat
  split
  · -- The number is minus zero, and stands for zero.
    rename_i zero
    rw [zero, unpack_zero, unpack_negativeZero]
    exact compare_zero_right _ _ u
  · rfl

/-- A number without a sign at its zero equals the numbers that it did. -/
theorem unsignedFloat_beq (x y : Float) : (unsignedFloat x == y) = (x == y) := by
  -- Two numbers are equal when they compare so.
  show ((unsignedFloat x).toModel.unpack.compare y.toModel.unpack == some Ordering.eq) =
    (x.toModel.unpack.compare y.toModel.unpack == some Ordering.eq)
  rw [compare_unsignedFloat]

/-- Numbers without signs at their zeros are in the order that they were in. -/
theorem unsignedFloat_lt_iff (x y : Float) : unsignedFloat x < unsignedFloat y ↔ x < y := by
  -- The order is that of the comparison, which ignores the signs on both sides.
  rw [lt_iff_compare, lt_iff_compare, compare_unsignedFloat, compare_unsignedFloat_right]

/-- Zero and minus zero are two numbers. -/
theorem zero_ne_negativeZero : (0.0 : Float) ≠ -0.0 := by
  decide

/-- A sign that is taken off a zero is not there a second time. -/
theorem unsignedFloat_idem (x : Float) : unsignedFloat (unsignedFloat x) = unsignedFloat x := by
  have zero : unsignedFloat 0.0 = 0.0 := by
    rw [unsignedFloat, if_neg zero_ne_negativeZero]
  -- Minus zero becomes zero, and no other number changes.
  by_cases negative : x = -0.0
  · have plain : unsignedFloat x = 0.0 := if_pos negative
    rw [plain, zero]
  · have plain : unsignedFloat x = x := if_neg negative
    rw [plain, plain]

/-- Minus zero is written as zero is, which is the whole number. -/
theorem ofFloat_negativeZero : Json.ofFloat (-0.0) = Json.ofFloat 0.0 := by
  have finite : (-0.0 : Float).isFinite = true ∧ (0.0 : Float).isFinite = true := ⟨rfl, rfl⟩
  have whole : wholeNumber? (-0.0) = wholeNumber? 0.0 ∧ wholeNumber? 0.0 = some 0 := by
    decide +kernel
  -- A finite number is written by way of its whole number, where it has one.
  rw [Json.ofFloat, Json.ofFloat, finite.1, finite.2, whole.1, whole.2]
  rfl

namespace Value

/-- A value without signs at its zeros is written as before. -/
theorem toJson_unsigned (v : Value) : v.unsigned.toJson = v.toJson := by
  -- Induction on the value; a scalar changes only when it is minus zero.
  induction v using parts_induction with
  | scalar v scalar =>
    cases v with
    | array items => cases scalar
    | object members => cases scalar
    | number x =>
      rw [unsigned, unsignedFloat]
      split
      · -- Both zeros are the whole number zero.
        rename_i zero
        rw [zero, toJson, toJson, ofFloat_negativeZero]
      · rfl
    | _ => rfl
  | array items ih =>
    rw [mapsParts_unsigned.array, toJson, toJson, itemsToJson_eq_map, itemsToJson_eq_map,
      List.map_map]
    exact congrArg Json.array (List.map_congr_left ih)
  | object members ih =>
    rw [mapsParts_unsigned.object, toJson, toJson, membersToJson_eq_map, membersToJson_eq_map,
      List.map_map]
    exact congrArg Json.object (List.map_congr_left fun entry member =>
      Prod.ext rfl (ih entry member))

/-- A value without signs at its zeros has the same text. -/
theorem text_unsigned (v : Value) : v.unsigned.text = v.text := by
  -- Induction on the value, as for the document.
  induction v using parts_induction with
  | scalar v scalar =>
    cases v with
    | array items => cases scalar
    | object members => cases scalar
    | number x =>
      rw [unsigned, unsignedFloat]
      split
      · -- There is one text for both zeros.
        rename_i zero
        have alike : numberText 0.0 = numberText (-0.0) := by rfl
        rw [zero, text, text, alike]
      · rfl
    | _ => rfl
  | array items ih =>
    rw [unsigned, text, text, unsignedItems_eq_map]
    refine congrArg _ ?_
    induction items with
    | nil => rfl
    | cons item rest later =>
      obtain ⟨first, others⟩ := List.forall_mem_cons.1 ih
      rw [List.map_cons, itemTexts, itemTexts, first, later others]
  | object members ih =>
    -- The text of an object is its document.
    have document := toJson_unsigned (.object members)
    rw [unsigned] at document ⊢
    rw [text, text, document]

/-- Taking the signs off zeros keeps the kind of a value. -/
theorem isNull_unsigned (v : Value) : v.unsigned.isNull = v.isNull := by
  cases v <;> rfl

/-- A value without signs at its zeros is the same as the values that it was the same as. -/
theorem same_unsigned (v w : Value) : v.unsigned.same w = v.same w := by
  -- Induction on the first value, with the second one free.
  induction v using parts_induction generalizing w with
  | scalar v scalar =>
    cases v with
    | array items => cases scalar
    | object members => cases scalar
    | number x =>
      cases w with
      | number y => exact unsignedFloat_beq x y
      | _ => rfl
    | _ => rfl
  | array items ih =>
    cases w with
    | array others =>
      rw [unsigned, same, same, unsignedItems_eq_map]
      -- Both lists are walked in step, so the other one varies along.
      induction items generalizing others with
      | nil => rfl
      | cons item rest later =>
        obtain ⟨first, after⟩ := List.forall_mem_cons.1 ih
        cases others with
        | nil => rfl
        | cons other others => rw [List.map_cons, sameItems, sameItems, first, later after]
    | _ => rfl
  | object members ih =>
    cases w with
    | object others =>
      rw [unsigned, same, same, unsignedMembers_eq_map]
      induction members generalizing others with
      | nil => rfl
      | cons entry rest later =>
        obtain ⟨first, after⟩ := List.forall_mem_cons.1 ih
        cases others with
        | nil => rfl
        | cons other others => rw [List.map_cons, sameMembers, sameMembers, first, later after]
    | _ => rfl

/-- A number that encodes no truth value is no zero. -/
theorem unsigned_decodeTruth (v : Value) (scalar : v.isScalar = true) :
    v.decodeTruth.unsigned = v.decodeTruth := by
  cases v with
  | array items => cases scalar
  | object members => cases scalar
  | number x =>
    by_cases zero : x = -0.0
    · -- Minus zero encodes a truth value, which has no sign.
      rw [zero]
      rfl
    · have plain : unsignedFloat x = x := if_neg zero
      rw [decodeTruth]
      split
      · rfl
      · split
        · rfl
        · rw [unsigned, plain]
  -- A text becomes a truth value or stays, and holds no number.
  | string s =>
    rw [decodeTruth]
    split
    · rfl
    · split <;> rfl
  | _ => rfl

/-- A value without signs at its zeros encodes the same truth value. -/
theorem decodeTruth_unsigned (v : Value) : v.unsigned.decodeTruth = v.decodeTruth.unsigned := by
  cases v with
  | number x =>
    by_cases zero : x = -0.0
    · -- Both zeros encode the same truth value.
      rw [zero]
      rfl
    · have plain : unsignedFloat x = x := if_neg zero
      rw [unsigned, plain, unsigned_decodeTruth _ rfl]
  | string s => exact (unsigned_decodeTruth (.string s) rfl).symm
  | _ => rfl

/-- A value without signs at its zeros is equivalent to the values that it was equivalent to. -/
theorem equivalent_unsigned (v w : Value) : v.unsigned.equivalent w = v.equivalent w := by
  have first : (v.unsigned == w) = (v == w) := same_unsigned v w
  unfold equivalent
  rw [first, isNull_unsigned, decodeTruth_unsigned]
  -- Scalars may encode truth values, and the others are compared by their texts.
  cases scalar : v.isScalar with
  | true => rw [unsigned_decodeTruth v scalar]
  | false =>
    -- An array or an object encodes no truth value, and agrees with others by its text.
    have alike : ∀ decoded : Value, (v.unsigned == decoded) = (v == decoded) := same_unsigned v
    have text := text_unsigned v
    cases v with
    | array items =>
      have agree : ∀ decoded : Value,
          (array items).unsigned.agrees decoded = (array items).agrees decoded := by
        intro decoded
        rw [unsigned] at text ⊢
        cases decoded <;> simp [agrees, text]
      simp only [decodeTruth, alike, agree]
    | object members =>
      have agree : ∀ decoded : Value,
          (object members).unsigned.agrees decoded = (object members).agrees decoded := by
        intro decoded
        rw [unsigned] at text ⊢
        cases decoded <;> simp [agrees, text]
      simp only [decodeTruth, alike, agree]
    | _ => cases scalar

/-- A value without signs at its zeros counts as the same number, without the sign of a zero. -/
theorem toNumber?_unsigned (v : Value) :
    v.unsigned.toNumber?.map unsignedFloat = v.toNumber?.map unsignedFloat := by
  cases v with
  | number x =>
    rw [unsigned, unsignedFloat]
    split
    · -- Both zeros count as zero once the sign is gone.
      rename_i zero
      rw [zero]
      rfl
    · rfl
  | _ => rfl

/-- Signs that are taken off zeros are not there a second time. -/
theorem unsigned_idem (v : Value) : v.unsigned.unsigned = v.unsigned := by
  -- Every number that is left has lost its sign already.
  refine unsigned_eq_self _ ?_
  rw [numbers_unsigned, List.forall_mem_map]
  exact fun x _ => unsignedFloat_idem x

end Value

end CalcFields
