import CalcFields.Proofs.Value.Tolerance

/-!
A text that reads as a number is the same value as the number when it is the text that the number is
written in, and in no other spelling.
-/

namespace CalcFields

variable {x y : Float} {s : String}

/-- Numbers that are equal are written alike. -/
theorem numberText_congr {b : Dyadic} (right : Dyadic.ofFloat? y = some b)
    (equal : (x == y) = true) : numberText x = numberText y := by
  -- Equal numbers decode to equal counts of units.
  obtain ⟨a, left, same⟩ := exists_units_of_beq right equal
  have first := Dyadic.isDouble_of_ofFloat? left
  have second := Dyadic.isDouble_of_ofFloat? right
  rw [numberText, numberText, left, right]
  by_cases zero : a.units = 0
  · -- Both zeros are written as one digit.
    have none {d : Dyadic} (empty : d.units = 0) : d.significand = 0 := by
      rw [← Int.natAbs_eq_zero, Dyadic.natAbs_units, Dyadic.size] at empty
      exact (Nat.mul_eq_zero.1 empty).resolve_right (Nat.two_pow_pos _).ne'
    simp [none zero, none (same ▸ zero)]
  · rw [first.eq_of_units second same zero]

/-- A number that encodes a truth value is written as the digit that encodes it. -/
theorem numberText_encoding {truth : Bool} (encoded : (x == if truth then 1 else 0) = true) :
    numberText x = if truth then "1" else "0" := by
  -- Equal numbers are written alike, so it is enough to write the two encodings.
  rw [numberText_congr (ofFloat?_encoding truth) encoded]
  cases truth <;> decide +kernel

namespace Value

/-- A text that reads as a number is no word for a truth value. -/
theorem ne_text_bool (read : parseNumber? s = some x) (truth : Bool) : s ≠ (bool truth).text := by
  -- Neither of the two words reads as a number.
  have unread : parseNumber? (bool truth).text = none := by
    cases truth <;> rfl
  rintro rfl
  rw [unread] at read
  cases read

/-- A text that reads as a number encodes a truth value only when it is one digit. -/
theorem decodeTruth_of_read (read : parseNumber? s = some x) (one : s ≠ "1") (zero : s ≠ "0") :
    (string s).decodeTruth = string s := by
  -- There are four texts that become truth values.
  have noTrue : s ≠ "true" := ne_text_bool read true
  have noFalse : s ≠ "false" := ne_text_bool read false
  simp [decodeTruth, one, zero, noTrue, noFalse]

/-- A text that reads as a number is equivalent to it exactly when the number is written so. -/
theorem equivalent_text_iff (read : parseNumber? s = some x) :
    ((string s).equivalent (number x) = true ↔ s = numberText x) ∧
      ((number x).equivalent (string s) = true ↔ s = numberText x) := by
  -- Two texts become truth values, and are written as they become.
  by_cases one : s = "1"
  · have digit : parseNumber? "1" = some 1 := rfl
    rw [one, digit] at read
    cases read
    have written : numberText 1 = if true then "1" else "0" := numberText_encoding rfl
    rw [one, written]
    exact ⟨iff_of_true rfl rfl, iff_of_true rfl rfl⟩
  by_cases zero : s = "0"
  · have digit : parseNumber? "0" = some 0 := rfl
    rw [zero, digit] at read
    cases read
    have written : numberText 0 = if false then "1" else "0" := numberText_encoding rfl
    rw [zero, written]
    exact ⟨iff_of_true rfl rfl, iff_of_true rfl rfl⟩
  -- Any other text stays one, and is compared with the text of what the number becomes.
  have stays := decodeTruth_of_read read one zero
  by_cases encodes : EncodesTruth x
  · obtain ⟨truth, becomes, encoded⟩ := decodeTruth_of_encodesTruth encodes
    have compared : (string s).equivalent (number x) = (s == (bool truth).text) ∧
        (number x).equivalent (string s) = ((bool truth).text == s) := by
      rw [equivalent, equivalent, stays, becomes]
      exact ⟨rfl, rfl⟩
    -- The word for a truth value is no number, and the number has another digit.
    have noWord := ne_text_bool read truth
    have noDigit : s ≠ numberText x := by
      rw [numberText_encoding encoded]
      cases truth with
      | true => exact one
      | false => exact zero
    rw [compared.1, compared.2, beq_iff_eq, beq_iff_eq]
    exact ⟨iff_of_false noWord noDigit, iff_of_false noWord.symm noDigit⟩
  · -- Any other number stays one, and is compared by its text.
    have becomes := decodeTruth_of_not_encodesTruth encodes
    have compared : (string s).equivalent (number x) = (s == numberText x) ∧
        (number x).equivalent (string s) = (numberText x == s) := by
      rw [equivalent, equivalent, stays, becomes]
      exact ⟨rfl, rfl⟩
    rw [compared.1, compared.2, beq_iff_eq, beq_iff_eq]
    exact ⟨Iff.rfl, eq_comm⟩

/-- Twelve and a half is equivalent to its own text, from either side. -/
theorem equivalent_text_iff_twelve :
    parseNumber? "12.5" = some 12.5 ∧ (string "12.5").equivalent (number 12.5) = true ∧
      (number 12.5).equivalent (string "12.5") = true := by
  have read : parseNumber? "12.5" = some 12.5 := by rfl
  have written : "12.5" = numberText 12.5 := by decide +kernel
  -- The number is written as the text is, which decides both sides.
  obtain ⟨forwards, backwards⟩ := equivalent_text_iff read
  exact ⟨read, forwards.2 written, backwards.2 written⟩

/-- A zero behind the last digit spells the same number, and is a change. -/
theorem equivalent_text_padded :
    parseNumber? "12.50" = some 12.5 ∧ (string "12.50").equivalent (number 12.5) = false ∧
      (number 12.5).equivalent (string "12.50") = false := by
  decide +kernel

end Value

end CalcFields
