import CalcFields.Proofs.Formula.Reference
import CalcFields.Proofs.Json.Whole

/-!
A value whose text is the digits of a positive whole number of few bits reads as that number, unless
it is an array.
-/

namespace CalcFields

/-- The text of a positive whole number of few bits is read as its double. -/
theorem parseNumber?_toString {n : Nat} (positive : 0 < n) (few : n ≤ 9007199254740992) :
    parseNumber? (toString n) = some (.ofNat n) := by
  have text : (toString n).toList = Nat.toDigits 10 n := Nat.toList_repr
  have plain := allDigits_toDigits n
  have trimmed : trimChars (Nat.toDigits 10 n) = Nat.toDigits 10 n :=
    trimChars_solid Nat.toDigits_ne_nil fun c member => isBlank_of_isDigit (plain c member)
  -- The words of infinity are tried before numerals, and no word is made of digits.
  have noWord (word : List Char) (c : Char) (member : c ∈ word) (other : c.isDigit = false) :
      (Nat.toDigits 10 n == word) = false := by
    rw [beq_eq_false_iff_ne]
    intro same
    rw [plain c (same ▸ member)] at other
    cases other
  -- The digits have no sign, no point and no exponent.
  have read : Numeral.read? (Nat.toDigits 10 n) = some ⟨false, n, 0⟩ := by
    have nonempty : Nat.toDigits 10 n ≠ [] := Nat.toDigits_ne_nil
    obtain ⟨first, rest, digits⟩ := List.exists_cons_of_ne_nil nonempty
    have unsigned : takeSign (Nat.toDigits 10 n) = (false, Nat.toDigits 10 n) := by
      rw [digits]
      exact takeSign_digit (plain first (digits ▸ List.mem_cons_self)) rest
    have filled : (Nat.toDigits 10 n).isEmpty = false := by
      rw [digits, List.isEmpty_cons]
    rw [Numeral.read?, unsigned]
    simp only [takeDigits_all plain, filled, Bool.false_and, Bool.false_eq_true, if_false,
      List.append_nil, digitsValue_toDigits]
    rfl
  have short : (Nat.toDigits 10 n).length ≤ 17 :=
    (Nat.length_toDigits_le_iff (by decide) (by decide)).2 (by omega)
  -- So few digits are neither beyond the doubles nor below them.
  have placed : Numeral.toFloat ⟨false, n, 0⟩ = .ofNat n := by
    have nonzero : (n == 0) = false := beq_eq_false_iff_ne.2 positive.ne'
    rw [Numeral.toFloat]
    simp only [nonzero, Bool.false_eq_true, if_false]
    rw [if_neg (by omega), if_neg (by omega)]
    rfl
  rw [parseNumber?, text, trimmed]
  simp only [noWord "Infinity".toList 'I' (by decide) (by decide),
    noWord "+Infinity".toList 'I' (by decide) (by decide),
    noWord "-Infinity".toList 'I' (by decide) (by decide), read]
  exact congrArg some placed

namespace Value

/-- A value that is no array and whose text is a positive whole number of few bits reads as a number
of that size. -/
theorem toNumber?_of_text {v : Value} {n : Nat} (positive : 0 < n) (few : n ≤ 9007199254740992)
    (single : ∀ items, v ≠ .array items) (text : v.text = toString n) :
    ∃ x d, v.toNumber? = some x ∧ Dyadic.ofFloat? x = some d ∧ d.negative = false ∧
      d.size = n * Dyadic.one := by
  have chars : v.text.toList = Nat.toDigits 10 n := by
    rw [text]
    exact Nat.toList_repr
  -- The text holds digits only, which rules out all but numbers and strings.
  have noText {c : Char} (member : c ∈ v.text.toList) (other : c.isDigit = false) : False := by
    rw [allDigits_toDigits n c (chars ▸ member)] at other
    cases other
  cases v with
  | null => exact absurd chars.symm Nat.toDigits_ne_nil
  | bool b =>
    cases b with
    | true => exact (noText (c := 't') (by decide) (by decide)).elim
    | false => exact (noText (c := 'f') (by decide) (by decide)).elim
  | number x =>
    obtain ⟨d, decoded, sign, size⟩ := size_of_numberText positive few text
    refine ⟨x, d, ?_, decoded, sign, size⟩
    rw [toNumber?, Dyadic.isNaN_of_ofFloat? decoded]
    rfl
  | string s =>
    -- A string is the spelling of the number itself.
    have spelled : s = toString n := text
    obtain ⟨d, decoded, sign, size⟩ := Dyadic.exists_ofFloat?_ofNat positive few
    exact ⟨.ofNat n, d, by rw [toNumber?, spelled, parseNumber?_toString positive few], decoded,
      sign, size⟩
  | array items => exact absurd rfl (single items)
  | object members =>
    have opened : '\x7b' ∈ (Value.text (.object members)).toList := by
      rw [Value.text, toJson, Json.write]
      simp
    exact (noText opened (by decide)).elim

end Value

end CalcFields
