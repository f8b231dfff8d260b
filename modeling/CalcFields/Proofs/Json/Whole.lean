import CalcFields.Proofs.Decimal.Printing
import CalcFields.Proofs.Store.Keeping

/-!
Whole numbers survive a file: the digits of one read as the number, and a double of few bits is
written as its digits.
-/

namespace CalcFields

/-- The digits of a number spell it. -/
theorem digitsValue_toDigits (n : Nat) : digitsValue (Nat.toDigits 10 n) = n :=
  Nat.ofDigitChars_ten_toDigits

/-- The digits of a number are digits. -/
theorem allDigits_toDigits (n : Nat) : AllDigits (Nat.toDigits 10 n) :=
  fun _ member => Nat.isDigit_of_mem_toDigits (by decide) (by decide) member

namespace Json

/-- Digits of a number that fits are all gathered. -/
theorem gatherDigits_eq {cs : List Char} (significand taken : Nat)
    (fits : cs.foldl (fun n c => 10 * n + digitValue c) significand ≤ maxSignificand) :
    gatherDigits significand taken cs =
      (cs.foldl (fun n c => 10 * n + digitValue c) significand, taken + cs.length) := by
  -- Induction on the digits that are left.
  induction cs generalizing significand taken with
  | nil => rfl
  | cons c cs ih =>
    -- What is gathered only grows.
    have grows (n : Nat) : n ≤ cs.foldl (fun n c => 10 * n + digitValue c) n := by
      clear ih fits
      induction cs generalizing n with
      | nil => exact Nat.le_refl n
      | cons c cs ih =>
        rw [List.foldl_cons]
        have := ih (10 * n + digitValue c)
        omega
    rw [List.foldl_cons] at fits ⊢
    rw [gatherDigits, if_pos ((grows _).trans fits), ih _ _ fits, List.length_cons]
    simp only [Prod.mk.injEq, true_and]
    omega

/-- The digits of a positive number do not start with a zero. -/
theorem head?_toDigits {n : Nat} (positive : 0 < n) : (Nat.toDigits 10 n).head? ≠ some '0' := by
  -- Induction on the number, which loses its last digit.
  induction n using Nat.strongRecOn with
  | ind n ih =>
    by_cases single : n < 10
    · rw [Nat.toDigits_of_lt_base single]
      have digits : ∀ n < 10, 0 < n → [n.digitChar].head? ≠ some '0' := by decide
      exact digits n single positive
    · -- All but the last of the digits are those of a smaller number.
      have first : (Nat.toDigits 10 (n / 10) ++ [(n % 10).digitChar]).head? =
          (Nat.toDigits 10 (n / 10)).head? := List.head?_append_of_ne_nil _ Nat.toDigits_ne_nil
      rw [Nat.toDigits_of_base_le (by decide) (by omega), first]
      exact ih (n / 10) (by omega) (by omega)

/-- The digits of a number do not start with a zero in front of another digit. -/
theorem isWhole_toDigits (n : Nat) : IsWhole (Nat.toDigits 10 n) := by
  -- Zero is the one numeral that starts with a zero.
  refine ⟨Nat.toDigits_ne_nil, fun c rest padded => ?_⟩
  obtain rfl | positive := Nat.eq_zero_or_pos n
  · rw [Nat.toDigits_zero] at padded
    cases padded
  · exact head?_toDigits positive (by rw [padded]; rfl)

/-- Digits have no minus in front. -/
theorem takeMinus_digits {digits : List Char} (plain : AllDigits digits) :
    takeMinus digits = (false, digits) := by
  unfold takeMinus
  split
  · rename_i rest
    exact absurd (plain '-' List.mem_cons_self) (by decide)
  · rfl

end Json

/-- A whole number as its digits spell it. -/
def SpelledNumber.ofInt (n : Int) : SpelledNumber :=
  ⟨n < 0, Nat.toDigits 10 n.natAbs, [], none⟩

/-- The text of a whole number spells it. -/
theorem Spelled.readNumber_toString (n : Int) :
    readNumber (toString n).toList = some (.ofInt n, []) := by
  have digits := allDigits_toDigits n.natAbs
  -- The sign is taken off if there is one, and digits are left.
  have signed : Json.takeMinus (toString n).toList =
      (decide (n < 0), Nat.toDigits 10 n.natAbs) := by
    rw [toList_toString]
    by_cases below : n < 0
    · rw [if_pos below, decide_eq_true below]
      rfl
    · rw [if_neg below, decide_eq_false below, Json.takeMinus_digits digits]
  rw [readNumber_eq_some_iff, signed, takeDigits_all digits]
  exact ⟨[], rfl, rfl, Json.isWhole_toDigits _, rfl, rfl⟩

/-- A whole number that fits 64 bits stays whole. -/
theorem SpelledNumber.toJson_ofInt {n : Int} (low : -9223372036854775808 ≤ n)
    (high : n ≤ 18446744073709551615) : (ofInt n).toJson = .integer n := by
  have greatest : maxSignificand = 18446744073709551615 := rfl
  have power : Nat.pow 2 63 = 9223372036854775808 := rfl
  have value : (Nat.toDigits 10 n.natAbs).foldl (fun n c => 10 * n + digitValue c) 0 = n.natAbs :=
    digitsValue_toDigits n.natAbs
  -- The digits do not overflow, so they are all gathered.
  have gathered := Json.gatherDigits_eq 0 0 (value.le.trans (show n.natAbs ≤ _ by omega))
  rw [value, Nat.zero_add] at gathered
  rw [toJson, ofInt, Json.ofNumber, gathered]
  -- Below zero the bound is that of 64 bits with a sign, otherwise that of 64 bits without one.
  by_cases below : n < 0
  · have filled : (n.natAbs == 0) = false := beq_eq_false_iff_ne.2 (by omega)
    have signed : -(n.natAbs : Int) = n := by omega
    have fits : ¬ Nat.pow 2 63 < n.natAbs := by omega
    simp only [below, filled, signed, fits, decide_true, decide_false, Bool.not_true, Bool.or_false,
      Nat.sub_self, beq_self_eq_true, List.isEmpty_nil, Option.isNone_none, Bool.and_self, if_true,
      Bool.false_eq_true, if_false]
  · have signed : (n.natAbs : Int) = n := by omega
    simp [below, signed]

namespace Json

/-- A whole number of few bits is written as its digits. -/
theorem ofFloat_ofInt {n : Int} (few : n.natAbs ≤ maxWhole) :
    Json.ofFloat (.ofInt n) = .integer n := by
  have within : n.natAbs ≤ 9007199254740992 := few.trans (by decide)
  -- Zero has no leading bit to decode from, so it is computed.
  have finite : (Float.ofInt n).isFinite = true := by
    by_cases zero : n = 0
    · rw [zero]
      decide +kernel
    · obtain ⟨d, decoded, _⟩ := Dyadic.exists_ofFloat?_ofInt zero within
      exact Dyadic.isFinite_of_ofFloat? decoded
  rw [Json.ofFloat, finite, Dyadic.wholeNumber?_ofInt within]
  simp [few]

/-- Two to the fifty-third is written with a point. -/
theorem write_two_pow :
    (Json.ofFloat (.ofInt 9007199254740992)).write = "9007199254740992.0" ∧
      (Json.ofFloat (.ofInt (-9007199254740992))).write = "-9007199254740992.0" := by
  decide +kernel

end Json

/-- Two to the fifty-third reads back although it is written with a point. -/
theorem LineStore.restores_two_pow :
    LineStore.Restores (.ofInt 9007199254740992) ∧
      LineStore.Restores (.ofInt (-9007199254740992)) := by
  -- The text ends in a point and a zero, so its digits are ten times the number.
  have scaled : scaleDecimal? 90071992547409920 (-1) = some (.ofInt 9007199254740992) := by
    decide +kernel
  have value (negative : Bool) :
      Json.ofNumber negative "9007199254740992".toList "0".toList none =
        .real (if negative then -(.ofInt 9007199254740992) else .ofInt 9007199254740992) := by
    show (scaleDecimal? 90071992547409920 (-1)).elim Json.unreadable
      (fun x => .real (if negative then -x else x)) = _
    rw [scaled]
    rfl
  constructor
  · refine ⟨.real (.ofInt 9007199254740992), ?_, rfl⟩
    rw [Json.write_two_pow.1]
    exact congrArg (fun document => some (document, [])) (value false)
  · have negated : -(Float.ofInt 9007199254740992) = .ofInt (-9007199254740992) := by
      decide +kernel
    refine ⟨.real (.ofInt (-9007199254740992)), ?_, rfl⟩
    rw [Json.write_two_pow.2, ← negated]
    exact congrArg (fun document => some (document, [])) (value true)

/-- A whole number of few bits reads back from its text. -/
theorem LineStore.restores_ofInt {n : Int} (few : n.natAbs ≤ 9007199254740992) :
    LineStore.Restores (.ofInt n) := by
  -- The greatest size is not written as a whole number any more, and is read apart.
  obtain less | greatest := Nat.lt_or_eq_of_le few
  · have written : Json.ofFloat (.ofInt n) = .integer n :=
      Json.ofFloat_ofInt (Nat.le_of_lt_succ less)
    refine ⟨.integer n, ?_, rfl⟩
    rw [written]
    show Json.readNumber (toString n).toList = _
    rw [Spelled.readNumber_toJson, Spelled.readNumber_toString]
    exact congrArg (fun j => some (j, [])) (SpelledNumber.toJson_ofInt (by omega) (by omega))
  · obtain rfl | rfl := Int.natAbs_eq_iff.1 greatest
    · exact restores_two_pow.1
    · exact restores_two_pow.2

end CalcFields
