import CalcFields.Decimal.Style
import CalcFields.Json.Reader
import CalcFields.Proofs.Formula.Numeral

/-!
Numbers are written in a few characters. A number ends where the text goes on with nothing that
belongs to numbers, so that it reads the same whatever follows it.
-/

namespace CalcFields

/-- The text of a whole number is its digits, behind a minus when it is below zero. -/
theorem toList_toString (n : Int) :
    (toString n).toList =
      if n < 0 then '-' :: Nat.toDigits 10 n.natAbs else Nat.toDigits 10 n.natAbs := by
  -- The sign is written in front of the digits of the size.
  cases n with
  | ofNat n =>
    have sign : ¬ Int.ofNat n < 0 := Int.not_lt.2 (Int.natCast_nonneg n)
    rw [if_neg sign]
    exact Nat.toList_repr
  | negSucc n =>
    rw [if_pos (Int.negSucc_lt_zero n)]
    show ("-" ++ toString (n + 1)).toList = _
    rw [String.toList_append]
    exact congrArg ('-' :: ·) Nat.toList_repr

namespace Json

/-- A text goes on with nothing that belongs to a number. -/
def EndsNumber (rest : List Char) : Prop :=
  ∀ c ∈ rest.head?, c.isDigit = false ∧ c ≠ '.' ∧ c ≠ 'e' ∧ c ≠ 'E'

/-- The characters that numbers are made of. -/
def isNumberChar (c : Char) : Bool :=
  c.isDigit || c == '-' || c == '+' || c == '.' || c == 'e' || c == 'E'

/-- Digits are made for numbers. -/
theorem isNumberChar_toDigits (n : Nat) : ∀ c ∈ Nat.toDigits 10 n, isNumberChar c = true := by
  intro c member
  simp [isNumberChar, Nat.isDigit_of_mem_toDigits (by decide) (by decide) member]

/-- Digits in positions are made for numbers. -/
theorem isNumberChar_positional (style : NumberStyle) {digits : List Char} (point : Int)
    (plain : ∀ c ∈ digits, isNumberChar c = true) :
    ∀ c ∈ positional style digits point, isNumberChar c = true := by
  -- Padding is made of zeros, and the rest of the digits themselves.
  have padding (count : Nat) : ∀ c ∈ zeros count, isNumberChar c = true := by
    intro c member
    rw [List.eq_of_mem_replicate member]
    rfl
  have front (count : Nat) : ∀ c ∈ digits.take count, isNumberChar c = true :=
    fun c member => plain c (List.mem_of_mem_take member)
  have back (count : Nat) : ∀ c ∈ digits.drop count, isNumberChar c = true :=
    fun c member => plain c (List.mem_of_mem_drop member)
  unfold positional
  dsimp only
  -- The point stands in front of the digits, behind them, or between two of them.
  split
  · exact List.forall_mem_cons.2 ⟨rfl, List.forall_mem_cons.2 ⟨rfl,
      List.forall_mem_append.2 ⟨padding _, plain⟩⟩⟩
  · split
    · refine List.forall_mem_append.2 ⟨List.forall_mem_append.2 ⟨plain, padding _⟩, ?_⟩
      cases style.pointed with
      | false => exact List.forall_mem_nil _
      | true => exact List.forall_mem_cons.2 ⟨rfl, List.forall_mem_singleton.2 rfl⟩
    · exact List.forall_mem_append.2 ⟨front _, List.forall_mem_cons.2 ⟨rfl, back _⟩⟩

/-- A digit and a power of ten are made for numbers. -/
theorem isNumberChar_scientific {digits : List Char} (power : Int)
    (plain : ∀ c ∈ digits, isNumberChar c = true) :
    ∀ c ∈ scientific digits power, isNumberChar c = true := by
  have front : ∀ c ∈ digits.take 1, isNumberChar c = true :=
    fun c member => plain c (List.mem_of_mem_take member)
  have back : ∀ c ∈ digits.drop 1, isNumberChar c = true :=
    fun c member => plain c (List.mem_of_mem_drop member)
  unfold scientific
  dsimp only
  refine List.forall_mem_append.2 ⟨List.forall_mem_append.2 ⟨front, ?_⟩,
    List.forall_mem_cons.2 ⟨rfl, List.forall_mem_cons.2 ⟨?_, isNumberChar_toDigits _⟩⟩⟩
  · -- The power has its mark and its sign, if any.
    split
    · exact List.forall_mem_nil _
    · exact List.forall_mem_cons.2 ⟨rfl, back⟩
  · split <;> rfl

/-- A finite number is written in characters that are made for numbers, whatever the style. -/
theorem isNumberChar_writeDyadic (style : NumberStyle) (d : Dyadic) :
    ∀ c ∈ (style.writeDyadic d).toList, isNumberChar c = true := by
  -- The sign apart, the text is positional or scientific.
  have body : ∀ c ∈ (if d.significand == 0 then positional style ['0'] 1
      else style.write (shortestDecimal d)), isNumberChar c = true := by
    split
    · exact isNumberChar_positional _ _ (List.forall_mem_singleton.2 rfl)
    · unfold NumberStyle.write
      dsimp only
      split
      · exact isNumberChar_positional _ _ (isNumberChar_toDigits _)
      · exact isNumberChar_scientific _ (isNumberChar_toDigits _)
  rw [NumberStyle.writeDyadic, String.toList_ofList]
  split
  · exact List.forall_mem_cons.2 ⟨rfl, body⟩
  · exact body

variable {cs after rest : List Char}

/-- Digits are cut off alike when the text goes on with nothing that belongs to a number. -/
theorem takeDigits_append_of_ends (ends : EndsNumber rest) (cs : List Char) :
    takeDigits (cs ++ rest) = ((takeDigits cs).1, (takeDigits cs).2 ++ rest) := by
  -- Induction on the text, behind which no digit follows.
  induction cs with
  | nil =>
    cases rest with
    | nil => rfl
    | cons c rest => exact takeDigits_cons (ends c rfl).1 rest
  | cons c cs ih =>
    cases digit : c.isDigit with
    | false => rw [List.cons_append, takeDigits_cons digit, takeDigits_cons digit, List.cons_append]
    | true =>
      have plain : AllDigits [c] := fun d member => by rwa [List.mem_singleton.1 member]
      have cut := takeDigits_digits plain
      simp only [List.singleton_append] at cut
      rw [List.cons_append, cut, cut, ih]

/-- A text that starts with no point has no fraction. -/
theorem readFraction_cons {c : Char} (noPoint : c ≠ '.') (rest : List Char) :
    readFraction (c :: rest) = some ([], c :: rest) := by
  simp [readFraction, noPoint]

/-- A fraction is read alike when the text goes on with nothing that belongs to a number. -/
theorem readFraction_append (ends : EndsNumber rest) {fraction : List Char}
    (read : readFraction cs = some (fraction, after)) :
    readFraction (cs ++ rest) = some (fraction, after ++ rest) := by
  cases cs with
  | nil =>
    -- The text ends, and what follows it is no point.
    cases read
    cases rest with
    | nil => rfl
    | cons c rest => exact readFraction_cons (ends c rfl).2.1 rest
  | cons c cs =>
    rw [List.cons_append]
    by_cases point : c = '.'
    · subst point
      simp only [readFraction] at read ⊢
      rw [takeDigits_append_of_ends ends]
      -- The same digits decide whether there is a fraction at all.
      split at read
      · simp at read
      · rename_i present
        simp only [Option.some.injEq, Prod.mk.injEq] at read
        rw [if_neg present, read.1, read.2]
    · rw [readFraction_cons point] at read ⊢
      cases read
      rfl

/-- A sign is taken off alike in front of a text that is not empty. -/
theorem takeSign_append (filled : cs ≠ []) (rest : List Char) :
    takeSign (cs ++ rest) = ((takeSign cs).1, (takeSign cs).2 ++ rest) := by
  obtain ⟨c, cs, rfl⟩ := List.exists_cons_of_ne_nil filled
  -- The first character is that of the text, so what is taken off does not depend on the rest.
  by_cases minus : c = '-'
  · subst minus
    rfl
  · by_cases plus : c = '+'
    · subst plus
      rfl
    · simp [takeSign, minus, plus]

/-- A power is read alike when the text goes on with nothing that belongs to a number. -/
theorem readPower_append (ends : EndsNumber rest) {power : Option Int}
    (read : readPower cs = some (power, after)) :
    readPower (cs ++ rest) = some (power, after ++ rest) := by
  cases cs with
  | nil =>
    cases read
    cases rest with
    | nil => rfl
    | cons c rest =>
      obtain ⟨_, _, noLower, noUpper⟩ := ends c rfl
      simp [readPower, noLower, noUpper]
  | cons mark cs =>
    rw [List.cons_append]
    simp only [readPower] at read ⊢
    split at read
    · -- Behind the mark there is at least one digit, and so the text does not end there.
      have filled : cs ≠ [] := by
        rintro rfl
        simp [takeSign, takeDigits] at read
      rw [takeSign_append filled, takeDigits_append_of_ends ends]
      split at read
      · simp at read
      · rename_i marked present
        simp only [Option.some.injEq, Prod.mk.injEq] at read
        rw [if_pos marked, if_neg present, read.1, read.2]
    · -- Without a mark there is no power, whatever follows.
      rename_i unmarked
      simp only [Option.some.injEq, Prod.mk.injEq] at read
      rw [if_neg unmarked, ← read.1, ← read.2]
      rfl

/-- The sign in front of a number, and the text behind it. -/
def takeMinus (cs : List Char) : Bool × List Char :=
  match cs with
  | '-' :: rest => (true, rest)
  | _ => (false, cs)

/-- A run of digits can stand in front of the point: it is not empty, and starts with no zero in
front of another digit. -/
def IsWhole (whole : List Char) : Prop :=
  whole ≠ [] ∧ ∀ c rest, whole ≠ '0' :: c :: rest

/-- The number of a sign and a run of digits in front of the point, with the parts that follow. -/
def readParts (negative : Bool) (whole afterWhole : List Char) : Option (Json × List Char) :=
  match whole with
  | [] => none
  | '0' :: _ :: _ => none
  | _ => do
    let (fraction, afterFraction) ← readFraction afterWhole
    let (power, rest) ← readPower afterFraction
    return (ofNumber negative whole fraction power, rest)

/-- A part of a text with only characters of numbers in it stands in front of the rest. -/
def TakesNumberChars (cs after : List Char) : Prop :=
  ∃ part, cs = part ++ after ∧ ∀ c ∈ part, isNumberChar c = true

/-- Taking parts one after the other takes their characters. -/
theorem TakesNumberChars.trans {between : List Char} (first : TakesNumberChars cs between)
    (second : TakesNumberChars between after) : TakesNumberChars cs after := by
  -- What is taken in two steps is the one part with the other behind it.
  obtain ⟨front, rfl, plain⟩ := first
  obtain ⟨back, rfl, plainToo⟩ := second
  exact ⟨front ++ back, (List.append_assoc ..).symm, List.forall_mem_append.2 ⟨plain, plainToo⟩⟩

/-- Taking one character of numbers. -/
theorem TakesNumberChars.cons {c : Char} (plain : isNumberChar c = true) (cs : List Char) :
    TakesNumberChars (c :: cs) cs :=
  ⟨[c], rfl, fun d member => by rwa [List.mem_singleton.1 member]⟩

/-- Taking nothing. -/
theorem TakesNumberChars.refl (cs : List Char) : TakesNumberChars cs cs :=
  ⟨[], rfl, List.forall_mem_nil _⟩

/-- Taking digits. -/
theorem takesNumberChars_takeDigits (cs : List Char) : TakesNumberChars cs (takeDigits cs).2 := by
  refine ⟨(takeDigits cs).1, (takeDigits_append cs).symm, fun c member => ?_⟩
  have digit := allDigits_takeDigits cs c member
  simp [isNumberChar, digit]

/-- A sign is made of a character of numbers. -/
theorem takesNumberChars_takeSign (cs : List Char) : TakesNumberChars cs (takeSign cs).2 := by
  -- Both signs are among the characters of numbers.
  unfold takeSign
  split
  · exact .cons (by decide) _
  · exact .cons (by decide) _
  · exact .refl _

/-- A fraction is made of characters of numbers. -/
theorem takesNumberChars_readFraction {fraction : List Char}
    (read : readFraction cs = some (fraction, after)) : TakesNumberChars cs after := by
  -- The point and the digits behind it are taken, or nothing is.
  unfold readFraction at read
  split at read
  · rename_i rest
    have digits := takesNumberChars_takeDigits rest
    simp only at read
    split at read
    · simp at read
    · simp only [Option.some.injEq, Prod.mk.injEq] at read
      rw [read.2] at digits
      exact TakesNumberChars.trans (.cons (by decide) rest) digits
  · cases read
    exact .refl _

/-- A power is made of characters of numbers. -/
theorem takesNumberChars_readPower {power : Option Int}
    (read : readPower cs = some (power, after)) : TakesNumberChars cs after := by
  cases cs with
  | nil =>
    cases read
    exact .refl _
  | cons mark cs =>
    simp only [readPower] at read
    split at read
    · rename_i marked
      -- The mark is one of two letters.
      have plain : isNumberChar mark = true := by
        obtain rfl | rfl : mark = 'e' ∨ mark = 'E' := by simpa using marked
        all_goals decide
      have digits := (takesNumberChars_takeSign cs).trans
        (takesNumberChars_takeDigits (takeSign cs).2)
      split at read
      · simp at read
      · simp only [Option.some.injEq, Prod.mk.injEq] at read
        rw [read.2] at digits
        exact TakesNumberChars.trans (.cons plain cs) digits
    · simp only [Option.some.injEq, Prod.mk.injEq] at read
      rw [← read.2]
      exact .refl _

/-- A sign in front of a number is made of a character of numbers. -/
theorem takesNumberChars_takeMinus (cs : List Char) : TakesNumberChars cs (takeMinus cs).2 := by
  -- There is a sign to take, or nothing is taken.
  unfold takeMinus
  split
  · exact .cons (by decide) _
  · exact .refl _

/-- A minus is taken off alike in front of a text that is not empty. -/
theorem takeMinus_append (filled : cs ≠ []) (rest : List Char) :
    takeMinus (cs ++ rest) = ((takeMinus cs).1, (takeMinus cs).2 ++ rest) := by
  -- The first character decides.
  obtain ⟨c, cs, rfl⟩ := List.exists_cons_of_ne_nil filled
  by_cases minus : c = '-'
  · subst minus
    rfl
  · simp [takeMinus, minus]

end Json

end CalcFields
