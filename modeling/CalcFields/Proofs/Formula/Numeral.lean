import CalcFields.Proofs.Formula.Spelling
import Mathlib.Data.List.TakeWhile

/-!
The lexer cuts the longest numeral off the front of a text, and every numeral has a value.
-/

namespace CalcFields

/-- A run of digits is cut off the front. -/
theorem takeDigits_append (cs : List Char) : (takeDigits cs).1 ++ (takeDigits cs).2 = cs :=
  List.takeWhile_append_dropWhile

/-- A run of digits holds digits only. -/
theorem allDigits_takeDigits (cs : List Char) : AllDigits (takeDigits cs).1 :=
  fun _ => List.mem_takeWhile_imp

/-- Digits in front of a text belong to its first run of digits. -/
theorem takeDigits_digits {digits : List Char} (plain : AllDigits digits) (after : List Char) :
    takeDigits (digits ++ after) = (digits ++ (takeDigits after).1, (takeDigits after).2) := by
  simp only [takeDigits, List.takeWhile_append_of_pos plain, List.dropWhile_append_of_pos plain]

/-- Digits alone are one run. -/
theorem takeDigits_all {digits : List Char} (plain : AllDigits digits) :
    takeDigits digits = (digits, []) := by
  simpa [takeDigits] using takeDigits_digits plain []

/-- A text that starts with no digit has no digits cut off. -/
theorem takeDigits_cons {c : Char} (noDigit : c.isDigit = false) (rest : List Char) :
    takeDigits (c :: rest) = ([], c :: rest) := by
  simp [takeDigits, noDigit]

/-- The fraction at the front of a text is a point with the digits behind it. -/
def spanFraction (cs : List Char) : List Char × List Char :=
  match cs with
  | '.' :: tail =>
    let (digits, after) := takeDigits tail
    ('.' :: digits, after)
  | _ => ([], cs)

/-- A numeral is cut off as digits, a fraction and an exponent. -/
theorem spanNumeral_eq (cs : List Char) :
    spanNumeral cs =
      ((takeDigits cs).1 ++ (spanFraction (takeDigits cs).2).1 ++
        (spanExponent (spanFraction (takeDigits cs).2).2).1,
        (spanExponent (spanFraction (takeDigits cs).2).2).2) := by
  rfl

/-- A fraction is cut off the front. -/
theorem spanFraction_append (cs : List Char) : (spanFraction cs).1 ++ (spanFraction cs).2 = cs := by
  -- A fraction is its point and the digits behind it.
  unfold spanFraction
  split
  · rename_i tail
    exact congrArg ('.' :: ·) (takeDigits_append tail)
  · rfl

/-- What is cut off as a fraction spells one. -/
theorem spellsFraction_spanFraction (cs : List Char) : SpellsFraction (spanFraction cs).1 := by
  -- The point is there or it is not.
  unfold spanFraction
  split
  · rename_i tail
    exact .present (allDigits_takeDigits tail)
  · exact .absent

/-- A text that starts with no point has no fraction cut off. -/
theorem spanFraction_cons {c : Char} (noPoint : c ≠ '.') (rest : List Char) :
    spanFraction (c :: rest) = ([], c :: rest) := by
  -- No other character starts a fraction.
  unfold spanFraction
  split
  · rename_i tail same
    cases same
    exact absurd rfl noPoint
  · rfl

/-- The exponent of a text that goes on with digits is cut off with them. -/
theorem spanExponent_present {mark : Char} {sign digits : List Char}
    (marked : mark = 'e' ∨ mark = 'E') (signed : sign = [] ∨ sign = ['+'] ∨ sign = ['-'])
    (nonempty : digits ≠ []) (plain : AllDigits digits) (after : List Char) :
    spanExponent (mark :: sign ++ digits ++ after) =
      (mark :: sign ++ digits ++ (takeDigits after).1, (takeDigits after).2) := by
  have known : (mark == 'e' || mark == 'E') = true := by simpa using marked
  obtain ⟨first, digits, rfl⟩ := List.exists_cons_of_ne_nil nonempty
  have digit : first.isDigit = true := plain first List.mem_cons_self
  -- The digits go on with those behind them.
  have cut := takeDigits_digits plain after
  rw [List.cons_append] at cut
  -- The first digit is no sign, so that only a sign in front of it is taken for one.
  have noPlus : first ≠ '+' := by rintro rfl; cases digit
  have noMinus : first ≠ '-' := by rintro rfl; cases digit
  rcases signed with rfl | rfl | rfl
  all_goals simp [spanExponent, known, noPlus, noMinus, cut]

/-- An exponent is cut off the front. -/
theorem spanExponent_append (cs : List Char) : (spanExponent cs).1 ++ (spanExponent cs).2 = cs := by
  unfold spanExponent
  split
  · rename_i mark rest
    split
    · -- Behind the mark of an exponent there may be a sign.
      split
      rename_i sign unsigned signed
      have whole : sign ++ unsigned = rest := by
        split at signed <;> cases signed <;> rfl
      -- The sign belongs to the exponent only together with its digits.
      dsimp only
      split
      · rfl
      · rw [List.append_assoc, takeDigits_append, List.cons_append, whole]
    · rfl
  · rfl

/-- What is cut off as an exponent spells one. -/
theorem spellsExponent_spanExponent (cs : List Char) : SpellsExponent (spanExponent cs).1 := by
  unfold spanExponent
  split
  · rename_i mark rest
    split
    · rename_i marked
      split
      rename_i sign unsigned signed
      -- Whatever is taken for a sign is one or is nothing.
      have known : sign = [] ∨ sign = ['+'] ∨ sign = ['-'] := by
        split at signed <;> cases signed <;> simp
      dsimp only
      split
      · exact .absent
      · rename_i nonempty
        refine .present (by simpa using marked) known ?_ (allDigits_takeDigits unsigned)
        simpa using nonempty
    · exact .absent
  · exact .absent

/-- A numeral is cut off the front. -/
theorem spanNumeral_append (cs : List Char) : (spanNumeral cs).1 ++ (spanNumeral cs).2 = cs := by
  -- Each of the three cuts loses nothing.
  rw [spanNumeral_eq, List.append_assoc, List.append_assoc, spanExponent_append,
    spanFraction_append, takeDigits_append]

/-- What is cut off where a numeral starts spells one. -/
theorem spellsNumeral_spanNumeral {c : Char} {rest : List Char}
    (starts : startsNumeral c rest = true) : SpellsNumeral (spanNumeral (c :: rest)).1 := by
  rw [spanNumeral_eq]
  refine .parts (allDigits_takeDigits _) (spellsFraction_spanFraction _)
    (spellsExponent_spanExponent _) ?_
  cases digit : c.isDigit with
  | true => exact ⟨c, by simp [takeDigits, digit], digit⟩
  | false =>
    -- Without a digit at the front there is a point with a digit behind it.
    simp only [startsNumeral, digit, Bool.false_or, Bool.and_eq_true, beq_iff_eq] at starts
    obtain ⟨rfl, behind⟩ := starts
    cases rest with
    | nil => cases behind
    | cons next rest =>
      have second : next.isDigit = true := behind
      exact ⟨next, by simp [spanFraction, takeDigits, second], second⟩

/-- The mark of an exponent is no digit and no point. -/
theorem mark_plain {mark : Char} (marked : mark = 'e' ∨ mark = 'E') :
    mark.isDigit = false ∧ mark ≠ '.' := by
  rcases marked with rfl | rfl <;> decide

/-- A numeral in front of a text is the beginning of what is cut off there. -/
theorem SpellsNumeral.prefix_spanNumeral {cs : List Char} (spelled : SpellsNumeral cs)
    (after : List Char) : cs <+: (spanNumeral (cs ++ after)).1 := by
  obtain ⟨plain, pointed, raised, -⟩ := spelled
  rename_i whole fraction exponent
  rw [List.append_assoc, List.append_assoc, spanNumeral_eq, takeDigits_digits plain]
  -- Each part ends where the next one starts, and the last one may go on.
  cases raised with
  -- Without an exponent the fraction may go on, or the digits.
  | absent =>
    cases pointed with
    | absent => simp
    | present pointed =>
      simp [takeDigits_cons, spanFraction, takeDigits_digits pointed]
  | present marked signed nonempty powers =>
    obtain ⟨noDigit, noPoint⟩ := mark_plain marked
    have last := spanExponent_present marked signed nonempty powers after
    simp only [List.cons_append, List.append_assoc] at last
    cases pointed with
    | absent => simp [takeDigits_cons noDigit, spanFraction_cons noPoint, last]
    | present pointed =>
      simp [takeDigits_cons, spanFraction, takeDigits_digits pointed, takeDigits_cons noDigit, last]

/-- A digit is no sign. -/
theorem takeSign_digit {c : Char} (digit : c.isDigit = true) (rest : List Char) :
    takeSign (c :: rest) = (false, c :: rest) := by
  -- Both signs are no digits.
  unfold takeSign
  split
  · rename_i same
    cases same
    cases digit
  · rename_i same
    cases same
    cases digit
  · rfl

/-- Every exponent has a value. -/
theorem SpellsExponent.exists_read {cs : List Char} (spelled : SpellsExponent cs) :
    ∃ n, readExponent? cs = some n := by
  cases spelled with
  | absent => exact ⟨0, rfl⟩
  | @present mark sign digits marked signed nonempty plain =>
    -- Digits are never taken for a sign, so the three signs are told apart.
    obtain ⟨first, digits, rfl⟩ := List.exists_cons_of_ne_nil nonempty
    have known : (mark == 'e' || mark == 'E') = true := by simpa using marked
    have unsigned := takeSign_digit (plain first List.mem_cons_self) digits
    rcases signed with rfl | rfl | rfl
    · simp [readExponent?, known, unsigned, takeDigits_all plain]
    · simp [readExponent?, known, takeSign, takeDigits_all plain]
    · simp [readExponent?, known, takeSign, takeDigits_all plain]

/-- A run of digits ends where an exponent starts. -/
theorem SpellsExponent.takeDigits {cs : List Char} (spelled : SpellsExponent cs) :
    CalcFields.takeDigits cs = ([], cs) := by
  -- An exponent starts with its mark, which is no digit.
  cases spelled with
  | absent => rfl
  | present marked _ _ _ => exact takeDigits_cons (mark_plain marked).1 _

/-- Every numeral has a value. -/
theorem SpellsNumeral.exists_read {cs : List Char} (spelled : SpellsNumeral cs) :
    ∃ n, Numeral.read? cs = some n := by
  obtain ⟨plain, pointed, raised, digit⟩ := spelled
  rename_i whole fraction exponent
  obtain ⟨power, powered⟩ := raised.exists_read
  -- The numeral starts with a digit or with its point, and so with no sign.
  have unsigned : takeSign (whole ++ fraction ++ exponent) =
      (false, whole ++ fraction ++ exponent) := by
    cases whole with
    | cons first whole => exact takeSign_digit (plain first List.mem_cons_self) _
    | nil =>
      cases pointed with
      | absent => obtain ⟨_, member, _⟩ := digit; cases member
      | present => rfl
  unfold Numeral.read?
  rw [unsigned]
  simp only [List.append_assoc, takeDigits_digits plain]
  cases pointed with
  | absent =>
    have nonempty : whole ≠ [] := by
      rintro rfl
      obtain ⟨_, member, _⟩ := digit
      cases member
    -- The exponent follows at once, and it starts with no point.
    cases raised with
    | absent => simp [nonempty, takeDigits, readExponent?]
    | present marked _ _ _ =>
      obtain ⟨noDigit, noPoint⟩ := mark_plain marked
      rw [List.cons_append] at powered
      simp [takeDigits_cons noDigit, noPoint, powered, nonempty]
  -- A point needs a digit on one of its sides.
  | @present digits pointed =>
    have nonempty : whole = [] → digits ≠ [] := by
      rintro rfl rfl
      obtain ⟨_, member, point⟩ := digit
      cases List.mem_singleton.1 member
      cases point
    simpa [takeDigits_cons, takeDigits_digits pointed, raised.takeDigits, powered] using nonempty

/-- A numeral is made of digits, points, marks and signs. -/
theorem SpellsNumeral.mem {cs : List Char} (spelled : SpellsNumeral cs) {c : Char}
    (member : c ∈ cs) : c.isDigit = true ∨ c ∈ ['.', 'e', 'E', '+', '-'] := by
  -- Each part has its own characters.
  obtain ⟨plain, pointed, raised, -⟩ := spelled
  rcases List.mem_append.1 member with front | power
  · rcases List.mem_append.1 front with digit | fraction
    · exact .inl (plain c digit)
    · cases pointed with
      | absent => cases fraction
      | present pointed =>
        rcases List.mem_cons.1 fraction with rfl | digit
        · exact .inr (by decide)
        · exact .inl (pointed c digit)
  · cases raised with
    | absent => cases power
    | present marked signed _ powers =>
      rw [List.cons_append, List.mem_cons, List.mem_append] at power
      rcases power with rfl | sign | digit
      · exact .inr (by rcases marked with rfl | rfl <;> decide)
      · exact .inr (by rcases signed with rfl | rfl | rfl <;> simp_all)
      · exact .inl (powers c digit)

/-- No numeral is empty. -/
theorem SpellsNumeral.ne_nil {cs : List Char} (spelled : SpellsNumeral cs) : cs ≠ [] := by
  -- A numeral has a digit before or behind its point.
  obtain ⟨-, -, -, c, member, -⟩ := spelled
  exact List.append_ne_nil_of_left_ne_nil (List.ne_nil_of_mem member) _

end CalcFields
