import CalcFields.Proofs.Formula.Numeral
import CalcFields.Proofs.Formula.Reference

/-!
The lexer finds spellings of tokens, and the longest ones. Every token is cut off the front of the
text with its spelling; where a token is spelled at the front, the lexer finds that token or goes on
with characters that no blank separates from it.
-/

namespace CalcFields

/-- Splitting at closing braces drops nothing but them. -/
theorem splitAtBraces_append {cs inner after : List Char}
    (split : splitAtBraces cs = some (inner, after)) : cs = inner ++ '}' :: '}' :: after := by
  -- Each character that closes nothing goes to the inner part.
  fun_induction splitAtBraces cs generalizing inner with
  | case1 rest =>
    cases split
    rfl
  | case2 c rest unclosed ih =>
    obtain ⟨⟨front, back⟩, found, same⟩ := Option.map_eq_some_iff.1 split
    cases same
    rw [ih found, List.cons_append]
  | case3 => cases split

/-- The first closing braces are found behind a part without any. -/
theorem splitAtBraces_of_not_mem {inner : List Char} (unclosed : '}' ∉ inner) (after : List Char) :
    splitAtBraces (inner ++ '}' :: '}' :: after) = some (inner, after) := by
  -- Induction on the characters before the braces.
  induction inner with
  | nil => rw [List.nil_append, splitAtBraces]
  | cons c inner ih =>
    rw [List.mem_cons, not_or] at unclosed
    -- The braces are looked for at each character, and this one is no brace.
    rw [List.cons_append, splitAtBraces, ih unclosed.2]
    · rfl
    · rintro rest ⟨⟩
      exact absurd rfl unclosed.1

/-- A backslash is read together with the character behind it. -/
theorem readContents_escape (c : Char) (rest : List Char) :
    readContents ('\\' :: c :: rest) = (readContents rest).map fun (text, spelling, after) =>
      (unescaped c :: text, '\\' :: c :: spelling, after) := by
  -- Three letters are escapes with a meaning, and any other character stands for itself.
  unfold unescaped
  split
  · rw [readContents]
  · rw [readContents]
  · rw [readContents]
  · rw [readContents] <;> assumption

/-- A character that neither ends the string nor starts an escape is read by itself. -/
theorem readContents_plain {c : Char} (noQuote : c ≠ '"') (noEscape : c ≠ '\\') (rest : List Char) :
    readContents (c :: rest) = (readContents rest).map fun (text, spelling, after) =>
      (c :: text, c :: spelling, after) := by
  -- A character that neither ends nor escapes is read as it is.
  rw [readContents]
  · exact noQuote
  · rintro _ _ rfl
    contradiction
  · rintro rfl
    contradiction

/-- The contents of a string are spelled by the characters up to its closing quote. -/
theorem readContents_spells {cs text spelling after : List Char}
    (read : readContents cs = some (text, spelling, after)) :
    ∃ contents, spelling = contents ++ ['"'] ∧ SpellsContents contents text ∧
      cs = spelling ++ after := by
  -- An escape spells one character of the contents by two, and every other one spells itself.
  induction cs using readContents.induct generalizing text spelling with
  | case1 => cases read
  | case2 rest =>
    cases read
    exact ⟨[], rfl, .nil, rfl⟩
  | case3 c rest ih =>
    rw [readContents_escape] at read
    obtain ⟨⟨front, spelled, back⟩, found, same⟩ := Option.map_eq_some_iff.1 read
    cases same
    obtain ⟨contents, rfl, more, rfl⟩ := ih found
    exact ⟨'\\' :: c :: contents, rfl, .escape more, rfl⟩
  | case4 => cases read
  | case5 c rest noQuote noEscape last ih =>
    have plain : c ≠ '\\' := fun same => by
      cases rest with
      | nil => exact last same rfl
      | cons next rest => exact noEscape next rest same rfl
    rw [readContents_plain noQuote plain] at read
    obtain ⟨⟨front, spelled, back⟩, found, same⟩ := Option.map_eq_some_iff.1 read
    cases same
    obtain ⟨contents, rfl, more, rfl⟩ := ih found
    exact ⟨c :: contents, rfl, .plain noQuote plain more, rfl⟩

/-- Spelled contents are read up to their closing quote. -/
theorem readContents_of_spells {contents text : List Char} (spelled : SpellsContents contents text)
    (after : List Char) :
    readContents (contents ++ '"' :: after) = some (text, contents ++ ['"'], after) := by
  -- Induction on the spelling.
  induction spelled with
  | nil => rw [List.nil_append, List.nil_append, readContents]
  | plain noQuote noEscape _ ih =>
    rw [List.cons_append, readContents_plain noQuote noEscape, ih]
    rfl
  | escape _ ih =>
    rw [List.cons_append, List.cons_append, readContents_escape, ih]
    rfl

/-- A symbol is an operator of one character or of two. -/
theorem mem_symbols_iff {cs : List Char} {token : Token} :
    (cs, token) ∈ symbols ↔ (∃ c, cs = [c] ∧ singleOperator? c = some token) ∨
      ∃ c d, cs = [c, d] ∧ doubleOperator? c d = some token := by
  constructor
  · intro listed
    simp only [symbols, canonicalSymbols, List.cons_append, List.nil_append, List.mem_cons,
      List.not_mem_nil, or_false, Prod.mk.injEq] at listed
    -- Each symbol of the list has an entry in the table of its length.
    rcases listed with ⟨rfl, rfl⟩ | ⟨rfl, rfl⟩ | ⟨rfl, rfl⟩ | ⟨rfl, rfl⟩ | ⟨rfl, rfl⟩ | ⟨rfl, rfl⟩ |
      ⟨rfl, rfl⟩ | ⟨rfl, rfl⟩ | ⟨rfl, rfl⟩ | ⟨rfl, rfl⟩ | ⟨rfl, rfl⟩ | ⟨rfl, rfl⟩ | ⟨rfl, rfl⟩ |
      ⟨rfl, rfl⟩ | ⟨rfl, rfl⟩ | ⟨rfl, rfl⟩ | ⟨rfl, rfl⟩
    all_goals first
      | exact .inl ⟨_, rfl, rfl⟩
      | exact .inr ⟨_, _, rfl, rfl⟩
  · rintro (⟨c, rfl, single⟩ | ⟨c, d, rfl, double⟩)
    · -- And each entry of the tables is in the list.
      unfold singleOperator? at single
      split at single <;> cases single <;> simp [symbols, canonicalSymbols]
    · unfold doubleOperator? at double
      split at double <;> cases double <;> simp [symbols, canonicalSymbols]

/-- An operator is cut off the front, and it is one of the symbols. -/
theorem operatorLexeme_spells {c : Char} {rest : List Char} {found : Lexeme}
    (read : operatorLexeme c rest = .ok found) :
    c :: rest = found.spelling ++ found.rest ∧ (found.spelling, found.token) ∈ symbols := by
  simp only [operatorLexeme] at read
  -- Two characters are tried first, and then the first one alone.
  split at read
  · split at read
    · rename_i double
      cases read
      exact ⟨rfl, mem_symbols_iff.2 (.inr ⟨_, _, rfl, double⟩)⟩
    · split at read
      · rename_i single
        cases read
        exact ⟨rfl, mem_symbols_iff.2 (.inl ⟨_, rfl, single⟩)⟩
      · cases read
  -- The last character of a text can only be an operator alone.
  · split at read
    · rename_i single
      cases read
      exact ⟨rfl, mem_symbols_iff.2 (.inl ⟨_, rfl, single⟩)⟩
    · cases read

/-- What is found at the front is a token, or it goes on with characters that no blank separates
from the spelling of that token. -/
def FindsAtLeast (token : Token) (cs after : List Char) (outcome : Except SyntaxError Lexeme) :
    Prop :=
  ∃ found, outcome = .ok found ∧
    (found = ⟨token, cs, after⟩ ∨ ∃ d more, found.spelling = cs ++ d :: more ∧ isGap d = false)

/-- A symbol at the front is found, or a longer one that it starts. -/
theorem operatorLexeme_of_mem {cs after rest : List Char} {token : Token} {c : Char}
    (listed : (cs, token) ∈ symbols) (front : c :: rest = cs ++ after) :
    FindsAtLeast token cs after (operatorLexeme c rest) := by
  rcases mem_symbols_iff.1 listed with ⟨first, rfl, single⟩ | ⟨first, d, rfl, double⟩
  · rw [List.singleton_append, List.cons.injEq] at front
    -- A symbol of two characters is tried first.
    obtain ⟨rfl, rfl⟩ := front
    -- A second character may make a longer operator, and none of those is a blank.
    cases rest with
    | nil => exact ⟨_, by simp only [operatorLexeme, single], .inl rfl⟩
    | cons d after =>
      cases double : doubleOperator? c d with
      | none => exact ⟨_, by simp only [operatorLexeme, single, double], .inl rfl⟩
      | some longer =>
        refine ⟨⟨longer, [c, d], after⟩, by simp only [operatorLexeme, double],
          .inr ⟨d, [], rfl, ?_⟩⟩
        unfold doubleOperator? at double
        split at double
        all_goals first
          | decide
          | cases double
  · rw [List.cons_append, List.singleton_append, List.cons.injEq] at front
    obtain ⟨rfl, rfl⟩ := front
    exact ⟨_, by simp only [operatorLexeme, double], .inl rfl⟩

/-- No symbol starts like a token of another kind. -/
theorem symbol_start {c : Char} {more : List Char} {token : Token}
    (listed : (c :: more, token) ∈ symbols) :
    c ≠ '{' ∧ c ≠ '"' ∧ c ≠ '.' ∧ c.isDigit = false ∧ (c.isAlpha || c == '_') = false := by
  -- Each symbol is looked at once.
  rcases mem_symbols_iff.1 listed with ⟨first, same, single⟩ | ⟨first, d, same, double⟩
  · cases same
    unfold singleOperator? at single
    split at single
    all_goals first
      | decide
      | cases single
  · cases same
    unfold doubleOperator? at double
    split at double
    all_goals first
      | decide
      | cases double

/-- A reference in double braces at the front is found. -/
theorem referenceLexeme_of_refers {front body back : List Char} {token : Token}
    (frontBlank : ∀ c ∈ front, isBlank c = true) (backBlank : ∀ c ∈ back, isBlank c = true)
    (refers : Refers body token) (after : List Char) :
    referenceLexeme (front ++ body ++ back ++ '}' :: '}' :: after) =
      .ok ⟨token, '{' :: '{' :: (front ++ body ++ back) ++ ['}', '}'], after⟩ := by
  -- The braces that close the reference are the first ones behind it.
  have unclosed : '}' ∉ front ++ body ++ back :=
    refers.not_mem_spaced frontBlank backBlank (by decide) (by decide)
  have solid : ∀ c ∈ body, isBlank c = false := fun _ => refers.isBlank_eq_false
  simp only [referenceLexeme, splitAtBraces_of_not_mem unclosed,
    trimChars_blanks refers.ne_nil frontBlank solid backBlank, referenceToken?_eq_some_iff.2 refers]

/-- What is found behind opening braces spells a reference. -/
theorem referenceLexeme_spells {inside : List Char} {found : Lexeme}
    (read : referenceLexeme inside = .ok found) :
    '{' :: '{' :: inside = found.spelling ++ found.rest ∧ Spells found.spelling found.token := by
  unfold referenceLexeme at read
  split at read
  · cases read
  · rename_i inner after split
    split at read
    · rename_i denoted
      cases read
      -- The trimmed blanks belong to the spelling.
      obtain ⟨front, back, whole, frontBlank, backBlank⟩ := trimChars_append inner
      constructor
      · rw [splitAtBraces_append split]
        simp
      · have refers := referenceToken?_eq_some_iff.1 denoted
        have spelled := Spells.reference frontBlank backBlank refers
        rw [← whole] at spelled
        exact spelled
    · cases read

/-- Every token is cut off the front of the text together with a spelling of it. -/
theorem lexeme_spells {c : Char} {rest : List Char} {found : Lexeme}
    (read : lexeme c rest = .ok found) :
    c :: rest = found.spelling ++ found.rest ∧ Spells found.spelling found.token := by
  -- A token is a reference, a string, a numeral, a word or an operator.
  unfold lexeme at read
  split at read
  · exact referenceLexeme_spells read
  · rename_i inside
    unfold stringLexeme at read
    split at read
    · rename_i contents
      cases read
      obtain ⟨contents, rfl, spelled, rfl⟩ := readContents_spells contents
      exact ⟨rfl, .string spelled⟩
    · cases read
  · -- Anything else starts with a digit or a point, with a letter, or with a mark.
    split at read
    · rename_i starts
      have cut := spanNumeral_append (c :: rest)
      have spelled := spellsNumeral_spanNumeral starts
      obtain ⟨n, value⟩ := spelled.exists_read
      simp only [numeralLexeme, value] at read
      cases read
      have token := Spells.number spelled
      rw [numeralValue, value] at token
      exact ⟨cut.symm, token⟩
    · split at read
      · rename_i start
        split at read
        rename_i tail after spanned
        cases read
        obtain ⟨rfl, plain, -⟩ := span_eq_iff.1 spanned
        exact ⟨rfl, .word ⟨start, plain⟩⟩
      · obtain ⟨cut, listed⟩ := operatorLexeme_spells read
        exact ⟨cut, .symbol listed⟩

/-- A text that starts with neither braces nor a quote starts with a numeral, a word or an
operator. -/
theorem lexeme_plain {c : Char} (noBrace : c ≠ '{') (noQuote : c ≠ '"') (rest : List Char) :
    lexeme c rest =
      if startsNumeral c rest then numeralLexeme (c :: rest)
      else if c.isAlpha || c == '_' then
        let (tail, after) := rest.span isNameChar
        .ok ⟨.word (String.ofList (c :: tail)), c :: tail, after⟩
      else operatorLexeme c rest := by
  -- The brace and the quote are the only characters looked at before.
  unfold lexeme
  split
  · exact absurd rfl noBrace
  · exact absurd rfl noQuote
  · rfl

/-- Blanks between tokens are not visible. -/
theorem isGap_of_visible {c : Char} (visible : 33 ≤ c.toNat) : isGap c = false := by
  -- Every gap lies below the visible characters.
  simp only [isGap, Bool.or_eq_false_iff, beq_eq_false_iff_ne]
  refine ⟨⟨⟨⟨?_, ?_⟩, ?_⟩, ?_⟩, ?_⟩
  all_goals
    rintro rfl
    exact absurd visible (by decide)

/-- A name character is no blank between tokens. -/
theorem isGap_of_isNameChar {c : Char} (named : isNameChar c = true) : isGap c = false :=
  isGap_of_visible (Nat.le_trans (by decide) (toNat_of_isNameChar named).1)

/-- A numeral holds visible characters only. -/
theorem SpellsNumeral.visible {cs : List Char} (spelled : SpellsNumeral cs) {c : Char}
    (member : c ∈ cs) : 33 ≤ c.toNat ∧ c.toNat ≤ 126 := by
  -- A numeral is made of digits and a few marks.
  rcases spelled.mem member with digit | mark
  · have bounds := toNat_of_isNameChar (c := c) (by simp [isNameChar, Char.isAlphanum, digit])
    omega
  · simp only [List.mem_cons, List.not_mem_nil, or_false] at mark
    rcases mark with rfl | rfl | rfl | rfl | rfl <;> decide

/-- A numeral starts with a digit, or with a point and a digit. -/
theorem SpellsNumeral.start {cs after rest : List Char} {c : Char} (spelled : SpellsNumeral cs)
    (front : c :: rest = cs ++ after) :
    startsNumeral c rest = true ∧ c ≠ '{' ∧ c ≠ '"' := by
  obtain ⟨plain, pointed, -, digit⟩ := spelled
  rename_i whole fraction exponent
  cases whole with
  | cons first whole =>
    cases front
    -- A digit in front starts a numeral, and is neither of the two marks.
    have known : c.isDigit = true := plain c List.mem_cons_self
    refine ⟨by simp [startsNumeral, known], ?_, ?_⟩
    all_goals
      rintro rfl
      cases known
  | nil =>
    -- Without digits in front there is a point, and the digit stands right behind it.
    cases pointed with
    | absent => obtain ⟨_, member, _⟩ := digit; cases member
    | @present digits pointed =>
      cases digits with
      | nil =>
        obtain ⟨_, member, point⟩ := digit
        cases List.mem_singleton.1 member
        cases point
      | cons next digits =>
        cases front
        have second : next.isDigit = true := pointed next List.mem_cons_self
        exact ⟨by simp [startsNumeral, second], by decide, by decide⟩

/-- The numerals are the texts that start as one and are cut off whole. -/
theorem spellsNumeral_iff {c : Char} {rest : List Char} :
    SpellsNumeral (c :: rest) ↔
      startsNumeral c rest = true ∧ spanNumeral (c :: rest) = (c :: rest, []) := by
  constructor
  · intro spelled
    refine ⟨(spelled.start (List.append_nil _).symm).1, ?_⟩
    have cut := spanNumeral_append (c :: rest)
    have longest := spelled.prefix_spanNumeral []
    rw [List.append_nil] at longest
    -- The cut is no shorter than the whole text, so that nothing is left behind it.
    obtain ⟨more, longer⟩ := longest
    have total := congrArg List.length cut
    rw [List.length_append, ← longer, List.length_append] at total
    obtain rfl : more = [] := List.eq_nil_of_length_eq_zero (by omega)
    rw [List.append_nil] at longer
    have left : (spanNumeral (c :: rest)).2 = [] := List.eq_nil_of_length_eq_zero (by omega)
    exact Prod.ext longer.symm left
  · rintro ⟨starts, whole⟩
    have spelled := spellsNumeral_spanNumeral starts
    rwa [whole] at spelled

/-- A numeral at the front is found, or a longer one that it starts. -/
theorem numeralLexeme_of_spells {cs after rest : List Char} {c : Char} (spelled : SpellsNumeral cs)
    (front : c :: rest = cs ++ after) :
    FindsAtLeast (.number (numeralValue cs)) cs after (numeralLexeme (c :: rest)) := by
  have longest := spellsNumeral_spanNumeral (spelled.start front).1
  have cut := spanNumeral_append (c :: rest)
  obtain ⟨n, value⟩ := longest.exists_read
  refine ⟨⟨.number n.toFloat, _, _⟩, by simp only [numeralLexeme, value]; rfl, ?_⟩
  -- The numeral that is cut off starts with the one that is spelled.
  obtain ⟨more, longer⟩ := spelled.prefix_spanNumeral after
  rw [← front] at longer
  cases more with
  | nil =>
    rw [List.append_nil] at longer
    -- Nothing longer was cut off, so the value is that of the spelling.
    have left := List.append_cancel_left (cut.trans (front.trans (congrArg (· ++ after) longer)))
    rw [← longer] at value
    rw [numeralValue, value, left, ← longer]
    exact .inl rfl
  | cons d more =>
    -- Or the numeral goes on with what cannot stand in a gap.
    refine .inr ⟨d, more, longer.symm, ?_⟩
    exact isGap_of_visible (longest.visible (by simp [← longer])).1

/-- A word holds name characters only. -/
theorem IsWord.named {first : Char} {rest : List Char} (word : IsWord first rest) :
    ∀ c ∈ first :: rest, isNameChar c = true := by
  -- The first character may be no digit, and the others may be.
  refine List.forall_mem_cons.2 ⟨?_, word.rest⟩
  have start := word.start
  rw [Bool.or_eq_true] at start
  rcases start with letter | line
  · simp [isNameChar, Char.isAlphanum, letter]
  · simp [isNameChar, line]

/-- The letters and the underscore start no other token than a word. -/
theorem IsWord.start_plain {c : Char} {tail : List Char} (word : IsWord c tail) (rest : List Char) :
    startsNumeral c rest = false ∧ c ≠ '{' ∧ c ≠ '"' := by
  have start := word.start
  -- The letters and the digits are three ranges apart from each other.
  have noDigit : c.isDigit = false := by
    by_contra digit
    rw [Bool.not_eq_false] at digit
    rw [Char.isDigit, Bool.and_eq_true] at digit
    simp only [Char.isAlpha, Char.isUpper, Char.isLower, Bool.or_eq_true, Bool.and_eq_true,
      decide_eq_true_eq, beq_iff_eq, ge_iff_le, UInt32.le_iff_toNat_le] at start digit
    rcases start with (upper | lower) | rfl
    · exact absurd (upper.1.trans digit.2) (by decide)
    · exact absurd (lower.1.trans digit.2) (by decide)
    · exact absurd digit (by decide)
  refine ⟨?_, ?_, ?_⟩
  · -- A numeral starts with a digit or a point.
    rw [startsNumeral, noDigit, Bool.false_or, Bool.and_eq_false_iff]
    left
    rw [beq_eq_false_iff_ne]
    rintro rfl
    cases start
  all_goals
    rintro rfl
    cases start

/-- A token that is spelled at the front of a text is found there, or a longer one is. -/
theorem lexeme_of_spells {cs after rest : List Char} {token : Token} {c : Char}
    (spelled : Spells cs token) (front : c :: rest = cs ++ after) :
    FindsAtLeast token cs after (lexeme c rest) := by
  -- Each kind of token is told by how its spelling starts.
  cases spelled with
  | @reference before body back token frontBlank backBlank refers =>
    simp only [List.cons_append, List.cons.injEq] at front
    obtain ⟨rfl, rfl⟩ := front
    have read := referenceLexeme_of_refers frontBlank backBlank refers after
    exact ⟨_, by simpa [lexeme] using read, .inl (by simp)⟩
  | @string contents text spelled =>
    simp only [List.cons_append, List.cons.injEq, List.append_assoc] at front
    obtain ⟨rfl, rfl⟩ := front
    have read := readContents_of_spells spelled after
    exact ⟨_, by simp [lexeme, stringLexeme, read], .inl rfl⟩
  | number spelled =>
    obtain ⟨starts, noBrace, noQuote⟩ := spelled.start front
    rw [lexeme_plain noBrace noQuote, if_pos starts]
    exact numeralLexeme_of_spells spelled front
  | @word first tail word =>
    rw [List.cons_append, List.cons.injEq] at front
    obtain ⟨rfl, rfl⟩ := front
    obtain ⟨noNumeral, noBrace, noQuote⟩ := word.start_plain (tail ++ after)
    -- The word goes on with the name characters behind it.
    rw [lexeme_plain noBrace noQuote, if_neg (by simp [noNumeral]), if_pos word.start,
      List.span_eq_takeWhile_dropWhile, List.takeWhile_append_of_pos word.rest,
      List.dropWhile_append_of_pos word.rest]
    refine ⟨_, rfl, ?_⟩
    cases extra : after.takeWhile isNameChar with
    | nil =>
      left
      have whole := List.takeWhile_append_dropWhile (p := isNameChar) (l := after)
      rw [extra, List.nil_append] at whole
      rw [List.append_nil, whole]
    | cons d more =>
      have member : d ∈ after.takeWhile isNameChar := by simp [extra]
      exact .inr ⟨d, more, rfl, isGap_of_isNameChar (List.mem_takeWhile_imp member)⟩
  | symbol listed =>
    cases cs with
    | nil => rcases mem_symbols_iff.1 listed with ⟨_, same, _⟩ | ⟨_, _, same, _⟩ <;> cases same
    | cons first more =>
      have found := operatorLexeme_of_mem listed front
      cases front
      obtain ⟨noBrace, noQuote, noPoint, noDigit, noLetter⟩ := symbol_start listed
      have noNumeral : startsNumeral c (more ++ after) = false := by
        simp [startsNumeral, noDigit, noPoint]
      rw [lexeme_plain noBrace noQuote, if_neg (by simp [noNumeral]), if_neg (by simp [noLetter])]
      exact found

end CalcFields
