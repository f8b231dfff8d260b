import CalcFields.Formula.Scope
import CalcFields.Proofs.Formula.Spelling
import CalcFields.Proofs.Text.Tables
import Mathlib

/-!
The lexer and the reader of the raw text agree on what a reference is. Nothing between the braces of
a reference opens another one, so that references never overlap.
-/

namespace CalcFields

/-- A span cuts a text where the test first fails, or at its end. -/
theorem span_eq_iff {test : Char → Bool} {cs front rest : List Char} :
    cs.span test = (front, rest) ↔
      cs = front ++ rest ∧ (∀ c ∈ front, test c = true) ∧ ∀ c ∈ rest.head?, test c = false := by
  rw [List.span_eq_takeWhile_dropWhile, Prod.mk.injEq]
  constructor
  · rintro ⟨rfl, rfl⟩
    refine ⟨List.takeWhile_append_dropWhile.symm, fun _ => List.mem_takeWhile_imp, ?_⟩
    intro c first
    have fails := List.head?_dropWhile_not test cs
    rw [Option.mem_def.1 first] at fails
    exact fails
  · -- What passes is taken, up to the first that fails.
    rintro ⟨rfl, passes, fails⟩
    rw [List.takeWhile_append_of_pos passes, List.dropWhile_append_of_pos passes]
    cases rest with
    | nil => simp
    | cons c rest => simp [fails c rfl]

/-- Trimming the front takes blanks off it. -/
theorem trimFront_append (cs : List Char) :
    ∃ blanks, cs = blanks ++ trimFront cs ∧ ∀ c ∈ blanks, isBlank c = true :=
  ⟨cs.takeWhile isBlank, List.takeWhile_append_dropWhile.symm, fun _ => List.mem_takeWhile_imp⟩

/-- Blanks in front of a text are trimmed up to its first other character. -/
theorem trimFront_blanks {blanks : List Char} (blank : ∀ c ∈ blanks, isBlank c = true)
    {cs : List Char} (solid : ∀ c ∈ cs.head?, isBlank c = false) :
    trimFront (blanks ++ cs) = cs := by
  -- The blanks are the longest part in front that consists of blanks.
  have spanned := span_eq_iff.2 ⟨rfl, blank, solid⟩
  rw [List.span_eq_takeWhile_dropWhile] at spanned
  exact congrArg Prod.snd spanned

/-- Trimming takes blanks off both ends. -/
theorem trimChars_append (cs : List Char) :
    ∃ front back, cs = front ++ trimChars cs ++ back ∧
      (∀ c ∈ front, isBlank c = true) ∧ ∀ c ∈ back, isBlank c = true := by
  -- The front is trimmed first.
  obtain ⟨front, trimmed, frontBlank⟩ := trimFront_append cs
  -- The back is trimmed as the front of the text turned round.
  obtain ⟨back, turned, backBlank⟩ := trimFront_append (trimFront cs).reverse
  have trimmedBack : trimFront cs = trimChars cs ++ back.reverse := by
    have mirrored := congrArg List.reverse turned
    rw [List.reverse_reverse, List.reverse_append] at mirrored
    exact mirrored
  refine ⟨front, back.reverse, ?_, frontBlank, fun c member => ?_⟩
  · rw [List.append_assoc, ← trimmedBack]
    exact trimmed
  · exact backBlank c (List.mem_reverse.1 member)

/-- Blanks around a text without any are what is trimmed. -/
theorem trimChars_blanks {front body back : List Char} (nonempty : body ≠ [])
    (frontBlank : ∀ c ∈ front, isBlank c = true) (solid : ∀ c ∈ body, isBlank c = false)
    (backBlank : ∀ c ∈ back, isBlank c = true) : trimChars (front ++ body ++ back) = body := by
  -- The front is trimmed up to the first solid character.
  have first : trimFront (front ++ (body ++ back)) = body ++ back := by
    refine trimFront_blanks frontBlank fun c head => ?_
    obtain ⟨next, body, rfl⟩ := List.exists_cons_of_ne_nil nonempty
    cases head
    exact solid c List.mem_cons_self
  -- The back is trimmed as the front of the text turned round.
  have last : trimFront (back.reverse ++ body.reverse) = body.reverse := by
    have turned : ∀ c ∈ back.reverse, isBlank c = true :=
      fun c member => backBlank c (List.mem_reverse.1 member)
    refine trimFront_blanks turned fun c head => ?_
    exact solid c (List.mem_reverse.1 (List.mem_of_mem_head? head))
  rw [List.append_assoc, trimChars, first, trimBack, List.reverse_append]
  exact (congrArg List.reverse last).trans (List.reverse_reverse body)

/-- Nothing is trimmed off a text without blanks. -/
theorem trimChars_solid {cs : List Char} (nonempty : cs ≠ [])
    (solid : ∀ c ∈ cs, isBlank c = false) : trimChars cs = cs := by
  -- There are no blanks in front of the text and none behind it.
  have blanks : ∀ c ∈ ([] : List Char), isBlank c = true := List.forall_mem_nil _
  have around := trimChars_blanks nonempty blanks solid blanks
  rwa [List.nil_append, List.append_nil] at around

/-- Name characters are letters, digits and the underscore of the first 128 characters. -/
theorem toNat_of_isNameChar {c : Char} (named : isNameChar c = true) :
    48 ≤ c.toNat ∧ c.toNat ≤ 122 := by
  -- Three ranges and the line make up the name characters.
  have ranges := isAlphanum_or_underscore_iff.1 named
  omega

/-- Blanks are not visible. -/
theorem isBlank_of_visible {c : Char} (visible : 33 ≤ c.toNat ∧ c.toNat ≤ 126) :
    isBlank c = false := by
  -- Every blank is a control character, a space or lies above.
  simp only [isBlank, Bool.or_eq_false_iff, Bool.and_eq_false_iff, decide_eq_false_iff_not,
    beq_eq_false_iff_ne]
  omega

/-- A name character is no blank. -/
theorem isBlank_of_isNameChar {c : Char} (named : isNameChar c = true) : isBlank c = false := by
  -- All name characters are visible.
  obtain ⟨low, high⟩ := toNat_of_isNameChar named
  exact isBlank_of_visible (by omega)

/-- A digit is no blank. -/
theorem isBlank_of_isDigit {c : Char} (digit : c.isDigit = true) : isBlank c = false :=
  isBlank_of_isNameChar (by simp [isNameChar, Char.isAlphanum, digit])

/-- A name is not empty and holds name characters only. -/
theorem isName_iff {cs : List Char} :
    isName cs = true ↔ cs ≠ [] ∧ ∀ c ∈ cs, isNameChar c = true := by
  simp [isName]

/-- A name holds no dot. -/
theorem ne_dot_of_isName {cs : List Char} (named : isName cs = true) :
    ∀ c ∈ cs, (c != '.') = true := by
  -- The dot is no name character.
  intro c member
  rw [bne_iff_ne]
  rintro rfl
  exact absurd ((isName_iff.1 named).2 _ member) (by decide)

namespace Refers

variable {body : List Char} {token : Token}

/-- A character of a reference is a name character or the dot. -/
theorem mem (refers : Refers body token) {c : Char} (member : c ∈ body) :
    isNameChar c = true ∨ c = '.' := by
  -- A foreign reference has its two names and the dot between them.
  cases refers with
  | field named => exact .inl ((isName_iff.1 named).2 c member)
  | foreign collected named =>
    rcases List.mem_append.1 member with early | late
    · exact .inl ((isName_iff.1 collected).2 c early)
    · rcases List.mem_cons.1 late with rfl | late
      · exact .inr rfl
      · exact .inl ((isName_iff.1 named).2 c late)

/-- A reference is not empty. -/
theorem ne_nil (refers : Refers body token) : body ≠ [] := by
  cases refers with
  | field named => exact (isName_iff.1 named).1
  | foreign => simp

/-- A reference holds no blank. -/
theorem isBlank_eq_false (refers : Refers body token) {c : Char} (member : c ∈ body) :
    isBlank c = false := by
  -- A reference is made of name characters and at most one point.
  rcases refers.mem member with named | rfl
  · exact isBlank_of_isNameChar named
  · decide

/-- Between its braces a reference stands with nothing but blanks around it. -/
theorem not_mem_spaced (refers : Refers body token) {front back : List Char}
    (frontBlank : ∀ c ∈ front, isBlank c = true) (backBlank : ∀ c ∈ back, isBlank c = true)
    {c : Char} (solid : isBlank c = false) (other : ¬ (isNameChar c = true ∨ c = '.')) :
    c ∉ front ++ body ++ back := by
  -- The blanks around the reference are blanks, and its own characters are named ones.
  simp only [List.mem_append, not_or]
  refine ⟨⟨fun member => ?_, fun member => other (refers.mem member)⟩, fun member => ?_⟩
  · cases solid.symm.trans (frontBlank c member)
  · cases solid.symm.trans (backBlank c member)

end Refers

/-- The lexer takes what stands in double braces for a token exactly when it refers to that. -/
theorem referenceToken?_eq_some_iff {body : List Char} {token : Token} :
    referenceToken? body = some token ↔ Refers body token := by
  constructor
  · intro denoted
    unfold referenceToken? at denoted
    split at denoted
    · rename_i whole spanned
      split at denoted
      · -- Nothing is left behind the first name, so that it is the whole reference.
        rename_i named
        cases denoted
        rw [(span_eq_iff.1 spanned).1, List.append_nil]
        exact .field named
      · cases denoted
    · rename_i collection dot name spanned
      split at denoted
      · rename_i named
        cases denoted
        rw [Bool.and_eq_true] at named
        obtain ⟨rfl, -, first⟩ := span_eq_iff.1 spanned
        obtain rfl : dot = '.' := by simpa using first dot rfl
        exact .foreign named.1 named.2
      · cases denoted
  · -- A name is one span up to a dot, which it does not have itself.
    intro refers
    cases refers with
    | field named =>
      have spanned : body.span (· != '.') = (body, []) :=
        span_eq_iff.2 ⟨(List.append_nil _).symm, ne_dot_of_isName named, by simp⟩
      rw [referenceToken?, spanned]
      exact if_pos named
    | @foreign collection name collected named =>
      have spanned : (collection ++ '.' :: name).span (· != '.') = (collection, '.' :: name) := by
        refine span_eq_iff.2 ⟨rfl, ne_dot_of_isName collected, ?_⟩
        rintro c ⟨⟩
        rfl
      rw [referenceToken?, spanned]
      exact if_pos (by rw [collected, named]; rfl)

/-- The reader of the raw text cuts a reference off the front. -/
theorem spanReference_refers {cs name rest : List Char}
    (found : spanReference cs = some (name, rest)) :
    cs = name ++ rest ∧ ∃ token, Refers name token := by
  -- The name is a collection alone, or a collection and a field on the two sides of a dot.
  unfold spanReference at found
  cases outer : cs.span isNameChar with
  | mk collection tail =>
    obtain ⟨whole, plain, -⟩ := span_eq_iff.1 outer
    simp only [outer] at found
    split at found
    · cases found
    · rename_i nonempty
      have collected : isName collection = true := isName_iff.2 ⟨by simpa using nonempty, plain⟩
      split at found
      · rename_i dotted
        cases inner : dotted.span isNameChar with
        | mk field after =>
          obtain ⟨remains, plainField, -⟩ := span_eq_iff.1 inner
          simp only [inner] at found
          split at found
          -- A dot without a name after it is left to the rest.
          · cases found
            exact ⟨whole, _, .field collected⟩
          -- A field after the dot belongs to the name together with the dot.
          · rename_i filled
            cases found
            have named : isName field = true := isName_iff.2 ⟨by simpa using filled, plainField⟩
            refine ⟨?_, _, .foreign collected named⟩
            rw [whole, remains, List.append_assoc, List.cons_append]
      -- Without a dot the collection is all of the name.
      · cases found
        exact ⟨whole, _, .field collected⟩

/-- A reference is cut off as far as it goes. -/
theorem spanReference_of_refers {body : List Char} {token : Token} (refers : Refers body token)
    {next : Char} (stops : isNameChar next = false) (noDot : next ≠ '.') (tail : List Char) :
    spanReference (body ++ next :: tail) = some (body, next :: tail) := by
  -- A span goes on as long as name characters do.
  have ends : ∀ c ∈ (next :: tail).head?, isNameChar c = false := by
    rintro c ⟨⟩
    exact stops
  cases refers with
  | field named =>
    obtain ⟨nonempty, plain⟩ := isName_iff.1 named
    have spanned := span_eq_iff.2 ⟨rfl, plain, ends⟩
    simp only [spanReference, spanned]
    split
    · simp_all
    · split
      · rename_i same
        cases same
        exact absurd rfl noDot
      · rfl
  | @foreign collection name collected named =>
    obtain ⟨nonempty, plain⟩ := isName_iff.1 collected
    obtain ⟨filled, plainField⟩ := isName_iff.1 named
    -- The first span ends at the dot, and the second one at the character behind the name.
    have outer : (collection ++ '.' :: name ++ next :: tail).span isNameChar =
        (collection, '.' :: (name ++ next :: tail)) := by
      refine span_eq_iff.2 ⟨by simp, plain, ?_⟩
      rintro c ⟨⟩
      decide
    have inner := span_eq_iff.2 ⟨rfl, plainField, ends⟩
    rw [spanReference, outer]
    simp only [inner]
    rw [if_neg (by simpa using nonempty), if_neg (by simpa using filled)]

/-- What stands behind a name in blanks before closing braces does not go on with the name. -/
theorem exists_stop {back : List Char} (blank : ∀ c ∈ back, isBlank c = true)
    (after : List Char) :
    ∃ next tail, back ++ '}' :: '}' :: after = next :: tail ∧ isNameChar next = false ∧
      next ≠ '.' := by
  cases back with
  | nil => exact ⟨_, _, rfl, by decide, by decide⟩
  | cons c rest =>
    -- No blank belongs to a name, and the dot is none.
    have blank := blank c List.mem_cons_self
    refine ⟨_, _, rfl, ?_, ?_⟩
    · by_contra other
      rw [Bool.not_eq_false] at other
      cases blank.symm.trans (isBlank_of_isNameChar other)
    · rintro rfl
      exact absurd blank (by decide)

/-- The reader of the raw text finds a reference that stands in blanks before closing braces. -/
theorem readReference?_of_refers {front name back : List Char} {token : Token}
    (frontBlank : ∀ c ∈ front, isBlank c = true) (refers : Refers name token)
    (backBlank : ∀ c ∈ back, isBlank c = true) (after : List Char) :
    readReference? (front ++ name ++ back ++ '}' :: '}' :: after) = some (name, after) := by
  -- The blanks in front are skipped up to the name, and those behind it up to the braces.
  have start : trimFront (front ++ name ++ back ++ '}' :: '}' :: after) =
      name ++ (back ++ '}' :: '}' :: after) := by
    rw [List.append_assoc, List.append_assoc]
    refine trimFront_blanks frontBlank fun c head => ?_
    obtain ⟨first, name, rfl⟩ := List.exists_cons_of_ne_nil refers.ne_nil
    cases head
    exact refers.isBlank_eq_false List.mem_cons_self
  have finish : trimFront (back ++ '}' :: '}' :: after) = '}' :: '}' :: after := by
    refine trimFront_blanks backBlank ?_
    rintro c ⟨⟩
    decide
  obtain ⟨next, tail, follows, stops, noDot⟩ := exists_stop backBlank after
  rw [readReference?, start, follows, spanReference_of_refers refers stops noDot, ← follows]
  simp only [finish]

/-- The reader of the raw text finds a reference behind opening braces exactly where one stands in
blanks before closing braces. -/
theorem readReference?_eq_some_iff {inside name after : List Char} :
    readReference? inside = some (name, after) ↔
      ∃ front back token, inside = front ++ name ++ back ++ '}' :: '}' :: after ∧
        (∀ c ∈ front, isBlank c = true) ∧ (∀ c ∈ back, isBlank c = true) ∧ Refers name token := by
  constructor
  · intro found
    unfold readReference? at found
    obtain ⟨front, trimmed, frontBlank⟩ := trimFront_append inside
    cases spanned : spanReference (trimFront inside) with
    | none => rw [spanned] at found; cases found
    | some parts =>
      obtain ⟨spelled, rest⟩ := parts
      obtain ⟨body, token, refers⟩ := spanReference_refers spanned
      obtain ⟨back, spaced, backBlank⟩ := trimFront_append rest
      simp only [spanned] at found
      split at found
      · rename_i braced
        cases found
        -- The blanks that were trimmed and the two braces make up the rest.
        refine ⟨front, back, token, ?_, frontBlank, backBlank, refers⟩
        rw [trimmed, body, spaced, braced]
        simp
      · cases found
  · rintro ⟨front, back, token, rfl, frontBlank, backBlank, refers⟩
    exact readReference?_of_refers frontBlank refers backBlank after

end CalcFields
