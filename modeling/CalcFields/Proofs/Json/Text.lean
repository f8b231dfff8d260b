import CalcFields.Json.Reader
import CalcFields.Json.Writer
import Mathlib.Data.List.Basic

/-!
A string literal reads back as the string that was written. Its text stays on one line, because a
line feed is a control character and so is escaped.
-/

namespace CalcFields

namespace Json

/-- A character that is escaped by its code is one of the control characters, or is plain. -/
inductive EscapeForm (c : Char) : List Char → Prop where
  | letter {mark : Char} (known : escaped? mark = some c) (plain : mark ≠ 'u') :
    EscapeForm c ['\\', mark]
  | unit {high low : Char} (spelled : hexUnit? '0' '0' high low = some c.toNat)
    (control : c.toNat < 0x20) : EscapeForm c ['\\', 'u', '0', '0', high, low]
  | plain (noQuote : c ≠ '"') (noSlash : c ≠ '\\') (printed : ¬ c.toNat < 0x20) : EscapeForm c [c]

/-- Two hexadecimal digits spell every code of a control character. -/
theorem hexUnit?_hexDigit : ∀ n < 0x20,
    hexUnit? '0' '0' (hexDigit (n / 16)) (hexDigit (n % 16)) = some n := by
  decide

/-- Every character is escaped by a letter or its code, or stands for itself. -/
theorem escapeForm_escape (c : Char) : EscapeForm c (escape c) := by
  unfold escape
  split
  -- Seven characters have a letter of their own.
  iterate 7 exact .letter rfl (by decide)
  rename_i noQuote noSlash _ _ _ _ _
  split
  · -- Other control characters are written by their codes.
    rename_i control
    exact .unit (hexUnit?_hexDigit c.toNat control) control
  · rename_i printed
    exact .plain noQuote noSlash printed

/-- A text goes on well behind an escaped code: it spells another code if it starts like one. -/
def GoesOn (cs : List Char) : Prop :=
  ∀ a b c d rest, cs = '\\' :: 'u' :: a :: b :: c :: d :: rest → (hexUnit? a b c d).isSome = true

/-- A text that starts with an escaped character goes on well. -/
theorem EscapeForm.goesOn {c : Char} {form : List Char} (escaped : EscapeForm c form)
    (rest : List Char) : GoesOn (form ++ rest) := by
  -- Only a code could be taken for the first half of a character.
  intro _ _ _ _ _ same
  cases escaped with
  | letter _ plain =>
    cases same
    exact absurd rfl plain
  | unit spelled _ =>
    cases same
    rw [spelled]
    rfl
  | plain _ noSlash _ =>
    cases same
    exact absurd rfl noSlash

/-- The rest of a string literal goes on well at each of its characters. -/
theorem goesOn_literal (cs rest : List Char) : GoesOn (cs.flatMap escape ++ '"' :: rest) := by
  -- Behind the character stands the closing quote or another form.
  cases cs with
  | nil =>
    intro _ _ _ _ _ same
    cases same
  | cons c cs =>
    rw [List.flatMap_cons, List.append_assoc]
    exact (escapeForm_escape c).goesOn _

/-- A control character is no half of a pair of units. -/
theorem not_half_of_control {n : Nat} (control : n < 0x20) :
    isHighUnit n = false ∧ isLowUnit n = false := by
  -- Control characters lie far below the halves of pairs.
  simp only [isHighUnit, isLowUnit, Bool.and_eq_false_iff, decide_eq_false_iff_not]
  omega

/-- Reading an escaped character takes that one character. -/
theorem EscapeForm.readString {c : Char} {form : List Char} (escaped : EscapeForm c form)
    (done : List Char) {rest : List Char} (further : GoesOn rest) :
    readString true done (form ++ rest) = readString true (c :: done) rest := by
  cases escaped with
  -- A letter behind the slash is looked up.
  | letter known plain =>
    rw [List.cons_append, List.cons_append, List.nil_append, readString.eq_5, known]
    · intro _ _ _ _ _ _ _ _ _ same
      exact absurd same plain
    · intro _ _ _ _ _ same
      exact absurd same plain
  | unit spelled control =>
    obtain ⟨noHigh, noLow⟩ := not_half_of_control control
    -- The reader looks ahead for a second code, and a code that is no first half does not join it.
    by_cases ahead : ∃ a b d e tail, rest = '\\' :: 'u' :: a :: b :: d :: e :: tail
    · obtain ⟨a, b, d, e, tail, rfl⟩ := ahead
      obtain ⟨second, spelledToo⟩ := Option.isSome_iff_exists.1 (further a b d e tail rfl)
      simp [readString.eq_3, spelled, spelledToo, noHigh, noLow, Char.ofNat_toNat]
    · have apart : ∀ (a b d e : Char) (tail : List Char),
          rest = '\\' :: 'u' :: a :: b :: d :: e :: tail → False :=
        fun a b d e tail same => ahead ⟨a, b, d, e, tail, same⟩
      simp [readString.eq_4 _ _ _ _ _ _ _ apart, spelled, noHigh, noLow, Char.ofNat_toNat]
  -- A plain character is read as it stands.
  | plain noQuote noSlash printed =>
    rw [List.cons_append, List.nil_append, readString.eq_6, if_neg printed]
    · exact noQuote
    · intro _ _ _ _ _ _ _ _ _ same
      exact absurd same noSlash
    · intro _ _ _ _ _ same
      exact absurd same noSlash
    · intro _ _ same
      exact absurd same noSlash

/-- Reading the rest of a string literal gives the characters that were written. -/
theorem readString_literal (done cs rest : List Char) :
    readString true done (cs.flatMap escape ++ '"' :: rest) =
      some (some (String.ofList (done.reverse ++ cs)), rest) := by
  -- Induction on the characters that are left.
  induction cs generalizing done with
  | nil => simp [readString.eq_2]
  | cons c cs ih =>
    rw [List.flatMap_cons, List.append_assoc,
      (escapeForm_escape c).readString done (goesOn_literal cs rest), ih]
    simp

/-- A string literal starts with a quote and reads back as its string. -/
theorem toList_writeString (s : String) :
    (writeString s).toList = '"' :: (s.toList.flatMap escape ++ ['"']) := by
  simp [writeString]

/-- No escaped character has a line feed in it. -/
theorem EscapeForm.noLineFeed {c : Char} {form : List Char} (escaped : EscapeForm c form) :
    '\n' ∉ form := by
  intro fed
  cases escaped with
  | letter known _ =>
    -- A line feed is no mark of an escape.
    simp only [List.mem_cons, Char.reduceEq, List.not_mem_nil, or_false, false_or] at fed
    subst fed
    cases known
  | unit spelled _ =>
    simp only [List.mem_cons, Char.reduceEq, List.not_mem_nil, or_false, false_or] at fed
    obtain same | same := fed
    · rw [← same] at spelled
      cases spelled
    · rw [← same] at spelled
      simp [hexUnit?, hexValue?] at spelled
  -- A plain character is no control character.
  | plain _ _ printed =>
    rw [List.mem_singleton] at fed
    subst fed
    exact printed (by decide)

/-- A string literal has no line feed in it. -/
theorem noLineFeed_writeString (s : String) : '\n' ∉ (writeString s).toList := by
  -- Each character is escaped by itself.
  intro fed
  rw [toList_writeString] at fed
  simp only [List.mem_cons, List.mem_append, List.mem_flatMap, Char.reduceEq, List.not_mem_nil,
    or_false, false_or] at fed
  obtain ⟨c, _, inside⟩ := fed
  exact (escapeForm_escape c).noLineFeed inside

end Json

end CalcFields
