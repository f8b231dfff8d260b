import CalcFields.Proofs.Text.CodeSet
import CalcFields.Text.Fold
import CalcFields.Text.Property
import CalcFields.Text.Property.Word
import Mathlib

/-!
The tables list ranges that are apart, so that a word character is one that its table lists, and the
sets of the properties can be searched and combined.

A literal text is taken apart into its characters at once, while reading it again as a text decodes
its bytes one by one. The tables are therefore checked on the characters that spell their lines.
-/

namespace CalcFields

/-- Lines are spelled by lists of characters, one for each. -/
abbrev SpelledBy (lines : List String) (spellings : List (List Char)) : Prop :=
  List.Forall₂ (fun line cs => line = String.ofList cs) lines spellings

/-- The words of lines that are given by their characters. -/
def wordsIn (spellings : List (List Char)) : List (List Char) :=
  spellings.flatMap (splitAtEvery ' ')

/-- The words of lines are the words of the characters that spell them. -/
theorem wordsOf_eq {lines : List String} {spellings : List (List Char)}
    (spelled : SpelledBy lines spellings) : wordsOf lines = wordsIn spellings := by
  induction spelled with
  | nil => rfl
  | cons same _ ih =>
    -- A text made of characters gives them back.
    rw [wordsOf, wordsIn, List.flatMap_cons, List.flatMap_cons, same, String.toList_ofList]
    exact congrArg _ ih

/-- The ranges of lines are read from the characters that spell them. -/
theorem readRanges_eq {lines : List String} {spellings : List (List Char)}
    (spelled : SpelledBy lines spellings) :
    readRanges lines = (wordsIn spellings).map readRange := by
  rw [readRanges, wordsOf_eq spelled]

/-- The rows of a table list ranges that are apart when one pass over each of them finds so. -/
theorem apart_of_spelled {rows : List PropertyRow} {spellings : List (List (List Char))}
    (spelled : List.Forall₂ (fun row lines => SpelledBy row.lines lines) rows spellings)
    (checked : (spellings.all fun lines => apartFrom 0 ((wordsIn lines).map readRange)) = true) :
    ∀ row ∈ rows, Apart (readRanges row.lines) := by
  -- Induction on the rows, along with their spellings.
  induction spelled with
  | nil => exact List.forall_mem_nil _
  | cons same _ ih =>
    rw [List.all_cons, Bool.and_eq_true, apartFrom_zero_iff] at checked
    refine List.forall_mem_cons.2 ⟨?_, ih checked.2⟩
    rw [readRanges_eq same]
    exact checked.1

/-- The ranges of the word characters are apart, and these are the ones below 128. -/
theorem wordLines_spec : Apart (readRanges wordLines) ∧
    (readRanges wordLines).filter (fun range => range.first < 128) =
      [⟨0x30, 0x39⟩, ⟨0x41, 0x5A⟩, ⟨0x5F, 0x5F⟩, ⟨0x61, 0x7A⟩] := by
  -- Both facts are decided on the characters of the table.
  rw [readRanges_eq (by repeat' constructor), ← apartFrom_zero_iff]
  decide +kernel

/-- The ranges of each yes-or-no property are apart. -/
theorem apart_flagRows : ∀ row ∈ flagRows, Apart (readRanges row.lines) := by
  refine apart_of_spelled (by repeat' constructor) ?_
  decide +kernel

/-- The ranges of each general category are apart. -/
theorem apart_categoryRows : ∀ row ∈ categoryRows, Apart (readRanges row.lines) := by
  refine apart_of_spelled (by repeat' constructor) ?_
  decide +kernel

/-- The ranges of each script are apart. -/
theorem apart_scriptRows : ∀ row ∈ scriptRows, Apart (readRanges row.lines) := by
  refine apart_of_spelled (by repeat' constructor) ?_
  decide +kernel

/-- The ranges of the characters that are used in each script are apart. -/
theorem apart_scriptExtensionRows :
    ∀ row ∈ scriptExtensionRows, Apart (readRanges row.lines) := by
  refine apart_of_spelled (by repeat' constructor) ?_
  decide +kernel

/-- All tables of ranges, each by its lines. -/
def rangeTables : List (List String) :=
  wordLines ::
    (flagRows ++ categoryRows ++ scriptRows ++ scriptExtensionRows).map PropertyRow.lines

/-- In every table each range ends no sooner than it starts and ends before the next one starts. -/
theorem apart_rangeTables : ∀ lines ∈ rangeTables, Apart (readRanges lines) := by
  simp only [rangeTables, List.forall_mem_cons, List.forall_mem_map, List.forall_mem_append]
  -- One table stands alone, and the others come in rows.
  refine ⟨wordLines_spec.1, ⟨⟨?_, ?_⟩, ?_⟩, ?_⟩
  · exact apart_flagRows
  · exact apart_categoryRows
  · exact apart_scriptRows
  · exact apart_scriptExtensionRows

/-- A run that a case table can list: it ends no sooner than it starts, takes steps and has an
image. -/
def CaseRun.isProper (run : CaseRun) : Bool :=
  run.first ≤ run.last && run.last ≤ CodeSet.greatest && 0 < run.step && !run.image.isEmpty

/-- Every word of a case table is read as a run. -/
theorem isProper_caseRuns : ∀ lines ∈ [upperLines, lowerLines, foldLines],
    ((caseRuns lines).all CaseRun.isProper) = true := by
  have read {lines : List String} {spellings : List (List Char)}
      (spelled : SpelledBy lines spellings)
      (checked : (((wordsIn spellings).map CaseRun.read).all CaseRun.isProper) = true) :
      ((caseRuns lines).all CaseRun.isProper) = true := by
    rw [caseRuns, wordsOf_eq spelled]
    exact checked
  simp only [List.forall_mem_cons, List.not_mem_nil, false_implies, implies_true, and_true]
  refine ⟨?_, ?_, ?_⟩
  all_goals refine read (by repeat' constructor) ?_
  all_goals decide +kernel

/-- The ranges that start below a bound have all of the code points below it. -/
theorem CodeSet.has_filter_first {ranges : List CodeRange} {bound code : Nat}
    (below : code < bound) :
    Has (ranges.filter fun range => range.first < bound) code ↔ Has ranges code := by
  simp only [Has, List.mem_filter, decide_eq_true_eq, and_assoc]
  refine exists_congr fun range => and_congr_right fun _ => ?_
  -- A range starts no later than the code points that it holds.
  refine and_iff_right_of_imp fun holds => ?_
  have := (CodeRange.holds_iff.1 holds).1
  omega

/-- Letters, digits and the underscore of the first 128 characters by their code points. -/
theorem isAlphanum_or_underscore_iff {c : Char} : (c.isAlphanum || c == '_') = true ↔
    (0x30 ≤ c.toNat ∧ c.toNat ≤ 0x39) ∨ (0x41 ≤ c.toNat ∧ c.toNat ≤ 0x5A) ∨
      (0x5F ≤ c.toNat ∧ c.toNat ≤ 0x5F) ∨ (0x61 ≤ c.toNat ∧ c.toNat ≤ 0x7A) := by
  -- The underscore is an interval of one.
  have underscore : c = '_' ↔ c.toNat = 0x5F := by
    constructor
    · rintro rfl
      rfl
    · exact fun same => Char.toNat_inj.1 same
  simp only [Char.isAlphanum, Char.isAlpha, Char.isUpper, Char.isLower, Char.isDigit,
    Bool.or_eq_true, Bool.and_eq_true, beq_iff_eq, underscore, decide_eq_true_eq, ge_iff_le,
    UInt32.le_iff_toNat_le, ← Char.toNat_val]
  -- The classes of the core library are intervals as well, in another order.
  simp only [Char.reduceVal, UInt32.reduceToNat]
  omega

/-- A character is a word character exactly when the table of the word characters lists it. -/
theorem isWordChar_iff {c : Char} :
    isWordChar c = true ↔ CodeSet.Has (readRanges wordLines) c.toNat := by
  obtain ⟨apart, narrow⟩ := wordLines_spec
  rw [isWordChar, wordRanges]
  generalize readRanges wordLines = ranges at apart narrow ⊢
  split
  · -- The first 128 characters are told without the table, which lists the same of them.
    rename_i below
    rw [isAlphanum_or_underscore_iff, ← CodeSet.has_filter_first below, narrow]
    simp only [CodeSet.has_cons, CodeSet.has_nil, or_false]
  · exact apart.inRanges_iff

/-- A vowel sign beyond the first ranges is a word character. -/
example : isWordChar 'ா' = true := by
  rw [isWordChar_iff, readRanges_eq (by repeat' constructor)]
  exact ⟨⟨0xBBE, 0xBC2⟩, by decide +kernel, rfl⟩

section Lookup

variable {key : List Char} {set : CodeSet}

/-- A set that is found in a table is one of those that the table lists. -/
theorem apart_of_findRow? {rows : List PropertyRow}
    (each : ∀ row ∈ rows, Apart (readRanges row.lines)) (found : findRow? rows key = some set) :
    Apart set := by
  obtain ⟨row, named, rfl⟩ := Option.map_eq_some_iff.1 found
  exact each row (List.mem_of_find?_eq_some named)

/-- The set of a general category or of a group of them has its ranges apart. -/
theorem apart_of_categorySet? (found : categorySet? key = some set) : Apart set := by
  unfold categorySet? at found
  split at found
  · -- Any code point at all is one range.
    cases found
    exact apartFrom_zero_iff.1 rfl
  split at found
  · cases found
    exact apartFrom_zero_iff.1 rfl
  split at found
  · -- What is assigned is the complement of a category.
    obtain ⟨unassigned, listed, rfl⟩ := Option.map_eq_some_iff.1 found
    exact CodeSet.apart_complement (apart_of_findRow? apart_categoryRows listed)
  split at found
  · -- A group joins categories, each of which is proper.
    cases found
    refine CodeSet.apart_ofRanges fun range member => ?_
    obtain ⟨name, -, inside⟩ := List.mem_flatMap.1 member
    cases listed : findRow? categoryRows (propertyKey name.toList) with
    | none =>
      rw [listed] at inside
      cases inside
    | some category =>
      rw [listed] at inside
      have apart := apart_of_findRow? apart_categoryRows listed
      exact CodeSet.proper_of_apart apart range inside
  · exact apart_of_findRow? apart_categoryRows found

/-- A property that a name alone gives has its ranges apart. -/
theorem apart_of_namedSet? {name : List Char} (found : namedSet? name = some set) : Apart set := by
  simp only [namedSet?, Option.orElse_eq_orElse, Option.orElse_eq_or, Option.or_eq_some_iff]
    at found
  -- A yes-or-no property comes before a category, and a script is tried last.
  rcases found with flag | ⟨-, category | ⟨-, script⟩⟩
  · split at flag
    · cases flag
    · exact apart_of_findRow? apart_flagRows flag
  · exact apart_of_categorySet? category
  · exact apart_of_findRow? apart_scriptRows script

/-- A property with a value has its ranges apart. -/
theorem apart_of_valuedSet? {property value : List Char}
    (found : valuedSet? property value = some set) : Apart set := by
  -- The property says which table is looked up.
  unfold valuedSet? at found
  split at found
  · exact apart_of_categorySet? found
  · exact apart_of_categorySet? found
  · exact apart_of_findRow? apart_scriptRows found
  · exact apart_of_findRow? apart_scriptRows found
  · exact apart_of_findRow? apart_scriptExtensionRows found
  · exact apart_of_findRow? apart_scriptExtensionRows found
  · cases found

end Lookup

end CalcFields
