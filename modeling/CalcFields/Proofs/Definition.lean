import CalcFields.Proofs.Json.Whole
import CalcFields.Proofs.Store.Lines

/-!
A definition reads back from its line as it is: a column that is left out is one that reads as
absent. The place of a definition has to fit 64 bits, and every line that reads as one has such a
place.
-/

namespace CalcFields

/-- The word of a status names it. -/
theorem Status.ofWord?_word (status : Status) : Status.ofWord? status.word = some status := by
  cases status <;> decide

namespace Definition

/-- The columns of a definition hold texts and whole numbers of 64 bits. -/
inductive IsColumn : Json → Prop where
  | text (s : String) : IsColumn (.string s)
  | place {n : Int} (low : minInt64 ≤ n) (high : n ≤ maxInt64) : IsColumn (.integer n)

/-- The document of a column, with a number as its text spells it. -/
def spelledColumn : Json → Spelled
  | .string s => .string s
  | .integer n => .number (.ofInt n)
  | _ => .null

namespace IsColumn

variable {item : Json}

/-- The text of a column reads as its document. -/
theorem readsAs (column : IsColumn item) :
    Spelled.ReadsAs item.write.toList (spelledColumn item) := by
  -- A column is a text or a whole number.
  cases column with
  | text s => exact Spelled.readsAs_string s
  | place => exact Spelled.readsAs_number (Spelled.readNumber_toString _)

/-- A column is its document with the number rounded. -/
theorem toJson_spelledColumn (column : IsColumn item) : (spelledColumn item).toJson = item := by
  cases column with
  | text s => rfl
  -- A place has sixty-four bits, and such an integer comes back.
  | place low high =>
    simp only [minInt64, maxInt64] at low high
    exact SpelledNumber.toJson_ofInt low (by omega)

/-- The text of a column has no line feed in it. -/
theorem noLineFeed (column : IsColumn item) : '\n' ∉ item.write.toList := by
  -- Text is escaped, and digits are none.
  cases column with
  | text s => exact Json.noLineFeed_writeString s
  | place => exact Json.noLineFeed_integer _

end IsColumn

/-- A definition can be saved on a line: its place fits 64 bits. -/
def FitsLine (d : Definition) : Prop :=
  ∀ place ∈ d.sort, minInt64 ≤ place ∧ place ≤ maxInt64

variable {d : Definition}

/-- A definition without a place can be saved. -/
theorem fitsLine_of_sort_eq_none (unplaced : d.sort = none) : d.FitsLine := by
  rw [FitsLine, unplaced]
  exact fun _ placed => nomatch placed

/-- The document of a definition has its columns as members. -/
theorem FitsLine.exists_columns (fits : d.FitsLine) :
    ∃ columns, d.toJson = .object columns ∧ ∀ e ∈ columns, IsColumn e.2 := by
  -- The columns that may be missing are the place and the description.
  refine ⟨_, rfl, List.forall_mem_append.2 ⟨List.forall_mem_append.2 ⟨?_, ?_⟩, ?_⟩⟩
  · simp [IsColumn.text]
  · cases place : d.sort with
    | none => simp
    | some n =>
      obtain ⟨low, high⟩ := fits n place
      simp [IsColumn.place low high]
  · cases d.description <;> simp [IsColumn.text]

/-- The text of a definition is the text of its document. -/
theorem FitsLine.parse?_write (fits : d.FitsLine) : Json.parse? d.toJson.write = some d.toJson := by
  obtain ⟨columns, whole, each⟩ := fits.exists_columns
  have reads : Spelled.ReadsAs (Json.object columns).write.toList
      (.object (columns.map fun e => (e.1, spelledColumn e.2))) := by
    rw [Json.toList_write_object]
    exact Spelled.readsAs_members fun e member => (each e member).readsAs
  -- No column changes on the way through its spelling.
  have rounded : (columns.map fun e => (e.1, (spelledColumn e.2).toJson)) = columns := by
    refine (List.map_congr_left fun e member => ?_).trans (List.map_id columns)
    exact Prod.ext rfl (each e member).toJson_spelledColumn
  -- An object reads when its columns do.
  rw [whole, Spelled.parse?_toJson, reads.parse?_eq, Option.map_some, Spelled.toJson,
    Spelled.membersToJson_eq_map, List.map_map]
  exact congrArg (fun members => some (Json.object members)) rounded

/-- The document of a definition reads as the definition. -/
theorem FitsLine.ofJson?_toJson (fits : d.FitsLine) : ofJson? d.toJson = some d := by
  -- Each combination of missing columns is read column by column.
  obtain ⟨collection, field, formula, status, sort, description⟩ := d
  cases sort with
  | none =>
    cases description <;>
      simp [toJson, ofJson?, repeatsColumn, columns, readColumns, readColumn, textColumn?,
        statusColumn?, descriptionColumn?, Status.ofWord?_word, blank]
  | some n =>
    obtain ⟨low, high⟩ := fits n rfl
    cases description <;>
      simp [toJson, ofJson?, repeatsColumn, columns, readColumns, readColumn, textColumn?,
        statusColumn?, sortColumn?, descriptionColumn?, Status.ofWord?_word, blank, low, high]

/-- A definition whose place fits 64 bits reads back from its line. -/
theorem FitsLine.readsBack (fits : d.FitsLine) : LineItem.ReadsBack d d := by
  -- The line is one line, is not blank, and reads as what was written.
  obtain ⟨columns, whole, each⟩ := fits.exists_columns
  refine ⟨?_, ?_, ?_⟩
  · show '\n' ∉ d.toJson.write.toList
    rw [whole, Json.toList_write_object]
    exact Json.noLineFeed_members _ fun e member => (each e member).noLineFeed
  · show d.toJson.write.toList.all isBlank = false
    rw [whole, Json.toList_write_object]
    rfl
  · show (Json.parse? d.toJson.write).bind ofJson? = some d
    rw [fits.parse?_write]
    exact fits.ofJson?_toJson

/-- A column keeps the place of a definition within 64 bits. -/
theorem FitsLine.readColumn {next : Definition} (fits : d.FitsLine) {column : String} {item : Json}
    (read : d.readColumn column item = some next) : next.FitsLine := by
  -- Only the column of the place touches what has to fit.
  unfold Definition.readColumn at read
  split at read
  case h_5 =>
    obtain ⟨place, found, rfl⟩ := Option.map_eq_some_iff.1 read
    intro n here
    -- A place that is read is null or fits.
    unfold sortColumn? at found
    split at found
    · cases found
      cases here
    · split at found
      · rename_i within
        cases found
        cases here
        simpa using within
      · cases found
    · cases found
  case h_7 =>
    cases read
    exact fits
  all_goals
    obtain ⟨_, _, rfl⟩ := Option.map_eq_some_iff.1 read
    exact fits

/-- Columns keep the place of a definition within 64 bits. -/
theorem FitsLine.readColumns {last : Definition} (fits : d.FitsLine)
    {columns : List (String × Json)} (read : d.readColumns columns = some last) :
    last.FitsLine := by
  -- Induction on the columns that are left.
  induction columns generalizing d with
  | nil =>
    cases read
    exact fits
  | cons entry rest ih =>
    obtain ⟨next, first, later⟩ := Option.bind_eq_some_iff.1 read
    exact ih (fits.readColumn first) later

/-- Every line that reads as a definition has a place that fits 64 bits. -/
theorem fitsLine_of_read? {line : String} (read : read? line = some d) : d.FitsLine := by
  -- Reading starts from a blank definition, which has no place.
  have blankFits : blank.FitsLine := fitsLine_of_sort_eq_none rfl
  obtain ⟨document, _, shaped⟩ := Option.bind_eq_some_iff.1 read
  unfold ofJson? at shaped
  split at shaped
  · split at shaped
    · cases shaped
    · exact blankFits.readColumns shaped
  · split at shaped
    · exact blankFits.readColumns shaped
    · cases shaped
  · cases shaped

/-- Definitions that fit their lines are read from them as they are. -/
theorem itemsOf_textOf {definitions : List Definition} (fit : ∀ d ∈ definitions, d.FitsLine)
    (file : LineFile) (number : Nat) :
    file.itemsOf number (linesOf (LineFile.textOf definitions).toList) = .ok definitions := by
  -- Each definition reads from the line that it was written on.
  have each : ∀ d ∈ definitions, LineItem.ReadsBack d (id d) := fun d member =>
    (fit d member).readsBack
  rw [LineFile.itemsOf_textOf file number each, List.map_id]

end Definition

end CalcFields
