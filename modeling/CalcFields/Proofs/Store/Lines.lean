import CalcFields.Proofs.Json.RoundTrip
import CalcFields.Store.Lines

/-!
The text of records reads back as the records, each from its own line.
-/

namespace CalcFields

/-- A line without a line feed is cut off at the line feed that ends it. -/
theorem linesOf_append {line : List Char} (noLineFeed : '\n' ∉ line) (rest : List Char) :
    linesOf (line ++ '\n' :: rest) = line :: linesOf rest := by
  -- Induction on the line, up to its line feed.
  induction line with
  | nil => rfl
  | cons c line ih =>
    rw [List.mem_cons, not_or] at noLineFeed
    rw [List.cons_append, linesOf, if_neg (Ne.symm noLineFeed.1), ih noLineFeed.2]

/-- An item has a line of its own that holds something, and the line reads as an item. -/
structure LineItem.ReadsBack {α : Type} [LineItem α] (item read : α) : Prop where
  single : '\n' ∉ (LineItem.toLine item).toList
  filled : (LineItem.toLine item).toList.all isBlank = false
  reads : LineItem.ofLine? (LineItem.toLine item) = some read

namespace LineFile

section Items

variable {α : Type} [LineItem α] {items : List α}

/-- Items are written on a line each. -/
theorem linesOf_textOf (single : ∀ item ∈ items, '\n' ∉ (LineItem.toLine item).toList) :
    linesOf (textOf items).toList = items.map fun item => (LineItem.toLine item).toList := by
  -- Induction on the items.
  induction items with
  | nil => rfl
  | cons item rest ih =>
    obtain ⟨first, others⟩ := List.forall_mem_cons.1 single
    -- The text of items goes on with that of each item and a line feed.
    have grown : (textOf (item :: rest)).toList =
        (LineItem.toLine item).toList ++ '\n' :: (textOf rest).toList := by
      simp [textOf]
    rw [grown, linesOf_append first, ih others, List.map_cons]

/-- Items are read from the text of their lines, as each line reads. -/
theorem itemsOf_textOf {read : α → α} (file : LineFile) (number : Nat)
    (each : ∀ item ∈ items, LineItem.ReadsBack item (read item)) :
    file.itemsOf number (linesOf (textOf items).toList) = .ok (items.map read) := by
  -- Induction on the items, one line each.
  rw [linesOf_textOf fun item member => (each item member).single]
  induction items generalizing number with
  | nil => rfl
  | cons item rest ih =>
    obtain ⟨first, others⟩ := List.forall_mem_cons.1 each
    rw [List.map_cons, itemsOf, String.ofList_toList, first.filled, first.reads]
    simp only [ih (number + 1) others]
    rfl

/-- Items are read from the lines that are not blank, one from each. -/
theorem forall₂_of_itemsOf {file : LineFile} {number : Nat} {lines : List (List Char)}
    (read : file.itemsOf number lines = .ok items) :
    List.Forall₂ (fun line item => LineItem.ofLine? (String.ofList line) = some item)
      (lines.filter fun line => !line.all isBlank) items := by
  -- A blank line is passed over; any other one gives its item, and the rest go on behind it.
  induction lines generalizing number items with
  | nil =>
    cases read
    exact .nil
  | cons line lines ih =>
    rw [itemsOf] at read
    split at read
    · rename_i blank
      rw [List.filter_cons_of_neg (by rw [blank]; decide)]
      exact ih read
    · rename_i solid
      rw [List.filter_cons_of_pos (by simpa using solid)]
      split at read
      · cases read
      · rename_i item found
        cases later : (file.itemsOf (number + 1) lines : Except StoreError (List α)) with
        | error e =>
          rw [later] at read
          cases read
        | ok others =>
          rw [later] at read
          cases read
          exact .cons found (ih later)

/-- What holds of every item that a line reads as holds of the items that lines hold. -/
theorem forall_of_itemsOf {P : α → Prop}
    (each : ∀ line item, LineItem.ofLine? line = some item → P item) {file : LineFile}
    {number : Nat} {lines : List (List Char)} (read : file.itemsOf number lines = .ok items) :
    ∀ item ∈ items, P item := by
  -- Every item comes from some line.
  have pairs := forall₂_of_itemsOf read
  clear read
  generalize lines.filter _ = solid at pairs
  induction pairs with
  | nil => exact List.forall_mem_nil _
  | cons found _ ih => exact List.forall_mem_cons.2 ⟨each _ _ found, ih⟩

/-- What holds of every item that a line reads as holds of the items of a file. -/
theorem forall_of_readItems {P : α → Prop}
    (each : ∀ line item, LineItem.ofLine? line = some item → P item) {file : LineFile}
    {files : Files} (read : file.readItems files = .ok items) : ∀ item ∈ items, P item := by
  unfold readItems at read
  split at read
  · split at read
    · cases read
    · exact forall_of_itemsOf each read
  · -- A file that does not exist holds nothing.
    cases read
    exact List.forall_mem_nil _

end Items

end LineFile

/-- A record can be saved on a line: its fields nest within the limit of documents, and each of its
numbers reads back, but for the sign of a zero. -/
structure Record.FitsLine (record : Record) : Prop where
  nests : ∀ e ∈ record.entries, e.2.Nests (Json.depthLimit - 1)
  rereads : ∀ e ∈ record.entries, ∀ x ∈ e.2.numbers, Rereads x

/-- The line of a record is not blank. -/
theorem Record.not_all_isBlank_write (record : Record) :
    record.toJson.write.toList.all isBlank = false := by
  -- It starts with a brace.
  obtain ⟨tail, starts⟩ := record.write_toJson_starts
  rw [starts]
  rfl

/-- A record that fits its line reads back without signs at its zeros. -/
theorem Record.FitsLine.readsBack {record : Record} (fits : record.FitsLine) :
    LineItem.ReadsBack record record.unsigned where
  single := record.noLineFeed_write
  filled := record.not_all_isBlank_write
  reads := Record.read?_write fits.nests fits.rereads

/-- Every record of a file nests within the limit of documents. -/
theorem LineFile.nests_of_readItems {file : LineFile} {files : Files} {records : List Record}
    (read : file.readItems files = .ok records) :
    ∀ record ∈ records, ∀ e ∈ record.entries, e.2.Nests (Json.depthLimit - 1) :=
  forall_of_readItems (fun _ _ found => Record.nests_of_read? found) read

end CalcFields
