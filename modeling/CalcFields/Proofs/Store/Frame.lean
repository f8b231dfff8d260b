import CalcFields.Proofs.Json.Exact
import CalcFields.Proofs.Store.Query

/-!
A write to a line store changes one record: every other line of the file says what it did, as far as
the numbers on it survive being read and written.
-/

namespace CalcFields

namespace Record

variable {record updates : Record} {records updated : List Record} {id : String}

/-- A list with another item at one position has all other items where they were. -/
theorem getElem?_replaced {before after : List Record} (held extended : Record) {i : Nat}
    (beside : i ≠ before.length) :
    (before ++ extended :: after)[i]? = (before ++ held :: after)[i]? := by
  obtain front | back := Nat.lt_or_gt_of_ne beside
  · rw [List.getElem?_append_left front, List.getElem?_append_left front]
  · -- Behind the position both lists go on alike.
    obtain ⟨more, rfl⟩ := Nat.exists_eq_add_of_lt back
    rw [List.getElem?_append_right (by omega), List.getElem?_append_right (by omega),
      show before.length + more + 1 - before.length = more + 1 by omega,
      List.getElem?_cons_succ, List.getElem?_cons_succ]

/-- An update changes the record at one position, which has the id. -/
theorem IsExtended.exists_position (isExtended : IsExtended id updates records updated) :
    ∃ k : Nat, (∃ held : Record, records[k]? = some held ∧ held.hasId id = true) ∧
      ∀ i ≠ k, updated[i]? = records[i]? := by
  -- The extended record keeps its position, and all others stay at theirs.
  obtain ⟨before, held, after, _, has⟩ := isExtended
  refine ⟨before.length, ⟨held, ?_, has⟩, fun i beside => getElem?_replaced held _ beside⟩
  rw [List.getElem?_append_right (Nat.le_refl _), Nat.sub_self, List.getElem?_cons_zero]

/-- A put changes the record at one position, which has the id or is new. -/
theorem IsPut.exists_position {done : String × List Record} (isPut : IsPut record records done) :
    ∃ k, (k = records.length ∨ ∃ held, records[k]? = some held ∧ held.hasId done.1 = true) ∧
      ∀ i ≠ k, done.2[i]? = records[i]? := by
  -- Adding at the end leaves every position that there was, and gives none but the next.
  have added (added : Record) : ∀ i ≠ records.length, (records ++ [added])[i]? = records[i]? := by
    intro i beside
    obtain front | back := Nat.lt_or_gt_of_ne beside
    · -- The record that is extended keeps its position.
      rw [List.getElem?_append_left front]
    · rw [List.getElem?_eq_none back.le, List.getElem?_eq_none]
      rw [List.length_append, List.length_singleton]
      omega
  cases isPut with
  | extended named extends_first =>
    obtain ⟨k, held, others⟩ := extends_first.exists_position
    exact ⟨k, .inr held, others⟩
  | added named others => exact ⟨_, .inl rfl, added record⟩
  | assigned unnamed => exact ⟨_, .inl rfl, added _⟩

/-- A line that is read as a record is the text of a document with the values of the record. -/
theorem exists_spelled_of_read? {line : List Char}
    (read : Record.read? (String.ofList line) = some record) :
    ∃ document, Spelled.parse? line = some document ∧
      Value.ofJson document.toJson = .object record.entries := by
  -- A record is read from an object, which is parsed from its spelling.
  unfold read? at read
  split at read
  · rename_i members accepted
    cases read
    obtain ⟨parsed, _⟩ := Option.filter_eq_some_iff.1 accepted
    rw [Spelled.parse?_toJson, String.toList_ofList, Option.map_eq_some_iff] at parsed
    obtain ⟨document, spelled, rounded⟩ := parsed
    exact ⟨document, spelled, by rw [rounded]; rfl⟩
  · cases read

end Record

namespace LineFile

/-- The lines of a text that are not blank. -/
def filled (text : String) : List (List Char) :=
  (linesOf text.toList).filter fun line => !line.all isBlank

/-- Every record that is written has a line that is not blank. -/
theorem filled_textOf (records : List Record) :
    filled (textOf records) = records.map fun record => record.toJson.write.toList := by
  rw [filled, linesOf_textOf fun record _ => record.noLineFeed_write]
  -- No line of a record is blank.
  refine List.filter_eq_self.2 (List.forall_mem_map.2 fun record _ => ?_)
  rw [Bool.not_eq_true']
  exact record.not_all_isBlank_write

end LineFile

namespace LineStore

variable {store next : LineStore} {collection id : String} {records : List Record}

/-- The lines of the file of a collection that are not blank. -/
def lines (store : LineStore) (collection : String) : List (List Char) :=
  match store.files.node? (LineFile.path ⟨store.directory, collection⟩).names with
  | some (.text content) => LineFile.filled content
  | _ => []

/-- The records of a collection are read from its lines, one from each. -/
theorem forall₂_of_records (loaded : store.records collection = .ok records) :
    List.Forall₂ (fun line record => Record.read? (String.ofList line) = some record)
      (store.lines collection) records := by
  -- Under a name that is none nothing would have been loaded.
  have named : isName collection = true := by
    cases named : isName collection with
    | true => rfl
    | false => cases (records_of_not_isName named).symm.trans loaded
  rw [records_eq named] at loaded
  unfold LineFile.readItems Files.contains Files.read at loaded
  unfold lines
  cases found : store.files.node? (LineFile.path ⟨store.directory, collection⟩).names with
  | none =>
    rw [found] at loaded
    cases loaded
    exact .nil
  | some node =>
    rw [found] at loaded
    cases node with
    | directory => cases loaded
    -- A file of lines holds the records as they are.
    | text content => exact LineFile.forall₂_of_itemsOf loaded

/-- Records that are saved are on the lines of their collection. -/
theorem lines_saveAll (done : store.saveAll collection records = .ok next) :
    next.lines collection = records.map fun record => record.toJson.write.toList := by
  -- The file has been replaced by the text of the records.
  obtain ⟨_, files, written, rfl⟩ := saveAll_eq_ok_iff.1 done
  obtain ⟨_, _, _, replaced⟩ := LineFile.isReplaced_of_writeItems written
  unfold lines
  simp only [replaced.path, LineFile.filled_textOf]

/-- A line that is there before a write is there after it, and says the same when the numbers that
it spells survive. -/
inductive KeepsLine : Option (List Char) → Option (List Char) → Prop where
  | absent : KeepsLine none none
  | present {line after : List Char} {document : Spelled}
      (spelled : Spelled.parse? line = some document)
      (same : (∀ n ∈ document.numbers, n.Survives) →
        (Spelled.parse? after).map Spelled.exact = some document.exact) :
      KeepsLine (some line) (some after)

/-- A line that is read as a record is kept when it is left, and when the record is written. -/
theorem keepsLine_of_read? {line : List Char} {record : Record}
    (read : Record.read? (String.ofList line) = some record) :
    KeepsLine (some line) (some line) ∧
      KeepsLine (some line) (some record.toJson.write.toList) := by
  -- The line spells a document, of which the record is the value.
  obtain ⟨document, spelled, value⟩ := Record.exists_spelled_of_read? read
  refine ⟨.present spelled fun _ => by rw [spelled]; rfl, .present spelled fun survive => ?_⟩
  obtain ⟨same, written⟩ := Spelled.exact_ofValue_ofJson document survive
  rw [value] at same written
  rw [Record.toList_write_toJson, Spelled.parse?_written written, Option.map_some, same]

/-- Each line of a collection is read as the record at the same position. -/
theorem read?_getElem? (loaded : store.records collection = .ok records) (i : Nat) :
    Option.Rel (fun line record => Record.read? (String.ofList line) = some record)
      (store.lines collection)[i]? records[i]? := by
  have each := forall₂_of_records loaded
  -- The lines are taken on their own, since the induction shortens them.
  generalize store.lines collection = lines at each
  clear loaded
  induction each generalizing i with
  -- Induction on the pairs.
  | nil => exact .none
  | cons first _ ih =>
    cases i with
    | zero => exact .some first
    | succ i => exact ih i

/-- The line at a position is kept as it is, and by the text of the record that it is read as. -/
theorem keepsLine_getElem? (loaded : store.records collection = .ok records) (i : Nat) :
    KeepsLine (store.lines collection)[i]? (store.lines collection)[i]? ∧
      KeepsLine (store.lines collection)[i]?
        (records[i]?.map fun record => record.toJson.write.toList) := by
  -- Behind the last line there is no record either.
  have read := read?_getElem? loaded i
  generalize (store.lines collection)[i]? = line at read
  generalize records[i]? = record at read
  cases read with
  | none => exact ⟨.absent, .absent⟩
  | some read => exact keepsLine_of_read? read

/-- A collection that is left keeps its lines. -/
theorem keepsLine_self (loaded : store.records collection = .ok records) (i : Nat) :
    KeepsLine (store.lines collection)[i]? (store.lines collection)[i]? :=
  (keepsLine_getElem? loaded i).1

/-- A collection that is saved keeps the lines of the records that are left. -/
theorem keepsLine_saveAll {updated : List Record} {i : Nat}
    (loaded : store.records collection = .ok records)
    (done : store.saveAll collection updated = .ok next) (left : updated[i]? = records[i]?) :
    KeepsLine (store.lines collection)[i]? (next.lines collection)[i]? := by
  rw [lines_saveAll done, List.getElem?_map, left]
  exact (keepsLine_getElem? loaded i).2

/-- A put into a collection or an update in it that succeeds, and the id that it is about. -/
inductive Writes (store : LineStore) (collection : String) (next : LineStore) : String → Prop where
  | put {record : Record} {id : String}
      (done : RecordStore.put store collection record = .ok (id, next)) :
      Writes store collection next id
  | updateOne {updates : Record} {id : String} {found : Bool}
      (done : RecordStore.updateOne store collection id updates = .ok (found, next)) :
      Writes store collection next id

/-- A write changes at most the line of one record, which has the id or is new. The lines of all
others are where they were, and say the same when their numbers survive. -/
theorem Writes.keeps_lines (writes : Writes store collection next id) :
    ∃ records k, store.records collection = .ok records ∧
      (store.lines collection).length = records.length ∧
      (k = records.length ∨ ∃ held, records[k]? = some held ∧ held.hasId id = true) ∧
      ∀ i ≠ k, KeepsLine (store.lines collection)[i]? (next.lines collection)[i]? := by
  cases writes with
  -- A put writes to one position, or behind all of them.
  | @put record _ done =>
    obtain ⟨records, loaded, rfl, saved⟩ := RecordShelf.exists_of_put done
    obtain ⟨k, position, others⟩ := (Record.isPut_putInto records record).exists_position
    exact ⟨records, k, loaded, (forall₂_of_records loaded).length_eq, position,
      fun i beside => keepsLine_saveAll loaded saved (others i beside)⟩
  | updateOne done =>
    obtain ⟨records, loaded, rfl | ⟨updated, found, saved⟩⟩ := RecordShelf.exists_of_updateOne done
    · -- No record has the id, and nothing is written.
      exact ⟨records, _, loaded, (forall₂_of_records loaded).length_eq, .inl rfl,
        fun i _ => keepsLine_self loaded i⟩
    · obtain ⟨k, held, others⟩ := (Record.isExtended_of_updateFirst? found).exists_position
      exact ⟨records, k, loaded, (forall₂_of_records loaded).length_eq, .inr held,
        fun i beside => keepsLine_saveAll loaded saved (others i beside)⟩

/-- A line store with one order, whose price is spelled on its line. -/
def ofPrice (price : String) : LineStore :=
  ⟨⟨[(["data"], .directory),
    (["data", "orders.jsonl"], .text ("\x7b\"price\":" ++ price ++ ",\"id\":1\x7d\n"))]⟩,
    .ofNames ["data"]⟩

/-- An order with the id two. -/
def secondOrder : Record :=
  .ofList [("id", .ofInt 2)]

/-- The price on a line, taken exactly. -/
def priceOn? (line : Option (List Char)) : Option ℚ :=
  line.bind fun line => (Spelled.parse? line).bind fun document => document.exact.number? "price"

/-- A store that answers a put goes on. -/
theorem exists_next {result : Except StoreError (String × LineStore)}
    (answered : result.map Prod.fst = .ok id) : ∃ next, result = .ok (id, next) := by
  -- The answer was given, so the call did not fail.
  cases result with
  | error fault => cases answered
  | ok put =>
    cases answered
    exact ⟨put.2, rfl⟩

/-- A price of few bits stays as it is when another order is put. -/
theorem Writes.keeps_lines_price : ∃ next,
    RecordStore.put (ofPrice "3") "orders" secondOrder = .ok ("2", next) ∧
      priceOn? (next.lines "orders")[0]? = some 3 := by
  obtain ⟨next, done⟩ := exists_next (show
    (RecordStore.put (ofPrice "3") "orders" secondOrder).map Prod.fst = .ok "2" by decide +kernel)
  refine ⟨next, done, ?_⟩
  obtain ⟨records, k, loaded, _, position, others⟩ := keeps_lines (.put done)
  have ids : ((ofPrice "3").records "orders").map (List.map Record.id?) = .ok [some "1"] := by
    decide +kernel
  rw [loaded] at ids
  have named : records.map Record.id? = [some "1"] := Except.ok.inj ids
  -- The order that is there has another id than the one that is put.
  have beside : 0 ≠ k := by
    rintro rfl
    obtain empty | ⟨held, found, has⟩ := position
    · rw [← List.length_map Record.id?, named] at empty
      cases empty
    · have first := congrArg (·[0]?) named
      simp only [List.getElem?_map, found, Option.map_some, Record.hasId_iff.1 has] at first
      exact absurd first (by decide)
  have kept := others 0 beside
  have before : ((ofPrice "3").lines "orders")[0]? =
      some "\x7b\"price\":3,\"id\":1\x7d".toList := by
    decide +kernel
  rw [before] at kept
  generalize (next.lines "orders")[0]? = line at kept
  cases kept with
  | @present _ after document spelled same =>
    have numbers : (Spelled.parse? "\x7b\"price\":3,\"id\":1\x7d".toList).map Spelled.numbers =
        some [.ofInt 3, .ofInt 1] := by
      decide +kernel
    have price : priceOn? (some "\x7b\"price\":3,\"id\":1\x7d".toList) = some 3 := by
      decide +kernel
    rw [spelled] at numbers
    -- Both numbers are whole and small enough.
    have survive : ∀ n ∈ document.numbers, n.Survives := by
      rw [Option.some.inj numbers, List.forall_mem_cons, List.forall_mem_singleton]
      exact ⟨SpelledNumber.survives_ofInt (by decide), SpelledNumber.survives_ofInt (by decide)⟩
    obtain ⟨later, read, agree⟩ := Option.map_eq_some_iff.1 (same survive)
    rw [priceOn?, Option.bind_some, spelled, Option.bind_some] at price
    rw [priceOn?, Option.bind_some, read, Option.bind_some, agree, price]

/-- A price that is no double is rounded when another order is put. -/
theorem put_beside_long_price : ∃ next,
    RecordStore.put (ofPrice "9007199254740993") "orders" secondOrder = .ok ("2", next) ∧
      priceOn? ((ofPrice "9007199254740993").lines "orders")[0]? = some 9007199254740993 ∧
      priceOn? (next.lines "orders")[0]? = some 9007199254740992 := by
  -- The second put writes the first line again, with the number that was read.
  obtain ⟨next, done⟩ := exists_next (show
    (RecordStore.put (ofPrice "9007199254740993") "orders" secondOrder).map Prod.fst = .ok "2" by
      decide +kernel)
  have after : (RecordStore.put (ofPrice "9007199254740993") "orders" secondOrder).map
      (fun put => priceOn? (put.2.lines "orders")[0]?) = .ok (some 9007199254740992) := by
    decide +kernel
  rw [done] at after
  exact ⟨next, done, by decide +kernel, Except.ok.inj after⟩

end LineStore

end CalcFields
