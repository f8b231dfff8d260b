import CalcFields.Proofs.Batch.Pages
import CalcFields.Proofs.Store.Keeping
import CalcFields.Store.Refusal

/-!
A keeping shelf serves batches, and so does a refusing store in front of one. An update rewrites the
whole collection, of which only the record of its id changes.
-/

namespace CalcFields

variable {σ : Type} [RecordShelf σ] [KeepingShelf σ]

/-- A record as a shelf gives it back. -/
def Record.kept (σ : Type) [RecordShelf σ] [KeepingShelf σ] (record : Record) : Record :=
  record.mapValues fun _ v => KeepingShelf.kept σ v

/-- A record with updates as a shelf gives it back. -/
def Record.updated (σ : Type) [RecordShelf σ] [KeepingShelf σ] (record updates : Record) : Record :=
  Record.kept σ (record.extend updates)

/-- A value that a shelf gives back as it is. -/
structure GivenBack (σ : Type) [RecordShelf σ] [KeepingShelf σ] (v : Value) : Prop where
  shaped : KeepingShelf.Shaped σ v
  restores : ∀ x ∈ v.numbers, KeepingShelf.Restores σ x

/-- A value that a shelf saves and gives back but for the sign of a zero. -/
structure Saved (σ : Type) [RecordShelf σ] [KeepingShelf σ] (v : Value) : Prop where
  shaped : KeepingShelf.Shaped σ v
  restores : ∀ x ∈ v.numbers, KeepingShelf.Restores σ x ∨ x = -0.0

/-- What is given back as it is is saved. -/
theorem GivenBack.saved {v : Value} (given : GivenBack σ v) : Saved σ v :=
  ⟨given.shaped, fun x member => .inl (given.restores x member)⟩

/-- What is saved is given back as it is from then on. -/
theorem Saved.givenBack {v : Value} (saved : Saved σ v) : GivenBack σ (KeepingShelf.kept σ v) :=
  ⟨KeepingShelf.shaped_kept saved.shaped, KeepingShelf.restores_kept saved.restores⟩

/-- A record whose fields are given back as they are is given back as it is. -/
theorem Record.kept_eq_self {record : Record} (given : ∀ e ∈ record.entries, GivenBack σ e.2) :
    record.kept σ = record :=
  FieldMap.mapValues_eq_self fun e member => KeepingShelf.kept_eq_self (given e member).restores

/-- Records whose fields are given back as they are are given back as they are. -/
theorem Record.map_kept_eq_self {records : List Record}
    (given : ∀ r ∈ records, ∀ e ∈ r.entries, GivenBack σ e.2) :
    records.map (Record.kept σ) = records := by
  rw [List.map_congr_left fun r member => Record.kept_eq_self (given r member), List.map_id']

/-- Updates that a shelf can write to a record: they leave its id, and their values are saved. -/
structure FitUpdates (σ : Type) [RecordShelf σ] [KeepingShelf σ] (updates : Record) : Prop where
  noId : updates.get? idField = none
  saved : ∀ e ∈ updates.entries, Saved σ e.2

/-- What a shelf holds during a batch: the records of the collection, with distinct ids and values
that are given back as they are, while the other collections are as they were at first. -/
structure ShelfHolds (initial : σ) (collection : String) (able : Prop) (store : σ)
    (records : List Record) : Prop where
  loaded : RecordShelf.load store collection = .ok records
  distinct : DistinctIds records
  writable : able → RecordShelf.Writable store collection
  beside : ∀ other, other ≠ collection →
    RecordShelf.load store other = RecordShelf.load initial other
  given : ∀ record ∈ records, ∀ e ∈ record.entries, GivenBack σ e.2

namespace ShelfHolds

variable {initial store : σ} {collection : String} {able : Prop} {records : List Record}
  {record updates : Record} {id : String}

/-- An extended record is given back with its id. -/
theorem id?_updated (holds : ShelfHolds initial collection able store records)
    (member : record ∈ records) (fit : FitUpdates σ updates) :
    (record.updated σ updates).id? = record.id? := by
  -- The updates do not touch the identity, and what is kept gives the identity back.
  have same : (record.updated σ updates).get? idField = record.get? idField := by
    rw [Record.updated, Record.kept, FieldMap.get?_mapValues, FieldMap.get?_extend, fit.noId,
      Option.none_or]
    cases found : record.get? idField with
    | none => rfl
    | some v =>
      have given := holds.given record member _ (FieldMap.get?_eq_some_iff.1 found)
      rw [Option.map_some, KeepingShelf.kept_eq_self given.restores]
  rw [Record.id?, Record.id?, same]

/-- What a record that is held has with updates can be saved. -/
theorem saved_extend (holds : ShelfHolds initial collection able store records)
    (member : record ∈ records) (fit : FitUpdates σ updates) :
    ∀ e ∈ (record.extend updates).entries, Saved σ e.2 := by
  -- An entry comes from the updates or was there before, and both can be saved.
  intro e inside
  obtain fresh | held := FieldMap.mem_entries_extend inside
  · exact fit.saved e fresh
  · exact (holds.given record member e held).saved

/-- A record of the id is given back with its updates, and any other as it is. -/
theorem kept_update (holds : ShelfHolds initial collection able store records)
    (member : record ∈ records) (id : String) (updates : Record) :
    Record.kept σ (if record.hasId id then record.extend updates else record) =
      if record.hasId id then record.updated σ updates else record := by
  -- A record that is not extended was loaded as it is.
  split
  · rfl
  · exact Record.kept_eq_self (holds.given record member)

/-- An update changes the record of its id and leaves all else. -/
theorem exists_updateOne (holds : ShelfHolds initial collection able store records)
    (member : record ∈ records) (has : record.hasId id = true) (enabled : able)
    (fits : FitUpdates σ updates) :
    ∃ next, RecordShelf.updateOne store collection id updates = .ok (true, next) ∧
      ShelfHolds initial collection able next
        (records.map fun r => if r.hasId id then r.updated σ updates else r) := by
  -- The store finds the record by its id and saves the whole list with that one extended.
  have updated := Record.updateFirst?_of_distinct holds.distinct member has updates
  obtain ⟨next, saved⟩ := holds.writable enabled
    (records.map fun r => if r.hasId id then r.extend updates else r)
  -- Every value of the new list can be saved.
  have fit : ∀ r ∈ records.map (fun r => if r.hasId id then r.extend updates else r),
      ∀ e ∈ r.entries, Saved σ e.2 := by
    rw [List.forall_mem_map]
    intro r memberToo
    split
    · exact holds.saved_extend memberToo fits
    · exact fun e inside => (holds.given r memberToo e inside).saved
  -- So the next load gives the new list, each value as the store keeps it.
  have loaded := KeepingShelf.load_save saved fun r memberToo e inside =>
    ⟨(fit r memberToo e inside).shaped, (fit r memberToo e inside).restores⟩
  have kept :
      (records.map fun r => if r.hasId id then r.extend updates else r).map (Record.kept σ) =
      records.map fun r => if r.hasId id then r.updated σ updates else r := by
    rw [List.map_map]
    exact List.map_congr_left fun r memberToo => holds.kept_update memberToo id updates
  rw [← kept]
  refine ⟨next, ?_, loaded, ?_, fun _ => KeepingShelf.writable_save saved, ?_, ?_⟩
  · rw [RecordShelf.updateOne_eq_some holds.loaded updated, saved]
    rfl
  · -- No record takes on another id, so ids stay distinct.
    rw [kept]
    refine Record.distinct_map holds.distinct fun r memberToo => ?_
    split
    · exact holds.id?_updated memberToo fits
    · rfl
  · -- Saving one collection does not disturb another.
    intro other differ
    rw [KeepingShelf.load_save_of_ne saved differ, holds.beside other differ]
  · rw [List.forall_mem_map]
    intro r memberToo e inside
    obtain ⟨held, heldIn, rfl⟩ := List.mem_map.1 inside
    exact (fit r memberToo held heldIn).givenBack

/-- A query reads the records that a shelf holds. -/
theorem readMany (holds : ShelfHolds initial collection able store records) (query : RecordQuery) :
    RecordStore.readMany store collection query = .ok (query.select records) := by
  -- A query selects from what is loaded.
  show RecordShelf.readMany store collection query = _
  rw [RecordShelf.readMany, holds.loaded]
  rfl

/-- The records that meet a filter are counted. -/
theorem countOrZero_eq (holds : ShelfHolds initial collection able store records)
    (filter : Record) :
    countOrZero store collection filter = records.countP (·.meets filter) := by
  -- A shelf that loads also counts.
  have counted : RecordStore.count store collection filter =
      .ok (some (records.countP (·.meets filter))) := by
    show RecordShelf.count store collection filter = _
    rw [RecordShelf.count, holds.loaded]
    rfl
  rw [countOrZero, counted]

end ShelfHolds

namespace Service

variable (initial : σ) (collection : String) (able : Prop)

/-- A shelf serves its records, and writes them as far as it is able to. -/
def ofShelf : Service σ collection where
  Holds := ShelfHolds initial collection able
  refuses _ := false
  Accepts updates := able ∧ FitUpdates σ updates
  extended record updates := record.updated σ updates
  distinct holds := holds.distinct
  read holds query := holds.readMany query
  update holds _ member _ _ has _ accepts :=
    holds.exists_updateOne member has accepts.1 accepts.2
  refuse _ _ _ refused := by cases refused
  id?_extended holds _ member _ accepts := holds.id?_updated member accepts.2

/-- A refusing store that reads serves the records of the shelf behind it, and refuses the updates
that it fails or misses. -/
def ofRefusing (refusal : Refusal) (reads : refusal.queries = false ∧ refusal.listed = false) :
    Service (RefusingStore σ) collection where
  Holds front records :=
    ShelfHolds initial collection able front.store records ∧ front.refusal = refusal
  refuses id := refusal.failedUpdates.contains id || refusal.missedUpdates.contains id
  Accepts updates := able ∧ FitUpdates σ updates
  extended record updates := record.updated σ updates
  distinct holds := holds.1.distinct
  read {front _} holds query := by
    obtain ⟨holds, rfl⟩ := holds
    show RefusingStore.readMany front collection query = _
    rw [RefusingStore.readMany, RefusingStore.refusesRead, reads.1, reads.2, ite_self,
      if_neg Bool.false_ne_true]
    exact holds.readMany query
  update {front _} holds record member id updates has allowed accepts := by
    obtain ⟨holds, rfl⟩ := holds
    obtain ⟨next, updated, held⟩ := holds.exists_updateOne member has accepts.1 accepts.2
    obtain ⟨noFailure, noMiss⟩ := Bool.or_eq_false_iff.1 allowed
    refine ⟨{ front with store := next }, ?_, held, rfl⟩
    show RefusingStore.updateOne front collection id updates = _
    rw [RefusingStore.updateOne, noFailure, noMiss]
    show (RecordShelf.updateOne front.store collection id updates).map _ = _
    rw [updated]
    rfl
  refuse {front _} holds id updates refused := by
    obtain ⟨_, rfl⟩ := holds
    have unfolded : RecordStore.updateOne front collection id updates =
        RefusingStore.updateOne front collection id updates := rfl
    rw [unfolded, RefusingStore.updateOne]
    -- An update that is not failed is missed, and leaves the store as it is.
    cases failed : front.refusal.failedUpdates.contains id with
    | true => exact .inr ⟨_, rfl⟩
    | false =>
      rw [failed, Bool.false_or] at refused
      rw [refused]
      exact .inl rfl
  id?_extended holds _ member _ accepts := holds.1.id?_updated member accepts.2

end Service

end CalcFields
