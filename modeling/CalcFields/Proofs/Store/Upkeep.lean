import CalcFields.Proofs.Engine.Upkeep
import CalcFields.Proofs.Store.Identity

/-!
A record is put into its collection, read back and updated by the pass over what the put changed.
All records of the collection stay kept up by the puts that were theirs.
-/

namespace CalcFields

namespace Record

variable {record updates held : Record} {records before after : List Record} {id : String}

/-- A record as it is put, with the next id unless it has one. -/
def entered (records : List Record) (record : Record) : Record :=
  if record.id?.isSome then record else assigned records record

/-- Nothing that is extended by a record is the record. -/
theorem empty_extend (record : Record) : FieldMap.empty.extend record = record :=
  record.ofList_entries

/-- The records around the one of an id, which is nothing at the end when none has the id. -/
inductive Around (id : String) : List Record → List Record → Record → List Record → Prop where
  | held (before : List Record) (held : Record) (after : List Record)
      (has : held.hasId id = true) (others : ∀ r ∈ before ++ after, r.hasId id = false) :
      Around id (before ++ held :: after) before held after
  | none (records : List Record) (others : ∀ r ∈ records, r.hasId id = false) :
      Around id records records .empty []

namespace Around

/-- Around a record that is put into nothing there is nothing. -/
theorem eq_of_eq_nil (around : Around id records before held after) (none : records = []) :
    before = [] ∧ held = .empty ∧ after = [] := by
  -- Without records there is none that could have been held.
  cases around with
  | held => simp at none
  | none => exact ⟨none, rfl, rfl⟩

/-- The records around do not have the id. -/
theorem lacks (around : Around id records before held after) :
    ∀ r ∈ before ++ after, r.hasId id = false := by
  cases around with
  | held _ _ _ _ others => exact others
  | none _ others => rwa [List.append_nil]

/-- The records around are among the records. -/
theorem subset (around : Around id records before held after) :
    ∀ r ∈ before ++ after, r ∈ records := by
  -- The records around are records of the collection.
  intro r member
  cases around with
  | held =>
    rw [List.mem_append, List.mem_cons]
    exact (List.mem_append.1 member).imp_right .inr
  | none => rwa [List.append_nil] at member

/-- Every record is one of those around, or has the id. -/
theorem mem_or_hasId (around : Around id records before held after) {r : Record}
    (member : r ∈ records) : r ∈ before ++ after ∨ r.hasId id = true := by
  -- The only other record is the one with the id.
  cases around with
  | held _ _ _ has =>
    obtain front | rfl | back := by simpa using member
    · exact .inl (List.mem_append_left _ front)
    · exact .inr has
    · exact .inl (List.mem_append_right _ back)
  | none => exact .inl (by rwa [List.append_nil])

/-- An update of the id extends the record between those around. -/
theorem updateFirst? (others : ∀ r ∈ before, r.hasId id = false) (has : held.hasId id = true)
    (after : List Record) (updates : Record) :
    Record.updateFirst? (before ++ held :: after) id updates =
      some (before ++ held.extend updates :: after) := by
  -- Induction on the records in front.
  induction before with
  | nil => rw [List.nil_append, Record.updateFirst?, if_pos has, List.nil_append]
  | cons first rest ih =>
    obtain ⟨lacks, others⟩ := List.forall_mem_cons.1 others
    rw [List.cons_append, Record.updateFirst?, lacks, ih others]
    rfl

end Around

/-- A put extends the record of its id, or nothing at the end, by the record as it is put. -/
theorem exists_around (identified : Identified records)
    (assignable : record.id? = none → Assignable records) :
    ∃ before held after, Around (putInto records record).1 records before held after ∧
      (entered records record).id? = some (putInto records record).1 ∧
      (putInto records record).2 = before ++ held.extend (entered records record) :: after := by
  have isPut := isPut_putInto records record
  generalize putInto records record = put at isPut
  -- A record with an id is entered as it is.
  have named {id : String} (named : record.id? = some id) : entered records record = record := by
    rw [entered, named]
    rfl
  cases isPut with
  | @extended id updated has extended_first =>
    obtain ⟨before, held, after, others, hasId⟩ := extended_first
    refine ⟨before, held, after, .held before held after hasId ?_, ?_, ?_⟩
    · -- Ids are distinct, so none behind the record has its id either.
      have behind := not_hasId_of_distinct
        (distinct_sublist identified.distinct (List.sublist_append_right before _)) hasId
      exact List.forall_mem_append.2 ⟨others, behind⟩
    · rw [named has, has]
    · rw [named has]
  | added has others =>
    refine ⟨records, .empty, [], .none records others, ?_, ?_⟩
    · rw [named has, has]
    · rw [named has, empty_extend]
  | assigned unnamed =>
    have assignable := assignable unnamed
    -- Without one it is entered with the next id.
    have given : entered records record = assigned records record := by
      rw [entered, unnamed]
      rfl
    refine ⟨records, .empty, [], .none records assignable.lacks, ?_, ?_⟩
    · rw [given, id?_assigned assignable.few]
    · rw [given, empty_extend]
      rfl

end Record

variable {σ : Type} [RecordShelf σ] [KeepingShelf σ]

/-- An extended record is given back as the record and the extension are. -/
theorem Record.kept_extend (record updates : Record) :
    Record.kept σ (record.extend updates) = (record.kept σ).extend (updates.kept σ) := by
  -- A field comes from the updates where they have it, in either order.
  refine FieldMap.ext_get? fun name => ?_
  simp only [Record.kept, FieldMap.get?_mapValues, FieldMap.get?_extend]
  cases updates.get? name <;> rfl

/-- A record is given back with its fields. -/
theorem Record.mem_keys_kept {record : Record} {name : String} :
    name ∈ (record.kept σ).keys ↔ name ∈ record.keys := by
  rw [← FieldMap.isSome_get?_iff, ← FieldMap.isSome_get?_iff, Record.kept, FieldMap.get?_mapValues,
    Option.isSome_map]

/-- The names in a record, but for the id. -/
def Record.changes (record : Record) : List String :=
  record.keys.filter (· ≠ idField)

/-- What a put changes are the names in the record as it is put, but for the id. -/
theorem Record.mem_changes_entered {records : List Record} {record : Record} {name : String} :
    name ∈ record.changes ↔
      name ∈ ((Record.entered records record).kept σ).keys ∧ name ≠ idField := by
  -- The id apart, entering a record changes no field, and keeping one none either.
  rw [changes, List.mem_filter, decide_eq_true_eq, mem_keys_kept]
  refine and_congr_left fun noId => ?_
  rw [entered]
  split
  · rfl
  · rw [← FieldMap.isSome_get?_iff, ← FieldMap.isSome_get?_iff, assigned, FieldMap.get?_insert,
      if_neg noId]

namespace Filled

variable [KeepsIds σ] {store : σ} {collection id : String} {records before after : List Record}
  {record held updates : Record}

/-- A put finds its record, or puts it at the end. The record is read back with what was put. -/
theorem exists_put_read (filled : Filled store collection records)
    (fresh : ∀ e ∈ record.entries, Saved σ e.2)
    (assignable : record.id? = none → Record.Assignable records) :
    ∃ id stored before held after,
      RecordStore.put store collection record = .ok (id, stored) ∧
      Record.Around id records before held after ∧
      ((Record.entered records record).kept σ).id? = some id ∧
      Filled stored collection
        (before ++ held.extend ((Record.entered records record).kept σ) :: after) ∧
      RecordStore.readOne stored collection id none =
        .ok (some (held.extend ((Record.entered records record).kept σ))) := by
  obtain ⟨stored, done, saved⟩ := filled.exists_put fresh assignable
  obtain ⟨before, held, after, around, named, updated⟩ :=
    Record.exists_around filled.identified assignable
  rw [updated] at saved
  -- What was there before is given back as it is.
  obtain ⟨front, back⟩ := List.forall_mem_append.1 fun r member =>
    filled.given r (around.subset r member)
  have heldSame : held.kept σ = held := by
    cases around with
    | held =>
      exact Record.kept_eq_self (filled.given held (List.mem_append_right _ List.mem_cons_self))
    | none => rfl
  rw [List.map_append, List.map_cons, Record.kept_extend, heldSame, Record.map_kept_eq_self front,
    Record.map_kept_eq_self back] at saved
  have keptNamed : ((Record.entered records record).kept σ).id? =
      some (Record.putInto records record).1 := by
    rw [Record.id?_kept, named]
  refine ⟨_, stored, before, held, after, done, around, keptNamed, saved, ?_⟩
  -- It is the first record of its id.
  have others : ∀ r ∈ before, r.hasId (Record.putInto records record).1 = false :=
    fun r member => around.lacks r (List.mem_append_left _ member)
  exact RecordShelf.readOne_eq saved.loaded others
    (Record.hasId_iff.2 (Record.id?_extend_of_named keptNamed held))

/-- An update that leaves the id alone extends the record of the id in its place. -/
theorem exists_updateOne_between (filled : Filled store collection (before ++ record :: after))
    (others : ∀ r ∈ before, r.hasId id = false) (has : record.hasId id = true)
    (fit : FitUpdates σ updates) :
    ∃ next, RecordStore.updateOne store collection id updates = .ok (true, next) ∧
      Filled next collection (before ++ Record.kept σ (record.extend updates) :: after) := by
  -- The updated record keeps its place and its id.
  have here := Record.Around.updateFirst? others has after updates
  have extends_first : Record.IsExtended id updates (before ++ record :: after)
      (before ++ record.extend updates :: after) := .first before record after others has
  have identified := filled.identified.of_map_id?
    (extends_first.map_id? fun held _ => Record.id?_extend_of_none fit.noId held)
  obtain ⟨next, done, saved⟩ :=
    filled.exists_save identified (extends_first.forall_entries filled.saved fit.saved)
  refine ⟨next, ?_, ?_⟩
  · show RecordShelf.updateOne store collection id updates = _
    rw [RecordShelf.updateOne_eq_some filled.loaded here, done]
    rfl
  · obtain ⟨front, back⟩ := List.forall_mem_append.1 filled.given
    rwa [List.map_append, List.map_cons, Record.map_kept_eq_self front,
      Record.map_kept_eq_self (List.forall_mem_cons.1 back).2] at saved

end Filled

variable {formulas : CollectionFormulas} {puts records before after : List Record}
  {put held record other : Record} {id collection : String} {store : σ} {now : Instant}

/-- The records of a collection are kept up by the puts that are theirs, the last one first: every
put has its record, and every record its puts. -/
structure AllKeptUp (formulas : CollectionFormulas) (puts records : List Record) : Prop where
  each : ∀ r ∈ records, formulas.KeptUp (puts.filter (·.id? = r.id?)) r
  known : ∀ put ∈ puts, ∃ r ∈ records, r.id? = put.id?
  own : ∀ r ∈ records, ∃ put ∈ puts, put.id? = r.id?

namespace AllKeptUp

/-- The record that a put extends, or nothing, is kept up by the puts of its id. -/
theorem keptUp_held (all : AllKeptUp formulas puts records)
    (around : Record.Around id records before held after) :
    formulas.KeptUp (puts.filter (·.id? = some id)) held := by
  cases around with
  | held _ _ _ has =>
    have each := all.each held (List.mem_append_right _ List.mem_cons_self)
    rwa [Record.hasId_iff.1 has] at each
  | none _ others =>
    -- A record that is new has had no put.
    have none : puts.filter (·.id? = some id) = [] := by
      refine List.filter_eq_nil_iff.2 fun earlier member has => ?_
      obtain ⟨r, among, same⟩ := all.known earlier member
      exact Record.hasId_eq_false_iff.1 (others r among) (same.trans (of_decide_eq_true has))
    rw [none]
    exact formulas.keptUp_nil .empty

/-- A put is none of those of the records around its own. -/
theorem keptUp_beside (all : AllKeptUp formulas puts records)
    (around : Record.Around id records before held after) (named : put.id? = some id) :
    ∀ r ∈ before ++ after, formulas.KeptUp ((put :: puts).filter (·.id? = r.id?)) r := by
  intro r member
  -- A record beside has another id.
  have differ : ¬ put.id? = r.id? := fun same =>
    Record.hasId_eq_false_iff.1 (around.lacks r member) (same.symm.trans named)
  rw [List.filter_cons_of_neg (by simpa using differ)]
  exact all.each r (around.subset r member)

/-- A record that is kept up after a put takes its place among the others. -/
theorem after_put (all : AllKeptUp formulas puts records)
    (around : Record.Around id records before held after) (named : put.id? = some id)
    (namedToo : other.id? = some id)
    (keeps : ∀ earlier, formulas.KeptUp earlier held → formulas.KeptUp (put :: earlier) other) :
    AllKeptUp formulas (put :: puts) (before ++ other :: after) := by
  have own : ∀ r ∈ before ++ after, ∃ earlier ∈ put :: puts, earlier.id? = r.id? := by
    intro r member
    obtain ⟨earlier, among, same⟩ := all.own r (around.subset r member)
    exact ⟨earlier, List.mem_cons_of_mem _ among, same⟩
  -- The new put is of this id alone, so the records beside it have the puts that they had.
  obtain ⟨front, back⟩ := List.forall_mem_append.1 (all.keptUp_beside around named)
  obtain ⟨frontOwn, backOwn⟩ := List.forall_mem_append.1 own
  refine ⟨?_, ?_, ?_⟩
  · refine List.forall_mem_append.2 ⟨front, List.forall_mem_cons.2 ⟨?_, back⟩⟩
    rw [namedToo, List.filter_cons_of_pos (by simpa using named)]
    exact keeps _ (all.keptUp_held around)
  · -- Every earlier put still has its record.
    rw [List.forall_mem_cons]
    have middle : other ∈ before ++ other :: after := List.mem_append_right _ List.mem_cons_self
    refine ⟨⟨other, middle, namedToo.trans named.symm⟩, fun earlier member => ?_⟩
    obtain ⟨r, among, same⟩ := all.known earlier member
    obtain beside | has := around.mem_or_hasId among
    · refine ⟨r, ?_, same⟩
      rw [List.mem_append, List.mem_cons]
      exact (List.mem_append.1 beside).imp_right .inr
    · exact ⟨other, middle, namedToo.trans ((Record.hasId_iff.1 has).symm.trans same)⟩
  · refine List.forall_mem_append.2 ⟨frontOwn, List.forall_mem_cons.2 ⟨?_, backOwn⟩⟩
    exact ⟨put, List.mem_cons_self, named.trans namedToo.symm⟩

end AllKeptUp

variable {changed : List String}

/-- The updates of a pass over a record that is given back as it is can be written to it, when their
numbers survive and the id is not calculated. -/
theorem FitUpdates.of_recompute (given : ∀ e ∈ record.entries, GivenBack σ e.2)
    (noId : formulas.graph.contains idField = false)
    (survive : ∀ x ∈ (formulas.recompute record (some changed) none now).updates.numbers,
      KeepingShelf.Restores σ x ∨ x = -0.0) :
    FitUpdates σ (formulas.recompute record (some changed) none now).updates where
  noId := CollectionFormulas.get?_updates_of_not_contains noId
  saved e inside := by
    refine ⟨?_, fun x number => survive x (List.mem_flatMap.2 ⟨e, inside, number⟩)⟩
    exact CollectionFormulas.updates_good_of_entries (fun _ => KeepingShelf.shaped_of_isScalar)
      (fun _ => KeepingShelf.shaped_storable) (fun e held => (given e held).shaped)
      (FieldMap.get?_eq_some_iff.2 inside)

/-- A record with a put and the updates of its pass, as it is given back, is what the two make of
it. -/
theorem CollectionFormulas.putPass_kept (formulas : CollectionFormulas) (now : Instant)
    (given : ∀ e ∈ (held.extend put).entries, GivenBack σ e.2) (named : put.id? = some id)
    (names : ∀ name, name ∈ changed ↔ name ∈ put.keys ∧ name ≠ idField) :
    formulas.PutPass changed now put held (Record.kept σ ((held.extend put).extend
      (formulas.recompute (held.extend put) (some changed) none now).updates)) where
  names := names
  named := Option.isSome_iff_exists.2 (Record.exists_get?_of_id? named)
  unchanged field unchanged := by
    -- A field of the record is updated, put, or as it was held.
    rw [Record.kept_extend, Record.kept_eq_self given, Record.field, Record.field,
      FieldMap.get?_extend, Record.kept, FieldMap.get?_mapValues, unchanged]
    rfl
  updated field v updated := by
    obtain ⟨made, _⟩ := CollectionFormulas.get?_updates_recompute.1 updated
    obtain ⟨w, rfl⟩ := CollectionFormulas.storable_of_mem_attemptsFrom made
    rw [Record.kept_extend, Record.field, FieldMap.get?_extend, Record.kept,
      FieldMap.get?_mapValues, updated]
    exact KeepingShelf.equivalent_kept w

namespace Filled

variable [KeepsIds σ]

/-- The pass after a put finds numbers that survive being saved, and its updates with them are
written to the record in its place, which is then what the put and the pass make of it. -/
theorem exists_pass (filled : Filled store collection (before ++ held.extend put :: after))
    (others : ∀ r ∈ before, r.hasId id = false) (named : put.id? = some id)
    (names : ∀ name, name ∈ changed ↔ name ∈ put.keys ∧ name ≠ idField)
    (noId : formulas.graph.contains idField = false)
    (survive : ∀ x ∈ (formulas.recompute (held.extend put) (some changed) none now).updates.numbers,
      KeepingShelf.Restores σ x ∨ x = -0.0) :
    ∃ last other,
      (if (formulas.recompute (held.extend put) (some changed) none now).hasChanges = true then
        RecordStore.updateOne store collection id
          (formulas.recompute (held.extend put) (some changed) none now).updates = .ok (true, last)
      else last = store) ∧
      Filled last collection (before ++ other :: after) ∧ other.id? = some id ∧
      formulas.PutPass changed now put held other := by
  have given := filled.given (held.extend put) (List.mem_append_right _ List.mem_cons_self)
  have fit := FitUpdates.of_recompute given noId survive
  have pass := formulas.putPass_kept now given named names
  have has := Record.id?_extend_of_named named held
  cases changes : (formulas.recompute (held.extend put) (some changed) none now).hasChanges with
  | false =>
    -- Nothing is written, and nothing would be different if it were.
    rw [Outcome.extend_updates changes, Record.kept_eq_self given] at pass
    exact ⟨store, held.extend put, rfl, filled, has, pass⟩
  | true =>
    -- The updates of the pass are written to the record, which keeps its id.
    obtain ⟨last, done, saved⟩ :=
      filled.exists_updateOne_between others (Record.hasId_iff.2 has) fit
    refine ⟨last, _, done, saved, ?_, pass⟩
    rw [Record.id?_kept, Record.id?_extend_of_none fit.noId, has]

end Filled

end CalcFields
