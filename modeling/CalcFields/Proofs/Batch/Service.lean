import CalcFields.Engine.Batch
import CalcFields.Proofs.Store.Query

/-!
A batch meets a store through reads of pages and updates of single records. When these serve a list
of records, a batch recomputes each record that it is after once, on what the record holds at first,
however the ids are cut into pages.
-/

namespace CalcFields

/-- How a store serves the records of one collection: it reads queries out of them and extends the
record of an id, unless it refuses to. -/
structure Service (σ : Type) [RecordStore σ] (collection : String) where
  /-- The records that a store holds. -/
  Holds : σ → List Record → Prop
  /-- Updates of an id are refused. -/
  refuses : String → Bool
  /-- Updates that can be written. -/
  Accepts : Record → Prop
  /-- A record as it is held after an update. -/
  extended : Record → Record → Record
  distinct {store : σ} {records : List Record} : Holds store records → DistinctIds records
  read {store : σ} {records : List Record} : Holds store records → ∀ query,
    RecordStore.readMany store collection query = .ok (query.select records)
  update {store : σ} {records : List Record} : Holds store records → ∀ record ∈ records,
    ∀ id updates, record.hasId id = true → refuses id = false → Accepts updates →
      ∃ next, RecordStore.updateOne store collection id updates = .ok (true, next) ∧
        Holds next (records.map fun r => if r.hasId id then extended r updates else r)
  refuse {store : σ} {records : List Record} : Holds store records → ∀ id updates,
    refuses id = true →
      RecordStore.updateOne store collection id updates = .ok (false, store) ∨
        ∃ e, RecordStore.updateOne store collection id updates = .error e
  id?_extended {store : σ} {records : List Record} : Holds store records → ∀ record ∈ records,
    ∀ updates, Accepts updates → (extended record updates).id? = record.id?

/-- A record is refused by a store when its id is. -/
def Service.refusesRecord {σ : Type} [RecordStore σ] {collection : String}
    (service : Service σ collection) (record : Record) : Bool :=
  record.id?.any service.refuses

namespace BatchPlan

variable {σ : Type} [RecordStore σ]

/-- The outcome of recomputing a record. -/
def outcome (plan : BatchPlan) (record : Record) : Outcome :=
  plan.snapshot.recompute plan.collection record none plan.targets plan.now

variable (plan : BatchPlan) (service : Service σ plan.collection)

/-- A batch writes a record: its values change, the batch is to write, and the store lets it. -/
def writes (record : Record) : Bool :=
  (plan.outcome record).hasChanges && !plan.dryRun && !service.refusesRecord record

/-- A batch counts an update of a record, written or not. -/
def countsUpdate (record : Record) : Bool :=
  (plan.outcome record).hasChanges && (plan.dryRun || !service.refusesRecord record)

/-- Some formula fails on a record. -/
def hasErrors (record : Record) : Bool :=
  !(plan.outcome record).errors.isEmpty

/-- A record as a batch leaves it. -/
def settled (record : Record) : Record :=
  if plan.writes service record then service.extended record (plan.outcome record).updates
  else record

/-- The counts after one more record. -/
def tally (count : BatchCount) (record : Record) : BatchCount :=
  ⟨count.processed + 1, count.updated + (if plan.countsUpdate service record then 1 else 0),
    count.withErrors + (if plan.hasErrors record then 1 else 0)⟩

variable {plan service} {state : BatchState σ} {records todo : List Record} {record : Record}
  {store : σ} {id : String}

/-- Recomputing a record counts it, and writes its updates when there are any and they are to be
written. -/
theorem process_eq (plan : BatchPlan) (state : BatchState σ) (record : Record) :
    plan.process state record =
      let count : BatchCount := ⟨state.count.processed + 1, state.count.updated,
        state.count.withErrors + (if plan.hasErrors record then 1 else 0)⟩
      if (plan.outcome record).hasChanges then
        if plan.dryRun then ⟨state.store, { count with updated := count.updated + 1 }⟩
        else plan.write ⟨state.store, count⟩ record (plan.outcome record).updates
      else ⟨state.store, count⟩ := by
  -- The counts of errors and of updates are added in another order than the program adds them.
  have failed : (if (plan.outcome record).errors.isEmpty then 0 else 1) =
      if plan.hasErrors record then 1 else 0 := by
    rw [hasErrors]
    cases (plan.outcome record).errors.isEmpty <;> rfl
  have named : plan.snapshot.recompute plan.collection record none plan.targets plan.now =
      plan.outcome record := rfl
  unfold process
  simp only [named, failed]
  cases (plan.outcome record).hasChanges <;> rfl

/-- A record that is not written is settled as it is. -/
theorem settled_of_not_writes (quiet : plan.writes service record = false) :
    plan.settled service record = record := by
  -- Only a record that is written takes the updates on.
  rw [settled, quiet]
  rfl

/-- Recomputing a record that is not written leaves the store and counts the record. -/
theorem process_of_not_writes (holds : service.Holds state.store records)
    (has : record.hasId id = true) (quiet : plan.writes service record = false) :
    plan.process state record = ⟨state.store, plan.tally service state.count record⟩ := by
  have named := Record.hasId_iff.1 has
  have refused : service.refusesRecord record = service.refuses id := by
    rw [Service.refusesRecord, named]
    rfl
  rw [process_eq]
  simp only [tally, countsUpdate, writes, refused] at quiet ⊢
  cases changes : (plan.outcome record).hasChanges with
  -- Without changes the store is not asked.
  | false => simp
  | true =>
    cases dry : plan.dryRun with
    -- A dry run counts the update and does not make it.
    | true => simp
    | false =>
      -- The store refuses the record, and says so or reports that it is not there.
      have refuses : service.refuses id = true := by simpa [changes, dry] using quiet
      obtain missed | ⟨e, failed⟩ :=
        service.refuse holds id (plan.outcome record).updates refuses
      · simp [write, named, missed, refuses]
      · simp [write, named, failed, refuses]

/-- Recomputing a record settles it, counts it and leaves the others. -/
theorem process_served (holds : service.Holds state.store records) (member : record ∈ records)
    (has : record.hasId id = true)
    (accepts : plan.writes service record = true →
      service.Accepts (plan.outcome record).updates) :
    ∃ next, plan.process state record = ⟨next, plan.tally service state.count record⟩ ∧
      service.Holds next
        (records.map fun r => if r.hasId id then plan.settled service r else r) ∧
      (plan.writes service record = false → next = state.store) := by
  -- The record is the only one of its id.
  have alone : ∀ r ∈ records, r.hasId id = true → r = record := fun r memberToo hasToo =>
    Record.eq_of_hasId (service.distinct holds) memberToo member hasToo has
  cases writing : plan.writes service record with
  | false =>
    -- What is not written leaves the record as it was, and so all of them.
    refine ⟨state.store, process_of_not_writes holds has writing, ?_, fun _ => rfl⟩
    have same : ∀ r ∈ records, (if r.hasId id then plan.settled service r else r) = r := by
      intro r memberToo
      split
      · rename_i hasToo
        rw [alone r memberToo hasToo, settled_of_not_writes writing]
      · rfl
    rw [List.map_congr_left same, List.map_id']
    exact holds
  | true =>
    -- To write means that there are changes, that the run is not dry and that the id is allowed.
    have changes := writing
    simp only [writes, Bool.and_eq_true, Bool.not_eq_true', Service.refusesRecord,
      Record.hasId_iff.1 has, Option.any_some] at changes
    obtain ⟨⟨changes, wet⟩, allowed⟩ := changes
    obtain ⟨next, updated, held⟩ := service.update holds record member id
      (plan.outcome record).updates has allowed (accepts writing)
    refine ⟨next, ?_, ?_, fun quiet => by cases quiet⟩
    · rw [process_eq]
      simp [changes, wet, write, Record.hasId_iff.1 has, updated, tally, countsUpdate,
        Service.refusesRecord, allowed]
    · -- Only the record itself has the id, so only it is extended.
      have same : ∀ r ∈ records, (if r.hasId id then plan.settled service r else r) =
          if r.hasId id then service.extended r (plan.outcome record).updates else r := by
        intro r memberToo
        split
        · rename_i hasToo
          rw [alone r memberToo hasToo, settled, writing]
          rfl
        · rfl
      rwa [List.map_congr_left same]

/-- A record as it is left by a batch over the records of some ids. -/
def settledAmong (plan : BatchPlan) (service : Service σ plan.collection) (ids : List String)
    (record : Record) : Record :=
  if record.id?.any ids.contains then plan.settled service record else record

/-- A batch leaves a record its id. -/
theorem id?_settled (holds : service.Holds store records) (member : record ∈ records)
    (accepts : plan.writes service record = true →
      service.Accepts (plan.outcome record).updates) :
    (plan.settled service record).id? = record.id? := by
  -- The updates of a record never give it another id.
  rw [settled]
  split
  · rename_i writing
    exact service.id?_extended holds record member _ (accepts writing)
  · rfl

/-- Settling the record of one id and then those of others settles the records of all these ids. -/
theorem settledAmong_cons (holds : service.Holds store records) (member : record ∈ records)
    (has : record.id? = some id) {ids : List String} (fresh : id ∉ ids)
    (accepts : plan.writes service record = true →
      service.Accepts (plan.outcome record).updates) :
    ∀ r ∈ records,
      plan.settledAmong service ids (if r.hasId id then plan.settled service r else r) =
        plan.settledAmong service (id :: ids) r := by
  intro r memberToo
  by_cases hasToo : r.hasId id = true
  · -- The record keeps its id, which is none of the others.
    have alone := Record.eq_of_hasId (service.distinct holds) memberToo member hasToo
      (Record.hasId_iff.2 has)
    subst alone
    have kept := id?_settled holds memberToo accepts
    simp [settledAmong, hasToo, kept, has, fresh]
  · -- A record of another id is settled by the rest alone.
    have differ : r.id? ≠ some id := Record.hasId_eq_false_iff.1 (Bool.eq_false_iff.2 hasToo)
    rw [if_neg hasToo]
    cases namedToo : r.id? with
    | none => simp [settledAmong, namedToo]
    | some other =>
      have apart : other ≠ id := fun same => differ (namedToo.trans (congrArg some same))
      simp [settledAmong, namedToo, apart]

/-- Recomputing records one after the other settles each of them, counts them all and leaves the
others. -/
theorem foldl_process (state : BatchState σ) (holds : service.Holds state.store records)
    (sublist : todo.Sublist records)
    (named : ∀ r ∈ todo, r.id?.isSome = true)
    (accepts : ∀ r ∈ todo, plan.writes service r = true →
      service.Accepts (plan.outcome r).updates) :
    ∃ next, todo.foldl plan.process state = ⟨next, todo.foldl (plan.tally service) state.count⟩ ∧
      service.Holds next
        (records.map (plan.settledAmong service (todo.filterMap Record.id?))) ∧
      ((∀ r ∈ todo, plan.writes service r = false) → next = state.store) := by
  -- The store changes with each record, so state and records stay free.
  induction todo generalizing state records with
  | nil =>
    refine ⟨state.store, rfl, ?_, fun _ => rfl⟩
    have same : ∀ r ∈ records, plan.settledAmong service [] r = r := by
      intro r _
      cases named : r.id? <;> simp [settledAmong, named]
    rw [List.filterMap_nil, List.map_congr_left same, List.map_id']
    exact holds
  | cons first rest ih =>
    obtain ⟨id, has⟩ := Option.isSome_iff_exists.1 (named first List.mem_cons_self)
    have distinct := service.distinct holds
    have member : first ∈ records := sublist.subset List.mem_cons_self
    -- Ids are distinct, so the records after the first have other ids.
    have others := Record.not_hasId_of_distinct (Record.distinct_sublist distinct sublist)
      (Record.hasId_iff.2 has)
    obtain ⟨next, processed, held, quiet⟩ :=
      process_served holds member (Record.hasId_iff.2 has) (accepts first List.mem_cons_self)
    -- The step leaves the rest of the records as they were.
    have untouched : ∀ r ∈ rest, (if r.hasId id then plan.settled service r else r) = r := by
      intro r later
      rw [others r later]
      rfl
    -- They are therefore still a part of the records that the step left.
    have sublistToo := ((List.sublist_cons_self first rest).trans sublist).map
      fun r => if r.hasId id then plan.settled service r else r
    rw [List.map_congr_left untouched, List.map_id'] at sublistToo
    obtain ⟨last, processedAll, heldAll, quietAll⟩ := ih ⟨next, _⟩ held sublistToo
      (fun r later => named r (List.mem_cons_of_mem _ later))
      (fun r later => accepts r (List.mem_cons_of_mem _ later))
    refine ⟨last, ?_, ?_, ?_⟩
    · rw [List.foldl_cons, processed, processedAll, List.foldl_cons]
    · -- The id of the first record is not listed again.
      have fresh : id ∉ rest.filterMap Record.id? := by
        have nodup := Record.distinct_sublist distinct sublist
        rw [DistinctIds, List.filterMap_cons_some has, List.nodup_cons] at nodup
        exact nodup.1
      have same := settledAmong_cons holds member has fresh (accepts first List.mem_cons_self)
      rw [List.map_map, Function.comp_def, List.map_congr_left same] at heldAll
      rwa [List.filterMap_cons_some has]
    · -- Where nothing is written, neither the step nor the steps after it move the store.
      intro all
      rw [quietAll fun r later => all r (List.mem_cons_of_mem _ later),
        quiet (all first List.mem_cons_self)]

end BatchPlan

end CalcFields
