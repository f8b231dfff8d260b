import CalcFields.Proofs.Batch.Run
import CalcFields.Proofs.Engine.Collection

/-!
A batch has its footing in a store that loads the collection, can be written if need be, and gives
back the numbers in it. On that footing the outcome of a batch is known.
-/

namespace CalcFields

variable {σ : Type} [RecordShelf σ] [KeepingShelf σ] {snapshot : Snapshot} {request : BatchRequest}
  {now : Instant} {store : σ} {records : List Record}

/-- What a batch takes for granted about a store and the records of its collection. -/
structure BatchFooting (snapshot : Snapshot) (request : BatchRequest) (now : Instant) (store : σ)
    (records : List Record) : Prop where
  loaded : RecordShelf.load store request.collection = .ok records
  distinct : DistinctIds records
  /-- Ids are not calculated. -/
  stored : ∀ formulas, snapshot.collection? request.collection = some formulas →
    formulas.fields.get? idField = none
  /-- The store gives back the numbers that it holds. -/
  restores : ∀ record ∈ records, ∀ x ∈ record.numbers, KeepingShelf.Restores σ x
  /-- The store gives back the numbers that it gets, but for the sign of a zero. -/
  computed : ∀ record ∈ records, request.isDue record = true →
    ∀ x ∈ (snapshot.outcome request now record).updates.numbers,
      KeepingShelf.Restores σ x ∨ x = -0.0
  /-- The collection can be written when there is something to write. -/
  writable : request.dryRun = false →
    (∃ record ∈ records, request.isDue record = true ∧
      (snapshot.outcome request now record).hasChanges = true) →
    RecordShelf.Writable store request.collection

/-- The plan of a batch whose targets are known. -/
def BatchRequest.plan (request : BatchRequest) (snapshot : Snapshot) (now : Instant)
    (targets : Option (List String)) : BatchPlan :=
  ⟨snapshot, request.collection, targets, request.dryRun, now⟩

/-- The outcome of a batch for a record is the one of its plan. -/
theorem BatchRequest.outcome_plan {formulas : CollectionFormulas} {targets : Option (List String)}
    (known : snapshot.collection? request.collection = some formulas)
    (matching : request.closure formulas = .ok targets) :
    (request.plan snapshot now targets).outcome = snapshot.outcome request now := by
  -- A plan holds the formulas and the targets that the request looks up, and nothing else enters.
  funext record
  simp [BatchPlan.outcome, plan, Snapshot.recompute, Snapshot.outcome, known, matching]

/-- A batch runs its plan, whatever the size of its pages. -/
theorem Snapshot.runBatch_eq {τ : Type} [RecordStore τ] {formulas : CollectionFormulas}
    {targets : Option (List String)}
    (known : snapshot.collection? request.collection = some formulas)
    (matching : request.closure formulas = .ok targets) (size : Nat) (front : τ) :
    snapshot.runBatch { request with pageSize := size } now front =
      formulas.runBatch (request.plan snapshot now targets) { request with pageSize := size }
        front := by
  -- The size of a page has no part in which fields are asked for.
  have same : BatchRequest.closure { request with pageSize := size } formulas = .ok targets :=
    matching
  simp only [Snapshot.runBatch, known, same]
  rfl

/-- A batch over a collection without formulas does nothing. -/
theorem Snapshot.runBatch_of_uncalculated {τ : Type} [RecordStore τ]
    (unknown : snapshot.collection? request.collection = none) (front : τ) :
    snapshot.runBatch request now front =
      (.ok ⟨request.collection, false, request.dryRun, ⟨0, 0, 0⟩, 0, []⟩, front) := by
  simp only [Snapshot.runBatch, unknown]

/-- Without formulas nothing changes. -/
theorem Snapshot.outcome_of_uncalculated
    (unknown : snapshot.collection? request.collection = none) (record : Record) :
    (snapshot.outcome request now record).hasChanges = false := by
  -- What is not calculated has an empty outcome.
  simp only [Snapshot.outcome, unknown]
  rfl

/-- A batch over a store that serves its records reports on those that are due, and extends each of
them by its updates unless it is a dry run or the store refuses to. -/
theorem Snapshot.runBatch_served {τ : Type} [RecordStore τ] {formulas : CollectionFormulas}
    {targets : Option (List String)} (service : Service τ request.collection) {front : τ}
    (known : snapshot.collection? request.collection = some formulas)
    (matching : request.closure formulas = .ok targets) (holds : service.Holds front records)
    (accepts : ∀ r ∈ records, request.isDue r = true →
      (snapshot.outcome request now r).hasChanges = true → request.dryRun = false →
        service.Accepts (snapshot.outcome request now r).updates) :
    ∃ next,
      (∀ size, snapshot.runBatch { request with pageSize := size } now front =
        (.ok ⟨request.collection, true, request.dryRun,
          ⟨records.countP request.isDue,
            records.countP fun r => ((snapshot.outcome request now r).hasChanges &&
              (request.dryRun || !service.refusesRecord r)) && request.isDue r,
            records.countP fun r =>
              !(snapshot.outcome request now r).errors.isEmpty && request.isDue r⟩,
          countOrZero front request.collection request.filter,
          targets.getD formulas.analysis.order⟩, next)) ∧
      service.Holds next (records.map fun r => if request.isDue r then
        (if (snapshot.outcome request now r).hasChanges && !request.dryRun &&
            !service.refusesRecord r then
          service.extended r (snapshot.outcome request now r).updates else r) else r) ∧
      ((∀ r ∈ records, request.isDue r = true →
        ((snapshot.outcome request now r).hasChanges && !request.dryRun &&
          !service.refusesRecord r) = false) → next = front) := by
  -- The run of the snapshot is the run of a plan, whose outcome of a record is the snapshot's.
  let plan := request.plan snapshot now targets
  have outcome : plan.outcome = snapshot.outcome request now :=
    BatchRequest.outcome_plan known matching
  -- A plan writes only what has changes and is not a dry run, and that is what the service
  -- accepts.
  have acceptsPlan : ∀ r ∈ records, request.isDue r = true →
      plan.writes service r = true → service.Accepts (plan.outcome r).updates := by
    intro r member due writes
    unfold BatchPlan.writes at writes
    rw [outcome, Bool.and_eq_true, Bool.and_eq_true, Bool.not_eq_true'] at writes
    rw [outcome]
    exact accepts r member due writes.1.1 writes.1.2
  -- The three facts of the plan's run are restated with the snapshot's outcome.
  obtain ⟨next, ran, held, quiet⟩ := BatchPlan.runBatch_served formulas holds acceptsPlan
  unfold BatchPlan.countsUpdate BatchPlan.hasErrors at ran
  unfold BatchPlan.settled BatchPlan.writes at held
  unfold BatchPlan.writes at quiet
  rw [outcome] at ran held quiet
  -- The page size is free in the plan's run, so the same store serves every size.
  exact ⟨next, fun size => (snapshot.runBatch_eq known matching size front).trans (ran size), held,
    quiet⟩

/-- Every update of a batch has what scalars and the values of its record have. -/
theorem Snapshot.outcome_good {good : Value → Prop} (scalar : ∀ v, v.isScalar = true → good v)
    (storable : ∀ v, good v → good v.storable) {record : Record}
    (entries : ∀ e ∈ record.entries, good e.2) {name : String} {v : Value}
    (updated : (snapshot.outcome request now record).updates.get? name = some v) : good v := by
  -- Where nothing is calculated, or nothing matches, no field is updated.
  unfold outcome at updated
  split at updated
  · cases updated
  · split at updated
    · exact CollectionFormulas.updates_good_of_entries scalar storable entries updated
    · cases updated

namespace BatchFooting

/-- A batch is to write something. -/
def Writes (snapshot : Snapshot) (request : BatchRequest) (now : Instant) (records : List Record) :
    Prop :=
  request.dryRun = false ∧ ∃ record ∈ records, request.isDue record = true ∧
    (snapshot.outcome request now record).hasChanges = true

/-- A store holds the records that it loads. -/
theorem holds (footing : BatchFooting snapshot request now store records) :
    ShelfHolds store request.collection (Writes snapshot request now records) store records where
  loaded := footing.loaded
  distinct := footing.distinct
  writable writes := footing.writable writes.1 writes.2
  beside _ _ := rfl
  given record member e inside := by
    -- The shape comes from loading, and the numbers survive because the footing says so.
    refine ⟨KeepingShelf.shaped_of_load footing.loaded record member e inside, fun x number => ?_⟩
    exact footing.restores record member x (List.mem_flatMap.2 ⟨e, inside, number⟩)

/-- The updates of a record that is due can be written. -/
theorem fitUpdates (footing : BatchFooting snapshot request now store records) {record : Record}
    (member : record ∈ records) (due : request.isDue record = true) :
    FitUpdates σ (snapshot.outcome request now record).updates where
  noId := by
    -- A calculated field is never the identity, so no update touches it.
    unfold Snapshot.outcome
    split
    · rfl
    · rename_i formulas known
      split
      · exact CollectionFormulas.get?_updates_of_not_calculated (footing.stored formulas known)
      · rfl
  saved e inside := by
    -- An update has the shape that loading gave the entries, as formulas build on those alone.
    refine ⟨?_, fun x number => ?_⟩
    · exact Snapshot.outcome_good (fun _ => KeepingShelf.shaped_of_isScalar)
        (fun _ => KeepingShelf.shaped_storable)
        (KeepingShelf.shaped_of_load footing.loaded record member)
        (FieldMap.get?_eq_some_iff.2 inside)
    · exact footing.computed record member due x (List.mem_flatMap.2 ⟨e, inside, number⟩)

variable {formulas : CollectionFormulas} {targets : Option (List String)}

/-- A keeping shelf refuses nothing. -/
theorem refusesRecord_ofShelf (collection : String) (able : Prop) (record : Record) :
    (Service.ofShelf store collection able).refusesRecord record = false := by
  cases named : record.id? <;> simp [Service.refusesRecord, Service.ofShelf, named]

/-- A record without changes is given back as it is. -/
theorem updated_of_quiet (footing : BatchFooting snapshot request now store records)
    {record : Record} (member : record ∈ records)
    (quiet : (snapshot.outcome request now record).hasChanges = false) :
    record.updated σ (snapshot.outcome request now record).updates = record := by
  -- Extending by nothing leaves the record, and the shelf gives it back as it was loaded.
  rw [Record.updated, Outcome.extend_updates quiet,
    Record.kept_eq_self (footing.holds.given record member)]

/-- Whether a record without changes counts as written or not, it is left alike. -/
theorem left_eq (footing : BatchFooting snapshot request now store records) {record : Record}
    (member : record ∈ records) (allowed : Bool) :
    (if request.isDue record then
      (if (snapshot.outcome request now record).hasChanges && allowed then
        record.updated σ (snapshot.outcome request now record).updates else record) else record) =
      if request.isDue record && allowed then
        record.updated σ (snapshot.outcome request now record).updates else record := by
  -- A due record without changes may be rewritten, because that does not alter it.
  cases changes : (snapshot.outcome request now record).hasChanges with
  | true => cases request.isDue record <;> simp
  | false => simp [footing.updated_of_quiet member changes]

/-- A batch over a keeping shelf reports on the records that are due, and leaves each of them with
its updates unless it is a dry run. -/
theorem runBatch_ofShelf (footing : BatchFooting snapshot request now store records)
    (known : snapshot.collection? request.collection = some formulas)
    (matching : request.closure formulas = .ok targets) :
    ∃ after,
      (∀ size, snapshot.runBatch { request with pageSize := size } now store =
        (.ok ⟨request.collection, true, request.dryRun,
          ⟨records.countP request.isDue,
            records.countP fun r =>
              (snapshot.outcome request now r).hasChanges && request.isDue r,
            records.countP fun r =>
              !(snapshot.outcome request now r).errors.isEmpty && request.isDue r⟩,
          records.countP (·.meets request.filter), targets.getD formulas.analysis.order⟩, after)) ∧
      ShelfHolds store request.collection (Writes snapshot request now records) after
        (records.map fun r => if request.isDue r && !request.dryRun then
          r.updated σ (snapshot.outcome request now r).updates else r) ∧
      ((request.dryRun = true ∨ ∀ r ∈ records, request.isDue r = true →
        (snapshot.outcome request now r).hasChanges = false) → after = store) := by
  -- A shelf that gives back what it keeps is a service, and the footing makes it accept the
  -- updates.
  obtain ⟨after, ran, held, quiet⟩ := snapshot.runBatch_served
    (.ofShelf store request.collection (Writes snapshot request now records)) known matching
    footing.holds fun r member due changes wet =>
      ⟨⟨wet, r, member, due, changes⟩, footing.fitUpdates member due⟩
  simp only [refusesRecord_ofShelf, Bool.not_false, Bool.and_true, Bool.or_true,
    footing.holds.countOrZero_eq] at ran held quiet
  refine ⟨after, ran, ?_, ?_⟩
  · -- A record without changes may count as written or not, since it is left alike.
    rw [← List.map_congr_left fun r member => footing.left_eq member !request.dryRun]
    exact held
  · -- none) | Nothing is written when the run is dry or when no due record changes.
    rintro (dry | none)
    · exact quiet fun r _ _ => by rw [dry, Bool.not_true, Bool.and_false]
    · exact quiet fun r member due => by rw [none r member due, Bool.false_and]

end BatchFooting

/-- An order with a price, of which nothing has been calculated yet. -/
def pricedOrder (id price : Int) : Record :=
  .ofList [("id", .ofInt id), ("price", .ofInt price)]

/-- Two orders with prices. -/
def pricedOrders : List Record :=
  [pricedOrder 1 2, pricedOrder 2 3]

/-- A line store that keeps the orders with prices. -/
def orderStore : LineStore :=
  ⟨⟨[(["data"], .directory),
    (["data", "orders.jsonl"], .text (LineFile.textOf pricedOrders))]⟩, .ofNames ["data"]⟩

/-- A snapshot that calculates the fields of orders. -/
def orderSnapshot : Snapshot :=
  ⟨.ofList [("orders", CollectionFormulas.relay)], "", .blank⟩

/-- A batch over the orders that meet a filter, one on a page. -/
def orderRequest (filter : Record) : BatchRequest :=
  ⟨"orders", [], filter, 1, false⟩

/-- The numbers of the orders read back from their texts. -/
theorem restores_pricedOrders : ∀ n ∈ [1, 2, 3], LineStore.Restores (Float.ofInt n) := by
  -- Each number is written as its digits, which are read back as the number.
  intro n member
  simp only [List.mem_cons, List.not_mem_nil, or_false] at member
  obtain rfl | rfl | rfl := member
  · have text : (Json.ofFloat (Float.ofInt 1)).write = "1" := by decide +kernel
    exact ⟨.integer 1, by rw [text]; rfl, rfl⟩
  · have text : (Json.ofFloat (Float.ofInt 2)).write = "2" := by decide +kernel
    exact ⟨.integer 2, by rw [text]; rfl, rfl⟩
  · have text : (Json.ofFloat (Float.ofInt 3)).write = "3" := by decide +kernel
    exact ⟨.integer 3, by rw [text]; rfl, rfl⟩

/-- Every number of the orders reads back. -/
theorem numbers_pricedOrders :
    ∀ record ∈ pricedOrders, ∀ x ∈ record.numbers, LineStore.Restores x := by
  -- All numbers of the records are small integers.
  have numbers : pricedOrders.flatMap Record.numbers = [1, 2, 2, 3].map Float.ofInt := rfl
  rw [← List.forall_mem_flatMap, numbers, List.forall_mem_map]
  intro n member
  exact restores_pricedOrders n (by simp at member ⊢; omega)

/-- The line store loads the orders. -/
theorem load_orderStore : RecordShelf.load orderStore "orders" = .ok pricedOrders := by
  have fit : ∀ record ∈ pricedOrders, record.FitsLine := by
    have scalars : ∀ record ∈ pricedOrders, ∀ e ∈ record.entries, e.2.isScalar = true := by
      decide +kernel
    intro record member
    refine ⟨fun e inside => Value.nests_of_isScalar (scalars record member e inside), ?_⟩
    intro e inside x number
    exact LineStore.rereads_of_restores (.inl (numbers_pricedOrders record member x
      (List.mem_flatMap.2 ⟨e, inside, number⟩)))
  have node : orderStore.files.node? (LineFile.path ⟨orderStore.directory, "orders"⟩).names =
      some (.text (LineFile.textOf pricedOrders)) := rfl
  have plain : pricedOrders.map Record.unsigned = pricedOrders := rfl
  show orderStore.records "orders" = _
  rw [LineStore.records_eq (by decide +kernel), LineFile.readItems]
  simp only [Files.contains, Files.read, node, Option.isSome_some, if_true]
  rw [LineFile.itemsOf_textOf _ 1 fun record member => (fit record member).readsBack, plain]

/-- The fields of orders are calculated in the order in which they read one another. -/
theorem order_relay : CollectionFormulas.relay.analysis.order = ["net", "total"] := by
  cbv

/-- A batch over the orders calculates both fields on each. -/
theorem outcome_pricedOrders (filter : Record) :
    orderSnapshot.outcome (orderRequest filter) (.midnight 0) = fun r =>
      (CollectionFormulas.relay.passOver r (.midnight 0) ["net", "total"]).outcome := by
  -- Without changes and targets the request runs over the whole order, field by field.
  funext r
  show CollectionFormulas.relay.recompute r none none (.midnight 0) = _
  rw [CollectionFormulas.recompute, CollectionFormulas.schedule, order_relay]

/-- A batch over the orders hands on their prices. -/
theorem numbers_updates_pricedOrders (filter : Record) :
    pricedOrders.flatMap (fun r =>
        (orderSnapshot.outcome (orderRequest filter) (.midnight 0) r).updates.numbers) =
      [2, 2, 3, 3].map Float.ofInt := by
  rw [outcome_pricedOrders]
  rfl

/-- A batch over the orders has its footing in the line store. -/
theorem footing_orderStore (filter : Record) :
    BatchFooting orderSnapshot (orderRequest filter) (.midnight 0) orderStore pricedOrders where
  loaded := load_orderStore
  distinct := by
    show (pricedOrders.filterMap Record.id?).Nodup
    decide +kernel
  stored formulas known := by
    have calculated : orderSnapshot.collection? "orders" = some CollectionFormulas.relay := rfl
    cases calculated.symm.trans known
    rfl
  restores := numbers_pricedOrders
  computed record member _ x inside := by
    have among : x ∈ pricedOrders.flatMap fun r =>
        (orderSnapshot.outcome (orderRequest filter) (.midnight 0) r).updates.numbers :=
      List.mem_flatMap.2 ⟨record, member, inside⟩
    rw [numbers_updates_pricedOrders] at among
    obtain ⟨n, listed, rfl⟩ := List.mem_map.1 among
    exact .inl (restores_pricedOrders n (by simp at listed ⊢; omega))
  writable _ _ := @LineStore.writable_of_saveAll orderStore _ "orders" pricedOrders rfl

end CalcFields
