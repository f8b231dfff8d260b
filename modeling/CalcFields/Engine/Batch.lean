import CalcFields.Engine.Recompute
import CalcFields.Store.RecordStore

/-!
A batch recomputes every record of a collection that meets a filter. It reads all ids before it
writes, because an update can change what the filter accepts, and goes on past updates that fail.
-/

namespace CalcFields

/-- What a batch is asked for. -/
structure BatchRequest where
  collection : String
  /-- The fields to produce with all that they need; none for all fields. -/
  targets : List String
  filter : Record
  /-- The number of records on a page, held between one and the greatest page. -/
  pageSize : Nat
  /-- Counts updates without writing them. -/
  dryRun : Bool

/-- The greatest number of records on a page. -/
def greatestPage : Nat := 500

namespace BatchRequest

/-- The number of records on a page in effect. -/
def page (request : BatchRequest) : Nat :=
  max 1 (min greatestPage request.pageSize)

/-- The fields asked for, without blanks around their names and without blank names. -/
def requested (request : BatchRequest) : List String :=
  (request.targets.map trim).filter (· ≠ "")

end BatchRequest

/-- Why a batch ends without a report. -/
inductive BatchError where
  /-- None of the requested fields is calculated. -/
  | noMatchingFields (collection : String) (requested : List String)
  | unreadable (collection : String) (cause : StoreError)
deriving DecidableEq, Repr

/-- The message of a batch error. -/
def BatchError.message : BatchError → String
  | noMatchingFields collection requested =>
    "None of the requested fields (" ++ ", ".intercalate requested ++
      ") match local formulas for collection " ++ collection ++ "."
  | unreadable collection cause =>
    "Failed to read records of collection " ++ collection ++ ": " ++ cause.message

/-- How far a batch has come. -/
structure BatchCount where
  processed : Nat
  updated : Nat
  /-- Records on which some formula failed. -/
  withErrors : Nat
deriving DecidableEq, Repr

/-- The report of a batch. -/
structure BatchReport where
  collection : String
  /-- The collection has formulas. -/
  calculated : Bool
  dryRun : Bool
  count : BatchCount
  /-- The number of records that met the filter at first; zero when the store could not tell. -/
  total : Nat
  fields : List String

/-- The line that tells of a batch. -/
def BatchReport.message (report : BatchReport) : String :=
  let processed := toString report.count.processed ++ " processed."
  let updated := toString report.count.updated
  if !report.calculated then "No formulas for collection " ++ report.collection
  else if report.dryRun then
    "Dry-run: " ++ updated ++ " item(s) would be updated on " ++ processed
  else "Updated " ++ updated ++ " item(s) on " ++ processed

/-- A list cut into pages of a size, of which only the last may be shorter. -/
def pagesOf (size : Nat) (items : List String) : List (List String) :=
  if items = [] then []
  else items.take (max 1 size) :: pagesOf size (items.drop (max 1 size))
termination_by items.length
decreasing_by
  have := List.length_pos_iff.2 ‹items ≠ []›
  simp only [List.length_drop]
  omega

/-- A batch under way: the store as it is now, and the counts so far. -/
structure BatchState (σ : Type) where
  store : σ
  count : BatchCount

/-- What stays the same throughout a batch. -/
structure BatchPlan where
  snapshot : Snapshot
  collection : String
  targets : Option (List String)
  dryRun : Bool
  now : Instant

namespace BatchPlan

variable {σ : Type} [RecordStore σ]

/-- The ids of the records that meet a filter, page by page from an offset on. -/
def matchingIds (store : σ) (collection : String) (filter : Record) (limit offset : Nat) :
    Except StoreError (List String) :=
  match _read : RecordStore.readMany store collection (.idPage filter offset limit) with
  | .error e => .error e
  | .ok page =>
    let ids := page.filterMap Record.id?
    if page.length < limit ∨ page = [] then .ok ids
    else (matchingIds store collection filter limit (offset + page.length)).map (ids ++ ·)
termination_by RecordStore.bound store collection - offset
decreasing_by
  rename_i more
  have filled : page ≠ [] := fun empty => more (.inr empty)
  have within : offset + page.length ≤ RecordStore.bound store collection :=
    RecordStore.page_le_bound store collection _ page _read filled
  have := List.length_pos_iff.2 filled
  omega

/-- Writes the updates of a record, and counts them when the record was found. -/
def write (plan : BatchPlan) (state : BatchState σ) (record updates : Record) : BatchState σ :=
  match record.id? with
  | none => state
  | some id =>
    match RecordStore.updateOne state.store plan.collection id updates with
    | .ok (true, store) => ⟨store, { state.count with updated := state.count.updated + 1 }⟩
    | .ok (false, store) => { state with store := store }
    | .error _ => state

/-- Recomputes one record. -/
def process (plan : BatchPlan) (state : BatchState σ) (record : Record) : BatchState σ :=
  let outcome := plan.snapshot.recompute plan.collection record none plan.targets plan.now
  let failed := if outcome.errors.isEmpty then 0 else 1
  let count := state.count
  let counted : BatchCount := { count with
    processed := count.processed + 1
    withErrors := count.withErrors + failed }
  let next := { state with count := counted }
  if !outcome.hasChanges then next
  else if plan.dryRun then
    { next with count := { counted with updated := counted.updated + 1 } }
  else plan.write next record outcome.updates

/-- Recomputes the records of pages of ids, each page read when its turn comes. -/
def processPages (plan : BatchPlan) (state : BatchState σ) :
    List (List String) → BatchState σ × Option StoreError
  | [] => (state, none)
  | ids :: rest =>
    match RecordStore.readMany state.store plan.collection (.byIds ids) with
    | .error e => (state, some e)
    | .ok records => plan.processPages (records.foldl plan.process state) rest

end BatchPlan

/-- The number of records that meet a filter, and zero when the store cannot tell. -/
def countOrZero {σ : Type} [RecordStore σ] (store : σ) (collection : String) (filter : Record) :
    Nat :=
  match RecordStore.count store collection filter with
  | .ok (some n) => n
  | _ => 0

/-- The targets of a batch with all that they need, none for all fields; it is an error when no
field among them is calculated. -/
def BatchRequest.closure (request : BatchRequest) (formulas : CollectionFormulas) :
    Except BatchError (Option (List String)) :=
  if request.requested.isEmpty then .ok none
  else
    let closure := formulas.graph.closure request.requested
    if closure.any formulas.fields.contains then .ok (some closure)
    else .error (.noMatchingFields request.collection request.requested)

/-- Runs a batch over a collection with formulas. -/
def CollectionFormulas.runBatch {σ : Type} [RecordStore σ] (formulas : CollectionFormulas)
    (plan : BatchPlan) (request : BatchRequest) (store : σ) : Except BatchError BatchReport × σ :=
  let total := countOrZero store plan.collection request.filter
  let unreadable := BatchError.unreadable plan.collection
  match BatchPlan.matchingIds store plan.collection request.filter request.page 0 with
  | .error e => (.error (unreadable e), store)
  | .ok ids =>
    match plan.processPages ⟨store, 0, 0, 0⟩ (pagesOf request.page ids) with
    | (state, some e) => (.error (unreadable e), state.store)
    | (state, none) =>
      (.ok ⟨plan.collection, true, plan.dryRun, state.count, total,
        plan.targets.getD formulas.analysis.order⟩, state.store)

/-- Runs a batch and gives the store as it leaves it. -/
def Snapshot.runBatch {σ : Type} [RecordStore σ] (snapshot : Snapshot) (request : BatchRequest)
    (now : Instant) (store : σ) : Except BatchError BatchReport × σ :=
  match snapshot.collection? request.collection with
  | none => (.ok ⟨request.collection, false, request.dryRun, ⟨0, 0, 0⟩, 0, []⟩, store)
  | some formulas =>
    match request.closure formulas with
    | .error e => (.error e, store)
    | .ok targets =>
      formulas.runBatch ⟨snapshot, request.collection, targets, request.dryRun, now⟩ request store

end CalcFields
