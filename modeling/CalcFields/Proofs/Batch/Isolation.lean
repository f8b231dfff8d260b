import CalcFields.Proofs.Batch.Footing

/-!
A store that refuses some updates keeps the refused records as they are and changes nothing for the
others. Refused reads of ids end a batch before it writes, and refused counts leave the total at
zero.
-/

namespace CalcFields

/-- Updates of a record are refused, because they fail or miss it. -/
def Refusal.refuses (refusal : Refusal) (record : Record) : Bool :=
  record.id?.any fun id => refusal.failedUpdates.contains id || refusal.missedUpdates.contains id

variable {σ : Type} [RecordShelf σ] [KeepingShelf σ] {snapshot : Snapshot} {request : BatchRequest}
  {now : Instant} {store : σ} {records : List Record} {refusal : Refusal}
  {formulas : CollectionFormulas} {targets : Option (List String)}

/-- A refusing store counts as the store behind it, unless it refuses to. -/
theorem RefusingStore.countOrZero_eq {τ : Type} [RecordStore τ] (front : RefusingStore τ)
    (collection : String) (filter : Record) :
    countOrZero front collection filter =
      if front.refusal.count = .passed then countOrZero front.store collection filter else 0 := by
  -- A refused count and a failed one are both reported as zero.
  have unfolded : RecordStore.count front collection filter =
      RefusingStore.count front collection filter := rfl
  rw [countOrZero, unfolded, RefusingStore.count]
  cases front.refusal.count <;> rfl

/-- Ids that cannot be read, on whatever page, end a batch before it has written anything. -/
theorem Snapshot.runBatch_of_unread {τ : Type} [RecordStore τ] {front : τ} {e : StoreError}
    (known : snapshot.collection? request.collection = some formulas)
    (matching : request.closure formulas = .ok targets)
    (unread : BatchPlan.matchingIds front request.collection request.filter request.page 0 =
      .error e) :
    snapshot.runBatch request now front = (.error (.unreadable request.collection e), front) := by
  simp only [runBatch, known, matching, CollectionFormulas.runBatch, unread]

/-- A store that refuses queries does not give the ids. -/
theorem RefusingStore.matchingIds_of_queries {τ : Type} [RecordStore τ] {front : RefusingStore τ}
    (blind : front.refusal.queries = true) (collection : String) (filter : Record) (limit : Nat) :
    BatchPlan.matchingIds front collection filter limit 0 = .error (.refused "read refused") := by
  -- The first page of ids is a query, and queries are refused.
  have refused : RecordStore.readMany front collection (.idPage filter 0 limit) =
      .error (.refused "read refused") := by
    show RefusingStore.readMany front collection _ = _
    simp [readMany, refusesRead, RecordQuery.idPage, blind]
  rw [BatchPlan.matchingIds]
  split
  · rename_i e read
    cases refused.symm.trans read
    rfl
  · -- So there is no page to go on from.
    rename_i page read
    cases refused.symm.trans read

namespace BatchFooting

/-- A batch over a refusing store reports on the records that are due, and leaves those that are not
refused with their updates unless it is a dry run. -/
theorem runBatch_ofRefusing (footing : BatchFooting snapshot request now store records)
    (reads : refusal.queries = false ∧ refusal.listed = false)
    (known : snapshot.collection? request.collection = some formulas)
    (matching : request.closure formulas = .ok targets) (wet : request.dryRun = false) :
    ∃ after : RefusingStore σ,
      snapshot.runBatch request now (RefusingStore.mk store refusal) =
        (.ok ⟨request.collection, true, false,
          ⟨records.countP request.isDue,
            records.countP fun r => ((snapshot.outcome request now r).hasChanges &&
              !refusal.refuses r) && request.isDue r,
            records.countP fun r =>
              !(snapshot.outcome request now r).errors.isEmpty && request.isDue r⟩,
          if refusal.count = .passed then records.countP (·.meets request.filter) else 0,
          targets.getD formulas.analysis.order⟩, after) ∧
      ShelfHolds store request.collection (Writes snapshot request now records) after.store
        (records.map fun r => if request.isDue r && !refusal.refuses r then
          r.updated σ (snapshot.outcome request now r).updates else r) := by
  -- The refusing store serves as the shelf behind it does, but for the ids that it refuses.
  have holds : (Service.ofRefusing store request.collection (Writes snapshot request now records)
      refusal reads).Holds ⟨store, refusal⟩ records := ⟨footing.holds, rfl⟩
  obtain ⟨after, ran, held, _⟩ := snapshot.runBatch_served _ known matching holds
    fun r member due changes wet => ⟨⟨wet, r, member, due, changes⟩, footing.fitUpdates member due⟩
  refine ⟨after, ?_, ?_⟩
  · -- The count of a collection that is refused is a zero.
    have whole : snapshot.runBatch request now (RefusingStore.mk store refusal) = _ :=
      ran request.pageSize
    rw [RefusingStore.countOrZero_eq, footing.holds.countOrZero_eq] at whole
    simp only [wet, Bool.false_or] at whole
    exact whole
  · -- A record whose id is refused stays, and so does a due one without changes.
    have held := held.1
    simp only [wet, Bool.not_false, Bool.and_true] at held
    rw [← List.map_congr_left fun r member => footing.left_eq member !refusal.refuses r]
    exact held

end BatchFooting

/-- What is counted is counted among the refused records and among the others. -/
theorem countP_refuses (refusal : Refusal) (changes due : Record → Bool) (records : List Record) :
    (records.countP fun r => (changes r && !refusal.refuses r) && due r) +
        records.countP (fun r => due r && (refusal.refuses r && changes r)) =
      records.countP fun r => changes r && due r := by
  -- Each record is counted on one side and on the other, so they are compared record by record.
  induction records with
  | nil => rfl
  | cons r rest ih =>
    simp only [List.countP_cons]
    cases changes r <;> cases due r <;> cases refusal.refuses r <;> simp <;> omega

/-- Refused updates are a matter of their own records: a batch over a store that refuses the updates
of some ids ends as the batch over the store itself, except that the refused records stay as they
are and their changes are not counted. A count that is refused leaves the total at zero, and ids
that cannot be read end the batch with nothing written. -/
theorem Snapshot.runBatch_isolated (refusal : Refusal)
    (footing : BatchFooting snapshot request now store records)
    (matching : ∀ formulas, snapshot.collection? request.collection = some formulas →
      ∃ targets, request.closure formulas = .ok targets)
    (wet : request.dryRun = false) (reads : refusal.queries = false ∧ refusal.listed = false) :
    let outcome := snapshot.outcome request now
    let left (r : Record) := if request.isDue r then r.updated σ (outcome r).updates else r
    (∃ report after refusedReport refusedAfter,
      snapshot.runBatch request now store = (.ok report, after) ∧
      snapshot.runBatch request now (RefusingStore.mk store refusal) =
        (.ok refusedReport, refusedAfter) ∧
      RecordShelf.load after request.collection = .ok (records.map left) ∧
      RecordShelf.load refusedAfter.store request.collection =
        .ok (records.map fun r => if refusal.refuses r then r else left r) ∧
      (∀ other, other ≠ request.collection →
        RecordShelf.load refusedAfter.store other = RecordShelf.load store other) ∧
      refusedReport.count.processed = report.count.processed ∧
      refusedReport.count.withErrors = report.count.withErrors ∧
      refusedReport.count.updated +
          records.countP
              (fun r => request.isDue r && (refusal.refuses r && (outcome r).hasChanges)) =
        report.count.updated ∧
      refusedReport.total = if refusal.count = .passed then report.total else 0) ∧
    ∀ front : RefusingStore σ, (snapshot.collection? request.collection).isSome = true →
      (∀ e, BatchPlan.matchingIds front request.collection request.filter request.page 0 =
          .error e →
        snapshot.runBatch request now front =
          (.error (.unreadable request.collection e), front)) ∧
      (front.refusal.queries = true → snapshot.runBatch request now front =
        (.error (.unreadable request.collection (.refused "read refused")), front)) := by
  intro outcome left
  refine ⟨?_, fun front calculated => ?_⟩
  · cases known : snapshot.collection? request.collection with
    | none =>
      -- Without formulas there is nothing to write, and every record is left as it is.
      have quiet (r : Record) : (outcome r).hasChanges = false := outcome_of_uncalculated known r
      have same : ∀ r ∈ records, left r = r := by
        intro r member
        have unchanged : r.updated σ (outcome r).updates = r :=
          footing.updated_of_quiet member (quiet r)
        simp only [left, unchanged, ite_self]
      have sameToo : ∀ r ∈ records, (if refusal.refuses r then r else left r) = r := by
        intro r member
        rw [same r member, ite_self]
      refine ⟨_, store, _, ⟨store, refusal⟩, runBatch_of_uncalculated known store,
        runBatch_of_uncalculated known _, ?_, ?_, fun _ _ => rfl, rfl, rfl, ?_, ?_⟩
      · -- Both stores are the one before, so their records are the loaded ones.
        rw [List.map_congr_left same, List.map_id', footing.loaded]
      · rw [List.map_congr_left sameToo, List.map_id', footing.loaded]
      · simp [quiet]
      · rw [ite_self]
    | some formulas =>
      -- With formulas both runs are known from their footings, one behind the shelf and one behind
      -- the refusal.
      obtain ⟨targets, closed⟩ := matching formulas known
      obtain ⟨after, ran, held, _⟩ := footing.runBatch_ofShelf known closed
      obtain ⟨refusedAfter, ranRefused, heldRefused⟩ :=
        footing.runBatch_ofRefusing reads known closed wet
      refine ⟨_, after, _, refusedAfter, ran request.pageSize, ranRefused, ?_, ?_,
        heldRefused.beside, rfl, rfl, ?_, rfl⟩
      · have loaded := held.loaded
        simp only [wet, Bool.not_false, Bool.and_true] at loaded
        exact loaded
      · -- The record of a refused id is the one that the other run would have rewritten.
        rw [heldRefused.loaded]
        refine congrArg Except.ok (List.map_congr_left fun r _ => ?_)
        simp only [left]
        cases request.isDue r <;> cases refusal.refuses r <;> rfl
      · -- What the refusing run leaves out of its count are the refused records with changes.
        exact countP_refuses refusal (fun r => (outcome r).hasChanges) request.isDue records
  · -- A run that cannot list the ids ends with the error of the listing, before anything is
    -- written.
    obtain ⟨formulas, known⟩ := Option.isSome_iff_exists.1 calculated
    obtain ⟨targets, closed⟩ := matching formulas known
    exact ⟨fun e => runBatch_of_unread known closed, fun blind =>
      runBatch_of_unread known closed (RefusingStore.matchingIds_of_queries blind _ _ _)⟩

/-- When the update of the first order fails and orders are not counted, the second order still gets
its total, and one update less is counted. -/
theorem Snapshot.runBatch_isolated_orders :
    let request := orderRequest .empty
    let refusal : Refusal := ⟨["1"], [], .failed, false, false⟩
    BatchFooting orderSnapshot request (.midnight 0) orderStore pricedOrders ∧
      request.dryRun = false ∧
      ∃ report after refusedReport refusedAfter,
        orderSnapshot.runBatch request (.midnight 0) orderStore = (.ok report, after) ∧
        orderSnapshot.runBatch request (.midnight 0) (RefusingStore.mk orderStore refusal) =
          (.ok refusedReport, refusedAfter) ∧
        RecordShelf.load refusedAfter.store "orders" =
          .ok [pricedOrder 1 2,
            .ofList [("id", .ofInt 2), ("net", .ofInt 3), ("price", .ofInt 3),
              ("total", .ofInt 3)]] ∧
        refusedReport.count.updated + 1 = report.count.updated ∧ refusedReport.total = 0 := by
  -- The first of the two orders is refused and the count fails, while ids are still listed.
  intro request refusal
  have footing := footing_orderStore .empty
  have known : orderSnapshot.collection? "orders" = some CollectionFormulas.relay := rfl
  have matching : ∀ formulas, orderSnapshot.collection? "orders" = some formulas →
      ∃ targets, request.closure formulas = .ok targets := by
    intro formulas found
    cases known.symm.trans found
    exact ⟨none, rfl⟩
  obtain ⟨⟨report, after, refusedReport, refusedAfter, ran, ranRefused, _, left, _, _, _, updated,
    total⟩, _⟩ := runBatch_isolated refusal footing matching rfl ⟨rfl, rfl⟩
  rw [outcome_pricedOrders] at left updated
  -- Refusal goes by the text of the id.
  have first : refusal.refuses (pricedOrder 1 2) = true := by decide +kernel
  have second : refusal.refuses (pricedOrder 2 3) = false := by decide +kernel
  rw [pricedOrders, List.map_cons, List.map_singleton, first, second] at left
  rw [pricedOrders, List.countP_cons, List.countP_singleton, first, second] at updated
  exact ⟨footing, rfl, report, after, refusedReport, refusedAfter, ran, ranRefused, left, updated,
    total⟩

/-- A batch for a field that is not calculated does not succeed, refused updates or not. -/
theorem Snapshot.runBatch_unmatched :
    let request : BatchRequest := ⟨"orders", ["nope"], .empty, 1, false⟩
    let front : RefusingStore LineStore := ⟨orderStore, ⟨["1"], [], .passed, false, false⟩⟩
    request.dryRun = false ∧ DistinctIds pricedOrders ∧
      (orderSnapshot.runBatch request (.midnight 0) front).1 =
        .error (.noMatchingFields "orders" ["nope"]) := by
  -- The refusals play no part, since the run ends before it asks the store.
  intro request front
  refine ⟨rfl, (footing_orderStore .empty).distinct, ?_⟩
  have known : orderSnapshot.collection? "orders" = some CollectionFormulas.relay := rfl
  -- The field is asked for as it is named, needs no other one and is not calculated.
  have asked : request.requested = ["nope"] := by decide +kernel
  have alone : CollectionFormulas.relay.graph.closure ["nope"] = ["nope"] := by cbv
  have unmatched : request.closure CollectionFormulas.relay =
      .error (.noMatchingFields "orders" ["nope"]) := by
    rw [BatchRequest.closure, asked, alone]
    rfl
  rw [runBatch, known]
  simp only [unmatched]

end CalcFields
