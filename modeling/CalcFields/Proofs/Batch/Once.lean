import CalcFields.Proofs.Batch.Footing

/-!
A batch recomputes every record that is due exactly once, on what it holds at first, and touches
nothing else. Neither the report nor the store depends on the size of the pages.
-/

namespace CalcFields

namespace Snapshot

variable {σ : Type} [RecordShelf σ] [KeepingShelf σ] {snapshot : Snapshot} {request : BatchRequest}
  {now : Instant} {store : σ} {records : List Record} {formulas : CollectionFormulas}
  {targets : Option (List String)}

/-- Whatever the size of its pages, a batch leaves each record that met the filter at first and has
an id with its own updates, as the store gives them back, and every other record, their order and
every other collection as they were; it counts the records it was after, those that changed and
those that met the filter. A dry run counts the same and leaves the store. -/
theorem runBatch_once (footing : BatchFooting snapshot request now store records)
    (known : snapshot.collection? request.collection = some formulas)
    (matching : request.closure formulas = .ok targets) :
    let outcome := snapshot.outcome request now
    let report : BatchReport :=
      -- The footing gives the whole run, of which the statement is a reading.
      ⟨request.collection, true, request.dryRun,
        ⟨records.countP request.isDue,
          records.countP fun r => (outcome r).hasChanges && request.isDue r,
          records.countP fun r => !(outcome r).errors.isEmpty && request.isDue r⟩,
        records.countP (·.meets request.filter), targets.getD formulas.analysis.order⟩
    ∃ after,
      (∀ size, snapshot.runBatch { request with pageSize := size } now store =
        (.ok report, after)) ∧
      (request.dryRun = false → RecordShelf.load after request.collection =
        .ok (records.map fun r => if request.isDue r then r.updated σ (outcome r).updates else r)) ∧
      (∀ other, other ≠ request.collection →
        RecordShelf.load after other = RecordShelf.load store other) ∧
      (request.dryRun = true → after = store) ∧
      ∀ size, snapshot.runBatch { request with pageSize := size, dryRun := true } now store =
        (.ok { report with dryRun := true }, store) := by
  intro outcome report
  obtain ⟨after, ran, held, quiet⟩ := footing.runBatch_ofShelf known matching
  refine ⟨after, ran, fun wet => ?_, held.beside, fun dry => quiet (.inl dry), fun size => ?_⟩
  · -- A run that is not dry writes every due record.
    rw [held.loaded, wet]
    simp only [Bool.not_false, Bool.and_true]
    rfl
  · -- A dry run stands on the same footing, and has nothing to write.
    have dryFooting : BatchFooting snapshot { request with dryRun := true } now store records :=
      { footing with writable := fun wet => by cases wet }
    obtain ⟨same, ranDry, _, quietDry⟩ := dryFooting.runBatch_ofShelf known matching
    rw [quietDry (.inl rfl)] at ranDry
    exact ranDry size

/-- A batch over the orders without a total calculates the total of each once, although no order
meets the filter any more once it has one. -/
theorem runBatch_once_orders :
    let request := orderRequest (.ofList [("total", .null)])
    BatchFooting orderSnapshot request (.midnight 0) orderStore pricedOrders ∧
      orderSnapshot.collection? "orders" = some CollectionFormulas.relay ∧
      request.closure CollectionFormulas.relay = .ok none ∧
      ∃ after,
        (∀ size, orderSnapshot.runBatch { request with pageSize := size } (.midnight 0) orderStore =
          (.ok ⟨"orders", true, false, ⟨2, 2, 0⟩, 2, ["net", "total"]⟩, after)) ∧
        RecordShelf.load after "orders" =
          .ok [.ofList [("id", .ofInt 1), ("net", .ofInt 2), ("price", .ofInt 2),
              ("total", .ofInt 2)],
            .ofList [("id", .ofInt 2), ("net", .ofInt 3), ("price", .ofInt 3),
              ("total", .ofInt 3)]] := by
  -- The filter asks for orders without a total, and neither of the two has one.
  intro request
  have footing := footing_orderStore (.ofList [("total", .null)])
  have known : orderSnapshot.collection? "orders" = some CollectionFormulas.relay := rfl
  have matching : request.closure CollectionFormulas.relay = .ok none := rfl
  obtain ⟨after, ran, left, _⟩ := runBatch_once footing known matching
  rw [outcome_pricedOrders] at ran left
  refine ⟨footing, known, matching, after, fun size => ?_, left rfl⟩
  -- The fields that are reported are those of the order of evaluation.
  rw [← order_relay]
  exact ran size

/-- A batch over a collection without formulas processes no record, although one is due. -/
theorem runBatch_uncalculated :
    let records : List Record := [.ofList [("id", .ofInt 1)]]
    let store : MemoryStore := ⟨.ofList [("orders", records)]⟩
    let request : BatchRequest := ⟨"orders", [], .empty, 1, false⟩
    let snapshot : Snapshot := ⟨.empty, "", .blank⟩
    RecordShelf.load store "orders" = .ok records ∧ DistinctIds records ∧
      ∃ report, snapshot.runBatch request (.midnight 0) store = (.ok report, store) ∧
        report.count.processed ≠ records.countP request.isDue ∧
        report.total ≠ records.countP (·.meets request.filter) := by
  -- The report counts nothing, though the collection has a record.
  intro records store request snapshot
  refine ⟨rfl, ?_, _, rfl, by decide +kernel, by decide +kernel⟩
  show (records.filterMap Record.id?).Nodup
  decide +kernel

end Snapshot

end CalcFields
