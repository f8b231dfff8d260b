import CalcFields.Proofs.Batch.Footing

/-!
A second batch has nothing left to write: every record that it is after has been left with its own
updates, and says the same as what it computes from then on.
-/

namespace CalcFields

variable {σ : Type} [RecordShelf σ] [KeepingShelf σ]

/-- Without cycles, a record with its updates has nothing to update once a store gives it back. -/
theorem CollectionFormulas.hasChanges_updated {formulas : CollectionFormulas}
    (acyclic : formulas.graph.Acyclic) {record : Record}
    (given : ∀ e ∈ record.entries, GivenBack σ e.2) (changed targets : Option (List String))
    (now : Instant) :
    (formulas.recompute
      (record.updated σ (formulas.recompute record changed targets now).updates)
      changed targets now).hasChanges = false := by
  -- A field of the written record is the update, if there is one, and else the field before, each
  -- as the shelf gives it back.
  have reads (field : String) :
      (record.updated σ (formulas.recompute record changed targets now).updates).get? field =
        (((formulas.recompute record changed targets now).updates.get? field).or
          (record.get? field)).map (KeepingShelf.kept σ) := by
    rw [Record.updated, Record.kept, FieldMap.get?_mapValues, FieldMap.get?_extend]
  refine hasChanges_eq_false_of_agree acyclic record (fun field none => ?_)
    fun field v updated => ?_
  · -- What was not updated is given back as it is.
    rw [Record.field, Record.field, reads, none, Option.none_or]
    cases found : record.get? field with
    | none => rfl
    | some v =>
      have same := (given (field, v) (FieldMap.get?_eq_some_iff.1 found)).restores
      rw [Option.map_some, KeepingShelf.kept_eq_self same]
  · -- What was updated is given back in a form that says the same.
    obtain ⟨made, _⟩ := get?_updates_recompute.1 updated
    obtain ⟨w, rfl⟩ := storable_of_mem_attemptsFrom made
    rw [Record.field, reads, updated, Option.some_or, Option.map_some, Option.getD_some]
    exact KeepingShelf.equivalent_kept w

namespace Snapshot

variable {snapshot : Snapshot} {request : BatchRequest} {now : Instant} {store : σ}
  {records : List Record} {formulas : CollectionFormulas} {targets : Option (List String)}

/-- The outcome of a batch is the one of the formulas of its collection. -/
theorem outcome_eq (known : snapshot.collection? request.collection = some formulas)
    (matching : request.closure formulas = .ok targets) (record : Record) :
    snapshot.outcome request now record = formulas.recompute record none targets now := by
  simp only [outcome, known, matching]

/-- Records that a store holds and that have nothing to update give a batch its footing. -/
theorem footing_of_quiet {initial : σ} {able : Prop}
    (held : ShelfHolds initial request.collection able store records)
    (stored : ∀ formulas, snapshot.collection? request.collection = some formulas →
      formulas.fields.get? idField = none)
    (quiet : ∀ r ∈ records, request.isDue r = true →
      (snapshot.outcome request now r).hasChanges = false) :
    BatchFooting snapshot request now store records where
  loaded := held.loaded
  distinct := held.distinct
  stored := stored
  restores r member x number := by
    -- A number of a record is one of its entries', and the shelf has given those back already.
    obtain ⟨e, inside, numberToo⟩ := List.mem_flatMap.1 number
    exact (held.given r member e inside).restores x numberToo
  -- No due record has updates, so there is nothing to survive and nothing to write.
  computed r member due x number := by
    have none := quiet r member due
    rw [Outcome.hasChanges, Bool.not_eq_false', FieldMap.isEmpty, List.isEmpty_iff] at none
    rw [Record.numbers, none] at number
    cases number
  writable := by
    -- Nothing changes, so the run never asks whether it may write.
    rintro - ⟨r, member, due, changes⟩
    rw [quiet r member due] at changes
    cases changes

/-- Whatever the filter accepts after a batch was due before, and has been left with its updates. -/
theorem quiet_of_updated (footing : BatchFooting snapshot request now store records)
    (acyclic : formulas.graph.Acyclic)
    (known : snapshot.collection? request.collection = some formulas)
    (matching : request.closure formulas = .ok targets) :
    ∀ r ∈ records.map (fun r => if request.isDue r then
        r.updated σ (snapshot.outcome request now r).updates else r),
      request.isDue r = true → (snapshot.outcome request now r).hasChanges = false := by
  -- The second outcome is computed on the record that the first run left.
  rw [List.forall_mem_map]
  intro r member due
  -- A record that was not due is left alone, and is not due now.
  split at due
  · rename_i before
    rw [if_pos before, outcome_eq known matching, outcome_eq known matching]
    exact CollectionFormulas.hasChanges_updated acyclic (footing.holds.given r member) none targets
      now
  · rename_i before
    exact absurd due before

/-- After a batch that writes, a second one with the same request updates nothing and leaves the
store as it is. -/
theorem runBatch_again (footing : BatchFooting snapshot request now store records)
    (acyclic : ∀ formulas, snapshot.collection? request.collection = some formulas →
      formulas.graph.Acyclic)
    (wet : request.dryRun = false) {report : BatchReport} {after : σ}
    (ran : snapshot.runBatch request now store = (.ok report, after)) :
    ∃ again, snapshot.runBatch request now after = (.ok again, after) ∧
      again.count.updated = 0 := by
  cases known : snapshot.collection? request.collection with
  | none =>
    -- Without formulas there is nothing to do, either time.
    rw [runBatch_of_uncalculated known] at ran
    cases ran
    exact ⟨_, runBatch_of_uncalculated known store, rfl⟩
  | some formulas =>
    cases matching : request.closure formulas with
    | error e =>
      -- A run whose fields match nothing gives no report at all.
      simp only [runBatch, known, matching] at ran
      cases ran
    | ok targets =>
      -- The first run leaves a shelf with the updated records, on which every due record is quiet.
      obtain ⟨next, ranAll, held, _⟩ := footing.runBatch_ofShelf known matching
      have first := ranAll request.pageSize
      cases ran.symm.trans first
      simp only [wet, Bool.not_false, Bool.and_true] at held
      have quiet := quiet_of_updated footing (acyclic formulas known) known matching
      have footingAgain := footing_of_quiet held footing.stored quiet
      obtain ⟨last, ranAgain, _, stays⟩ := footingAgain.runBatch_ofShelf known matching
      -- A run in which no due record changes leaves the store as it was.
      cases stays (.inr quiet)
      refine ⟨_, ranAgain request.pageSize, ?_⟩
      -- The count is of due records with changes, and there are none.
      rw [List.countP_eq_zero]
      intro r member both
      obtain ⟨changes, due⟩ := Bool.and_eq_true_iff.1 both
      rw [quiet r member due] at changes
      cases changes

/-- A second batch over all orders finds each of them with its total, and writes nothing. -/
theorem runBatch_again_orders :
    ∃ report after, orderSnapshot.runBatch (orderRequest .empty) (.midnight 0) orderStore =
        (.ok report, after) ∧ report.count = ⟨2, 2, 0⟩ ∧
      ∃ again, orderSnapshot.runBatch (orderRequest .empty) (.midnight 0) after =
        (.ok again, after) ∧ again.count.updated = 0 := by
  -- The run is the one that the footing of the two orders promises, so its report is known.
  have footing := footing_orderStore .empty
  have known : orderSnapshot.collection? "orders" = some CollectionFormulas.relay := rfl
  have acyclic : ∀ formulas, orderSnapshot.collection? "orders" = some formulas →
      formulas.graph.Acyclic := by
    intro formulas found
    cases known.symm.trans found
    exact DependencyGraph.acyclic_of_cycles_eq_nil CollectionFormulas.cycles_relay
  have matching : (orderRequest .empty).closure CollectionFormulas.relay = .ok none := rfl
  obtain ⟨after, ran, _⟩ := footing.runBatch_ofShelf known matching
  refine ⟨_, after, ran 1, ?_, runBatch_again footing acyclic rfl (ran 1)⟩
  -- Both orders are due and both gain fields.
  rw [outcome_pricedOrders]
  rfl

end Snapshot

end CalcFields
