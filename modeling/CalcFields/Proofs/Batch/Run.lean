import CalcFields.Proofs.Batch.Shelf
import CalcFields.Proofs.Engine.Provenance

/-!
A batch recomputes the records that are due, which are those that meet its filter at first and have
an id. Its report and the records that it leaves follow from what each record holds at first.
-/

namespace CalcFields

/-- A batch is after a record: it meets the filter and has an id. -/
def BatchRequest.isDue (request : BatchRequest) (record : Record) : Bool :=
  record.meets request.filter && record.id?.isSome

/-- The outcome that a batch has for a record, blank when nothing is calculated. -/
def Snapshot.outcome (snapshot : Snapshot) (request : BatchRequest) (now : Instant)
    (record : Record) : Outcome :=
  match snapshot.collection? request.collection with
  | none => .blank
  | some formulas =>
    match request.closure formulas with
    | .ok targets => formulas.recompute record none targets now
    | .error _ => .blank

namespace BatchPlan

variable {σ : Type} [RecordStore σ] {plan : BatchPlan} {service : Service σ plan.collection}
  {request : BatchRequest} {records : List Record} {store : σ}

/-- The ids of the records that are due are all ids of the records that meet the filter. -/
theorem filterMap_id?_due (request : BatchRequest) (records : List Record) :
    (records.filter request.isDue).filterMap Record.id? =
      (records.filter (·.meets request.filter)).filterMap Record.id? := by
  -- A matching record is due when it has an id, and without one it adds nothing to the ids.
  rw [List.filterMap_filter, List.filterMap_filter]
  refine List.filterMap_congr fun r _ => ?_
  cases has : r.id? <;> simp [BatchRequest.isDue, has]

/-- The records whose ids are those of due records are the due ones. -/
theorem settledAmong_due (distinct : DistinctIds records) :
    ∀ r ∈ records,
      plan.settledAmong service ((records.filter request.isDue).filterMap Record.id?) r =
      if request.isDue r then plan.settled service r else r := by
  intro r member
  have among : (r.id?.any ((records.filter request.isDue).filterMap Record.id?).contains) =
      request.isDue r := by
    rw [Bool.eq_iff_iff, Option.any_eq_true]
    constructor
    · -- Ids are distinct, so the record is the due one that has its id.
      rintro ⟨id, has, listed⟩
      rw [List.contains_iff_mem, List.mem_filterMap] at listed
      obtain ⟨other, dueToo, hasToo⟩ := listed
      obtain ⟨memberToo, due⟩ := List.mem_filter.1 dueToo
      rwa [Record.eq_of_hasId distinct member memberToo (Record.hasId_iff.2 has)
        (Record.hasId_iff.2 hasToo)]
    · -- A due record has an id, which is then listed.
      intro due
      obtain ⟨_, named⟩ := Bool.and_eq_true_iff.1 due
      obtain ⟨id, has⟩ := Option.isSome_iff_exists.1 named
      exact ⟨id, has, List.contains_iff_mem.2
        (List.mem_filterMap.2 ⟨r, List.mem_filter.2 ⟨member, due⟩, has⟩)⟩
  rw [settledAmong, among]

/-- A batch settles the records that are due and counts them, wherever its pages are cut. -/
theorem runBatch_served (formulas : CollectionFormulas) (holds : service.Holds store records)
    (accepts : ∀ r ∈ records, request.isDue r = true → plan.writes service r = true →
      service.Accepts (plan.outcome r).updates) :
    ∃ next,
      (∀ size, formulas.runBatch plan { request with pageSize := size } store =
        (.ok ⟨plan.collection, true, plan.dryRun,
          ⟨records.countP request.isDue,
            records.countP fun r => plan.countsUpdate service r && request.isDue r,
            records.countP fun r => plan.hasErrors r && request.isDue r⟩,
          countOrZero store plan.collection request.filter,
          plan.targets.getD formulas.analysis.order⟩, next)) ∧
      service.Holds next
        (records.map fun r => if request.isDue r then plan.settled service r else r) ∧
      ((∀ r ∈ records, request.isDue r = true → plan.writes service r = false) →
        next = store) := by
  -- The due records are some of the records, in their order.
  have sublist : (records.filter request.isDue).Sublist records := List.filter_sublist
  -- Being due asks for an id.
  have named : ∀ r ∈ records.filter request.isDue, r.id?.isSome = true := by
    intro r member
    exact (Bool.and_eq_true_iff.1 (List.mem_filter.1 member).2).2
  have acceptsDue : ∀ r ∈ records.filter request.isDue, plan.writes service r = true →
      service.Accepts (plan.outcome r).updates := by
    intro r member
    exact accepts r (List.mem_filter.1 member).1 (List.mem_filter.1 member).2
  obtain ⟨next, processed, held, quiet⟩ :=
    foldl_process ⟨store, ⟨0, 0, 0⟩⟩ holds sublist named acceptsDue
  refine ⟨next, fun size => ?_, ?_, ?_⟩
  · -- The ids are those of the due records, and their pages are recomputed one after the other.
    have positive : 0 < BatchRequest.page { request with pageSize := size } :=
      Nat.lt_of_lt_of_le Nat.zero_lt_one (Nat.le_max_left _ _)
    have ids := matchingIds_served holds request.filter positive 0
    rw [List.drop_zero, ← filterMap_id?_due] at ids
    have pages := processPages_pagesOf (BatchRequest.page { request with pageSize := size })
      ⟨store, ⟨0, 0, 0⟩⟩ holds sublist named acceptsDue
    rw [processed, foldl_tally] at pages
    rw [CollectionFormulas.runBatch, ids]
    simp only [pages, Nat.zero_add, List.countP_filter, ← List.countP_eq_length_filter]
  · -- To be among the settled ids is to be due.
    rw [List.map_congr_left (settledAmong_due (service.distinct holds))] at held
    exact held
  · -- When none of the due records is written, the fold leaves the store alone.
    intro all
    refine quiet fun r member => ?_
    exact all r (List.mem_filter.1 member).1 (List.mem_filter.1 member).2

end BatchPlan

end CalcFields
