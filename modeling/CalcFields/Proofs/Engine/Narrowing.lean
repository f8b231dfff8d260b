import CalcFields.Proofs.Engine.Comparison
import CalcFields.Proofs.Engine.Schedule
import CalcFields.Proofs.Graph.Reach
import CalcFields.Proofs.Value.Storable

/-!
A narrowed pass does its part of the full pass. Targets leave out fields that nothing needed reads;
changes to a settled record leave out fields that would compute what the record holds.
-/

namespace CalcFields

attribute [ext] Outcome

/-- The part of an outcome that is about the fields which a test accepts. -/
def Outcome.restrict (outcome : Outcome) (keep : String → Bool) : Outcome :=
  ⟨outcome.updates.filter fun name _ => keep name, outcome.evaluated.filter keep,
    outcome.errors.filter (keep ·.field)⟩

/-- A restricted outcome has the updates of the fields that are accepted. -/
theorem Outcome.get?_updates_restrict {keep : String → Bool} {field : String}
    (accepted : keep field = true) (outcome : Outcome) :
    (outcome.restrict keep).updates.get? field = outcome.updates.get? field := by
  rw [restrict, FieldMap.get?_filter, accepted]
  cases outcome.updates.get? field <;> rfl

namespace CollectionFormulas

variable {formulas : CollectionFormulas} {record : Record} {now : Instant}

/-- A failed attempt passes a test on its error exactly when it passes it on its field. -/
theorem filter_errors (keep : String → Bool) (tried : List Attempt) :
    (tried.filter (keep ·.field)).filterMap Attempt.error? =
      (tried.filterMap Attempt.error?).filter (keep ·.field) := by
  -- The error of an attempt is about the field of the attempt.
  induction tried with
  | nil => rfl
  | cons a rest ih =>
    obtain ⟨field, result⟩ := a
    cases result <;> cases kept : keep field <;>
      simp [List.filterMap_cons, Attempt.error?, kept, ih]

/-- The outcome of a pass over part of a schedule is that part of the outcome of the whole pass,
when the fields of the part read no value computed beside it that differs from the record. -/
theorem outcome_passOver_filter {schedule : List String} (distinct : schedule.Nodup)
    {keep : String → Bool}
    (settled : ∀ reader, keep reader = true → ∀ field ∈ formulas.graph.dependencies reader,
      keep field = false → ∀ v,
        ⟨field, .ok v⟩ ∈ formulas.attempts record now schedule → v = record.field field) :
    (formulas.passOver record now (schedule.filter keep)).outcome =
      (formulas.passOver record now schedule).outcome.restrict keep := by
  -- The attempts of the part are a part of the attempts, and each list of an outcome follows them.
  have attempts := attempts_filter settled
  refine Outcome.ext ?_ ?_ ?_
  · -- The updates are the values of attempts that differ from the record, told by their fields.
    refine FieldMap.ext_get? fun name => Option.ext fun v => ?_
    simp only [Outcome.restrict, FieldMap.get?_filter, Option.filter_eq_some_iff]
    rw [get?_updates_passOver (distinct.filter keep), get?_updates_passOver distinct, attempts,
      List.mem_filter]
    exact and_right_comm
  · simp only [Outcome.restrict]
    rw [evaluated_passOver, evaluated_passOver, attempts, List.filter_map]
    rfl
  · simp only [Outcome.restrict]
    rw [errors_passOver, errors_passOver, attempts, filter_errors]

/-- Two passes over a record have the same update at a field of a part that both schedules have,
when all that they compute beside the part and its fields read is what the record holds. -/
theorem get?_updates_of_part {changed targets : Option (List String)} (part : String → Prop)
    (within : ∀ name, part name → name ∈ formulas.schedule changed targets)
    (beside : ∀ reader, part reader → ∀ read ∈ formulas.graph.dependencies reader, ¬ part read →
      ∀ v, ⟨read, .ok v⟩ ∈ formulas.attempts record now (formulas.schedule changed targets) →
        v = record.field read)
    (besideToo : ∀ reader, part reader → ∀ read ∈ formulas.graph.dependencies reader,
      ¬ part read → ∀ v,
        ⟨read, .ok v⟩ ∈ formulas.attempts record now (formulas.schedule none none) →
          v = record.field read)
    {field : String} (inside : part field) :
    (formulas.recompute record changed targets now).updates.get? field =
      (formulas.recompute record none none now).updates.get? field := by
  classical
  let keep (name : String) : Bool := part name
  have accepted : keep field = true := decide_eq_true inside
  -- At the part each of the passes does what it would do alone, and the part is one in both.
  have narrowed : (formulas.passOver record now
      ((formulas.schedule changed targets).filter keep)).outcome =
        (formulas.recompute record changed targets now).restrict keep :=
    outcome_passOver_filter (formulas.nodup_schedule changed targets)
      fun reader stays read listed dropped =>
        beside reader (of_decide_eq_true stays) read listed (of_decide_eq_false dropped)
  have whole : (formulas.passOver record now ((formulas.schedule none none).filter keep)).outcome =
      (formulas.recompute record none none now).restrict keep :=
    outcome_passOver_filter (formulas.nodup_schedule none none)
      fun reader stays read listed dropped =>
        besideToo reader (of_decide_eq_true stays) read listed (of_decide_eq_false dropped)
  rw [filter_schedule fun name stays => within name (of_decide_eq_true stays), whole] at narrowed
  calc (formulas.recompute record changed targets now).updates.get? field
      _ = ((formulas.recompute record changed targets now).restrict keep).updates.get? field :=
        (Outcome.get?_updates_restrict accepted _).symm
      _ = ((formulas.recompute record none none now).restrict keep).updates.get? field :=
        congrArg (·.updates.get? field) narrowed.symm
      _ = (formulas.recompute record none none now).updates.get? field :=
        Outcome.get?_updates_restrict accepted _

/-- Restricting a pass to targets restricts its outcome to what the targets need, whatever changes
the pass is about: the same updates, evaluations and errors in the same order. -/
theorem recompute_targets (formulas : CollectionFormulas) (record : Record)
    (changed : Option (List String)) (targets : List String) (now : Instant) :
    formulas.recompute record changed (some targets) now =
      (formulas.recompute record changed none now).restrict
        (formulas.graph.closure targets).contains := by
  -- Targets filter the schedule that there is without them.
  have narrowed : formulas.schedule changed (some targets) =
      (formulas.schedule changed none).filter (formulas.graph.closure targets).contains := rfl
  rw [recompute, recompute, narrowed]
  refine outcome_passOver_filter (formulas.nodup_schedule changed none) ?_
  intro reader needed field listed beside v made
  -- A dependency that is computed is needed together with its reader, so that none is left out.
  have calculated := contains_of_mem_schedule (field_mem_of_mem_attemptsFrom made)
  rw [List.contains_iff_mem] at needed
  have also := DependencyGraph.mem_closure ⟨listed, calculated⟩ needed
  rw [List.contains_iff_mem.2 also] at beside
  cases beside

/-- A record is a fixpoint when every value that the full pass computes is the one it holds, an
absent field holding null. -/
def IsFixpoint (formulas : CollectionFormulas) (record : Record) (now : Instant) : Prop :=
  ∀ field v, (formulas.passOver record now (formulas.schedule none none)).computed.get? field =
    some v → record.field field = v

/-- Beside what changes reach, the full pass over a changed fixpoint computes what it holds. -/
theorem IsFixpoint.stored (fixpoint : formulas.IsFixpoint record now) {changedRecord : Record}
    {changed : List String}
    (beyond : ∀ name ∉ changed, changedRecord.field name = record.field name) {field : String}
    (unreached : field ∉ formulas.graph.affected changed ∧ field ∉ changed) {v : Value}
    (made : ⟨field, .ok v⟩ ∈
      formulas.attempts changedRecord now (formulas.schedule none none)) :
    v = changedRecord.field field := by
  have distinct := formulas.nodup_schedule none none
  -- Fields that no change reaches read only such fields, on which the two records agree.
  let apart (name : String) : Prop :=
    name ∉ formulas.graph.affected changed ∧ name ∉ changed
  have closed : ∀ reader, apart reader →
      ∀ name ∈ formulas.graph.dependencies reader, apart name := by
    intro reader covers name listed
    constructor
    · exact fun reached => covers.1 (DependencyGraph.mem_affected listed (.inr reached))
    · exact fun touched => covers.1 (DependencyGraph.mem_affected listed (.inl touched))
  -- So the value is made over both records or over neither.
  have alike : ⟨field, .ok v⟩ ∈ formulas.attempts changedRecord now (formulas.schedule none none) ↔
      ⟨field, .ok v⟩ ∈ formulas.attempts record now (formulas.schedule none none) := by
    refine mem_attempts_iff distinct apart closed ?_ unreached
    intro reader _ covers name listed
    exact .inl (beyond name (closed reader covers name listed).2)
  -- The value is computed over the fixpoint as well, which holds it.
  have before := (get?_computed_passOver distinct).2 (alike.1 made)
  rw [beyond field unreached.2]
  exact (fixpoint field v before).symm

/-- After changes to a fixpoint, the pass over what they reach gives the updates of the full pass,
and of its errors those at the fields scheduled. -/
theorem recompute_changed (fixpoint : formulas.IsFixpoint record now) (changed : List String)
    (changedRecord : Record)
    (beyond : ∀ name ∉ changed, changedRecord.field name = record.field name) :
    (formulas.recompute changedRecord (some changed) none now).updates =
        (formulas.recompute changedRecord none none now).updates ∧
      (formulas.recompute changedRecord (some changed) none now).errors =
        (formulas.recompute changedRecord none none now).errors.filter fun e =>
          (formulas.schedule (some changed) none).contains e.field := by
  let reached (name : String) : Bool :=
    (formulas.graph.affected changed).contains name || changed.contains name
  -- Changes filter the whole order by what they reach.
  have narrowed : formulas.schedule (some changed) none =
      (formulas.schedule none none).filter reached := rfl
  have unreached {name : String} (beside : reached name = false) :
      name ∉ formulas.graph.affected changed ∧ name ∉ changed := by
    simpa [reached] using beside
  have distinct := formulas.nodup_schedule none none
  have part : formulas.recompute changedRecord (some changed) none now =
      (formulas.recompute changedRecord none none now).restrict reached := by
    rw [recompute, recompute, narrowed]
    -- A dependency beside what changes reach gives what the record holds.
    refine outcome_passOver_filter distinct ?_
    intro reader _ field _ beside v made
    exact fixpoint.stored beyond (unreached beside) made
  -- The narrowed pass is a part of the full one; what is left out has nothing to update.
  rw [part, narrowed]
  constructor
  · refine FieldMap.ext_get? fun name => Option.ext fun v => ?_
    simp only [Outcome.restrict, FieldMap.get?_filter, Option.filter_eq_some_iff]
    refine and_iff_left_of_imp fun updated => ?_
    -- A value beside what changes reach says the same as the record, and so is no update.
    obtain ⟨made, differs⟩ := (get?_updates_passOver distinct).1 updated
    cases beside : reached name with
    | true => rfl
    | false =>
      have stored := fixpoint.stored beyond (unreached beside) made
      obtain ⟨w, rfl⟩ := storable_of_mem_attemptsFrom made
      rw [← stored, w.equivalent_storable_self] at differs
      cases differs
  · -- Every error is at a field of the order, so that being reached is being scheduled.
    refine List.filter_congr fun e failed => ?_
    have scheduled : e.field ∈ formulas.schedule none none :=
      field_mem_of_mem_attemptsFrom (mem_errors_passOver.1 failed)
    cases here : reached e.field <;> simp [here, scheduled]

/-- A record of the collection of two fields that holds what they compute. -/
def settledOrder : Record :=
  .ofList [("net", .string "5"), ("price", .string "5"), ("total", .string "5")]

/-- The full pass over the settled record computes what it holds. -/
theorem isFixpoint_settledOrder : relay.IsFixpoint settledOrder (.midnight 0) := by
  intro field v computed
  -- The pass over this one record can be run to its end.
  have entries : (relay.passOver settledOrder (.midnight 0)
      (relay.schedule none none)).computed.entries =
        [("net", .string "5"), ("total", .string "5")] := by
    cbv
  -- Both fields hold what is computed.
  rw [FieldMap.get?_eq_some_iff, entries, List.mem_cons, List.mem_singleton] at computed
  obtain first | second := computed
  · cases first
    rfl
  · cases second
    rfl

/-- After a change of the price, the pass over what it reaches gives the updates of the full one. -/
theorem recompute_changed_price :
    relay.IsFixpoint settledOrder (.midnight 0) ∧
      (relay.recompute (settledOrder.insert "price" (.string "6")) (some ["price"]) none
          (.midnight 0)).updates =
        (relay.recompute (settledOrder.insert "price" (.string "6")) none none
          (.midnight 0)).updates := by
  -- Only the price was changed, so every other field is as before.
  refine ⟨isFixpoint_settledOrder, ?_⟩
  refine (recompute_changed isFixpoint_settledOrder ["price"] _ ?_).1
  intro name apart
  have differ : name ≠ "price" := by simpa using apart
  simp [Record.field, differ]

end CollectionFormulas

end CalcFields
