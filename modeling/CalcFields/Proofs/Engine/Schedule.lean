import CalcFields.Engine.Recompute
import CalcFields.Proofs.Graph.Walk

/-!
A schedule is a part of the order of its collection, whatever the options of the pass leave out.
-/

namespace CalcFields

namespace CollectionFormulas

variable {formulas : CollectionFormulas} {changed targets : Option (List String)}
  {reader field : String}

/-- Every schedule is what some test leaves of the order of the collection. -/
theorem schedule_eq_filter (formulas : CollectionFormulas)
    (changed targets : Option (List String)) :
    ∃ keep, formulas.schedule changed targets = formulas.graph.order.filter keep := by
  -- Each option that is given narrows the order by one test.
  have whole : formulas.graph.order.filter (fun _ => true) = formulas.graph.order :=
    List.filter_eq_self.2 fun _ _ => rfl
  cases changed with
  | none =>
    cases targets with
    | none => exact ⟨_, whole.symm⟩
    | some targets => exact ⟨_, rfl⟩
  | some changed =>
    cases targets with
    | none => exact ⟨_, rfl⟩
    -- Two tests one after the other are one test.
    | some targets => exact ⟨_, List.filter_filter⟩

/-- No field is scheduled twice. -/
theorem nodup_schedule (formulas : CollectionFormulas) (changed targets : Option (List String)) :
    (formulas.schedule changed targets).Nodup := by
  obtain ⟨keep, part⟩ := formulas.schedule_eq_filter changed targets
  rw [part]
  -- The order has no field twice, and leaving fields out adds none.
  exact formulas.graph.nodup_order.filter keep

/-- A field that is scheduled is calculated. -/
theorem contains_of_mem_schedule (scheduled : field ∈ formulas.schedule changed targets) :
    formulas.graph.contains field = true := by
  obtain ⟨keep, part⟩ := formulas.schedule_eq_filter changed targets
  rw [part] at scheduled
  -- The order places calculated fields only.
  exact DependencyGraph.mem_order.1 (List.mem_filter.1 scheduled).1

/-- The schedule without options holds exactly the calculated fields. -/
theorem mem_schedule_none :
    field ∈ formulas.schedule none none ↔ formulas.graph.contains field = true :=
  DependencyGraph.mem_order

/-- Two scheduled fields come as in the order of the collection. -/
theorem precedes_schedule (precedes : Precedes formulas.graph.order field reader)
    (first : field ∈ formulas.schedule changed targets)
    (second : reader ∈ formulas.schedule changed targets) :
    Precedes (formulas.schedule changed targets) field reader := by
  obtain ⟨keep, part⟩ := formulas.schedule_eq_filter changed targets
  rw [part, List.mem_filter] at first second
  -- Leaving out other fields moves neither of the two past the other.
  rw [part]
  exact precedes.filter first.2 second.2

/-- Among the fields of a schedule a test leaves what it leaves of all fields. -/
theorem filter_schedule {keep : String → Bool}
    (within : ∀ name, keep name = true → name ∈ formulas.schedule changed targets) :
    (formulas.schedule changed targets).filter keep =
      (formulas.schedule none none).filter keep := by
  obtain ⟨narrow, part⟩ := formulas.schedule_eq_filter changed targets
  rw [part] at within ⊢
  rw [List.filter_filter]
  refine List.filter_congr fun name _ => ?_
  -- What the test keeps is in the schedule, so that the schedule narrows nothing more.
  cases kept : keep name with
  | false => rfl
  | true => rw [(List.mem_filter.1 (within name kept)).2, Bool.and_self]

end CollectionFormulas

end CalcFields
