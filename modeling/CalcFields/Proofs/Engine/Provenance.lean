import CalcFields.Proofs.Engine.Idempotence
import CalcFields.Proofs.Formula.Provenance

/-!
Every value that a pass computes is a scalar or a field of its record, made storable. What holds of
both holds of all updates.
-/

namespace CalcFields

namespace CollectionFormulas

variable {formulas : CollectionFormulas} {record computed : Record} {now : Instant}
  {name : String} {v : Value} {good : Value → Prop}

/-- The attempt at a field gives a good value when scalars, the record and the values computed
before it are good. -/
theorem attempt_good (scalar : ∀ v, v.isScalar = true → good v)
    (storable : ∀ v, good v → good v.storable) (stored : ∀ field, good (record.field field))
    (before : ∀ field v, computed.get? field = some v → good v)
    (tried : formulas.attempt record now computed name = some ⟨name, .ok v⟩) : good v := by
  -- What the formula reads is computed before it or stored in the record.
  have fields : ∀ field, good ((record.overlaid computed now).reading field) := by
    intro field
    rw [Record.reading_overlaid]
    cases found : computed.get? field with
    | none => exact stored field
    | some w => exact before field w found
  -- A formula makes good values of good ones, and storing keeps them so.
  obtain ⟨f, _, w, evaluated, rfl⟩ := attempt_eq_ok_iff.1 tried
  exact storable w (f.formula.eval_good scalar fields evaluated)

/-- Every attempt of a schedule gives a good value when scalars, the record and the values computed
before are good. -/
theorem attemptsFrom_good (scalar : ∀ v, v.isScalar = true → good v)
    (storable : ∀ v, good v → good v.storable) (stored : ∀ field, good (record.field field))
    (before : ∀ field v, computed.get? field = some v → good v) {schedule : List String}
    (made : ⟨name, .ok v⟩ ∈ formulas.attemptsFrom record now computed schedule) : good v := by
  -- Each turn leaves good values computed for the turns after it.
  induction schedule generalizing computed with
  | nil => cases made
  | cons first rest ih =>
    rw [attemptsFrom, List.mem_append, Option.mem_toList] at made
    obtain tried | later := made
    · cases field_of_attempt tried
      exact attempt_good scalar storable stored before tried
    · refine ih (fun field w found => ?_) later
      by_cases turn : field = first
      · subst turn
        rw [get?_after_self, Option.or_eq_some_iff] at found
        obtain given | ⟨_, held⟩ := found
        · exact attempt_good scalar storable stored before (value?_attempt.1 given)
        · exact before field w held
      · -- A turn touches its own field only.
        rw [get?_after_of_ne turn] at found
        exact before field w found

/-- Every update is good when scalars and the record are. -/
theorem updates_good (scalar : ∀ v, v.isScalar = true → good v)
    (storable : ∀ v, good v → good v.storable) (stored : ∀ field, good (record.field field))
    {changed targets : Option (List String)}
    (updated : (formulas.recompute record changed targets now).updates.get? name = some v) :
    good v := by
  -- An update was attempted, in a pass that starts with nothing computed.
  obtain ⟨made, _⟩ := get?_updates_recompute.1 updated
  refine attemptsFrom_good scalar storable stored (fun field w found => ?_) made
  rw [FieldMap.get?_empty] at found
  cases found

/-- Every update is good when scalars and the values of the record are. -/
theorem updates_good_of_entries (scalar : ∀ v, v.isScalar = true → good v)
    (storable : ∀ v, good v → good v.storable) (entries : ∀ e ∈ record.entries, good e.2)
    {changed targets : Option (List String)}
    (updated : (formulas.recompute record changed targets now).updates.get? name = some v) :
    good v := by
  refine updates_good scalar storable (fun field => ?_) updated
  -- A field that the record lacks reads as null.
  cases found : record.get? field with
  | none =>
    rw [Record.field, found]
    exact scalar _ rfl
  | some w =>
    rw [Record.field, found]
    exact entries (field, w) (FieldMap.get?_eq_some_iff.1 found)

/-- Only calculated fields are updated. -/
theorem get?_updates_of_not_calculated {changed targets : Option (List String)}
    (stored : formulas.fields.get? name = none) :
    (formulas.recompute record changed targets now).updates.get? name = none := by
  -- An update is made at a scheduled field, and those are calculated.
  cases updated : (formulas.recompute record changed targets now).updates.get? name with
  | none => rfl
  | some v =>
    obtain ⟨made, _⟩ := get?_updates_recompute.1 updated
    have calculated := contains_of_mem_schedule (field_mem_of_mem_attemptsFrom made)
    rw [contains_graph, stored] at calculated
    cases calculated

/-- A field that the graph does not have is not updated. -/
theorem get?_updates_of_not_contains (plain : formulas.graph.contains name = false)
    {changed targets : Option (List String)} :
    (formulas.recompute record changed targets now).updates.get? name = none := by
  rw [contains_graph, Option.isSome_eq_false_iff, Option.isNone_iff_eq_none] at plain
  exact get?_updates_of_not_calculated plain

end CollectionFormulas

end CalcFields
