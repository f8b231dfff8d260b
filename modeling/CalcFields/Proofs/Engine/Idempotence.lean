import CalcFields.Proofs.Engine.Narrowing

/-!
A pass over a record that has the updates of the same pass computes the same values again, except
for fields that depend on a cycle; what it computes again is no update any more.
-/

namespace CalcFields

namespace CollectionFormulas

variable {formulas : CollectionFormulas} {record : Record} {changed targets : Option (List String)}
  {now : Instant} {field : String} {v : Value}

/-- The updates of a recomputation are the values of its attempts that differ from the record. -/
theorem get?_updates_recompute :
    (formulas.recompute record changed targets now).updates.get? field = some v ↔
      ⟨field, .ok v⟩ ∈ formulas.attempts record now (formulas.schedule changed targets) ∧
        (record.field field).equivalent v = false :=
  get?_updates_passOver (formulas.nodup_schedule changed targets)

/-- A record with the updates of a pass has the value of each attempt or says the same as it. -/
theorem equivalent_extend_updates
    (made : ⟨field, .ok v⟩ ∈
      formulas.attempts record now (formulas.schedule changed targets)) :
    (Record.field (record.extend (formulas.recompute record changed targets now).updates)
      field).equivalent v = true := by
  rw [Record.field, FieldMap.get?_extend]
  cases differs : (record.field field).equivalent v with
  | false =>
    -- The value differed from the record, and has been written.
    obtain ⟨w, rfl⟩ := storable_of_mem_attemptsFrom made
    rw [get?_updates_recompute.2 ⟨made, differs⟩]
    exact w.equivalent_storable_self
  | true =>
    -- The record said the same all along, and has not been written in this field.
    cases updated : (formulas.recompute record changed targets now).updates.get? field with
    | none => exact differs
    | some w =>
      -- A field has one attempt, so that no other value can have been written.
      obtain ⟨also, unlike⟩ := get?_updates_recompute.1 updated
      have distinct := formulas.nodup_schedule changed targets
      have first := (get?_computed_passOver distinct).2 made
      have second := (get?_computed_passOver distinct).2 also
      cases first.symm.trans second
      rw [differs] at unlike
      cases unlike

/-- A pass over a record that differs only where the same pass over another one updates it makes the
attempts of that pass at every field whose dependencies are free of cycles. -/
theorem mem_attempts_iff_of_agree {other : Record}
    (agree : ∀ field, (formulas.recompute record changed targets now).updates.get? field = none →
      other.field field = record.field field)
    {a : Attempt} (free : formulas.graph.CycleFree a.field) :
    a ∈ formulas.attempts record now (formulas.schedule changed targets) ↔
      a ∈ formulas.attempts other now (formulas.schedule changed targets) := by
  refine mem_attempts_iff (formulas.nodup_schedule changed targets) formulas.graph.CycleFree
    (fun _ free _ listed => free.dependency listed) ?_ free
  intro reader scheduled free field listed
  cases updated : (formulas.recompute record changed targets now).updates.get? field with
  | none =>
    -- Without an update the two records have the same in the field.
    exact .inl (agree field updated).symm
  | some v =>
    -- What has been written is computed again before its reader has its turn.
    obtain ⟨made, _⟩ := get?_updates_recompute.1 updated
    have first := field_mem_of_mem_attemptsFrom made
    have reads : formulas.graph.Reads reader field := ⟨listed, contains_of_mem_schedule first⟩
    have precedes := precedes_schedule (free.before reads) first scheduled
    exact .inr (.inr ⟨precedes, v, made⟩)

/-- A second pass under the same schedule makes the attempts of the first one again at every field
whose dependencies are free of cycles. -/
theorem mem_attempts_again {a : Attempt} (free : formulas.graph.CycleFree a.field) :
    a ∈ formulas.attempts record now (formulas.schedule changed targets) ↔
      a ∈ formulas.attempts
        (record.extend (formulas.recompute record changed targets now).updates) now
        (formulas.schedule changed targets) :=
  mem_attempts_iff_of_agree (fun field none => by simp [Record.field, none]) free

/-- Without cycles, a pass has nothing to update in a record that says the same as the updates of
the pass over another record, and else holds what that one does. -/
theorem hasChanges_eq_false_of_agree (acyclic : formulas.graph.Acyclic) (record : Record)
    {other : Record}
    (agree : ∀ field, (formulas.recompute record changed targets now).updates.get? field = none →
      other.field field = record.field field)
    (alike : ∀ field v,
      (formulas.recompute record changed targets now).updates.get? field = some v →
      (other.field field).equivalent v = true) :
    (formulas.recompute other changed targets now).hasChanges = false := by
  rw [Outcome.hasChanges_eq_false_iff]
  intro field
  cases again : (formulas.recompute other changed targets now).updates.get? field with
  | none => rfl
  | some v =>
    -- An update of the second pass would be a value of the first one too.
    obtain ⟨madeAgain, differs⟩ := get?_updates_recompute.1 again
    have made := (mem_attempts_iff_of_agree (a := ⟨field, .ok v⟩) agree
      (acyclic.cycleFree field)).2 madeAgain
    -- The value was computed before, and the record says the same as it since.
    cases updated : (formulas.recompute record changed targets now).updates.get? field with
    | none =>
      rw [agree field updated] at differs
      rw [get?_updates_recompute.2 ⟨made, differs⟩] at updated
      cases updated
    | some w =>
      obtain ⟨also, _⟩ := get?_updates_recompute.1 updated
      have distinct := formulas.nodup_schedule changed targets
      have first := (get?_computed_passOver distinct).2 made
      have second := (get?_computed_passOver distinct).2 also
      cases first.symm.trans second
      rw [alike field v updated] at differs
      cases differs

/-- A second pass with the same options updates no field whose dependencies are free of cycles, and
nothing at all when the graph has no cycle. -/
theorem recompute_again (formulas : CollectionFormulas) (record : Record)
    (changed targets : Option (List String)) (now : Instant) :
    let first := formulas.recompute record changed targets now
    let second := formulas.recompute (record.extend first.updates) changed targets now
    (∀ field, formulas.graph.CycleFree field → second.updates.get? field = none) ∧
      (formulas.graph.Acyclic → second.hasChanges = false) := by
  intro first second
  have settled : ∀ field, formulas.graph.CycleFree field → second.updates.get? field = none := by
    intro field free
    cases updated : second.updates.get? field with
    | none => rfl
    | some v =>
      obtain ⟨again, differs⟩ := get?_updates_recompute.1 updated
      -- The first pass gave the same value, and so the record says the same as it already.
      have made := (mem_attempts_again (a := ⟨field, .ok v⟩) free).2 again
      rw [equivalent_extend_updates made] at differs
      cases differs
  -- Without cycles that is every field, and so there is no update at all.
  refine ⟨settled, fun acyclic => ?_⟩
  have unchanged : second.updates = .empty := by
    refine FieldMap.ext_get? fun field => ?_
    rw [settled field (acyclic.cycleFree field), FieldMap.get?_empty]
  rw [Outcome.hasChanges, unchanged]
  rfl

/-- A second pass over a record with a price alone has nothing to update. -/
theorem recompute_again_price :
    relay.graph.Acyclic ∧
      (let record : Record := .ofList [("price", .string "5")]
       let first := relay.recompute record none none (.midnight 0)
       let second := relay.recompute (record.extend first.updates) none none (.midnight 0)
       second.updates.get? "total" = none ∧ second.hasChanges = false) := by
  -- The relay has no cycle, so every field of it falls under the theorem.
  have acyclic := DependencyGraph.acyclic_of_cycles_eq_nil cycles_relay
  have again := recompute_again relay (.ofList [("price", .string "5")]) none none (.midnight 0)
  exact ⟨acyclic, again.1 "total" (acyclic.cycleFree "total"), again.2 acyclic⟩

end CollectionFormulas

end CalcFields
