import CalcFields.Proofs.Engine.Narrowing
import CalcFields.Proofs.Engine.Solution

/-!
A record is settled when the full pass has nothing to update in it. It may still hold a computed
value in another form, and a narrowed pass that leaves the field out reads that form. What such a
pass updates comes from a form that it reads; where it reads none, it updates nothing.
-/

namespace CalcFields

namespace CollectionFormulas

variable {formulas : CollectionFormulas} {record : Record} {now : Instant}
  {changed targets : Option (List String)} {reader field : String} {v : Value}

/-- A record is settled when the full pass over it has nothing to update. -/
def IsSettled (formulas : CollectionFormulas) (record : Record) (now : Instant) : Prop :=
  (formulas.recompute record none none now).hasChanges = false

/-- A record holds a field in another form when its value says the same as the one that the full
pass computes for the field, and yet is not that value. -/
def HeldOtherwise (formulas : CollectionFormulas) (record : Record) (now : Instant)
    (field : String) : Prop :=
  ∃ v, (formulas.solution record now).get? field = some v ∧
    (record.field field).equivalent v = true ∧ record.field field ≠ v

/-- A field of a schedule reads another form when it reads, itself or through fields of the
schedule, a field that the schedule leaves out and that the record holds in another form. -/
inductive ReadsForm (formulas : CollectionFormulas) (record : Record) (now : Instant)
    (schedule : List String) : String → Prop where
  | itself {reader field : String} (reads : formulas.graph.Reads reader field)
      (leftOut : field ∉ schedule) (form : formulas.HeldOtherwise record now field) :
      ReadsForm formulas record now schedule reader
  | through {reader field : String} (reads : formulas.graph.Reads reader field)
      (scheduled : field ∈ schedule) (further : ReadsForm formulas record now schedule field) :
      ReadsForm formulas record now schedule reader

/-- A field that reads another form through others leads to one that reads it itself. -/
theorem ReadsForm.exists_itself {schedule : List String} (scheduled : reader ∈ schedule)
    (form : formulas.ReadsForm record now schedule reader) :
    ∃ last ∈ schedule, ∃ field ∉ schedule,
      formulas.graph.Reads last field ∧ formulas.HeldOtherwise record now field := by
  -- Induction on the chain of readers, each of which is scheduled.
  induction form with
  | itself reads leftOut form => exact ⟨_, scheduled, _, leftOut, reads, form⟩
  | through _ next _ ih => exact ih next

/-- What the full pass computes for a field of a settled record says the same as the record. -/
theorem IsSettled.equivalent (settled : formulas.IsSettled record now)
    (computed : (formulas.solution record now).get? field = some v) :
    (record.field field).equivalent v = true := by
  -- A settled record has no updates in a full pass.
  have distinct := formulas.nodup_schedule none none
  have unchanged := Outcome.hasChanges_eq_false_iff.1 settled field
  by_contra differs
  rw [Bool.not_eq_true] at differs
  -- A value that differs from the record would be an update.
  have updated := (get?_updates_passOver distinct).2
    ⟨(get?_computed_passOver distinct).1 computed, differs⟩
  rw [recompute, updated] at unchanged
  cases unchanged

/-- What the full pass computes for a field of a settled record is what the record holds, unless it
holds the field in another form. -/
theorem IsSettled.stored (settled : formulas.IsSettled record now)
    (plain : ¬ formulas.HeldOtherwise record now field)
    (made : ⟨field, .ok v⟩ ∈ formulas.attempts record now (formulas.schedule none none)) :
    v = record.field field := by
  -- A value that is computed differently but not updated would be held in another form.
  have computed := (get?_computed_passOver (formulas.nodup_schedule none none)).2 made
  by_contra differs
  exact plain ⟨v, computed, settled.equivalent computed, Ne.symm differs⟩

/-- A dependency that a pass computes is a calculated field that its reader reads. -/
theorem reads_of_attempted (listed : field ∈ formulas.graph.dependencies reader)
    (made : ⟨field, .ok v⟩ ∈
      formulas.attempts record now (formulas.schedule changed targets)) :
    formulas.graph.Reads reader field ∧ field ∈ formulas.schedule changed targets := by
  -- A field that was attempted is scheduled, and is calculated then.
  have scheduled := field_mem_of_mem_attemptsFrom made
  exact ⟨⟨listed, contains_of_mem_schedule scheduled⟩, scheduled⟩

/-- A pass over a settled record updates nothing in a part of its schedule that reads, of what is
beside the part, only fields which the schedule leaves out and the record holds as computed. -/
theorem IsSettled.get?_updates_of_closed (settled : formulas.IsSettled record now)
    (part : String → Prop)
    (within : ∀ name, part name → name ∈ formulas.schedule changed targets)
    (closed : ∀ reader, part reader → ∀ read, formulas.graph.Reads reader read → ¬ part read →
      read ∉ formulas.schedule changed targets ∧ ¬ formulas.HeldOtherwise record now read)
    (inside : part field) :
    (formulas.recompute record changed targets now).updates.get? field = none := by
  -- The full pass has no update there, and so the pass at hand has none.
  rw [get?_updates_of_part part within ?_ ?_ inside]
  · exact Outcome.hasChanges_eq_false_iff.1 settled field
  · -- The pass at hand computes nothing beside the part.
    intro reader stays read listed dropped v made
    obtain ⟨reads, scheduled⟩ := reads_of_attempted listed made
    exact absurd scheduled (closed reader stays read reads dropped).1
  · -- What the full pass computes beside the part is what the record holds.
    intro reader stays read listed dropped v made
    obtain ⟨reads, _⟩ := reads_of_attempted listed made
    exact settled.stored (closed reader stays read reads dropped).2 made

/-- A field that a pass updates is scheduled. -/
theorem mem_schedule_of_updated
    (updated : (formulas.recompute record changed targets now).updates.get? field = some v) :
    field ∈ formulas.schedule changed targets := by
  -- Only a value that was made can be an update.
  have made := (get?_updates_passOver (formulas.nodup_schedule changed targets)).1 updated
  exact field_mem_of_mem_attemptsFrom made.1

/-- A field that a pass updates in a settled record reads another form. -/
theorem IsSettled.readsForm (settled : formulas.IsSettled record now)
    (updated : (formulas.recompute record changed targets now).updates.get? field = some v) :
    formulas.ReadsForm record now (formulas.schedule changed targets) field := by
  by_contra plain
  have scheduled := mem_schedule_of_updated updated
  have unchanged :
      (formulas.recompute record changed targets now).updates.get? field = none := by
    -- The fields of the schedule that read no other form are a part that reads only such fields.
    refine settled.get?_updates_of_closed
      (fun name => name ∈ formulas.schedule changed targets ∧
        ¬ formulas.ReadsForm record now (formulas.schedule changed targets) name)
      (fun _ inside => inside.1) ?_ ⟨scheduled, plain⟩
    intro reader ⟨_, formless⟩ read reads dropped
    -- A field beside the part would make its reader read a form if it were scheduled or held so.
    have leftOut : read ∉ formulas.schedule changed targets := fun also =>
      dropped ⟨also, fun further => formless (.through reads also further)⟩
    exact ⟨leftOut, fun form => formless (.itself reads leftOut form)⟩
  rw [updated] at unchanged
  cases unchanged

/-- Without changes to go by, a schedule has all calculated fields that its fields read. -/
theorem mem_schedule_of_reads (reads : formulas.graph.Reads reader field)
    (scheduled : reader ∈ formulas.schedule none targets) :
    field ∈ formulas.schedule none targets := by
  -- A schedule without changes is the order, narrowed to what the targets need.
  have placed : field ∈ formulas.graph.order := DependencyGraph.mem_order.2 reads.2
  cases targets with
  | none => exact placed
  | some targets =>
    -- What the targets need of the order includes what it reads.
    obtain ⟨_, needed⟩ := List.mem_filter.1 scheduled
    rw [List.contains_iff_mem] at needed
    have also := DependencyGraph.mem_closure reads needed
    exact List.mem_filter.2 ⟨placed, List.contains_iff_mem.2 also⟩

/-- A pass over a settled record updates nothing when no field of its schedule reads a field that
the schedule leaves out and the record holds in another form. -/
theorem IsSettled.hasChanges_of_plain (settled : formulas.IsSettled record now)
    (plain : ∀ reader ∈ formulas.schedule changed targets, ∀ field,
      formulas.graph.Reads reader field → field ∉ formulas.schedule changed targets →
        ¬ formulas.HeldOtherwise record now field) :
    (formulas.recompute record changed targets now).hasChanges = false := by
  refine Outcome.hasChanges_eq_false_iff.2 fun name => ?_
  refine Option.eq_none_iff_forall_ne_some.2 fun v updated => ?_
  -- An update reads another form in the end, and no scheduled field does.
  obtain ⟨reader, among, field, leftOut, reads, form⟩ :=
    (settled.readsForm updated).exists_itself (mem_schedule_of_updated updated)
  exact plain reader among field reads leftOut form

/-- A settled record stays settled when a pass is narrowed by targets alone. A pass that is narrowed
in any way updates only fields that read another form, and has nothing to update where no scheduled
field reads a field that is left out and held in another form. -/
theorem recompute_settled (settled : formulas.IsSettled record now) :
    (∀ targets, (formulas.recompute record none targets now).hasChanges = false) ∧
      ∀ changed targets,
        (∀ field v, (formulas.recompute record changed targets now).updates.get? field = some v →
          formulas.ReadsForm record now (formulas.schedule changed targets) field) ∧
        ((∀ reader ∈ formulas.schedule changed targets, ∀ field,
            formulas.graph.Reads reader field → field ∉ formulas.schedule changed targets →
              ¬ formulas.HeldOtherwise record now field) →
          (formulas.recompute record changed targets now).hasChanges = false) := by
  refine ⟨fun targets => ?_, fun changed targets => ⟨?_, ?_⟩⟩
  · -- Targets leave out nothing that a scheduled field reads.
    refine settled.hasChanges_of_plain fun reader scheduled field reads leftOut => ?_
    exact absurd (mem_schedule_of_reads reads scheduled) leftOut
  · exact fun field v updated => settled.readsForm updated
  · exact settled.hasChanges_of_plain

/-- A field that tells whether an order is open. -/
def openField : CalculatedField :=
  ⟨⟨"orders", "open", "NOT \x7b\x7bclosed\x7d\x7d", .published, none, none⟩,
    ⟨"NOT \x7b\x7bclosed\x7d\x7d", .unary .not (.field "closed"), by cbv⟩, rfl⟩

/-- A field that tells whether an order is open as expected. -/
def agreesField : CalculatedField :=
  ⟨⟨"orders", "agrees", "\x7b\x7bopen\x7d\x7d = \x7b\x7bexpected\x7d\x7d", .published, none, none⟩,
    ⟨"\x7b\x7bopen\x7d\x7d = \x7b\x7bexpected\x7d\x7d",
      .binary .equal (.field "open") (.field "expected"), by cbv⟩, rfl⟩

/-- A collection in which one field is compared with what is expected of it. -/
def expectation : CollectionFormulas :=
  ⟨"orders", [openField, agreesField]⟩

/-- A record in which the text "true" stands for the truth value that is computed. -/
def textualOrder : Record :=
  .ofList [("open", .string "true"), ("agrees", .bool false), ("expected", .string "true")]

/-- The full pass finds nothing to update in the record with the text. -/
theorem isSettled_textualOrder : expectation.IsSettled textualOrder (.midnight 0) := by
  -- The run is evaluated as a whole.
  rw [IsSettled]
  cbv

/-- After a change of what is expected, a settled record of a collection without cycles is updated:
the text that it holds equals the one expected, and the truth value computed for it does not. -/
theorem settled_record_updated :
    expectation.graph.Acyclic ∧
      (expectation.recompute textualOrder none none (.midnight 0)).hasChanges = false ∧
      (expectation.recompute textualOrder (some ["expected"]) none
        (.midnight 0)).hasChanges = true := by
  -- Both runs are evaluated, and differ in the fields that they are told have changed.
  have acyclic := DependencyGraph.acyclic_of_cycles_eq_nil
    (show expectation.graph.cycles = [] by cbv)
  exact ⟨acyclic, isSettled_textualOrder, by cbv⟩

/-- The record with the text stays settled under a pass for a target and under one after a change
that both fields follow. The field updated after a change of what is expected reads the text. -/
theorem recompute_settled_textualOrder :
    expectation.IsSettled textualOrder (.midnight 0) ∧
      (expectation.recompute textualOrder none (some ["agrees"]) (.midnight 0)).hasChanges = false ∧
      (expectation.recompute textualOrder (some ["closed"]) none (.midnight 0)).hasChanges = false ∧
      expectation.ReadsForm textualOrder (.midnight 0)
        (expectation.schedule (some ["expected"]) none) "agrees" := by
  obtain ⟨targeted, narrowed⟩ := recompute_settled isSettled_textualOrder
  refine ⟨isSettled_textualOrder, targeted (some ["agrees"]), ?_, ?_⟩
  · -- The schedule is the whole order, so that no field which is read is left out.
    have whole : expectation.schedule (some ["closed"]) none = ["open", "agrees"] := by cbv
    have order : expectation.graph.order = ["open", "agrees"] := by cbv
    refine (narrowed (some ["closed"]) none).2 fun reader _ field reads leftOut => ?_
    have placed := DependencyGraph.mem_order.2 reads.2
    rw [order, ← whole] at placed
    exact absurd placed leftOut
  · -- The field that is left out holds a text for a truth value.
    refine (narrowed (some ["expected"]) none).1 "agrees" (.bool true) ?_
    cbv

end CollectionFormulas

end CalcFields
