import CalcFields.Proofs.Engine.Clock
import CalcFields.Proofs.Engine.Provenance
import CalcFields.Proofs.Engine.Settlement
import CalcFields.Store.Query

/-!
A record is put time after time, each time with the pass over what the put names. The passes keep up
the fields that they reach; a field can lag behind only where it is fed by one that no pass has
reached, or by one that the record holds in another form.
-/

namespace CalcFields

namespace DependencyGraph

variable {graph : DependencyGraph} {name field : String} {changed : List String}

/-- A name feeds itself, the fields that list it among their dependencies, and what those feed. -/
def Feeds (graph : DependencyGraph) : String → String → Prop :=
  Relation.ReflTransGen fun name reader => name ∈ graph.dependencies reader

/-- Changes reach what the names feed that they change or reach. -/
theorem Feeds.affected (feeds : graph.Feeds name field)
    (touched : name ∈ changed ∨ name ∈ graph.affected changed) :
    field ∈ changed ∨ field ∈ graph.affected changed := by
  -- Induction on the path: what lists an affected field is affected.
  induction feeds with
  | refl => exact touched
  | tail _ listed ih => exact .inr (mem_affected listed ih)

end DependencyGraph

namespace CollectionFormulas

variable {formulas : CollectionFormulas} {record held other put : Record} {puts : List Record}
  {now : Instant} {changed : List String} {field source : String} {v : Value}

/-- The pass over changes has the calculated fields among them and those that they reach. -/
theorem mem_schedule_changed :
    field ∈ formulas.schedule (some changed) none ↔
      formulas.graph.contains field = true ∧
        (field ∈ changed ∨ field ∈ formulas.graph.affected changed) := by
  -- The schedule is the order, narrowed to the changed fields and what they affect.
  show field ∈ formulas.graph.narrowed formulas.graph.order changed ↔ _
  rw [DependencyGraph.narrowed, List.mem_filter, DependencyGraph.mem_order, Bool.or_eq_true,
    List.contains_iff_mem, List.contains_iff_mem, or_comm]

/-- The pass over changes has the calculated fields that the changes feed, or its own fields. -/
theorem mem_schedule_of_feeds (feeds : formulas.graph.Feeds source field)
    (calculated : formulas.graph.contains field = true)
    (touched : source ∈ changed ∨ source ∈ formulas.schedule (some changed) none) :
    field ∈ formulas.schedule (some changed) none := by
  -- What a scheduled or changed field feeds is affected, like the field itself.
  refine mem_schedule_changed.2 ⟨calculated, feeds.affected ?_⟩
  exact touched.elim .inl fun scheduled => (mem_schedule_changed.1 scheduled).2

/-- A put touches the fields that its names feed, but for the name of the id. -/
def Touches (formulas : CollectionFormulas) (put : Record) (field : String) : Prop :=
  ∃ name ∈ put.keys, name ≠ idField ∧ formulas.graph.Feeds name field

/-- The puts of a record, the last one first, attend to a field when one of them touches it, and no
later one gives another id to the record of a field that reads the id. -/
inductive Attended (formulas : CollectionFormulas) (field : String) : List Record → Prop where
  | touched {put : Record} {puts : List Record} (touches : formulas.Touches put field) :
      Attended formulas field (put :: puts)
  | left {put previous : Record} {puts : List Record}
      (attended : Attended formulas field (previous :: puts))
      (sameId : idField ∈ formulas.graph.dependencies field →
        put.field idField = previous.field idField) :
      Attended formulas field (put :: previous :: puts)

/-- A field may lag in a record when it is fed by a calculated field that the puts of the record do
not attend to, or that the record holds in another form. -/
def MayLag (formulas : CollectionFormulas) (puts : List Record) (record : Record) (now : Instant)
    (field : String) : Prop :=
  ∃ source, formulas.graph.contains source = true ∧ formulas.graph.Feeds source field ∧
    (¬ formulas.Attended source puts ∨ formulas.HeldOtherwise record now source)

/-- What may lag in a timeless collection does so at all clocks. -/
theorem MayLag.at_clock (timeless : formulas.Timeless)
    (lags : formulas.MayLag puts record now field) (later : Instant) :
    formulas.MayLag puts record later field := by
  -- Without a clock the solution is the same at any time.
  obtain ⟨source, calculated, feeds, fault⟩ := lags
  refine ⟨source, calculated, feeds, fault.imp_right ?_⟩
  rw [HeldOtherwise, HeldOtherwise, solution, solution, timeless.passOver record now later]
  exact id

/-- A record is kept up by its puts: it has the id of the last one, and the full pass updates only
fields that may lag. -/
structure KeptUp (formulas : CollectionFormulas) (puts : List Record) (record : Record) :
    Prop where
  id : ∀ put ∈ puts.head?, record.field idField = put.field idField
  lags : ∀ now field v, (formulas.recompute record none none now).updates.get? field = some v →
    formulas.MayLag puts record now field

/-- A record that nothing was put into is kept up. -/
theorem keptUp_nil (formulas : CollectionFormulas) (record : Record) :
    formulas.KeptUp [] record := by
  -- Before the first put no field has been attended to.
  refine ⟨nofun, fun now field v updated => ⟨field, ?_, .refl, .inl nofun⟩⟩
  exact contains_of_mem_schedule (mem_schedule_of_updated updated)

/-- What a put and the pass over its changes make of a record: what the pass does not update is as
in the record with the put, and the rest says the same as the updates. -/
structure PutPass (formulas : CollectionFormulas) (changed : List String) (now : Instant)
    (put held other : Record) : Prop where
  names : ∀ name, name ∈ changed ↔ name ∈ put.keys ∧ name ≠ idField
  named : (put.get? idField).isSome = true
  unchanged : ∀ field,
    (formulas.recompute (held.extend put) (some changed) none now).updates.get? field = none →
      other.field field = Record.field (held.extend put) field
  updated : ∀ field v,
    (formulas.recompute (held.extend put) (some changed) none now).updates.get? field = some v →
      (other.field field).equivalent v = true

namespace PutPass

/-- A record gets the id of the put. -/
theorem field_id (pass : formulas.PutPass changed now put held other)
    (noId : formulas.graph.contains idField = false) :
    other.field idField = put.field idField := by
  -- The id is no calculated field, so no update touches it.
  obtain ⟨id, named⟩ := Option.isSome_iff_exists.1 pass.named
  rw [pass.unchanged idField (get?_updates_of_not_contains noId)]
  simp [Record.field, named]

/-- Beside the id, what changed and what the pass is over, the record is as it was. -/
theorem field_eq (pass : formulas.PutPass changed now put held other) (noId : field ≠ idField)
    (unnamed : field ∉ changed) (leftOut : field ∉ formulas.schedule (some changed) none) :
    other.field field = held.field field := by
  -- What the put names beside the id has changed, so it names no other field.
  have absent : put.get? field = none := by
    rw [← Option.not_isSome_iff_eq_none, FieldMap.isSome_get?_iff]
    exact fun listed => unnamed ((pass.names field).2 ⟨listed, noId⟩)
  have unchanged : (formulas.recompute (held.extend put) (some changed) none now).updates.get?
      field = none :=
    Option.eq_none_iff_forall_ne_some.2 fun v updated => leftOut (mem_schedule_of_updated updated)
  rw [pass.unchanged field unchanged]
  simp [Record.field, absent]

/-- The pass has all that the put touches. -/
theorem mem_schedule_of_touches (pass : formulas.PutPass changed now put held other)
    (calculated : formulas.graph.contains field = true) (touches : formulas.Touches put field) :
    field ∈ formulas.schedule (some changed) none := by
  -- A name that the put has, other than the id, counts as changed.
  obtain ⟨name, listed, noId, feeds⟩ := touches
  exact mem_schedule_of_feeds feeds calculated (.inl ((pass.names name).2 ⟨listed, noId⟩))

/-- What feeds a field that the pass leaves out is attended to by the puts before, and reads the
same id as then. -/
theorem attended_before (pass : formulas.PutPass changed now put held other)
    (leftOut : source ∉ formulas.schedule (some changed) none)
    (calculated : formulas.graph.contains source = true)
    (attended : formulas.Attended source (put :: puts)) :
    formulas.Attended source puts ∧ (idField ∈ formulas.graph.dependencies source →
      ∃ previous ∈ puts.head?, put.field idField = previous.field idField) := by
  -- A field that this put touches would be scheduled, so an earlier put has attended to it.
  cases attended with
  | touched touches => exact absurd (pass.mem_schedule_of_touches calculated touches) leftOut
  | left before sameId => exact ⟨before, fun listed => ⟨_, rfl, sameId listed⟩⟩

/-- A pass that leaves a field out leaves out what feeds it, and there the full pass makes the
attempts that it made before, as long as what reads the id reads the same one. -/
theorem mem_attempts (pass : formulas.PutPass changed now put held other)
    (calculated : formulas.graph.contains field = true)
    (leftOut : field ∉ formulas.schedule (some changed) none)
    (ids : ∀ reader, formulas.graph.Feeds reader field →
      idField ∈ formulas.graph.dependencies reader → held.field idField = other.field idField)
    {a : Attempt} (feeds : formulas.graph.Feeds a.field field) :
    a ∈ formulas.attempts held now (formulas.schedule none none) ↔
      a ∈ formulas.attempts other now (formulas.schedule none none) := by
  refine mem_attempts_iff (formulas.nodup_schedule none none)
    (fun name => formulas.graph.Feeds name field) (fun _ feeds _ listed => feeds.head listed) ?_
    feeds
  -- What the fields on the way read is the id, or was neither put nor recomputed.
  intro reader _ feeds name listed
  by_cases same : name = idField
  · subst same
    exact .inl (ids reader feeds listed)
  · have apart (touched : name ∈ changed ∨ name ∈ formulas.schedule (some changed) none) : False :=
      leftOut (mem_schedule_of_feeds (feeds.head listed) calculated touched)
    refine .inl (pass.field_eq same (fun here => apart (.inl here)) fun here => ?_).symm
    exact apart (.inr here)

/-- A field that the pass leaves out lags only where it may. -/
theorem mayLag_of_leftOut (pass : formulas.PutPass changed now put held other)
    (noId : formulas.graph.contains idField = false) (kept : formulas.KeptUp puts held)
    (leftOut : field ∉ formulas.schedule (some changed) none)
    (updated : (formulas.recompute other none none now).updates.get? field = some v) :
    formulas.MayLag (put :: puts) other now field := by
  have calculated := contains_of_mem_schedule (mem_schedule_of_updated updated)
  by_contra plain
  -- All that feeds the field is attended to and held as computed, or the field may lag.
  have each (source : String) (among : formulas.graph.contains source = true)
      (feeds : formulas.graph.Feeds source field) :
      formulas.Attended source (put :: puts) ∧ ¬ formulas.HeldOtherwise other now source := by
    by_contra fault
    rw [not_and_or, not_not] at fault
    exact plain ⟨source, among, feeds, fault⟩
  have apart {source : String} (feeds : formulas.graph.Feeds source field) :
      source ∉ changed ∧ source ∉ formulas.schedule (some changed) none :=
    ⟨fun here => leftOut (mem_schedule_of_feeds feeds calculated (.inl here)),
      fun here => leftOut (mem_schedule_of_feeds feeds calculated (.inr here))⟩
  -- An id that is read was the same when it was attended to.
  have ids (reader : String) (feeds : formulas.graph.Feeds reader field)
      (listed : idField ∈ formulas.graph.dependencies reader) :
      held.field idField = other.field idField := by
    have reading := DependencyGraph.contains_of_mem_dependencies listed
    obtain ⟨_, sameId⟩ := pass.attended_before (apart feeds).2 reading (each reader reading feeds).1
    obtain ⟨previous, last, same⟩ := sameId listed
    rw [kept.id previous last, pass.field_id noId, same]
  have stored {source : String} (among : formulas.graph.contains source = true)
      (feeds : formulas.graph.Feeds source field) : other.field source = held.field source := by
    have noIdToo : source ≠ idField := by
      rintro rfl
      rw [noId] at among
      cases among
    exact pass.field_eq noIdToo (apart feeds).1 (apart feeds).2
  -- The full pass had the update before the put, which left alone what makes the field lag.
  obtain ⟨made, differs⟩ := get?_updates_recompute.1 updated
  have madeBefore := (pass.mem_attempts (a := ⟨field, .ok v⟩) calculated leftOut ids .refl).2 made
  rw [stored calculated .refl] at differs
  obtain ⟨source, among, feeds, fault⟩ :=
    kept.lags now field v (get?_updates_recompute.2 ⟨madeBefore, differs⟩)
  obtain ⟨attended, formless⟩ := each source among feeds
  -- Whatever fault there was before the put is still there.
  obtain unattended | ⟨w, computed, alike, unlike⟩ := fault
  · exact unattended (pass.attended_before (apart feeds).2 among attended).1
  · have distinct := formulas.nodup_schedule none none
    have before := (get?_computed_passOver distinct).1 computed
    have after := (pass.mem_attempts (a := ⟨source, .ok w⟩) calculated leftOut ids feeds).1 before
    rw [← stored among feeds] at alike unlike
    exact formless ⟨w, (get?_computed_passOver distinct).2 after, alike, unlike⟩

/-- The same pass again has nothing to update. -/
theorem hasChanges_again (pass : formulas.PutPass changed now put held other)
    (acyclic : formulas.graph.Acyclic) :
    (formulas.recompute other (some changed) none now).hasChanges = false :=
  hasChanges_eq_false_of_agree acyclic (held.extend put) pass.unchanged pass.updated

/-- What the full pass computes for a field that the pass leaves out is what the record holds,
unless a field that it feeds may lag. -/
theorem stored_of_leftOut (pass : formulas.PutPass changed now put held other)
    (noId : formulas.graph.contains idField = false) (kept : formulas.KeptUp puts held)
    (plain : ¬ formulas.MayLag (put :: puts) other now field)
    (feeds : formulas.graph.Feeds source field)
    (leftOut : source ∉ formulas.schedule (some changed) none)
    (made : ⟨source, .ok v⟩ ∈ formulas.attempts other now (formulas.schedule none none)) :
    v = other.field source := by
  -- It says the same, for else it would be an update there, and may not be held in another form.
  have alike : (other.field source).equivalent v = true := by
    by_contra differs
    rw [Bool.not_eq_true] at differs
    obtain ⟨further, among, feedsToo, fault⟩ :=
      pass.mayLag_of_leftOut noId kept leftOut (get?_updates_recompute.2 ⟨made, differs⟩)
    exact plain ⟨further, among, feedsToo.trans feeds, fault⟩
  -- Held in another form, it would make what it feeds lag.
  by_contra unlike
  have computed := (get?_computed_passOver (formulas.nodup_schedule none none)).2 made
  have among := contains_of_mem_schedule (field_mem_of_mem_attemptsFrom made)
  exact plain ⟨source, among, feeds, .inr ⟨v, computed, alike, Ne.symm unlike⟩⟩

/-- A field that the pass computes lags only where it may. -/
theorem mayLag_of_scheduled (pass : formulas.PutPass changed now put held other)
    (acyclic : formulas.graph.Acyclic) (noId : formulas.graph.contains idField = false)
    (kept : formulas.KeptUp puts held)
    (scheduled : field ∈ formulas.schedule (some changed) none)
    (updated : (formulas.recompute other none none now).updates.get? field = some v) :
    formulas.MayLag (put :: puts) other now field := by
  by_contra plain
  -- The pass has no update left, and so the full pass has none at the field.
  have unchanged := Outcome.hasChanges_eq_false_iff.1 (pass.hasChanges_again acyclic) field
  rw [get?_updates_of_part
    (fun name => name ∈ formulas.schedule (some changed) none ∧ formulas.graph.Feeds name field)
    (fun _ inside => inside.1) ?_ ?_ ⟨scheduled, .refl⟩, updated] at unchanged
  · cases unchanged
  · -- The part of the pass that feeds the field reads beside it only what the pass leaves out.
    rintro reader ⟨_, feeds⟩ read listed dropped v made
    exact absurd ⟨field_mem_of_mem_attemptsFrom made, feeds.head listed⟩ dropped
  · rintro reader ⟨_, feeds⟩ read listed dropped v made
    refine pass.stored_of_leftOut noId kept plain (feeds.head listed) (fun here => ?_) made
    exact dropped ⟨here, feeds.head listed⟩

/-- A record that is kept up is kept up by another put with its pass, without cycles and at any
clock. -/
theorem keptUp (pass : formulas.PutPass changed now put held other)
    (acyclic : formulas.graph.Acyclic) (timeless : formulas.Timeless)
    (noId : formulas.graph.contains idField = false) (kept : formulas.KeptUp puts held) :
    formulas.KeptUp (put :: puts) other := by
  refine ⟨?_, fun later field v updated => ?_⟩
  · rintro _ ⟨⟩
    exact pass.field_id noId
  · -- Time does not matter, so the clock of the put will do.
    rw [timeless.recompute other none none later now] at updated
    suffices lags : formulas.MayLag (put :: puts) other now field from lags.at_clock timeless later
    -- What the pass scheduled is computed; what it left out was kept up before.
    by_cases scheduled : field ∈ formulas.schedule (some changed) none
    · exact pass.mayLag_of_scheduled acyclic noId kept scheduled updated
    · exact pass.mayLag_of_leftOut noId kept scheduled updated

end PutPass

end CollectionFormulas

end CalcFields
