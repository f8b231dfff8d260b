import CalcFields.Engine.Recompute
import CalcFields.Proofs.Engine.Collection
import CalcFields.Proofs.Formula.Reading

/-!
A pass is a series of attempts, one for each calculated field of its schedule. An attempt sees the
record behind the values computed before it, and the outcome of the pass lists what the attempts
gave.
-/

namespace CalcFields

/-- What a formula sees of a record behind computed values. -/
def Record.overlaid (record computed : Record) (now : Instant) : Environment :=
  ⟨fun name => computed.get? name <|> record.get? name, now⟩

/-- The environment of a pass is its record behind the values computed so far. -/
theorem Pass.environment_eq (pass : Pass) (record : Record) (now : Instant) :
    pass.environment record now = record.overlaid pass.computed now :=
  rfl

/-- A field reads as its computed value, and as the record has it when there is none. -/
theorem Record.reading_overlaid (record computed : Record) (now : Instant) (name : String) :
    (record.overlaid computed now).reading name =
      (computed.get? name).getD (record.field name) := by
  -- Whatever is computed stands before the record, and a null stands behind both.
  cases found : computed.get? name <;> simp [Environment.reading, overlaid, field, found]

/-- A value becomes an update under its own name when it differs from the record. -/
theorem Pass.get?_withUpdate (updates record : Record) (field name : String) (v : Value) :
    (withUpdate updates record field v).get? name =
      if name = field ∧ (record.field field).equivalent v = false then some v
      else updates.get? name := by
  -- Both sides turn on whether the value says the same as the record.
  unfold withUpdate
  cases (record.field field).equivalent v <;> simp

/-- An outcome has no changes exactly when it updates no field. -/
theorem Outcome.hasChanges_eq_false_iff {outcome : Outcome} :
    outcome.hasChanges = false ↔ ∀ field, outcome.updates.get? field = none := by
  rw [Outcome.hasChanges, Bool.not_eq_false', FieldMap.isEmpty_iff]

/-- Extending a record by the updates of an outcome without changes leaves it. -/
theorem Outcome.extend_updates {outcome : Outcome} (quiet : outcome.hasChanges = false)
    (record : Record) : record.extend outcome.updates = record := by
  -- Without changes no field has an update.
  refine FieldMap.ext_get? fun name => ?_
  rw [FieldMap.get?_extend, Outcome.hasChanges_eq_false_iff.1 quiet name, Option.none_or]

/-- What became of a field in a pass: the value to store, or why its formula failed. -/
structure Attempt where
  field : String
  result : Except EvalError Value

namespace Attempt

/-- The computed values after an attempt. -/
def extend (a : Attempt) (computed : Record) : Record :=
  match a.result with
  | .ok v => computed.insert a.field v
  | .error _ => computed

/-- The updates after an attempt. -/
def update (record updates : Record) (a : Attempt) : Record :=
  match a.result with
  | .ok v => Pass.withUpdate updates record a.field v
  | .error _ => updates

/-- The value of an attempt that gave one. -/
def value? (a : Attempt) : Option Value :=
  a.result.toOption

/-- The error of an attempt that failed. -/
def error? (a : Attempt) : Option FieldError :=
  match a.result with
  | .ok _ => none
  | .error e => some ⟨a.field, e⟩

/-- An attempt changes the computed value of its own field only. -/
theorem get?_extend_of_ne (a : Attempt) (computed : Record) {name : String}
    (differ : name ≠ a.field) : (a.extend computed).get? name = computed.get? name := by
  unfold extend
  split
  · -- The value goes in under the field of the attempt alone.
    rw [FieldMap.get?_insert, if_neg differ]
  · -- A failed attempt leaves no value at all.
    rfl

/-- An attempt leaves its value computed for its field, and what was there when it failed. -/
theorem get?_extend_self (a : Attempt) (computed : Record) :
    (a.extend computed).get? a.field = a.value?.or (computed.get? a.field) := by
  obtain ⟨field, result⟩ := a
  -- A failed attempt has no value, so that what was there shows through.
  cases result <;> simp [extend, value?, Except.toOption]

/-- The error of an attempt is one about its field. -/
theorem error?_eq_some_iff {a : Attempt} {e : FieldError} :
    a.error? = some e ↔ a = ⟨e.field, .error e.error⟩ := by
  obtain ⟨field, result⟩ := a
  obtain ⟨name, reason⟩ := e
  cases result <;> simp [error?]

/-- The updates of attempts at distinct fields are their values that differ from the record. -/
theorem get?_foldl_update {record : Record} {tried : List Attempt}
    (distinct : (tried.map field).Nodup) {name : String} {v : Value} :
    (tried.foldl (update record) .empty).get? name = some v ↔
      ⟨name, .ok v⟩ ∈ tried ∧ (record.field name).equivalent v = false := by
  -- The last attempt decides about its own field, which none before it has.
  induction tried using List.reverseRecOn with
  | nil => simp
  | append_singleton rest last ih =>
    obtain ⟨field, result⟩ := last
    simp only [List.map_append, List.map_cons, List.map_nil] at distinct
    obtain ⟨restDistinct, _, apart⟩ := List.nodup_append.1 distinct
    have before := ih restDistinct
    have fresh : ∀ outcome, ⟨field, outcome⟩ ∉ rest := fun outcome made =>
      apart field (List.mem_map_of_mem made) field List.mem_cons_self rfl
    rw [List.foldl_append, List.foldl_cons, List.foldl_nil]
    cases result with
    -- A failed attempt gives no update, and none of the earlier ones is its own.
    | error e => simpa [update] using before
    | ok w =>
      simp only [update]
      rw [Pass.get?_withUpdate, List.mem_append, List.mem_singleton]
      -- Either the last attempt gives the update of this name, or it changes nothing about it.
      by_cases chosen : name = field ∧ (record.field field).equivalent w = false
      · obtain ⟨rfl, differs⟩ := chosen
        rw [if_pos ⟨rfl, differs⟩]
        constructor
        · rintro ⟨⟩
          exact ⟨.inr rfl, differs⟩
        · rintro ⟨made | same, _⟩
          -- None of the attempts before it is at the field of the last one.
          · exact absurd made (fresh _)
          · cases same
            rfl
      · rw [if_neg chosen, before]
        constructor
        · exact fun ⟨made, differs⟩ => ⟨.inl made, differs⟩
        · rintro ⟨made | same, differs⟩
          · exact ⟨made, differs⟩
          -- The last attempt would have given this update.
          · cases same
            exact absurd ⟨rfl, differs⟩ chosen

end Attempt

namespace CollectionFormulas

variable (formulas : CollectionFormulas) (record : Record) (now : Instant)

/-- The attempt at a field, none when it is not calculated. -/
def attempt (computed : Record) (name : String) : Option Attempt :=
  (formulas.fields.get? name).map fun f =>
    ⟨name, (f.formula.eval (record.overlaid computed now)).map Value.storable⟩

/-- The computed values after the turn of a field. -/
def after (computed : Record) (name : String) : Record :=
  ((formulas.attempt record now computed name).map (·.extend computed)).getD computed

/-- The attempts of a schedule on the values computed before it. -/
def attemptsFrom (computed : Record) : List String → List Attempt
  | [] => []
  | name :: rest =>
    (formulas.attempt record now computed name).toList ++
      attemptsFrom (formulas.after record now computed name) rest

/-- The attempts of a pass over a schedule. -/
def attempts (schedule : List String) : List Attempt :=
  formulas.attemptsFrom record now .empty schedule

/-- The values computed at the end of a schedule. -/
def computedFrom (computed : Record) (schedule : List String) : Record :=
  schedule.foldl (formulas.after record now) computed

variable {formulas record now} {computed : Record} {name : String} {a : Attempt}

/-- The attempt at a field is about that field. -/
theorem field_of_attempt (tried : formulas.attempt record now computed name = some a) :
    a.field = name := by
  obtain ⟨f, _, rfl⟩ := Option.map_eq_some_iff.1 tried
  rfl

/-- A field is attempted exactly when it is calculated. -/
theorem isSome_attempt (formulas : CollectionFormulas) (record : Record) (now : Instant)
    (computed : Record) (name : String) :
    (formulas.attempt record now computed name).isSome = formulas.graph.contains name := by
  rw [attempt, Option.isSome_map, contains_graph]

/-- An attempt at a field comes to what the formula of the field gives, made storable. -/
theorem attempt_eq_some_iff {result : Except EvalError Value} :
    formulas.attempt record now computed name = some ⟨name, result⟩ ↔
      ∃ f, formulas.fields.get? name = some f ∧
        (f.formula.eval (record.overlaid computed now)).map Value.storable = result := by
  -- The name of an attempt is the field that is tried.
  rw [attempt, Option.map_eq_some_iff]
  refine exists_congr fun f => and_congr_right fun _ => ?_
  rw [Attempt.mk.injEq, and_iff_right rfl]

/-- An attempt has a value exactly when the formula of its field gives one, which is made storable
before it is kept. -/
theorem attempt_eq_ok_iff {v : Value} :
    formulas.attempt record now computed name = some ⟨name, .ok v⟩ ↔
      ∃ f, formulas.fields.get? name = some f ∧
        ∃ w, f.formula.eval (record.overlaid computed now) = .ok w ∧ v = w.storable := by
  -- An attempt is the formula's value as it is stored, and here there is one.
  refine attempt_eq_some_iff.trans (exists_congr fun f => and_congr_right fun _ => ?_)
  cases f.formula.eval (record.overlaid computed now) with
  | error e => simp [Except.map]
  | ok w => simp [Except.map, eq_comm]

/-- An attempt fails exactly when the formula of its field does, and for the same reason. -/
theorem attempt_eq_error_iff {reason : EvalError} :
    formulas.attempt record now computed name = some ⟨name, .error reason⟩ ↔
      ∃ f, formulas.fields.get? name = some f ∧
        f.formula.eval (record.overlaid computed now) = .error reason := by
  -- An error is passed on as it is.
  refine attempt_eq_some_iff.trans (exists_congr fun f => and_congr_right fun _ => ?_)
  cases f.formula.eval (record.overlaid computed now) with
  | error e => simp [Except.map]
  | ok w => simp [Except.map]

/-- An attempt depends only on what the dependencies of its field read as. -/
theorem attempt_congr {other otherComputed : Record}
    (agree : ∀ field ∈ formulas.graph.dependencies name,
      (computed.get? field).getD (record.field field) =
        (otherComputed.get? field).getD (other.field field)) :
    formulas.attempt record now computed name =
      formulas.attempt other now otherComputed name := by
  -- What a formula reads is what the record has behind the computed values.
  cases found : formulas.fields.get? name with
  | none => simp [attempt, found]
  | some f =>
    have alike : f.formula.eval (record.overlaid computed now) =
        f.formula.eval (other.overlaid otherComputed now) := by
      -- A formula reads nothing but its dependencies, which are those of the field.
      refine f.formula.eval_congr rfl fun field listed => ?_
      rw [Record.reading_overlaid, Record.reading_overlaid]
      exact agree field (dependencies_graph found ▸ listed)
    simp [attempt, found, alike]

/-- The turn of a field changes the computed value of that field only. -/
theorem get?_after_of_ne {field : String} (differ : field ≠ name) :
    (formulas.after record now computed name).get? field = computed.get? field := by
  cases tried : formulas.attempt record now computed name with
  | none => simp [after, tried]
  | some a =>
    -- The attempt is at the field that has the turn, and so at another one.
    have other : field ≠ a.field := field_of_attempt tried ▸ differ
    simp [after, tried, a.get?_extend_of_ne computed other]

/-- An attempt has a value exactly when it is the attempt that gave it. -/
theorem value?_attempt {v : Value} :
    (formulas.attempt record now computed name).bind Attempt.value? = some v ↔
      formulas.attempt record now computed name = some ⟨name, .ok v⟩ := by
  -- An attempt is made in the name of its field.
  cases tried : formulas.attempt record now computed name with
  | none => simp
  | some a =>
    obtain ⟨field, result⟩ := a
    cases field_of_attempt tried
    cases result <;> simp [Attempt.value?, Except.toOption]

/-- The turn of a field leaves the value of its attempt computed, and what was there without one. -/
theorem get?_after_self :
    (formulas.after record now computed name).get? name =
      ((formulas.attempt record now computed name).bind Attempt.value?).or
        (computed.get? name) := by
  -- An attempt with a value puts it under the name; without one nothing is put.
  cases tried : formulas.attempt record now computed name with
  | none => simp [after, tried]
  | some a =>
    cases field_of_attempt tried
    simp [after, tried, a.get?_extend_self]

/-- The fields attempted are fields of the schedule, in its order. -/
theorem attemptsFrom_fields_sublist (computed : Record) (schedule : List String) :
    ((formulas.attemptsFrom record now computed schedule).map Attempt.field).Sublist schedule := by
  -- A field that is not calculated is left out, and any other one is attempted at its place.
  induction schedule generalizing computed with
  | nil => exact List.Sublist.slnil
  | cons name rest ih =>
    rw [attemptsFrom, List.map_append]
    cases tried : formulas.attempt record now computed name with
    | none => exact (ih _).cons name
    | some a =>
      have named := field_of_attempt tried
      subst named
      exact (ih _).cons_cons a.field

/-- When every field of a schedule is calculated, these are the fields attempted. -/
theorem map_field_attemptsFrom {schedule : List String} (computed : Record)
    (calculated : ∀ field ∈ schedule, formulas.graph.contains field = true) :
    (formulas.attemptsFrom record now computed schedule).map Attempt.field = schedule := by
  -- Every turn of a calculated field makes one attempt, in its name.
  induction schedule generalizing computed with
  | nil => rfl
  | cons name rest ih =>
    obtain ⟨first, others⟩ := List.forall_mem_cons.1 calculated
    rw [← formulas.isSome_attempt record now computed] at first
    obtain ⟨a, tried⟩ := Option.isSome_iff_exists.1 first
    rw [attemptsFrom, List.map_append, ih _ others, tried, ← field_of_attempt tried]
    rfl

/-- Every attempt is at a field of the schedule. -/
theorem field_mem_of_mem_attemptsFrom {schedule : List String}
    (made : a ∈ formulas.attemptsFrom record now computed schedule) : a.field ∈ schedule :=
  (attemptsFrom_fields_sublist computed schedule).subset (List.mem_map_of_mem made)

/-- The turn of a field changes a pass as its attempt says. -/
theorem step_eq (pass : Pass) (name : String) :
    Pass.step formulas record now pass name =
      let tried := (formulas.attempt record now pass.computed name).toList
      ⟨formulas.after record now pass.computed name,
        tried.foldl (Attempt.update record) pass.outcome.updates,
        pass.outcome.evaluated ++ tried.map Attempt.field,
        pass.outcome.errors ++ tried.filterMap Attempt.error?⟩ := by
  cases found : formulas.fields.get? name with
  -- A name that is not calculated leaves the pass as it is.
  | none => simp [Pass.step, after, attempt, found]
  | some f =>
    have named := name_of_get? found
    rw [Pass.step, found]
    simp only [Pass.evaluate, Pass.environment_eq, named, after, attempt, found]
    -- The formula gives a value or fails, and the attempt with it.
    cases evaluated : f.formula.eval (record.overlaid pass.computed now) with
    | ok v => simp [evaluated, Attempt.extend, Attempt.update, Attempt.error?, Except.map]
    | error e => simp [evaluated, Attempt.extend, Attempt.update, Attempt.error?, Except.map]

/-- A schedule changes a pass as its attempts say. -/
theorem foldl_step (pass : Pass) (schedule : List String) :
    schedule.foldl (Pass.step formulas record now) pass =
      let attempts := formulas.attemptsFrom record now pass.computed schedule
      ⟨formulas.computedFrom record now pass.computed schedule,
        attempts.foldl (Attempt.update record) pass.outcome.updates,
        pass.outcome.evaluated ++ attempts.map Attempt.field,
        pass.outcome.errors ++ attempts.filterMap Attempt.error?⟩ := by
  -- Each turn hands the values computed so far on to the rest of the schedule.
  induction schedule generalizing pass with
  | nil => simp [attemptsFrom, computedFrom]
  | cons name rest ih =>
    rw [List.foldl_cons, ih, step_eq]
    -- The attempt of the first turn joins those of the rest in each part of the outcome.
    simp only [attemptsFrom, computedFrom, List.foldl_cons, List.foldl_append, List.map_append,
      List.filterMap_append, List.append_assoc]

/-- A pass over a schedule evaluates the fields attempted, in their order. -/
theorem evaluated_passOver (schedule : List String) :
    (formulas.passOver record now schedule).outcome.evaluated =
      (formulas.attempts record now schedule).map Attempt.field := by
  -- A pass starts with nothing evaluated.
  rw [passOver, foldl_step]
  rfl

/-- A pass over a schedule reports the attempts that failed, in their order. -/
theorem errors_passOver (schedule : List String) :
    (formulas.passOver record now schedule).outcome.errors =
      (formulas.attempts record now schedule).filterMap Attempt.error? := by
  -- A pass starts without errors.
  rw [passOver, foldl_step]
  rfl

/-- A pass reports an error exactly when the attempt at its field failed with it. -/
theorem mem_errors_passOver {schedule : List String} {e : FieldError} :
    e ∈ (formulas.passOver record now schedule).outcome.errors ↔
      ⟨e.field, .error e.error⟩ ∈ formulas.attempts record now schedule := by
  -- An error tells the whole attempt, so that one attempt answers for it.
  rw [errors_passOver, List.mem_filterMap]
  simp only [Attempt.error?_eq_some_iff, exists_eq_right]

/-- A field that is not scheduled keeps what was computed for it. -/
theorem get?_computedFrom_of_not_mem {schedule : List String} (absent : name ∉ schedule) :
    (formulas.computedFrom record now computed schedule).get? name = computed.get? name := by
  -- Every turn is one of another field.
  induction schedule generalizing computed with
  | nil => rfl
  | cons first rest ih =>
    obtain ⟨differ, later⟩ := List.ne_and_not_mem_of_not_mem_cons absent
    rw [computedFrom, List.foldl_cons]
    exact (ih later).trans (get?_after_of_ne differ)

/-- The values computed over a schedule without repetition are those of its attempts. -/
theorem get?_computedFrom {schedule : List String} (distinct : schedule.Nodup)
    (blank : computed.get? name = none) {v : Value} :
    (formulas.computedFrom record now computed schedule).get? name = some v ↔
      ⟨name, .ok v⟩ ∈ formulas.attemptsFrom record now computed schedule := by
  induction schedule generalizing computed with
  -- Nothing has been computed for the name before, and no turn is left that could.
  | nil => simp [computedFrom, attemptsFrom, blank]
  | cons first rest ih =>
    obtain ⟨fresh, restDistinct⟩ := List.nodup_cons.1 distinct
    rw [attemptsFrom, List.mem_append, Option.mem_toList]
    show (formulas.computedFrom record now (formulas.after record now computed first)
      rest).get? name = some v ↔ _
    by_cases same : name = first
    · subst same
      -- The field has no second turn, so that its value is the one of this turn.
      have once : ⟨name, .ok v⟩ ∉ formulas.attemptsFrom record now
          (formulas.after record now computed name) rest :=
        fun made => fresh (field_mem_of_mem_attemptsFrom made)
      rw [get?_computedFrom_of_not_mem fresh, get?_after_self, blank, Option.or_none,
        value?_attempt]
      simp only [once, or_false]
    · -- The turn of another field neither gives the value nor touches what is there.
      have elsewhere : formulas.attempt record now computed first ≠ some ⟨name, .ok v⟩ :=
        fun tried => same (field_of_attempt tried)
      rw [ih restDistinct ((get?_after_of_ne same).trans blank)]
      simp [elsewhere]

/-- At the end of a pass the values computed are those of its attempts. -/
theorem get?_computed_passOver {schedule : List String} (distinct : schedule.Nodup) {v : Value} :
    (formulas.passOver record now schedule).computed.get? name = some v ↔
      ⟨name, .ok v⟩ ∈ formulas.attempts record now schedule := by
  -- A pass starts with nothing computed.
  rw [passOver, foldl_step]
  exact get?_computedFrom distinct (FieldMap.get?_empty name)

/-- The updates of a pass are the values of its attempts that differ from the record. -/
theorem get?_updates_passOver {schedule : List String} (distinct : schedule.Nodup) {v : Value} :
    (formulas.passOver record now schedule).outcome.updates.get? name = some v ↔
      ⟨name, .ok v⟩ ∈ formulas.attempts record now schedule ∧
        (record.field name).equivalent v = false := by
  rw [passOver, foldl_step]
  -- A schedule without repetition has one attempt at each field.
  exact Attempt.get?_foldl_update ((attemptsFrom_fields_sublist _ schedule).nodup distinct)

/-- Every attempt of a schedule is made on some computed values. -/
theorem exists_attempt_of_mem {schedule : List String}
    (made : a ∈ formulas.attemptsFrom record now computed schedule) :
    ∃ before, formulas.attempt record now before a.field = some a := by
  -- Induction on the turns that are left.
  induction schedule generalizing computed with
  | nil => cases made
  | cons first rest ih =>
    rw [attemptsFrom, List.mem_append, Option.mem_toList] at made
    -- The attempt is the one of the first turn, or of a turn in the rest.
    obtain tried | later := made
    · cases field_of_attempt tried
      exact ⟨computed, tried⟩
    · exact ih later

/-- A value that a schedule gives is one that can be stored. -/
theorem storable_of_mem_attemptsFrom {schedule : List String} {v : Value}
    (made : ⟨name, .ok v⟩ ∈ formulas.attemptsFrom record now computed schedule) :
    ∃ w : Value, v = w.storable := by
  -- What was made was tried at some point, and a tried value is stored in its storable form.
  obtain ⟨_, tried⟩ := exists_attempt_of_mem made
  obtain ⟨_, _, w, _, same⟩ := attempt_eq_ok_iff.1 tried
  exact ⟨w, same⟩

end CollectionFormulas

end CalcFields
