import CalcFields.Proofs.Engine.Attempt
import CalcFields.Proofs.Engine.Schedule

/-!
The formulas of a collection are equations between its fields. Without cycles a full pass computes
the one solution of these equations, which does not depend on the order of the formulas.
-/

namespace CalcFields

namespace CollectionFormulas

variable {formulas : CollectionFormulas} {record : Record} {now : Instant}

/-- An attempt of a pass is the one that its field gets behind all values of the pass, when what its
formula reads is scheduled before it or not at all. -/
theorem attempt_computedFrom {schedule : List String} (distinct : schedule.Nodup)
    {computed : Record} {a : Attempt}
    (ordered : ∀ field ∈ formulas.graph.dependencies a.field, field ∈ schedule →
      Precedes schedule field a.field)
    (made : a ∈ formulas.attemptsFrom record now computed schedule) :
    formulas.attempt record now (formulas.computedFrom record now computed schedule) a.field =
      some a := by
  -- The attempt is found where its field has its turn, and what it reads is settled by then.
  induction schedule generalizing computed with
  | nil => cases made
  | cons name rest ih =>
    obtain ⟨fresh, restDistinct⟩ := List.nodup_cons.1 distinct
    rw [attemptsFrom, List.mem_append, Option.mem_toList] at made
    obtain tried | later := made
    · -- What this attempt reads is not scheduled any more, and keeps its value to the end.
      rw [field_of_attempt tried] at ordered ⊢
      rw [← tried]
      refine attempt_congr fun field listed => ?_
      have unscheduled : field ∉ name :: rest := fun scheduled =>
        fresh (ordered field listed scheduled).second_mem_rest
      rw [get?_computedFrom_of_not_mem unscheduled]
    · -- A later attempt sees the turn of this field before its own.
      refine ih restDistinct (fun field listed scheduled => ?_) later
      have differ : field ≠ name := fun same => fresh (same ▸ scheduled)
      exact (ordered field listed (List.mem_cons_of_mem _ scheduled)).of_cons differ

/-- Every calculated field of a schedule is attempted. -/
theorem exists_mem_attemptsFrom {schedule : List String} {computed : Record} {name : String}
    (scheduled : name ∈ schedule) (calculated : formulas.graph.contains name = true) :
    ∃ a ∈ formulas.attemptsFrom record now computed schedule, a.field = name := by
  induction schedule generalizing computed with
  | nil => cases scheduled
  | cons first rest ih =>
    rw [attemptsFrom]
    obtain rfl | later := List.mem_cons.1 scheduled
    · -- The first turn is the one of the field, which is attempted because it is calculated.
      rw [← isSome_attempt formulas record now computed] at calculated
      obtain ⟨a, tried⟩ := Option.isSome_iff_exists.1 calculated
      exact ⟨a, List.mem_append_left _ (Option.mem_toList.2 tried), field_of_attempt tried⟩
    · -- A later turn is one of the rest.
      obtain ⟨a, made, named⟩ := ih later
      exact ⟨a, List.mem_append_right _ made, named⟩

/-- Values solve a collection over a record when each calculated field has the value that its
formula gives over the record behind all of the values, and nothing else has one. -/
def IsSolution (formulas : CollectionFormulas) (record : Record) (now : Instant)
    (values : Record) : Prop :=
  ∀ name, values.get? name =
    (formulas.fields.get? name).bind fun f =>
      ((f.formula.eval (record.overlaid values now)).map Value.storable).toOption

/-- Values solve a collection exactly when attempts behind them give them. -/
theorem isSolution_iff {values : Record} :
    formulas.IsSolution record now values ↔
      ∀ name, values.get? name =
        (formulas.attempt record now values name).bind Attempt.value? := by
  refine forall_congr' fun name => ?_
  -- A name without a formula has neither an attempt nor a value.
  cases found : formulas.fields.get? name <;> simp [attempt, found, Attempt.value?]

/-- A solution has no value for a field that is not calculated. -/
theorem IsSolution.get?_eq_none {values : Record} (solves : formulas.IsSolution record now values)
    {name : String} (plain : formulas.graph.contains name = false) : values.get? name = none := by
  -- Such a field has no formula that could give it a value.
  rw [contains_graph, Option.isSome_eq_false_iff, Option.isNone_iff_eq_none] at plain
  rw [solves name, plain]
  rfl

/-- Without cycles two solutions are the same, field after field from those that read least. -/
theorem IsSolution.unique (acyclic : formulas.graph.Acyclic) {values others : Record}
    (first : formulas.IsSolution record now values)
    (second : formulas.IsSolution record now others) : values = others := by
  refine FieldMap.ext_get? fun name => ?_
  induction name using acyclic.wellFounded.induction with
  | h name ih =>
    -- What the formula reads is the same in both: a smaller field, or one without a value.
    have same : formulas.attempt record now values name =
        formulas.attempt record now others name := by
      refine attempt_congr fun field listed => ?_
      cases calculated : formulas.graph.contains field with
      -- A calculated field that is read comes before its reader in the induction.
      | true => rw [ih field ⟨listed, calculated⟩]
      -- A plain field has no value in either solution, and reads from the record.
      | false => rw [first.get?_eq_none calculated, second.get?_eq_none calculated]
    rw [isSolution_iff.1 first name, isSolution_iff.1 second name, same]

/-- The values computed by the full pass. -/
def solution (formulas : CollectionFormulas) (record : Record) (now : Instant) : Record :=
  (formulas.passOver record now (formulas.schedule none none)).computed

/-- Without cycles, the attempts of the full pass are those behind all values that it computes. -/
theorem mem_attempts_iff_attempt (acyclic : formulas.graph.Acyclic) {a : Attempt} :
    a ∈ formulas.attempts record now (formulas.schedule none none) ↔
      formulas.attempt record now (formulas.solution record now) a.field = some a := by
  -- An attempt in the pass is made over less than all values, but over all that it reads.
  have behind {a : Attempt}
      (made : a ∈ formulas.attempts record now (formulas.schedule none none)) :
      formulas.attempt record now (formulas.solution record now) a.field = some a := by
    rw [solution, passOver, foldl_step]
    refine attempt_computedFrom (formulas.nodup_schedule none none) ?_ made
    -- Every calculated field is scheduled, and without cycles before those that read it.
    intro field listed scheduled
    exact (acyclic.cycleFree a.field).before ⟨listed, mem_schedule_none.1 scheduled⟩
  constructor
  · exact behind
  · intro tried
    have calculated : formulas.graph.contains a.field = true := by
      rw [← isSome_attempt formulas record now, tried]
      rfl
    -- The field has some attempt in the pass, and an attempt behind the same values is the same.
    have someAttempt : ∃ other ∈ formulas.attempts record now (formulas.schedule none none),
        other.field = a.field :=
      exists_mem_attemptsFrom (mem_schedule_none.2 calculated) calculated
    obtain ⟨other, made, named⟩ := someAttempt
    have same := behind made
    rw [named, tried] at same
    cases same
    exact made

/-- Without cycles, what the full pass computes is a solution. -/
theorem isSolution_solution (acyclic : formulas.graph.Acyclic) (record : Record) (now : Instant) :
    formulas.IsSolution record now (formulas.solution record now) := by
  refine isSolution_iff.2 fun name => Option.ext fun v => ?_
  -- A value of the pass is one of its attempts, and these are the attempts behind all values.
  rw [value?_attempt, solution, get?_computed_passOver (formulas.nodup_schedule none none)]
  exact mem_attempts_iff_attempt acyclic

end CollectionFormulas

end CalcFields
