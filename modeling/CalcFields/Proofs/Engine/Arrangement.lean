import CalcFields.Proofs.Engine.Building
import CalcFields.Proofs.Engine.Solution

/-!
Definitions can be arranged in any order and placed anywhere without a change to what a full pass
computes, as long as no two of a collection share a field and none depends on itself.
-/

namespace CalcFields

/-- Two outcomes agree when they have the same updates, and the same errors in some order. -/
structure Outcome.Agrees (first second : Outcome) : Prop where
  updates : first.updates = second.updates
  errors : first.errors.Perm second.errors

/-- A definition without its suggested place. -/
def Definition.unplaced (d : Definition) : Definition :=
  { d with sort := none }

/-- A calculated field without the suggested place of its definition. -/
def CalculatedField.unplaced (f : CalculatedField) : CalculatedField :=
  ⟨f.definition.unplaced, f.formula, f.same⟩

namespace CollectionFormulas

variable {formulas other : CollectionFormulas} {record : Record} {now : Instant}

/-- Two collections have the same formulas when each name has the same one in both. -/
def SameFormulas (formulas other : CollectionFormulas) : Prop :=
  ∀ name, (formulas.fields.get? name).map CalculatedField.formula =
    (other.fields.get? name).map CalculatedField.formula

/-- Collections with the same formulas make the same attempts. -/
theorem SameFormulas.attempt (same : formulas.SameFormulas other) (computed : Record)
    (name : String) :
    formulas.attempt record now computed name = other.attempt record now computed name := by
  -- An attempt asks for nothing of a field but its formula.
  have formula (formulas : CollectionFormulas) : formulas.attempt record now computed name =
      ((formulas.fields.get? name).map CalculatedField.formula).map fun f =>
        ⟨name, (f.eval (record.overlaid computed now)).map Value.storable⟩ := by
    rw [CollectionFormulas.attempt, Option.map_map]
    rfl
  rw [formula, formula, same name]

/-- Collections with the same formulas read the same fields. -/
theorem SameFormulas.reads (same : formulas.SameFormulas other) :
    formulas.graph.Reads = other.graph.Reads := by
  -- What a field reads is told from the formulas under its name and under the name that is read.
  have listed (formulas : CollectionFormulas) (reader : String) :
      formulas.graph.dependencies reader =
        (((formulas.fields.get? reader).map CalculatedField.formula).map
          Formula.dependencies).getD [] := by
    rw [DependencyGraph.dependencies, node?_graph, Option.map_map, Option.map_map]
    rfl
  have calculated (formulas : CollectionFormulas) (field : String) :
      formulas.graph.contains field =
        ((formulas.fields.get? field).map CalculatedField.formula).isSome := by
    rw [contains_graph, Option.isSome_map]
  funext reader field
  rw [DependencyGraph.Reads, DependencyGraph.Reads, listed, listed, calculated, calculated,
    same reader, same field]

/-- Collections with the same formulas are both without cycles, or neither is. -/
theorem SameFormulas.acyclic (same : formulas.SameFormulas other)
    (acyclic : formulas.graph.Acyclic) : other.graph.Acyclic := by
  -- Being without cycles is said of what the fields read.
  rw [DependencyGraph.Acyclic, ← same.reads]
  exact acyclic

/-- Without cycles, collections with the same formulas have the same solution. -/
theorem SameFormulas.solution (same : formulas.SameFormulas other)
    (acyclic : formulas.graph.Acyclic) :
    formulas.solution record now = other.solution record now := by
  have otherAcyclic := same.acyclic acyclic
  -- The solution of the one collection solves the other, which has only one.
  refine (isSolution_solution acyclic record now).unique acyclic (isSolution_iff.2 fun name => ?_)
  rw [same.attempt]
  exact isSolution_iff.1 (isSolution_solution otherAcyclic record now) name

/-- Without cycles, full passes of collections with the same formulas make the same attempts. -/
theorem SameFormulas.mem_attempts (same : formulas.SameFormulas other)
    (acyclic : formulas.graph.Acyclic) {a : Attempt} :
    a ∈ formulas.attempts record now (formulas.schedule none none) ↔
      a ∈ other.attempts record now (other.schedule none none) := by
  have otherAcyclic := same.acyclic acyclic
  -- Each pass makes the attempts behind its solution, and the solution is one.
  rw [mem_attempts_iff_attempt acyclic, mem_attempts_iff_attempt otherAcyclic, same.attempt,
    same.solution acyclic]

/-- A pass attempts no field twice. -/
theorem nodup_attempts (formulas : CollectionFormulas) (record : Record)
    (changed targets : Option (List String)) (now : Instant) :
    ((formulas.attempts record now (formulas.schedule changed targets)).map
      Attempt.field).Nodup :=
  (attemptsFrom_fields_sublist _ _).nodup (formulas.nodup_schedule changed targets)

/-- Errors of a pass are about distinct fields. -/
theorem nodup_errors (formulas : CollectionFormulas) (record : Record)
    (changed targets : Option (List String)) (now : Instant) :
    (formulas.recompute record changed targets now).errors.Nodup := by
  rw [recompute, errors_passOver]
  have distinct := formulas.nodup_attempts record changed targets now
  -- An error tells its attempt.
  refine List.Nodup.filterMap ?_ distinct.of_map
  intro a b e first second
  rw [Option.mem_def, Attempt.error?_eq_some_iff] at first second
  rw [first, second]

/-- Without cycles, full passes of collections with the same formulas agree. -/
theorem SameFormulas.recompute (same : formulas.SameFormulas other)
    (acyclic : formulas.graph.Acyclic) :
    (other.recompute record none none now).Agrees (formulas.recompute record none none now) := by
  constructor
  · -- Which values differ from the record can be told from the attempts alone.
    refine FieldMap.ext_get? fun name => Option.ext fun v => ?_
    rw [CollectionFormulas.recompute, CollectionFormulas.recompute,
      get?_updates_passOver (other.nodup_schedule none none),
      get?_updates_passOver (formulas.nodup_schedule none none), same.mem_attempts acyclic]
  · -- Each list has an error at most once, so that only which errors there are counts.
    refine (List.perm_ext_iff_of_nodup (nodup_errors _ _ _ _ _) (nodup_errors _ _ _ _ _)).2 ?_
    intro e
    rw [CollectionFormulas.recompute, CollectionFormulas.recompute, mem_errors_passOver,
      mem_errors_passOver, same.mem_attempts acyclic]

/-- Where names are distinct, a field is found under its name. -/
theorem get?_fields_eq_some_iff (distinct : (formulas.calculated.map CalculatedField.name).Nodup)
    {name : String} {f : CalculatedField} :
    formulas.fields.get? name = some f ↔ f ∈ formulas.calculated ∧ f.name = name := by
  constructor
  · -- What is found stands in the list, under its own name.
    intro found
    refine ⟨?_, name_of_get? found⟩
    rw [get?_fields] at found
    exact List.mem_reverse.1 (List.mem_of_find?_eq_some found)
  · rintro ⟨member, rfl⟩
    -- Some field is found under the name, and no other field has it.
    have some : (formulas.fields.get? f.name).isSome = true := by
      rw [get?_fields, List.find?_isSome]
      exact ⟨f, List.mem_reverse.2 member, beq_self_eq_true f.name⟩
    obtain ⟨g, found⟩ := Option.isSome_iff_exists.1 some
    have named := name_of_get? found
    rw [get?_fields] at found
    have also := List.mem_reverse.1 (List.mem_of_find?_eq_some found)
    rw [get?_fields, found, List.inj_on_of_nodup_map distinct also member named]

/-- Collections of distinct fields have the same formulas when they have the same fields in some
order, each placed anywhere. -/
theorem sameFormulas_of_perm (distinct : (formulas.calculated.map CalculatedField.name).Nodup)
    (arranged : (formulas.calculated.map CalculatedField.unplaced).Perm
      (other.calculated.map CalculatedField.unplaced)) :
    formulas.SameFormulas other := by
  have names (formulas : CollectionFormulas) : formulas.calculated.map CalculatedField.name =
      (formulas.calculated.map CalculatedField.unplaced).map CalculatedField.name := by
    rw [List.map_map]
    rfl
  have otherDistinct : (other.calculated.map CalculatedField.name).Nodup := by
    rw [names] at distinct ⊢
    exact (arranged.map CalculatedField.name).nodup_iff.1 distinct
  -- What stands under a name can be told from the fields without their places.
  have found {formulas : CollectionFormulas}
      (distinct : (formulas.calculated.map CalculatedField.name).Nodup) (name : String)
      (formula : Formula) :
      (formulas.fields.get? name).map CalculatedField.formula = some formula ↔
        ∃ f ∈ formulas.calculated.map CalculatedField.unplaced,
          f.name = name ∧ f.formula = formula := by
    rw [Option.map_eq_some_iff]
    simp only [get?_fields_eq_some_iff distinct, List.mem_map]
    -- Taking the place off a field keeps its name and its formula.
    constructor
    · rintro ⟨f, ⟨member, named⟩, same⟩
      exact ⟨f.unplaced, ⟨f, member, rfl⟩, named, same⟩
    · rintro ⟨_, ⟨f, member, rfl⟩, named, same⟩
      exact ⟨f, ⟨member, named⟩, same⟩
  intro name
  -- The two sides ask the same of two lists that have the same members.
  refine Option.ext fun formula => ?_
  rw [found distinct, found otherDistinct]
  simp only [arranged.mem_iff]

end CollectionFormulas

namespace Definition

/-- A definition compiles to the same field wherever it is placed. -/
theorem calculated?_unplaced (d : Definition) :
    d.unplaced.calculated? = d.calculated?.map CalculatedField.unplaced := by
  have formula : d.unplaced.formula = d.formula := rfl
  rw [calculated?, calculated?, formula, Option.map_bind]
  congr 1
  funext f
  -- Pairing a definition with a formula looks at its text only.
  by_cases same : f.source = d.formula
  · simp [Compilation.pair, same, formula, CalculatedField.unplaced]
  · simp [Compilation.pair, same, formula]

end Definition

/-- The fields that definitions give to a collection, without their places, are told from the
definitions without theirs, up to their order. -/
theorem map_unplaced_calculatedOf (definitions : List Definition) (collection : String) :
    ((calculatedOf definitions collection).map CalculatedField.unplaced).Perm
      ((((definitions.map Definition.unplaced).filter Definition.isSelected).filterMap
        Definition.calculated?).filter (·.definition.collection == collection)) := by
  -- Sorting only moves definitions, and whether one is selected does not turn on its place.
  have sorted : ((Selection.ofDefinitions definitions).formulas.map Definition.unplaced).Perm
      ((definitions.map Definition.unplaced).filter Definition.isSelected) := by
    rw [Selection.formulas_ofDefinitions, List.filter_map]
    exact (List.mergeSort_perm _ _).map Definition.unplaced
  have compiled := (sorted.filterMap Definition.calculated?).filter
    (·.definition.collection == collection)
  rw [List.filterMap_map] at compiled
  -- Neither does what it compiles to.
  have each : Definition.calculated? ∘ Definition.unplaced = fun d =>
      d.calculated?.map CalculatedField.unplaced :=
    funext Definition.calculated?_unplaced
  rw [each, ← List.map_filterMap, List.filter_map] at compiled
  exact compiled

/-- Definitions that are the same but for their order and their places give the same fields to a
collection, but for theirs. -/
theorem calculatedOf_perm {definitions arranged : List Definition}
    (same : (definitions.map Definition.unplaced).Perm (arranged.map Definition.unplaced))
    (collection : String) :
    ((calculatedOf definitions collection).map CalculatedField.unplaced).Perm
      ((calculatedOf arranged collection).map CalculatedField.unplaced) := by
  -- Selecting, compiling and grouping each keep a rearranged list rearranged.
  have parts := (((same.filter Definition.isSelected).filterMap Definition.calculated?).filter
    (·.definition.collection == collection))
  exact (map_unplaced_calculatedOf definitions collection).trans
    (parts.trans (map_unplaced_calculatedOf arranged collection).symm)

namespace CollectionFormulas

variable {formulas : CollectionFormulas} {record : Record} {now : Instant}

/-- Without cycles, each value of the full pass is what the formula of its field gives behind all
values of the pass. -/
theorem eval_of_get?_solution (acyclic : formulas.graph.Acyclic) {name : String} {v : Value}
    (computed : (formulas.solution record now).get? name = some v) :
    ∃ f, formulas.fields.get? name = some f ∧
      ∃ w, f.formula.eval (record.overlaid (formulas.solution record now) now) = .ok w ∧
        v = w.storable := by
  rw [isSolution_solution acyclic record now name, Option.bind_eq_some_iff] at computed
  obtain ⟨f, found, given⟩ := computed
  refine ⟨f, found, ?_⟩
  cases evaluated : f.formula.eval (record.overlaid (formulas.solution record now) now) with
  -- A formula that fails gives its field no value.
  | error e => simp [evaluated, Except.map, Except.toOption] at given
  | ok w =>
    simp only [evaluated, Except.map, Except.toOption, Option.some.injEq] at given
    exact ⟨w, rfl, given.symm⟩

/-- Without cycles, each error of the full pass is what the formula of its field gives behind all
values of the pass. -/
theorem eval_of_mem_errors (acyclic : formulas.graph.Acyclic) {e : FieldError}
    (failed : e ∈ (formulas.recompute record none none now).errors) :
    ∃ f, formulas.fields.get? e.field = some f ∧
      f.formula.eval (record.overlaid (formulas.solution record now) now) = .error e.error := by
  -- The error is the one of an attempt, which fails in the same way behind all values.
  exact attempt_eq_error_iff.1
    ((mem_attempts_iff_attempt acyclic).1 (mem_errors_passOver.1 failed))

/-- The full pass over distinct fields without cycles computes the one solution of their formulas:
each value and each error is what a formula gives behind all values of the pass. No order or place
of the definitions changes the updates, or the errors but for their order. -/
theorem full_pass_solves (formulas : CollectionFormulas)
    (distinct : (formulas.calculated.map CalculatedField.name).Nodup)
    (acyclic : formulas.graph.Acyclic) (record : Record) (now : Instant) :
    let pass := formulas.passOver record now (formulas.schedule none none)
    let full := pass.environment record now
    (∀ name v, pass.computed.get? name = some v → ∃ f ∈ formulas.calculated, f.name = name ∧
        ∃ w, f.formula.eval full = .ok w ∧ v = w.storable) ∧
      (∀ e ∈ pass.outcome.errors, ∃ f ∈ formulas.calculated, f.name = e.field ∧
        f.formula.eval full = .error e.error) ∧
      (∀ values, formulas.IsSolution record now values ↔ values = pass.computed) ∧
      (∀ other : CollectionFormulas,
        (formulas.calculated.map CalculatedField.unplaced).Perm
            (other.calculated.map CalculatedField.unplaced) →
          (other.recompute record none none now).Agrees pass.outcome) ∧
      ∀ collection definitions arranged cache otherCache,
        (Snapshot.build definitions cache).1.collection? collection = some formulas →
          (definitions.map Definition.unplaced).Perm (arranged.map Definition.unplaced) →
            ((Snapshot.build arranged otherCache).1.recompute collection record none none
              now).Agrees pass.outcome := by
  intro pass full
  -- Another order of the same definitions computes the same values.
  have rearranged (other : CollectionFormulas)
      (same : (formulas.calculated.map CalculatedField.unplaced).Perm
        (other.calculated.map CalculatedField.unplaced)) :
      (other.recompute record none none now).Agrees pass.outcome :=
    (sameFormulas_of_perm distinct same).recompute acyclic
  refine ⟨?_, ?_, ?_, rearranged, ?_⟩
  · -- A value is that of its formula over all the values.
    intro name v computed
    obtain ⟨f, found, value⟩ := eval_of_get?_solution acyclic computed
    obtain ⟨member, named⟩ := (get?_fields_eq_some_iff distinct).1 found
    exact ⟨f, member, named, value⟩
  · -- So is an error.
    intro e failed
    obtain ⟨f, found, reason⟩ := eval_of_mem_errors acyclic failed
    obtain ⟨member, named⟩ := (get?_fields_eq_some_iff distinct).1 found
    exact ⟨f, member, named, reason⟩
  · -- The values of the pass solve the formulas, and the solution is one.
    intro values
    have solves := isSolution_solution acyclic record now
    constructor
    · exact fun also => also.unique acyclic solves
    · rintro rfl
      exact solves
  · intro collection definitions arranged cache otherCache built same
    obtain ⟨some, rfl⟩ := Snapshot.collection?_build_eq_some_iff.1 built
    have parts := calculatedOf_perm same collection
    -- The collection keeps a field, so that the other snapshot has it as well.
    have others : calculatedOf arranged collection ≠ [] := by
      intro none
      rw [none, List.map_nil] at parts
      exact some (List.map_eq_nil_iff.1 parts.eq_nil)
    have found : (Snapshot.build arranged otherCache).1.collection? collection =
        Option.some ⟨collection, calculatedOf arranged collection⟩ :=
      Snapshot.collection?_build_eq_some_iff.2 ⟨others, rfl⟩
    rw [Snapshot.recompute, found]
    exact rearranged ⟨collection, calculatedOf arranged collection⟩ parts

/-- A collection of two fields computes the same when its fields change places. -/
theorem full_pass_solves_relay :
    (relay.calculated.map CalculatedField.name).Nodup ∧ relay.graph.Acyclic ∧
      (let record : Record := .ofList [("price", .string "5")]
       let pass := relay.passOver record (.midnight 0) (relay.schedule none none)
       relay.IsSolution record (.midnight 0) pass.computed ∧
         (recompute ⟨"orders", [totalField, netField]⟩ record none none (.midnight 0)).Agrees
           pass.outcome ∧
         ((Snapshot.build [totalField.definition, netField.definition] .empty).1.recompute "orders"
           record none none (.midnight 0)).Agrees pass.outcome) := by
  have distinct : (relay.calculated.map CalculatedField.name).Nodup := by decide
  have acyclic := DependencyGraph.acyclic_of_cycles_eq_nil cycles_relay
  have solves := full_pass_solves relay distinct acyclic (.ofList [("price", .string "5")])
    (.midnight 0)
  obtain ⟨_, _, unique, arranged, built⟩ := solves
  -- The two fields are given in the other order, in the collection and as definitions.
  refine ⟨distinct, acyclic, (unique _).2 rfl, ?_, ?_⟩
  · exact arranged ⟨"orders", [totalField, netField]⟩ (List.Perm.swap _ _ [])
  · refine built "orders" [netField.definition, totalField.definition] _ .empty .empty ?_
      (List.Perm.swap _ _ [])
    have selected : (Selection.ofDefinitions
        [netField.definition, totalField.definition]).formulas =
          [netField.definition, totalField.definition] := by
      cbv
    have given : calculatedOf [netField.definition, totalField.definition] "orders" =
        [netField, totalField] := by
      rw [calculatedOf, selected]
      simp only [List.filterMap_cons, List.filterMap_nil, CalculatedField.calculated?_definition]
      rfl
    exact Snapshot.collection?_build_eq_some_iff.2 ⟨by simp [given], by rw [given]; rfl⟩

end CollectionFormulas

end CalcFields
