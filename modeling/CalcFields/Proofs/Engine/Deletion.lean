import CalcFields.Proofs.Engine.Arrangement

/-!
A field whose formula fails keeps its stored value, and so the collection computes the same without
that field: deleting definitions that fail changes no update and no error of the fields that are
left, although the smaller graph may be walked in another order.
-/

namespace CalcFields

/-- An outcome is the rest of another one beside some fields when it has the same updates, and in
some order the same errors about all other fields. -/
structure Outcome.IsRest (left full : Outcome) (names : List String) : Prop where
  updates : left.updates = full.updates
  errors : left.errors.Perm (full.errors.filter fun e => !names.contains e.field)

namespace CollectionFormulas

variable {formulas : CollectionFormulas} {record : Record} {now : Instant} {names : List String}
  {changed targets : Option (List String)}

/-- The collection without the definitions of some fields. -/
def without (formulas : CollectionFormulas) (names : List String) : CollectionFormulas :=
  { formulas with calculated := formulas.calculated.filter fun f => !names.contains f.name }

/-- Deletion leaves nothing under the names deleted, and every other name as it is. -/
theorem get?_fields_without (formulas : CollectionFormulas) (names : List String) (name : String) :
    (formulas.without names).fields.get? name =
      if name ∈ names then none else formulas.fields.get? name := by
  rw [get?_fields, get?_fields, without, ← List.filter_reverse, List.find?_filter]
  split
  · -- A field that is left has another name than those deleted.
    rename_i deleted
    refine List.find?_eq_none.2 fun f _ => ?_
    by_cases named : f.name = name <;> simp [named, deleted]
  · -- A field of a name that is kept passes both tests when it passes the one on its name.
    rename_i kept
    congr 1
    funext f
    by_cases named : f.name = name <;> simp [named, kept]

/-- Deletion leaves out the attempts at the fields deleted, and no others. -/
theorem attempt_without (computed : Record) (name : String) :
    (formulas.without names).attempt record now computed name =
      if name ∈ names then none else formulas.attempt record now computed name := by
  rw [attempt, attempt, get?_fields_without]
  -- An attempt is made of the field that stands under the name.
  split <;> rfl

/-- What a field reads after a deletion, it read before. -/
theorem reads_of_without {reader field : String}
    (reads : (formulas.without names).graph.Reads reader field) :
    formulas.graph.Reads reader field := by
  obtain ⟨listed, calculated⟩ := reads
  constructor
  · rw [DependencyGraph.dependencies, node?_graph, get?_fields_without] at listed
    rw [DependencyGraph.dependencies, node?_graph]
    -- A reader that has been deleted lists nothing any more.
    split at listed
    · cases listed
    · exact listed
  · -- Nor is a deleted field calculated any more.
    rw [contains_graph, get?_fields_without] at calculated
    rw [contains_graph]
    split at calculated
    · cases calculated
    · exact calculated

/-- Deletion makes no cycle. -/
theorem acyclic_without (acyclic : formulas.graph.Acyclic) :
    (formulas.without names).graph.Acyclic :=
  fun field cycle => acyclic field (Relation.TransGen.mono (fun _ _ => reads_of_without) _ _ cycle)

/-- Fields fail in the full pass when each of them is reported with an error. -/
def Fail (formulas : CollectionFormulas) (record : Record) (now : Instant)
    (names : List String) : Prop :=
  ∀ name ∈ names, ∃ e ∈ (formulas.recompute record none none now).errors, e.field = name

/-- Without cycles, the attempt at a failing field behind all values of the pass fails. -/
theorem Fail.attempt (acyclic : formulas.graph.Acyclic) (fail : formulas.Fail record now names)
    {name : String} (failing : name ∈ names) :
    ∃ reason, formulas.attempt record now (formulas.solution record now) name =
      some ⟨name, .error reason⟩ := by
  obtain ⟨e, reported, rfl⟩ := fail name failing
  exact ⟨e.error, (mem_attempts_iff_attempt acyclic).1 (mem_errors_passOver.1 reported)⟩

/-- Without cycles, deleting failing fields leaves the solution as it is. -/
theorem Fail.solution_without (acyclic : formulas.graph.Acyclic)
    (fail : formulas.Fail record now names) :
    (formulas.without names).solution record now = formulas.solution record now := by
  have solves := isSolution_iff.1 (isSolution_solution acyclic record now)
  have acyclicToo : (formulas.without names).graph.Acyclic := acyclic_without acyclic
  have others := isSolution_solution acyclicToo record now
  -- The values of the full pass solve what is left, which has one solution.
  refine others.unique acyclicToo (isSolution_iff.2 fun name => ?_)
  rw [attempt_without, solves name]
  split
  · -- A failing field has no value, and so needs no formula.
    rename_i failing
    obtain ⟨reason, tried⟩ := fail.attempt acyclic failing
    rw [tried]
    rfl
  · rfl

/-- Without cycles, deleting failing fields takes their attempts out of the full pass. -/
theorem Fail.mem_attempts_without (acyclic : formulas.graph.Acyclic)
    (fail : formulas.Fail record now names) {a : Attempt} :
    a ∈ (formulas.without names).attempts record now
        ((formulas.without names).schedule none none) ↔
      a ∈ formulas.attempts record now (formulas.schedule none none) ∧ a.field ∉ names := by
  -- Both passes make the attempts behind one solution.
  rw [mem_attempts_iff_attempt (acyclic_without acyclic), mem_attempts_iff_attempt acyclic,
    fail.solution_without acyclic, attempt_without]
  by_cases failing : a.field ∈ names <;> simp [failing]

/-- No pass updates a field that it reports with an error. -/
theorem get?_updates_of_failed {e : FieldError}
    (failed : e ∈ (formulas.recompute record changed targets now).errors) :
    (formulas.recompute record changed targets now).updates.get? e.field = none := by
  have tried := mem_errors_passOver.1 failed
  refine Option.eq_none_iff_forall_not_mem.2 fun v updated => ?_
  obtain ⟨made, _⟩ :=
    (get?_updates_passOver (formulas.nodup_schedule changed targets)).1 updated
  -- The field has one attempt in the pass, which gave the error and not a value.
  have once := formulas.nodup_attempts record changed targets now
  have same := List.inj_on_of_nodup_map once made tried rfl
  cases same

/-- Without cycles, the full pass after a deletion of failing fields gives the rest of the full pass
before it. -/
theorem Fail.recompute_without (acyclic : formulas.graph.Acyclic)
    (fail : formulas.Fail record now names) :
    ((formulas.without names).recompute record none none now).IsRest
      (formulas.recompute record none none now) names := by
  constructor
  · -- A value of the full pass is none of a failing field, so that no update is lost.
    refine FieldMap.ext_get? fun name => Option.ext fun v => ?_
    rw [CollectionFormulas.recompute, CollectionFormulas.recompute,
      get?_updates_passOver (nodup_schedule _ none none),
      get?_updates_passOver (nodup_schedule _ none none), fail.mem_attempts_without acyclic]
    refine and_congr_left fun _ => and_iff_left_of_imp fun made failing => ?_
    obtain ⟨reason, tried⟩ := fail.attempt acyclic failing
    rw [(mem_attempts_iff_attempt acyclic).1 made] at tried
    cases tried
  · -- Each list has an error at most once, so that only which errors there are counts.
    refine (List.perm_ext_iff_of_nodup (nodup_errors _ _ _ _ _)
      ((nodup_errors _ _ _ _ _).filter _)).2 fun e => ?_
    rw [List.mem_filter, CollectionFormulas.recompute, CollectionFormulas.recompute,
      mem_errors_passOver, mem_errors_passOver, fail.mem_attempts_without acyclic]
    simp

end CollectionFormulas

/-- Definitions without those of some fields of a collection give it the fields that are left. -/
theorem calculatedOf_without (definitions : List Definition) (collection : String)
    (names : List String) :
    (calculatedOf (definitions.filter fun d =>
        !(d.collection == collection && names.contains d.field)) collection).Perm
      ((calculatedOf definitions collection).filter fun f => !names.contains f.name) := by
  let keep (d : Definition) : Bool := !(d.collection == collection && names.contains d.field)
  -- Sorting only moves definitions, and selecting looks at each definition by itself.
  have selected : (Selection.ofDefinitions (definitions.filter keep)).formulas.Perm
      ((Selection.ofDefinitions definitions).formulas.filter keep) := by
    rw [Selection.formulas_ofDefinitions, Selection.formulas_ofDefinitions, List.filter_comm]
    exact (List.mergeSort_perm _ _).trans ((List.mergeSort_perm _ _).filter keep).symm
  have compiled := (selected.filterMap Definition.calculated?).filter
    (·.definition.collection == collection)
  refine compiled.trans (List.Perm.of_eq ?_)
  rw [Definition.filterMap_calculated?_filter, calculatedOf, List.filter_comm]
  -- Of the fields of the collection, those are left whose names are not deleted.
  refine List.filter_congr fun f member => ?_
  have here := (List.mem_filter.1 member).2
  simp only [here, keep, Bool.true_and, CalculatedField.name]

/-- The full pass of a snapshot is the one over the fields that its definitions give. -/
theorem Snapshot.recompute_build (definitions : List Definition) (cache : FormulaCache)
    (collection : String) (record : Record) (now : Instant) :
    (build definitions cache).1.recompute collection record none none now =
      CollectionFormulas.recompute ⟨collection, calculatedOf definitions collection⟩ record none
        none now := by
  rw [Snapshot.recompute, collection?_build]
  -- Without fields there is no collection, and nothing to evaluate either.
  cases calculatedOf definitions collection <;> rfl

namespace CollectionFormulas

variable {formulas : CollectionFormulas}

/-- Deleting fields that fail from an acyclic collection of distinct fields changes no update and no
error of the fields that are left, also when a snapshot is built without their definitions; and a
field that fails is never updated, in whatever pass. -/
theorem recompute_without_failing (formulas : CollectionFormulas)
    (distinct : (formulas.calculated.map CalculatedField.name).Nodup)
    (acyclic : formulas.graph.Acyclic) (record : Record) (now : Instant) (names : List String)
    (fail : formulas.Fail record now names) :
    let full := formulas.recompute record none none now
    ((formulas.without names).recompute record none none now).IsRest full names ∧
      (∀ collection definitions cache otherCache,
        (Snapshot.build definitions cache).1.collection? collection = some formulas →
          let kept := definitions.filter fun d =>
            !(d.collection == collection && names.contains d.field)
          ((Snapshot.build kept otherCache).1.recompute collection record none none now).IsRest
            full names) ∧
      ∀ changed targets, ∀ e ∈ (formulas.recompute record changed targets now).errors,
        (formulas.recompute record changed targets now).updates.get? e.field = none := by
  intro full
  have left := fail.recompute_without acyclic
  refine ⟨left, ?_, fun changed targets e => get?_updates_of_failed⟩
  intro collection definitions cache otherCache built kept
  obtain ⟨_, rfl⟩ := Snapshot.collection?_build_eq_some_iff.1 built
  rw [Snapshot.recompute_build]
  -- Deleting definitions deletes the fields that they calculate.
  have arranged := (calculatedOf_without definitions collection names).symm.map
    CalculatedField.unplaced
  have same : (without ⟨collection, calculatedOf definitions collection⟩ names).SameFormulas
      ⟨collection, calculatedOf kept collection⟩ :=
    sameFormulas_of_perm (distinct.sublist (List.filter_sublist.map _)) arranged
  -- Whatever order the definitions that are kept come in, they compute the same.
  have agrees : (recompute ⟨collection, calculatedOf kept collection⟩ record none none now).Agrees
      ((without ⟨collection, calculatedOf definitions collection⟩ names).recompute record none none
        now) :=
    same.recompute (acyclic_without acyclic)
  exact ⟨agrees.updates.trans left.updates, agrees.errors.trans left.errors⟩

/-- A field that reads an answer as a truth value, which fails on most texts. -/
def paidField : CalculatedField :=
  ⟨⟨"orders", "paid", "CAST(\x7b\x7banswer\x7d\x7d, \"bool\")", .published, none, none⟩,
    ⟨"CAST(\x7b\x7banswer\x7d\x7d, \"bool\")",
      .call (.conversion .cast) [.field "answer", .literal (.string "bool")], by cbv⟩, rfl⟩

/-- A field that is due until it is paid. -/
def dueField : CalculatedField :=
  ⟨⟨"orders", "due", "NOT \x7b\x7bpaid\x7d\x7d", .published, none, none⟩,
    ⟨"NOT \x7b\x7bpaid\x7d\x7d", .unary .not (.field "paid"), by cbv⟩, rfl⟩

/-- A collection in which one field may fail and the other one reads it. -/
def payment : CollectionFormulas :=
  ⟨"orders", [dueField, paidField]⟩

/-- A record whose answer is no truth value. -/
def undecidedOrder : Record :=
  .ofList [("answer", .string "maybe"), ("paid", .bool true)]

/-- An answer that is no truth value fails, and its reader computes the same from the stored value
when the failing field is deleted. -/
theorem recompute_without_failing_answer :
    (payment.calculated.map CalculatedField.name).Nodup ∧ payment.graph.Acyclic ∧
      payment.Fail undecidedOrder (.midnight 0) ["paid"] ∧
      ((payment.without ["paid"]).recompute undecidedOrder none none (.midnight 0)).IsRest
        (payment.recompute undecidedOrder none none (.midnight 0)) ["paid"] ∧
      (payment.recompute undecidedOrder none none (.midnight 0)).updates.get? "due" =
        some (.bool false) := by
  have distinct : (payment.calculated.map CalculatedField.name).Nodup := by decide
  have cycles : payment.graph.cycles = [] := by cbv
  have acyclic := DependencyGraph.acyclic_of_cycles_eq_nil cycles
  -- The failing field has its turn first, and the one that reads it is evaluated behind it.
  have schedule : payment.schedule none none = ["paid", "due"] := by cbv
  have errors : (payment.recompute undecidedOrder none none (.midnight 0)).errors =
      [⟨"paid", .cast .boolean (.string "maybe")⟩] := by
    rw [recompute, schedule]
    rfl
  have updated : (payment.recompute undecidedOrder none none (.midnight 0)).updates.get? "due" =
      some (.bool false) := by
    rw [recompute, schedule]
    rfl
  -- The one error is that of the deleted field.
  have fail : payment.Fail undecidedOrder (.midnight 0) ["paid"] := by
    intro name failing
    rw [errors]
    exact ⟨_, List.mem_singleton_self _, (List.mem_singleton.1 failing).symm⟩
  refine ⟨distinct, acyclic, fail, ?_, updated⟩
  exact (recompute_without_failing payment distinct acyclic undecidedOrder _ _ fail).1

end CollectionFormulas

end CalcFields
