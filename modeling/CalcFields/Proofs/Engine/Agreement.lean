import CalcFields.Proofs.Engine.Attempt
import CalcFields.Proofs.Engine.Schedule
import CalcFields.Proofs.Engine.Upsert

/-!
The fields of a collection by name, its graph and its order of calculation are made of one list of
definitions by different rules, and agree: under each identity all of them have the definition that
comes last.
-/

namespace CalcFields

/-- A definition comes last among the usable ones of its identity: those listed in front of it are
suggested no later, and those listed behind it are suggested earlier, where a definition without a
suggested place is later than all that have one. -/
def Definition.LastUsable (definitions : List Definition) (d : Definition) : Prop :=
  d.isUsable = true ∧ ∃ before after, definitions = before ++ d :: after ∧
    (∀ other ∈ before, other.isUsable = true → other.key = d.key →
      (comparePlaces other.sort d.sort).isLE = true) ∧
    ∀ other ∈ after, other.isUsable = true → other.key = d.key →
      comparePlaces other.sort d.sort = .lt

/-- No usable definition of the same identity comes later than the last one. -/
theorem Definition.LastUsable.isLE {definitions : List Definition} {d other : Definition}
    (last : d.LastUsable definitions) (member : other ∈ definitions)
    (usable : other.isUsable = true) (same : other.key = d.key) :
    (comparePlaces other.sort d.sort).isLE = true := by
  -- A definition stands before the last one, behind it, or is the last one itself.
  obtain ⟨_, before, after, rfl, noLater, earlier⟩ := last
  obtain inFront | behind := List.mem_append.1 member
  · exact noLater other inFront usable same
  · obtain rfl | later := List.mem_cons.1 behind
    · exact Std.ReflCmp.isLE_rfl
    · rw [earlier other later usable same]
      rfl

namespace CollectionFormulas

variable {formulas : CollectionFormulas} {definitions : List Definition} {name field : String}
  {f : CalculatedField}

/-- A collection has a field exactly when some usable definition has its identity. -/
theorem mem_keys_calculatedOf :
    field ∈ (CollectionFormulas.mk name (calculatedOf definitions name)).fields.keys ↔
      ∃ d ∈ definitions, d.isUsable = true ∧ d.key = (name, field) := by
  -- A field is there when some usable definition of its key is, which is then the last one.
  have last := definition_get?_calculatedOf definitions (name, field)
  rw [← FieldMap.isSome_get?_iff, ← Option.isSome_map (f := CalculatedField.definition), last,
    List.getLast?_isSome, Ne, List.filter_eq_nil_iff]
  simp only [(Definition.sorted_perm _).mem_iff, List.mem_filter, Definition.isUsable,
    Bool.and_eq_true, decide_eq_true_eq, not_forall, not_not, exists_prop]
  exact exists_congr fun d => by tauto

/-- The definition of a field is the last usable one of its identity. -/
theorem lastUsable_of_get?_calculatedOf
    (found : (CollectionFormulas.mk name (calculatedOf definitions name)).fields.get? field =
      some f) :
    f.definition.key = (name, field) ∧ f.definition.LastUsable definitions := by
  have last := definition_get?_calculatedOf definitions (name, field)
  rw [found, Option.map_some, eq_comm, Definition.sorted] at last
  obtain ⟨passes, front, behind, split, noLater, earlier⟩ :=
    exists_append_of_getLast?_mergeSort Definition.order last
  -- The sort keeps ties in order, and the selection leaves a part of the list.
  obtain ⟨first, rest, rfl, rfl, second⟩ := List.filter_eq_append_iff.1 split
  obtain ⟨between, after, rfl, unselected, selected, rfl⟩ := List.filter_eq_cons_iff.1 second
  obtain ⟨compiles, keyed⟩ := Bool.and_eq_true_iff.1 passes
  have key : f.definition.key = (name, field) := of_decide_eq_true keyed
  refine ⟨key, Bool.and_eq_true_iff.2 ⟨selected, compiles⟩, first ++ between, after,
    (List.append_assoc ..).symm, ?_, ?_⟩
  · intro other member usable same
    obtain ⟨chosen, compilesToo⟩ := Bool.and_eq_true_iff.1 usable
    rw [← Definition.order_eq_comparePlaces same]
    refine noLater other ?_ (Bool.and_eq_true_iff.2 ⟨compilesToo, decide_eq_true (same.trans key)⟩)
    -- What is not selected is not usable.
    obtain here | there := List.mem_append.1 member
    · exact List.mem_filter.2 ⟨here, chosen⟩
    · exact absurd chosen (unselected other there)
  · intro other member usable same
    obtain ⟨chosen, compilesToo⟩ := Bool.and_eq_true_iff.1 usable
    rw [← Definition.order_eq_comparePlaces same]
    exact earlier other (List.mem_filter.2 ⟨member, chosen⟩)
      (Bool.and_eq_true_iff.2 ⟨compilesToo, decide_eq_true (same.trans key)⟩)

/-- The names of the fields of a collection are those of its graph. -/
theorem keys_perm_graph (formulas : CollectionFormulas) :
    formulas.fields.keys.Perm formulas.graph.fields := by
  -- Both lists are distinct, so that having the same members is enough.
  refine (List.perm_ext_iff_of_nodup ?_ formulas.graph.distinct).2 fun name => ?_
  · exact List.pairwise_map.2 formulas.fields.distinct
  · rw [← FieldMap.isSome_get?_iff, ← contains_graph, DependencyGraph.contains_iff_mem]
    rfl

/-- The order of calculation has the fields of the graph. -/
theorem order_perm_graph (formulas : CollectionFormulas) :
    formulas.analysis.order.Perm formulas.graph.fields :=
  (List.perm_ext_iff_of_nodup formulas.graph.nodup_order formulas.graph.distinct).2 fun _ =>
    DependencyGraph.mem_order.trans DependencyGraph.contains_iff_mem

/-- A pass evaluates the fields of its schedule. -/
theorem evaluated_recompute (formulas : CollectionFormulas) (record : Record)
    (changed targets : Option (List String)) (now : Instant) :
    (formulas.recompute record changed targets now).evaluated =
      formulas.schedule changed targets := by
  -- Every field of the schedule is calculated, and is therefore tried.
  rw [recompute, evaluated_passOver]
  exact map_field_attemptsFrom _ fun field => contains_of_mem_schedule

end CollectionFormulas

/-- In every snapshot the fields of a collection by name, its graph and its order of calculation
have the same names, those of the usable definitions of the collection. Each field is calculated by
the formula that the last usable definition of its identity compiles to, and its node has the text
and the dependencies of that. So a pass evaluates exactly the fields of its schedule, each of which
has a formula. -/
theorem Snapshot.collection_in_step {definitions : List Definition} {cache : FormulaCache}
    {name : String} {formulas : CollectionFormulas}
    (built : (build definitions cache).1.collection? name = some formulas) :
    formulas.fields.keys.Perm formulas.graph.fields ∧
      formulas.analysis.order.Perm formulas.graph.fields ∧
      (∀ field, field ∈ formulas.fields.keys ↔
        ∃ d ∈ definitions, d.isUsable = true ∧ d.key = (name, field)) ∧
      (∀ field f, formulas.fields.get? field = some f →
        formulas.graph.node? field =
            some ⟨field, f.definition.formula, f.formula.dependencies⟩ ∧
          Formula.compile f.definition.formula = .ok f.formula ∧
          f.definition.key = (name, field) ∧ f.definition.LastUsable definitions) ∧
      ∀ changed targets,
        (∀ field ∈ formulas.schedule changed targets,
          ∃ f, formulas.fields.get? field = some f) ∧
        ∀ record now, (formulas.recompute record changed targets now).evaluated =
          formulas.schedule changed targets := by
  obtain ⟨_, rfl⟩ := collection?_build_eq_some_iff.1 built
  refine ⟨CollectionFormulas.keys_perm_graph _, CollectionFormulas.order_perm_graph _,
    fun field => CollectionFormulas.mem_keys_calculatedOf, fun field f found => ?_,
    fun changed targets => ⟨fun field scheduled => ?_, fun record now => ?_⟩⟩
  · -- The graph has the node that the formula of the field was compiled to.
    obtain ⟨key, last⟩ := CollectionFormulas.lastUsable_of_get?_calculatedOf found
    refine ⟨?_, f.compile_definition, key, last⟩
    rw [CollectionFormulas.node?_graph, found, ← CollectionFormulas.name_of_get? found]
    rfl
  · -- A schedule has fields of the graph only.
    have calculated := CollectionFormulas.contains_of_mem_schedule scheduled
    rw [CollectionFormulas.contains_graph] at calculated
    exact Option.isSome_iff_exists.1 calculated
  · exact CollectionFormulas.evaluated_recompute _ record changed targets now

/-- Definitions of two fields, of which one is defined three times: without a place, at a place and
by a text that does not compile. -/
def restated : List Definition :=
  [CollectionFormulas.totalField.definition,
    ⟨"orders", "total", "\x7b\x7bprice\x7d\x7d", .published, some 1, none⟩,
    ⟨"orders", "total", "(", .published, none, none⟩, CollectionFormulas.netField.definition]

/-- The field that is defined three times has the definition without a place, which comes last of
those that compile, and so has its node. -/
theorem Snapshot.collection_in_step_restated :
    ∃ formulas f, (build restated .empty).1.collection? "orders" = some formulas ∧
      formulas.fields.get? "total" = some f ∧
      f.definition = CollectionFormulas.totalField.definition ∧
      formulas.graph.dependencies "total" = ["net"] ∧
      ∀ record now, (formulas.recompute record none none now).evaluated =
        formulas.schedule none none := by
  have usable : CollectionFormulas.totalField.definition.isUsable = true := by
    rw [Definition.isUsable, CollectionFormulas.totalField.calculated?_definition]
    cbv
  have member : CollectionFormulas.totalField.definition ∈ restated := List.mem_cons_self
  have present : "total" ∈
      (CollectionFormulas.mk "orders" (calculatedOf restated "orders")).fields.keys :=
    CollectionFormulas.mem_keys_calculatedOf.2 ⟨_, member, usable, rfl⟩
  have filled : calculatedOf restated "orders" ≠ [] := by
    intro bare
    rw [bare] at present
    cases present
  have built : (build restated .empty).1.collection? "orders" = some _ :=
    collection?_build_eq_some_iff.2 ⟨filled, rfl⟩
  -- Which of the three definitions of the field is used is told by the order.
  obtain ⟨_, _, _, each, passes⟩ := collection_in_step built
  obtain ⟨f, found⟩ := Option.isSome_iff_exists.1 (FieldMap.isSome_get?_iff.2 present)
  obtain ⟨node, _, key, last⟩ := each "total" f found
  have same : f.definition = CollectionFormulas.totalField.definition := by
    obtain ⟨usableToo, _, _, split, _⟩ := id last
    have listed : f.definition ∈ restated := split ▸ by simp
    have late := last.isLE member usable key.symm
    simp only [restated, List.mem_cons, List.not_mem_nil, or_false] at listed
    obtain total | placed | broken | net := listed
    · exact total
    · -- A definition at a place comes before one without a place.
      rw [placed] at late
      cases late
    · -- A text that does not parse is not usable.
      obtain ⟨_, _, _, formula, compiles⟩ := Definition.isUsable_iff.1 usableToo
      have parsed := formula.parsed
      rw [Formula.compile_eq_ok_iff.1 compiles, broken] at parsed
      have refused : (parse "(").toOption = none := by cbv
      rw [parsed] at refused
      cases refused
    · exact absurd (net ▸ key) (by decide)
  refine ⟨_, f, built, found, same, ?_, (passes none none).2⟩
  rw [CollectionFormulas.dependencies_graph found, Formula.dependencies, f.same, same]
  cbv

end CalcFields
