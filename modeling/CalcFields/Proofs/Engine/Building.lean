import CalcFields.Engine.Snapshot
import CalcFields.Proofs.FieldMap
import Mathlib.Data.List.Induction

/-!
What a snapshot holds of its definitions: the selected ones that compile, by collection and in their
order. The cache that they are compiled through makes no difference.
-/

namespace CalcFields

/-- Compiling through a cache gives what compiling anew gives. -/
theorem FormulaCache.fst_compile (cache : FormulaCache) (source : String) :
    (cache.compile source).1 = Formula.compile source := by
  unfold compile
  -- A formula that is kept has this text, and so is what the text compiles to.
  cases kept : cache.entries.get? source with
  | some f => exact (Formula.compile_eq_ok_iff.2 (cache.keyed source f kept)).symm
  | none => cases compiled : Formula.compile source <;> rfl

namespace Definition

/-- The calculated field of a definition, none when its formula does not compile. -/
def calculated? (d : Definition) : Option CalculatedField :=
  (Formula.compile d.formula).toOption.bind (Compilation.pair d)

/-- A definition is selected when it is published, complete and local. -/
def isSelected (d : Definition) : Bool :=
  isLocal d.formula && (d.isComplete && d.status.isActive)

/-- A definition compiles to a field that has it as its definition. -/
theorem definition_of_calculated? {d : Definition} {f : CalculatedField}
    (compiled : d.calculated? = some f) : f.definition = d := by
  -- A compilation pairs the formula with the definition that it was made from.
  obtain ⟨formula, _, paired⟩ := Option.bind_eq_some_iff.1 compiled
  rw [Compilation.pair, Option.dite_none_right_eq_some] at paired
  obtain ⟨_, same⟩ := paired
  cases same
  rfl

/-- Leaving definitions out leaves out the fields that they compile to. -/
theorem filterMap_calculated?_filter (definitions : List Definition)
    (keep : Definition → Bool) :
    (definitions.filter keep).filterMap calculated? =
      (definitions.filterMap calculated?).filter (keep ·.definition) := by
  -- The test sees the definition only, and a field keeps its definition.
  rw [List.filterMap_filter, List.filter_filterMap]
  refine List.filterMap_congr fun d _ => ?_
  cases compiled : d.calculated? with
  | none => simp
  | some f =>
    rw [← definition_of_calculated? compiled]
    cases kept : keep f.definition <;> simp [Option.filter, kept]

end Definition

/-- The definition of a calculated field compiles. -/
theorem CalculatedField.compile_definition (f : CalculatedField) :
    Formula.compile f.definition.formula = .ok f.formula :=
  Formula.compile_eq_ok_iff.2 f.same

/-- A calculated field is the one that its own definition compiles to. -/
theorem CalculatedField.calculated?_definition (f : CalculatedField) :
    f.definition.calculated? = some f := by
  -- The formula is the one that its own source compiles to.
  rw [Definition.calculated?, f.compile_definition]
  simp [Except.toOption, Compilation.pair, f.same]

/-- A part of a compilation to which each definition adds what it makes grows by all that the
definitions make, in their order. -/
theorem Compilation.foldl_add {α : Type} (part : Compilation → List α)
    (made : Definition → Option α)
    (next : ∀ done d, part (add done d) = part done ++ (made d).toList) (done : Compilation)
    (definitions : List Definition) :
    part (definitions.foldl add done) = part done ++ definitions.filterMap made := by
  -- A part only grows, and so the induction starts from any compilation under way.
  induction definitions generalizing done with
  | nil => simp
  | cons d rest ih =>
    rw [List.foldl_cons, ih, next, List.append_assoc]
    cases found : made d <;> simp [found]

/-- A compilation keeps the fields whose formulas compile, in the order of their definitions. -/
theorem Compilation.fields_ofDefinitions (cache : FormulaCache) (definitions : List Definition) :
    (ofDefinitions cache definitions).fields = definitions.filterMap Definition.calculated? := by
  refine foldl_add fields Definition.calculated? (fun done d => ?_) _ definitions
  -- One definition adds the field it compiles to, or none.
  have same := done.cache.fst_compile d.formula
  rw [add, Definition.calculated?, ← same]
  cases outcome : done.cache.compile d.formula with
  | mk result after => cases result <;> simp [Except.toOption]

/-- A selection holds the selected definitions in their order. -/
theorem Selection.formulas_ofDefinitions (definitions : List Definition) :
    (ofDefinitions definitions).formulas =
      Definition.sorted (definitions.filter Definition.isSelected) := by
  -- Three tests one after the other are one test.
  simp only [ofDefinitions, List.partition_eq_filter_filter, List.filter_filter]
  rfl

/-- Fields of one collection form a group in the order in which they come. -/
theorem get?_groupFields (fields : List CalculatedField) (collection : String) :
    (groupFields fields).get? collection =
      match fields.filter (·.definition.collection == collection) with
      | [] => none
      | group => some ⟨collection, group⟩ := by
  -- The last field joins the group of its collection, or starts it.
  induction fields using List.reverseRecOn with
  | nil => rfl
  | append_singleton rest last ih =>
    rw [groupFields] at ih ⊢
    rw [List.foldl_append, List.foldl_cons, List.foldl_nil, FieldMap.alter,
      FieldMap.get?_insert, List.filter_append]
    by_cases same : collection = last.definition.collection
    · -- The last field is one of this collection, and comes after the others.
      subst same
      rw [if_pos rfl, ih]
      cases rest.filter (·.definition.collection == last.definition.collection) <;> simp
    · -- A field of another collection leaves this group as it is.
      rw [if_neg same]
      simpa [Ne.symm same] using ih

/-- The calculated fields that definitions give to a collection. -/
def calculatedOf (definitions : List Definition) (collection : String) : List CalculatedField :=
  ((Selection.ofDefinitions definitions).formulas.filterMap Definition.calculated?).filter
    (·.definition.collection == collection)

/-- A snapshot has the collections that its definitions give fields to, with these fields. -/
theorem Snapshot.collection?_build (definitions : List Definition) (cache : FormulaCache)
    (collection : String) :
    (build definitions cache).1.collection? collection =
      match calculatedOf definitions collection with
      | [] => none
      | group => some ⟨collection, group⟩ := by
  -- The snapshot groups what the selection compiles to.
  rw [collection?, build, ofSelection]
  show (groupFields _).get? collection = _
  rw [get?_groupFields, Compilation.fields_ofDefinitions]
  rfl

/-- A snapshot has a collection exactly when its definitions give fields to it. -/
theorem Snapshot.collection?_build_eq_some_iff {definitions : List Definition}
    {cache : FormulaCache} {collection : String} {formulas : CollectionFormulas} :
    (build definitions cache).1.collection? collection = some formulas ↔
      calculatedOf definitions collection ≠ [] ∧
        formulas = ⟨collection, calculatedOf definitions collection⟩ := by
  rw [collection?_build]
  cases calculatedOf definitions collection with
  | nil => simp
  -- A field is enough for the collection to be there, and then it has them all.
  | cons f rest => simp [eq_comm]

end CalcFields
