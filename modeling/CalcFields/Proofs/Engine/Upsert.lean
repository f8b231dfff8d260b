import CalcFields.Proofs.Engine.Building
import CalcFields.Proofs.Engine.Collection
import CalcFields.Proofs.Engine.Selection
import CalcFields.Proofs.Store.Definitions

/-!
An upserted definition takes effect in the snapshot of the store, unless the file listed its key
more than once: an upsert replaces the first definition of the key, and one behind it may be the
last that the snapshot meets.
-/

namespace CalcFields

namespace Definition

/-- A definition is usable when it is selected and its formula compiles. -/
def isUsable (d : Definition) : Bool :=
  d.isSelected && d.calculated?.isSome

/-- A definition is usable when it is published, complete and local, and compiles. -/
theorem isUsable_iff {d : Definition} :
    d.isUsable = true ↔ d.status = .published ∧ d.isComplete = true ∧ isLocal d.formula = true ∧
      ∃ formula, Formula.compile d.formula = .ok formula := by
  have active : d.status.isActive = true ↔ d.status = .published := by
    cases d.status <;> simp [Status.isActive]
  -- A field is calculated when its formula compiles.
  have compiles : d.calculated?.isSome = true ↔
      ∃ formula, Formula.compile d.formula = .ok formula := by
    rw [calculated?]
    cases compiled : Formula.compile d.formula with
    | error e => simp [Except.toOption]
    | ok f =>
      have same := Formula.compile_eq_ok_iff.1 compiled
      simp [Except.toOption, Compilation.pair, same]
  rw [isUsable, isSelected, Bool.and_eq_true, Bool.and_eq_true, Bool.and_eq_true, active, compiles]
  tauto

/-- A definition gives way to another one of its key that comes no earlier in the order. -/
def GivesWayTo (d rival : Definition) : Prop :=
  (comparePlaces d.sort rival.sort).isLE = true

/-- The order of definitions of one key is that of their suggested places. -/
theorem order_eq_comparePlaces {a b : Definition} (same : a.key = b.key) :
    order a b = comparePlaces a.sort b.sort := by
  -- With equal keys the places are all that is left to compare.
  obtain ⟨collection, field⟩ := Prod.mk.inj same
  simp only [order, collection, field, Std.ReflCmp.compare_self, Ordering.eq_then,
    Ordering.then_eq]

/-- The fields of definitions have those as their definitions that compile. -/
theorem map_definition_filterMap_calculated? (definitions : List Definition) :
    (definitions.filterMap calculated?).map CalculatedField.definition =
      definitions.filter (·.calculated?.isSome) := by
  -- A definition that compiles gives a field that holds it.
  rw [List.map_filterMap, ← List.filterMap_eq_filter]
  refine List.filterMap_congr fun d _ => ?_
  cases compiled : d.calculated? with
  | none => simp [Option.guard, compiled]
  | some f => simp [Option.guard, compiled, definition_of_calculated? compiled]

end Definition

/-- The field of a collection has the last definition of its key that compiles, in the order of the
selected ones. -/
theorem CollectionFormulas.definition_get?_calculatedOf (definitions : List Definition)
    (key : String × String) :
    ((CollectionFormulas.mk key.1 (calculatedOf definitions key.1)).fields.get? key.2).map
        CalculatedField.definition =
      ((Definition.sorted (definitions.filter Definition.isSelected)).filter fun d =>
        d.calculated?.isSome && decide (d.key = key)).getLast? := by
  -- The field that is found is the last one of its name.
  rw [get?_fields, ← List.getLast?_filter, ← List.getLast?_map]
  congr 1
  rw [calculatedOf, Selection.formulas_ofDefinitions, List.filter_filter]
  -- Name and collection make up the key.
  have keyed (f : CalculatedField) : (f.name == key.2 && f.definition.collection == key.1) =
      decide (f.definition.key = key) := by
    rw [Definition.key, CalculatedField.name, Bool.eq_iff_iff]
    simp [Prod.ext_iff, and_comm]
  rw [List.filter_congr fun f _ => keyed f,
    ← Definition.filterMap_calculated?_filter _ fun d => decide (d.key = key),
    Definition.map_definition_filterMap_calculated?, List.filter_filter]

namespace Snapshot

/-- A snapshot has a definition for its field among rivals, unless the definition gives way to one
of them: then it has a rival for the field that the definition gives way to. -/
def HasAmong (snapshot : Snapshot) (d : Definition) (rivals : List Definition) : Prop :=
  ∃ formulas f, snapshot.collection? d.collection = some formulas ∧
    formulas.fields.get? d.field = some f ∧
    ((∀ rival ∈ rivals, ¬ d.GivesWayTo rival) → f.definition = d) ∧
    ∀ rival ∈ rivals, d.GivesWayTo rival → f.definition ∈ rivals ∧ d.GivesWayTo f.definition

/-- A snapshot has the first one of the definitions of a key among the usable ones behind it. -/
theorem hasAmong_of_rowsOf {stored others : List Definition} {d : Definition}
    (usable : d.isUsable = true) (rows : Definition.rowsOf stored d.key = d :: others)
    (cache : FormulaCache) :
    (build stored cache).1.HasAmong d (others.filter Definition.isUsable) := by
  -- The definitions that compete for the field are the usable ones of the key.
  have picked : (stored.filter Definition.isSelected).filter (fun other =>
      other.calculated?.isSome && decide (other.key = d.key)) =
        d :: others.filter Definition.isUsable := by
    rw [← List.filter_cons_of_pos usable, ← rows, Definition.rowsOf, List.filter_filter,
      List.filter_filter]
    refine List.filter_congr fun other _ => ?_
    rw [Definition.isUsable, Bool.and_right_comm, Bool.and_comm (other.isSelected)]
  -- Among them the order is that of their places.
  have placed : ∀ rival ∈ others.filter Definition.isUsable,
      Definition.order d rival = comparePlaces d.sort rival.sort := by
    intro rival member
    have inside : rival ∈ Definition.rowsOf stored d.key := by
      rw [rows]
      exact List.mem_cons_of_mem d (List.mem_of_mem_filter member)
    exact Definition.order_eq_comparePlaces (of_decide_eq_true (List.mem_filter.1 inside).2).symm
  -- The sort puts one of them last, and that is the one that counts.
  obtain ⟨last, found, first, late⟩ := exists_getLast?_mergeSort Definition.order picked
  have shown := CollectionFormulas.definition_get?_calculatedOf stored d.key
  rw [Definition.sorted, found, Option.map_eq_some_iff] at shown
  obtain ⟨f, there, rfl⟩ := shown
  have filled : calculatedOf stored d.key.1 ≠ [] := by
    intro bare
    rw [bare] at there
    cases there
  refine ⟨_, f, collection?_build_eq_some_iff.2 ⟨filled, rfl⟩, there, fun noRival => first ?_, ?_⟩
  · intro rival member
    refine Std.OrientedCmp.lt_of_not_isLE fun gives => noRival rival member ?_
    rwa [Definition.GivesWayTo, ← placed rival member]
  · intro rival member gives
    rw [Definition.GivesWayTo, ← placed rival member] at gives
    obtain ⟨inside, after⟩ := late rival member gives
    rw [placed _ inside] at after
    exact ⟨inside, after⟩

/-- An upserted definition that is published, complete and local, and compiles, takes effect in
every snapshot of the store, unless it gives way to a usable definition of its key behind the one
that it replaced: then such a one has the field. -/
theorem upsert_takes_effect {store next : DefinitionStore} {definitions : List Definition}
    {d : Definition} {formula : Formula} {replaced : Bool} (read : store.all = .ok definitions)
    (published : d.status = .published) (complete : d.isComplete = true)
    (staysLocal : isLocal d.formula = true) (compiles : Formula.compile d.formula = .ok formula)
    (fits : d.FitsLine) (done : store.upsert d = .ok (replaced, next)) :
    ∃ stored, next.all = .ok stored ∧ ∀ cache, (build stored cache).1.HasAmong d
      ((Definition.rowsOf definitions d.key).tail.filter Definition.isUsable) := by
  -- The upserted definition is the first row of its key, with the old ones behind it.
  have usable := Definition.isUsable_iff.2 ⟨published, complete, staysLocal, formula, compiles⟩
  obtain ⟨stored, readNext, rows⟩ := DefinitionStore.exists_all_of_upsert read fits done
  refine ⟨stored, readNext, hasAmong_of_rowsOf usable ?_⟩
  rw [rows, if_pos rfl]

/-- A field that hands the gross price of a record on. -/
def grossTotal : CalculatedField :=
  ⟨⟨"orders", "total", "\x7b\x7bgross\x7d\x7d", .published, none, none⟩,
    ⟨"\x7b\x7bgross\x7d\x7d", .field "gross", by cbv⟩, rfl⟩

/-- A file in which a draft of the total is listed before the total. -/
def draftedTotal : List Definition :=
  [{ CollectionFormulas.totalField.definition with status := .draft },
    CollectionFormulas.totalField.definition]

/-- The file with the draft is read as it lists the totals. -/
theorem all_draftedTotal : (DefinitionStore.listing draftedTotal).all = .ok draftedTotal := by
  -- None of them has a place, so nothing is lost on their lines.
  have unplaced : ∀ d ∈ draftedTotal, d.sort = none := by decide
  exact DefinitionStore.all_listing fun d member =>
    Definition.fitsLine_of_sort_eq_none (unplaced d member)

/-- A total that is upserted over the only one takes effect. -/
theorem upsert_takes_effect_grossTotal :
    let store := DefinitionStore.listing [CollectionFormulas.totalField.definition]
    ∃ replaced next stored formulas f,
      store.upsert grossTotal.definition = .ok (replaced, next) ∧ next.all = .ok stored ∧
        (build stored .empty).1.collection? "orders" = some formulas ∧
        formulas.fields.get? "total" = some f ∧ f.definition = grossTotal.definition := by
  have fit : ∀ d ∈ [CollectionFormulas.totalField.definition], d.FitsLine :=
    List.forall_mem_singleton.2 (Definition.fitsLine_of_sort_eq_none rfl)
  have read := DefinitionStore.all_listing fit
  obtain ⟨next, done⟩ := DefinitionStore.exists_upsert read
    (DefinitionStore.writable_listing _) grossTotal.definition
  obtain ⟨stored, readNext, built⟩ := upsert_takes_effect read rfl (by cbv) (by cbv)
    grossTotal.compile_definition (Definition.fitsLine_of_sort_eq_none rfl) done
  obtain ⟨formulas, f, collection, field, effect, _⟩ := built .empty
  refine ⟨_, next, stored, formulas, f, done, readNext, collection, field, effect ?_⟩
  -- There is no definition behind the one that is replaced.
  exact List.forall_mem_nil _

/-- A total that is upserted over a draft takes no effect beside the published one that is listed
behind it. -/
theorem upsert_over_draft :
    ∃ replaced next stored formulas f,
      (DefinitionStore.listing draftedTotal).upsert grossTotal.definition = .ok (replaced, next) ∧
        grossTotal.definition.isUsable = true ∧ next.all = .ok stored ∧
        (build stored .empty).1.collection? "orders" = some formulas ∧
        formulas.fields.get? "total" = some f ∧ f.definition ≠ grossTotal.definition := by
  have usable : grossTotal.definition.isUsable = true :=
    Definition.isUsable_iff.2 ⟨rfl, by cbv, by cbv, _, grossTotal.compile_definition⟩
  have stale : CollectionFormulas.totalField.definition.isUsable = true :=
    Definition.isUsable_iff.2
      ⟨rfl, by cbv, by cbv, _, CollectionFormulas.totalField.compile_definition⟩
  have fits : grossTotal.definition.FitsLine := Definition.fitsLine_of_sort_eq_none rfl
  obtain ⟨next, done⟩ := DefinitionStore.exists_upsert all_draftedTotal
    (DefinitionStore.writable_listing _) grossTotal.definition
  obtain ⟨stored, readNext, rows⟩ :=
    DefinitionStore.exists_all_of_upsert all_draftedTotal fits done
  -- The draft in front was replaced, and the published total is still behind it.
  have kept : Definition.rowsOf stored grossTotal.definition.key =
      [grossTotal.definition, CollectionFormulas.totalField.definition] := by
    rw [rows, if_pos rfl]
    rfl
  obtain ⟨formulas, f, collection, field, _, late⟩ := hasAmong_of_rowsOf usable kept .empty
  refine ⟨_, next, stored, formulas, f, done, usable, readNext, collection, field, ?_⟩
  have rival : CollectionFormulas.totalField.definition ∈
      [CollectionFormulas.totalField.definition].filter Definition.isUsable :=
    List.mem_filter.2 ⟨List.mem_singleton_self _, stale⟩
  have held := List.mem_of_mem_filter (late _ rival rfl).1
  -- The published total has another formula than the one that is upserted.
  rw [List.mem_singleton.1 held]
  decide

end Snapshot

end CalcFields
