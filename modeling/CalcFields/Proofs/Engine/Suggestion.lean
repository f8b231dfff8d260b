import CalcFields.Engine.Recompute
import CalcFields.Proofs.Engine.Upsert
import CalcFields.Proofs.Graph.Topological

/-!
Definitions may suggest places, and the sort of a graph starts from the order that these give. A
suggested order in which each field comes after those that it reads is the order of calculation.
-/

namespace CalcFields

namespace Definition

/-- Definitions of one collection are ordered by suggested place, then field. -/
def placeOrder (a b : Definition) : Ordering :=
  (comparePlaces a.sort b.sort).then (compare a.field b.field)

/-- The definitions of a collection that are usable. -/
def usableOf (definitions : List Definition) (collection : String) : List Definition :=
  definitions.filter fun d => d.isUsable && d.collection == collection

/-- Within one collection the order of definitions is that by place and field. -/
theorem order_eq_placeOrder {a b : Definition} (same : a.collection = b.collection) :
    order a b = placeOrder a b := by
  simp only [order, placeOrder, same, Std.ReflCmp.compare_self, Ordering.eq_then]

/-- The fields of usable definitions have the names that these give them. -/
theorem map_name_filterMap_calculated? {definitions : List Definition}
    (usable : ∀ d ∈ definitions, d.isUsable = true) :
    (definitions.filterMap calculated?).map CalculatedField.name = definitions.map field := by
  -- Every usable definition compiles, so none is left out.
  have compiles : definitions.filter (·.calculated?.isSome) = definitions :=
    List.filter_eq_self.2 fun d member => (Bool.and_eq_true_iff.1 (usable d member)).2
  have read : (definitions.filterMap calculated?).map CalculatedField.name =
      ((definitions.filterMap calculated?).map CalculatedField.definition).map field :=
    List.map_map.symm
  rw [read, map_definition_filterMap_calculated?, compiles]

/-- The usable definitions of a collection are usable and of this collection. -/
theorem mem_usableOf {definitions : List Definition} {collection : String} {d : Definition}
    (member : d ∈ usableOf definitions collection) :
    d.isUsable = true ∧ d.collection = collection :=
  (Bool.and_eq_true_iff.1 (List.mem_filter.1 member).2).imp_right eq_of_beq

end Definition

/-- The definitions of fields compile to these fields. -/
theorem filterMap_calculated?_map_definition (fields : List CalculatedField) :
    (fields.map CalculatedField.definition).filterMap Definition.calculated? = fields := by
  -- Each definition gives back the field that it was made from.
  rw [List.filterMap_map]
  refine (List.filterMap_congr fun f _ => ?_).trans List.filterMap_some
  exact f.calculated?_definition

/-- The fields of a collection have its usable definitions, in the order of the selection. -/
theorem map_definition_calculatedOf (definitions : List Definition) (collection : String) :
    (calculatedOf definitions collection).map CalculatedField.definition =
      (Definition.sorted (definitions.filter Definition.isSelected)).filter
        fun d => d.calculated?.isSome && d.collection == collection := by
  -- Selecting the definitions of a collection first or last makes no difference.
  rw [calculatedOf, Selection.formulas_ofDefinitions,
    ← Definition.filterMap_calculated?_filter _ fun d => d.collection == collection,
    Definition.map_definition_filterMap_calculated?, List.filter_filter]

/-- Usable definitions of distinct fields that stand in the order by place and field are those of
the fields that a collection is given. -/
theorem calculatedOf_eq_of_placed {definitions placed : List Definition} {collection : String}
    (usable : placed.Perm (Definition.usableOf definitions collection))
    (ordered : placed.Pairwise fun a b => (Definition.placeOrder a b).isLE = true)
    (distinct : (placed.map Definition.field).Nodup) :
    calculatedOf definitions collection = placed.filterMap Definition.calculated? := by
  -- A field is known by its definition, so that the definitions are to be compared.
  suffices same : (calculatedOf definitions collection).map CalculatedField.definition = placed by
    rw [← same, filterMap_calculated?_map_definition]
  rw [map_definition_calculatedOf]
  -- The collection gathers the definitions that are usable in it.
  have gathered : placed.Perm ((Definition.sorted (definitions.filter Definition.isSelected)).filter
      fun d => d.calculated?.isSome && d.collection == collection) := by
    refine usable.trans (.trans (.of_eq ?_) ((Definition.sorted_perm _).filter _).symm)
    rw [Definition.usableOf, List.filter_filter]
    refine List.filter_congr fun d _ => ?_
    rw [Definition.isUsable]
    ac_rfl
  have inside {d : Definition} (member : d ∈ placed) : d.collection = collection :=
    (Definition.mem_usableOf (usable.subset member)).2
  -- Within a collection definitions are sorted by place.
  have inOrder : placed.Pairwise fun a b => (Definition.order a b).isLE = true := by
    refine ordered.imp_of_mem fun {a b} first second before => ?_
    rwa [Definition.order_eq_placeOrder ((inside first).trans (inside second).symm)]
  -- Two definitions that stand before one another have one field, and so are one.
  refine gathered.symm.eq_of_pairwise (fun a b here there before after => ?_)
    ((Definition.pairwise_sorted _).filter _) inOrder
  have key := Definition.key_eq_of_order_eq (Std.OrientedCmp.isLE_antisymm before after)
  exact List.inj_on_of_nodup_map distinct (gathered.symm.subset here) there (Prod.mk.inj key).2

/-- Nodes of distinct names that come after the nodes which they read are sorted as they come,
without a cycle. So when the usable definitions of a collection, in the order by place and field,
come after those that they read, the collection is calculated in this order. -/
theorem arranged_order_kept :
    (∀ nodes, Arranged nodes →
      (DependencyGraph.ofList nodes).analysis.order = nodes.map FieldNode.name ∧
        (DependencyGraph.ofList nodes).analysis.cycles = []) ∧
    ∀ definitions collection placed cache, placed ≠ [] →
      placed.Perm (Definition.usableOf definitions collection) →
      placed.Pairwise (fun a b => (Definition.placeOrder a b).isLE = true) →
      Arranged ((placed.filterMap Definition.calculated?).map CalculatedField.node) →
      ∃ formulas, (Snapshot.build definitions cache).1.collection? collection = some formulas ∧
        formulas.analysis.order = placed.map Definition.field ∧ formulas.analysis.cycles = [] ∧
        formulas.schedule none none = placed.map Definition.field := by
  have kept : ∀ nodes, Arranged nodes →
      (DependencyGraph.ofList nodes).order = nodes.map FieldNode.name ∧
        (DependencyGraph.ofList nodes).cycles = [] := by
    intro nodes arranged
    rw [DependencyGraph.order, DependencyGraph.cycles, DependencyGraph.walk_of_arranged arranged]
    exact ⟨rfl, rfl⟩
  refine ⟨kept, fun definitions collection placed cache nonempty usable ordered arranged => ?_⟩
  have names := Definition.map_name_filterMap_calculated? fun d member =>
    (Definition.mem_usableOf (usable.subset member)).1
  -- Each placed definition has a node under its own field.
  have named : ((placed.filterMap Definition.calculated?).map CalculatedField.node).map
      FieldNode.name = placed.map Definition.field :=
    List.map_map.trans names
  have distinct := arranged.distinct
  rw [named] at distinct
  -- The collection has a field, and so is in the snapshot, with the fields as they are placed.
  have given := calculatedOf_eq_of_placed usable ordered distinct
  have filled : calculatedOf definitions collection ≠ [] := by
    rw [given]
    intro bare
    rw [bare] at named
    exact nonempty (List.map_eq_nil_iff.1 named.symm)
  refine ⟨_, Snapshot.collection?_build_eq_some_iff.2 ⟨filled, rfl⟩, ?_⟩
  -- Their nodes are arranged, so that the walk leaves them as they are.
  obtain ⟨sameOrder, noCycle⟩ := kept _ arranged
  rw [named] at sameOrder
  rw [given]
  exact ⟨sameOrder, noCycle, sameOrder⟩

/-- A field whose name comes last, but which is suggested first. -/
def zoneField : CalculatedField :=
  ⟨⟨"orders", "zone", "\x7b\x7bcity\x7d\x7d", .published, some 1, none⟩,
    ⟨"\x7b\x7bcity\x7d\x7d", .field "city", by cbv⟩, rfl⟩

/-- A field that hands the zone of a record on, suggested behind it. -/
def areaField : CalculatedField :=
  ⟨⟨"orders", "area", "\x7b\x7bzone\x7d\x7d", .published, some 2, none⟩,
    ⟨"\x7b\x7bzone\x7d\x7d", .field "zone", by cbv⟩, rfl⟩

/-- Of two fields the one that is suggested first is calculated first, whatever their names are. -/
theorem arranged_order_kept_zone :
    ([zoneField, areaField].map CalculatedField.definition).Perm (Definition.usableOf
        ([areaField, zoneField].map CalculatedField.definition) "orders") ∧
      ([zoneField, areaField].map CalculatedField.definition).Pairwise
        (fun a b => (Definition.placeOrder a b).isLE = true) ∧
      Arranged ([zoneField, areaField].map CalculatedField.node) ∧
      (DependencyGraph.ofList ([zoneField, areaField].map CalculatedField.node)).analysis.cycles =
        [] ∧
      ∃ formulas, (Snapshot.build ([areaField, zoneField].map CalculatedField.definition)
          .empty).1.collection? "orders" = some formulas ∧
        formulas.analysis.order = ["zone", "area"] := by
  -- Both formulas are local and compile.
  have usable : ([zoneField, areaField].map CalculatedField.definition).Perm (Definition.usableOf
      ([areaField, zoneField].map CalculatedField.definition) "orders") := by
    have all : Definition.usableOf ([areaField, zoneField].map CalculatedField.definition)
        "orders" = [areaField, zoneField].map CalculatedField.definition := by
      refine List.filter_eq_self.2 (List.forall_mem_cons.2 ⟨?_, List.forall_mem_singleton.2 ?_⟩)
      · rw [Definition.isUsable, areaField.calculated?_definition]
        cbv
      · rw [Definition.isUsable, zoneField.calculated?_definition]
        cbv
    rw [all]
    exact List.Perm.swap _ _ []
  have ordered : ([zoneField, areaField].map CalculatedField.definition).Pairwise
      fun a b => (Definition.placeOrder a b).isLE = true :=
    List.pairwise_pair.2 (by decide)
  -- The area reads the zone, which stands before it.
  have arranged : Arranged ([zoneField, areaField].map CalculatedField.node) := by
    refine ⟨by decide, fun before node after split => ?_⟩
    rcases before with _ | ⟨first, _ | ⟨second, rest⟩⟩
    · obtain ⟨rfl, rfl⟩ := List.cons.inj split
      decide
    · obtain ⟨rfl, later⟩ := List.cons.inj split
      obtain ⟨rfl, rfl⟩ := List.cons.inj later
      decide
    · simp at split
  obtain ⟨sorted, kept⟩ := arranged_order_kept
  obtain ⟨formulas, found, sameOrder, _⟩ := kept _ "orders" _ .empty (by simp) usable ordered (by
    rwa [filterMap_calculated?_map_definition])
  exact ⟨usable, ordered, arranged, (sorted _ arranged).2, formulas, found, sameOrder⟩

end CalcFields
