import CalcFields.Engine.Snapshot
import CalcFields.Proofs.FieldMap
import CalcFields.Proofs.Graph.Basic
import Mathlib

/-! The fields of a collection and its graph are two views of one list of calculated fields. -/

namespace CalcFields

/-- A lookup among fields put under their names finds the first field of the name. -/
theorem lookup_map_name (calculated : List CalculatedField) (name : String) :
    (calculated.map fun f => (f.name, f)).lookup name = calculated.find? (·.name == name) := by
  -- Both searches look at one field after the other and stop at the same one.
  induction calculated with
  | nil => rfl
  | cons f rest ih =>
    rw [List.map_cons, FieldMap.lookup_entry, ih]
    by_cases same : f.name = name
    · simp [same]
    · simp [same, Ne.symm same]

namespace CollectionFormulas

variable {formulas : CollectionFormulas} {name : String} {f : CalculatedField}

/-- A collection has under each name the last of its calculated fields with that name. -/
theorem get?_fields (formulas : CollectionFormulas) (name : String) :
    formulas.fields.get? name = formulas.calculated.reverse.find? (·.name == name) := by
  -- The last entry of a name stays in the map, which is the first one from behind.
  rw [fields, FieldMap.get?_ofList, ← List.map_reverse, lookup_map_name]

/-- A field of a collection has the name that it is found under. -/
theorem name_of_get? (found : formulas.fields.get? name = some f) : f.name = name := by
  rw [get?_fields] at found
  simpa using List.find?_some found

/-- The graph has a node for each field of the collection and no others. -/
theorem node?_graph (formulas : CollectionFormulas) (name : String) :
    formulas.graph.node? name = (formulas.fields.get? name).map CalculatedField.node := by
  -- Both views keep the last field of a name.
  rw [graph, DependencyGraph.node?_ofList, get?_fields, ← List.map_reverse, List.find?_map]
  rfl

/-- A field of the graph is calculated exactly when the collection has it. -/
theorem contains_graph (formulas : CollectionFormulas) (name : String) :
    formulas.graph.contains name = (formulas.fields.get? name).isSome := by
  -- Being calculated is having a node, and the collection has a field for each node.
  rw [DependencyGraph.contains_eq_isSome, node?_graph, Option.isSome_map]

/-- The dependencies of a field are those of its formula. -/
theorem dependencies_graph (found : formulas.fields.get? name = some f) :
    formulas.graph.dependencies name = f.formula.dependencies := by
  rw [DependencyGraph.dependencies, node?_graph, found]
  rfl

/-- A field that hands the price of a record on. -/
def netField : CalculatedField :=
  ⟨⟨"orders", "net", "\x7b\x7bprice\x7d\x7d", .published, none, none⟩,
    ⟨"\x7b\x7bprice\x7d\x7d", .field "price", by cbv⟩, rfl⟩

/-- A field that hands the net price of a record on. -/
def totalField : CalculatedField :=
  ⟨⟨"orders", "total", "\x7b\x7bnet\x7d\x7d", .published, none, none⟩,
    ⟨"\x7b\x7bnet\x7d\x7d", .field "net", by cbv⟩, rfl⟩

/-- A collection in which the price of a record is handed on twice. -/
def relay : CollectionFormulas :=
  ⟨"orders", [netField, totalField]⟩

/-- The fields of the collection read one another without a cycle. -/
theorem cycles_relay : relay.graph.cycles = [] := by
  -- The walk is run: it enters one field, then the one that reads it, and meets none again.
  cbv

end CollectionFormulas

end CalcFields
