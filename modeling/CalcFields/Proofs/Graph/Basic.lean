import CalcFields.Graph.Basic
import Mathlib.Data.List.Chain
import Mathlib.Data.List.Nodup
import Mathlib.Logic.Relation

/-!
Calculated fields read one another along the edges of their graph. A cycle is a list of fields each
of which reads the next, and whose last field reads the first.
-/

namespace CalcFields

/-- Putting a node changes what is found under its own name only. -/
theorem find?_putNode (node : FieldNode) (nodes : List FieldNode) (name : String) :
    (putNode node nodes).find? (·.name == name) =
      if node.name = name then some node else nodes.find? (·.name == name) := by
  -- The new node takes the place of the first one of its name, or the last place.
  induction nodes with
  | nil => by_cases same : node.name = name <;> simp [putNode, same]
  | cons other rest ih =>
    simp only [putNode]
    by_cases replaced : other.name = node.name
    -- The other node is replaced, and had the name of the new one.
    · by_cases same : node.name = name <;> simp [replaced, same]
    · by_cases same : other.name = name
      · -- The node stays behind the other one, which has the name that is looked for.
        have differ : node.name ≠ name := fun also => replaced (same.trans also.symm)
        simp [same, differ, Ne.symm differ]
      · simp [replaced, same, ih]

namespace DependencyGraph

variable {graph : DependencyGraph} {reader field : String}

/-- Adding a node changes what is found under its own name only. -/
@[simp] theorem node?_add (graph : DependencyGraph) (node : FieldNode) (name : String) :
    (graph.add node).node? name = if node.name = name then some node else graph.node? name :=
  find?_putNode node graph.nodes name

/-- The graph of a list holds under each name the last node of that name. -/
theorem node?_ofList (nodes : List FieldNode) (name : String) :
    (ofList nodes).node? name = nodes.reverse.find? (·.name == name) := by
  -- Adding to any graph looks the new nodes up first, so that the graph may grow in the induction.
  have grown (graph : DependencyGraph) : (nodes.foldl add graph).node? name =
      (nodes.reverse.find? (·.name == name)).or (graph.node? name) := by
    induction nodes generalizing graph with
    | nil => rfl
    | cons node rest ih =>
      rw [List.foldl_cons, ih, node?_add, List.reverse_cons, List.find?_append, Option.or_assoc]
      by_cases same : node.name = name <;> simp [same]
  rw [ofList, grown]
  exact Option.or_none

/-- One node more in a list is put among the nodes of its graph. -/
theorem nodes_ofList_concat (nodes : List FieldNode) (last : FieldNode) :
    (ofList (nodes ++ [last])).nodes = putNode last (ofList nodes).nodes := by
  rw [ofList, List.foldl_concat]
  rfl

/-- A node that is found has the name that it is found under. -/
theorem name_of_node? {node : FieldNode} (found : graph.node? field = some node) :
    node.name = field := by
  -- The search for a name gives nothing else.
  simpa using List.find?_some found

/-- A node of a graph is found under its name. -/
theorem node?_of_mem {node : FieldNode} (member : node ∈ graph.nodes) :
    graph.node? node.name = some node := by
  -- Some node of the name is found, and no two nodes share a name.
  have some : (graph.node? node.name).isSome = true :=
    List.find?_isSome.2 ⟨node, member, beq_self_eq_true node.name⟩
  obtain ⟨other, found⟩ := Option.isSome_iff_exists.1 some
  have also := List.mem_of_find?_eq_some found
  rw [found, List.inj_on_of_nodup_map graph.distinct also member (name_of_node? found)]

/-- A field is calculated exactly when it is one of the fields of the graph. -/
theorem contains_iff_mem : graph.contains field = true ↔ field ∈ graph.fields := by
  rw [contains, List.contains_iff_mem]

/-- A field is calculated exactly when it has a node. -/
theorem contains_eq_isSome (graph : DependencyGraph) (field : String) :
    graph.contains field = (graph.node? field).isSome := by
  -- The node of a name is searched for, and finding one is having the name among the nodes.
  rw [Bool.eq_iff_iff, contains_iff_mem, fields, node?, List.find?_isSome, List.mem_map]
  simp only [beq_iff_eq]

/-- A calculated field reads another when it lists it among its dependencies. -/
def Reads (graph : DependencyGraph) (reader field : String) : Prop :=
  field ∈ graph.dependencies reader ∧ graph.contains field = true

/-- The dependencies of a field with a node are those that its node lists. -/
theorem dependencies_of_node? {node : FieldNode} (found : graph.node? field = some node) :
    graph.dependencies field = node.dependencies := by
  rw [dependencies, found]
  rfl

/-- A field that reads something is calculated. -/
theorem contains_of_mem_dependencies (listed : field ∈ graph.dependencies reader) :
    graph.contains reader = true := by
  rw [contains_eq_isSome]
  cases found : graph.node? reader with
  -- Without a node there would be nothing to list.
  | none => simp [dependencies, found] at listed
  | some node => rfl

/-- No field reads itself, directly or through others. -/
def Acyclic (graph : DependencyGraph) : Prop :=
  ∀ field, ¬ Relation.TransGen graph.Reads field field

/-- Neither a field nor any field that it reads, directly or through others, is on a cycle. -/
def CycleFree (graph : DependencyGraph) (field : String) : Prop :=
  ∀ reached, Relation.ReflTransGen graph.Reads field reached →
    ¬ Relation.TransGen graph.Reads reached reached

/-- In a graph without cycles every field is free of them. -/
theorem Acyclic.cycleFree (acyclic : graph.Acyclic) (field : String) : graph.CycleFree field :=
  fun reached _ => acyclic reached

/-- A field that is not calculated reads nothing, and so no cycle. -/
theorem cycleFree_of_not_contains (plain : graph.contains field = false) :
    graph.CycleFree field := by
  have reads {other : String} : ¬ graph.Reads field other := by
    -- Only a calculated field has dependencies.
    intro reads
    rw [contains_of_mem_dependencies reads.1] at plain
    cases plain
  -- Neither a path nor a cycle can take its first step.
  intro reached path cycle
  cases path using Relation.ReflTransGen.head_induction_on with
  | refl =>
    obtain ⟨other, first, _⟩ := Relation.TransGen.head'_iff.1 cycle
    exact reads first
  | head first _ => exact reads first

/-- The dependencies of a field that is free of cycles are free of cycles. -/
theorem CycleFree.dependency (free : graph.CycleFree reader)
    (listed : field ∈ graph.dependencies reader) : graph.CycleFree field := by
  cases calculated : graph.contains field with
  | false => exact cycleFree_of_not_contains calculated
  -- What a dependency leads to, the reader leads to through it.
  | true => exact fun reached path => free reached (.head ⟨listed, calculated⟩ path)

/-- Distinct fields each of which reads the next one, and the last of which reads the first. -/
structure IsCycle (graph : DependencyGraph) (cycle : List String) : Prop where
  distinct : cycle.Nodup
  linked : cycle.IsChain graph.Reads
  closed : ∃ first last, cycle.head? = some first ∧ cycle.getLast? = some last ∧
    graph.Reads last first

/-- The last field of a cycle reads itself through the others. -/
theorem IsCycle.transGen {cycle : List String} (isCycle : graph.IsCycle cycle) {last : String}
    (ends : cycle.getLast? = some last) : Relation.TransGen graph.Reads last last := by
  obtain ⟨first, other, starts, same, closes⟩ := isCycle.closed
  cases ends.symm.trans same
  -- The chain leads from the first field to the last one, which closes it.
  have nonempty : cycle ≠ [] := by
    rintro rfl
    cases ends
  have path := List.relationReflTransGen_of_exists_isChain cycle isCycle.linked nonempty
  rw [List.head?_eq_some_head nonempty, Option.some.injEq] at starts
  rw [List.getLast?_eq_some_getLast nonempty, Option.some.injEq] at ends
  rw [starts, ends] at path
  exact Relation.TransGen.head' closes path

end DependencyGraph

end CalcFields
