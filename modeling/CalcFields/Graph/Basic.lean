/-!
The dependency graph of a collection has one node for each calculated field. A field that is not
calculated is no node, but the nodes that read it list it among their dependencies.
-/

namespace CalcFields

/-- A calculated field, its formula and the fields of the record that the formula reads. -/
structure FieldNode where
  name : String
  formula : String
  dependencies : List String
deriving DecidableEq, Repr, Inhabited

/-- A field reads another one when it lists it among its dependencies. -/
def FieldNode.reads (node : FieldNode) (field : String) : Bool :=
  node.dependencies.contains field

/-- Puts a node in the place of the one with its name, or at the end. -/
def putNode (node : FieldNode) : List FieldNode → List FieldNode
  | [] => [node]
  | other :: rest => if other.name = node.name then node :: rest else other :: putNode node rest

/-- Putting a node keeps the names in place and adds a new one at the end. -/
theorem map_name_putNode (node : FieldNode) (nodes : List FieldNode) :
    (putNode node nodes).map FieldNode.name =
      if node.name ∈ nodes.map FieldNode.name then nodes.map FieldNode.name
      else nodes.map FieldNode.name ++ [node.name] := by
  induction nodes with
  | nil => simp [putNode]
  | cons other rest ih =>
    simp only [putNode]
    by_cases same : other.name = node.name
    · simp [same]
    · by_cases later : node.name ∈ rest.map FieldNode.name
      · have later' : ∃ a ∈ rest, a.name = node.name := by simpa using later
        simp [same, ih, later']
      · have later' : ¬ ∃ a ∈ rest, a.name = node.name := by simpa using later
        simp [same, ih, later', Ne.symm same]

/-- The calculated fields of one collection, each with its node. -/
structure DependencyGraph where
  nodes : List FieldNode
  distinct : (nodes.map FieldNode.name).Nodup

namespace DependencyGraph

/-- The graph without nodes. -/
def empty : DependencyGraph := ⟨[], List.nodup_nil⟩

/-- Adds a node; one of the same name is replaced in its place. -/
def add (graph : DependencyGraph) (node : FieldNode) : DependencyGraph :=
  ⟨putNode node graph.nodes, by
    rw [map_name_putNode]
    split
    · exact graph.distinct
    · rename_i fresh
      refine List.nodup_append.2 ⟨graph.distinct, by simp, ?_⟩
      intro name found other single
      rw [List.mem_singleton.1 single]
      rintro rfl
      exact fresh found⟩

/-- The graph of a list of nodes, where the last one of a name stays in the place of the first. -/
def ofList (nodes : List FieldNode) : DependencyGraph :=
  nodes.foldl add empty

/-- The names of the calculated fields in node order. -/
def fields (graph : DependencyGraph) : List String :=
  graph.nodes.map FieldNode.name

/-- A field is calculated when it has a node. -/
def contains (graph : DependencyGraph) (field : String) : Bool :=
  graph.fields.contains field

/-- The node of a calculated field. -/
def node? (graph : DependencyGraph) (field : String) : Option FieldNode :=
  graph.nodes.find? (·.name == field)

/-- The fields that a calculated field reads, none for any other field. -/
def dependencies (graph : DependencyGraph) (field : String) : List String :=
  ((graph.node? field).map FieldNode.dependencies).getD []

/-- The place of a calculated field among the nodes. -/
def place? (graph : DependencyGraph) (field : String) : Option Nat :=
  graph.nodes.findIdx? (·.name == field)

/-- An edge for each time that a node lists a calculated field, in node order: it leads from the
place of the field to the place of the node. -/
def listedEdges (graph : DependencyGraph) : List (Nat × Nat) :=
  graph.nodes.zipIdx.flatMap fun (node, reader) =>
    (node.dependencies.filterMap graph.place?).map fun place => (place, reader)

/-- The edges of the graph, each of which is there once however often it is listed. -/
def edges (graph : DependencyGraph) : List (Nat × Nat) :=
  graph.listedEdges.eraseDups

/-- The calculated fields that the edges from a calculated field lead to, in node order. -/
def dependents (graph : DependencyGraph) (field : String) : List String :=
  match graph.place? field with
  | none => []
  | some place =>
    let readers := (graph.edges.filter (·.1 == place)).map Prod.snd
    (readers.mergeSort (· ≤ ·)).filterMap fun reader => graph.nodes[reader]?.map FieldNode.name

/-- The lines about one node. -/
def describeNode (graph : DependencyGraph) (node : FieldNode) : String :=
  let listed (label : String) (names : List String) : String :=
    if names.isEmpty then "" else "  " ++ label ++ ": " ++ ", ".intercalate names ++ "\n"
  "\n" ++ node.name ++ ":\n" ++ listed "depends on" node.dependencies ++
    listed "triggers" (graph.dependents node.name) ++ "  formula: " ++ node.formula ++ "\n"

/-- A text about the whole graph, node by node. -/
def describe (graph : DependencyGraph) : String :=
  "=== Dependency Graph ===\n" ++ String.join (graph.nodes.map graph.describeNode)

end DependencyGraph

end CalcFields
