import CalcFields.FieldMap
import CalcFields.Graph.Basic

/-!
Changes reach forward to the calculated fields that read them, directly or through others, and
targets reach backward to the calculated fields that they read.
-/

namespace CalcFields

/-- Names in order, each once. -/
def sortedNames (names : List String) : List String :=
  (FieldMap.ofList (names.map fun name => (name, ()))).keys

/-- The nodes that read a field. -/
def readersAmong (nodes : List FieldNode) (field : String) : List FieldNode :=
  nodes.filter (·.reads field)

/-- The nodes that do not read a field. -/
def othersAmong (nodes : List FieldNode) (field : String) : List FieldNode :=
  nodes.filter (!·.reads field)

/-- The nodes of other names. -/
def nodesBeside (nodes : List FieldNode) (name : String) : List FieldNode :=
  nodes.filter (·.name != name)

/-- Every node either reads a field or does not. -/
theorem length_readers_add_others (nodes : List FieldNode) (field : String) :
    (readersAmong nodes field).length + (othersAmong nodes field).length = nodes.length := by
  induction nodes with
  | nil => rfl
  | cons node rest ih =>
    simp only [readersAmong, othersAmong, List.filter_cons] at ih ⊢
    by_cases reads : node.reads field = true <;> simp [reads] <;> omega

/-- The nodes that read the fields of a queue, and then those that read them, in the order in which
they are met; the nodes not met yet are given and each is met at most once. -/
def readersOf (unmet : List FieldNode) (queue : List String) : List String :=
  match queue with
  | [] => []
  | field :: rest =>
    let met := (readersAmong unmet field).map FieldNode.name
    met ++ readersOf (othersAmong unmet field) (rest ++ met)
termination_by unmet.length + queue.length
decreasing_by
  -- A node met leaves the list for the queue, and the field at the front is gone.
  have parts := length_readers_add_others unmet field
  simp only [List.length_append, List.length_cons, List.length_map]
  omega

/-- The calculated fields on a stack and those that they read, each once; the nodes not met yet are
given. -/
def readBy (unmet : List FieldNode) (stack : List String) : List String :=
  match stack with
  | [] => []
  | field :: rest =>
    match _found : unmet.find? (·.name == field) with
    | none => readBy unmet rest
    | some node => field :: readBy (nodesBeside unmet field) (node.dependencies ++ rest)
termination_by (unmet.length, stack.length)
decreasing_by
  · exact Prod.Lex.right _ (by simp)
  · refine Prod.Lex.left _ _ (List.length_filter_lt_length_iff_exists.2 ⟨node, ?_, ?_⟩)
    · exact List.mem_of_find?_eq_some _found
    · simpa using List.find?_some _found

namespace DependencyGraph

/-- The calculated fields that changes of the given fields reach, in the order of discovery; a
changed field itself is among them only when it is reached again. -/
def affected (graph : DependencyGraph) (changed : List String) : List String :=
  readersOf graph.nodes changed

/-- The part of an order that changes of the given fields touch: those and what they reach. -/
def narrowed (graph : DependencyGraph) (order changed : List String) : List String :=
  let reached := graph.affected changed
  order.filter fun field => reached.contains field || changed.contains field

/-- The targets that have a name, and the calculated fields that they read directly or through
others, in order; a target that is not calculated stays. -/
def closure (graph : DependencyGraph) (targets : List String) : List String :=
  let named := targets.filter (!·.isEmpty)
  sortedNames (named ++ readBy graph.nodes named)

end DependencyGraph

end CalcFields
