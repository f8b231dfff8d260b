import CalcFields.Graph.Reach
import CalcFields.Proofs.FieldMap
import CalcFields.Proofs.Graph.Basic

/-!
What changes reach is closed under being read, and what targets need is closed under reading: the
two searches leave out no field that an edge of the graph leads to.
-/

namespace CalcFields

/-- Names in order are the same names. -/
theorem mem_sortedNames {names : List String} {name : String} :
    name ∈ sortedNames names ↔ name ∈ names := by
  -- The names are the keys of a map that has a value under each of them.
  rw [sortedNames, ← FieldMap.isSome_get?_iff, FieldMap.get?_ofList, List.lookup_isSome_iff]
  simp

/-- The search for readers meets every node that reads a field of the queue or one that is met. -/
theorem mem_readersOf {unmet : List FieldNode} {queue : List String} {node : FieldNode}
    (member : node ∈ unmet) {field : String} (reads : node.reads field = true)
    (known : field ∈ queue ∨ field ∈ readersOf unmet queue) :
    node.name ∈ readersOf unmet queue := by
  -- The queue loses its first field, whose readers are met and put at its end.
  fun_induction readersOf unmet queue with
  | case1 unmet => simp at known
  | case2 unmet first rest met ih =>
    by_cases here : node.reads first = true
    · -- The node is met now.
      have among : node ∈ readersAmong unmet first := List.mem_filter.2 ⟨member, here⟩
      exact List.mem_append_left _ (List.mem_map_of_mem among)
    · -- The node waits, and its field is one of those still to come or met on the way.
      have waits : node ∈ othersAmong unmet first := List.mem_filter.2 ⟨member, by simpa using here⟩
      refine List.mem_append_right _ (ih waits ?_)
      obtain queued | found := known
      -- The first field of the queue is none that the node reads.
      · obtain rfl | later := List.mem_cons.1 queued
        · exact absurd reads here
        · exact .inl (List.mem_append_left _ later)
      · obtain now | later := List.mem_append.1 found
        · exact .inl (List.mem_append_right _ now)
        · exact .inr later

/-- Leaving out the nodes of one name leaves what is found under another. -/
theorem find?_nodesBeside {nodes : List FieldNode} {name other : String} (differ : other ≠ name) :
    (nodesBeside nodes name).find? (·.name == other) = nodes.find? (·.name == other) := by
  -- A node left out has the one name, and so is not what is found under the other.
  induction nodes with
  | nil => rfl
  | cons node rest ih =>
    rw [nodesBeside] at ih ⊢
    by_cases left : node.name = name
    · simp [left, Ne.symm differ, ih]
    · by_cases found : node.name = other <;> simp [left, found, ih, differ]

/-- The search for what is read keeps every calculated field of the stack. -/
theorem mem_readBy_of_stacked {unmet : List FieldNode} {stack : List String} {field : String}
    (calculated : (unmet.find? (·.name == field)).isSome = true) (stacked : field ∈ stack) :
    field ∈ readBy unmet stack := by
  -- A field of the stack waits until its turn, unless it is met before under its own name.
  fun_induction readBy unmet stack with
  | case1 unmet => cases stacked
  | case2 unmet first rest absent ih =>
    -- A field that is dropped is not calculated, or has been met already.
    obtain rfl | later := List.mem_cons.1 stacked
    · simp [absent] at calculated
    · exact ih calculated later
  | case3 unmet first rest node found ih =>
    by_cases same : field = first
    · exact List.mem_cons.2 (.inl same)
    · -- The field is still there behind the dependencies of the one met.
      have later := (List.mem_cons.1 stacked).resolve_left same
      rw [← find?_nodesBeside same] at calculated
      exact List.mem_cons_of_mem _ (ih calculated (List.mem_append_right _ later))

/-- The search for what is read keeps the calculated dependencies of what it keeps. -/
theorem mem_readBy_of_read {unmet : List FieldNode} {stack : List String} {reader field : String}
    {node : FieldNode} (reading : unmet.find? (·.name == reader) = some node)
    (listed : field ∈ node.dependencies)
    (calculated : (unmet.find? (·.name == field)).isSome = true)
    (kept : reader ∈ readBy unmet stack) : field ∈ readBy unmet stack := by
  -- The reader is kept when its turn comes, and its dependencies go on the stack with that.
  fun_induction readBy unmet stack with
  | case1 unmet => cases kept
  | case2 unmet first rest absent ih => exact ih reading calculated kept
  | case3 unmet first rest other found ih =>
    by_cases same : field = first
    · exact List.mem_cons.2 (.inl same)
    · rw [← find?_nodesBeside same] at calculated
      refine List.mem_cons_of_mem _ ?_
      by_cases here : reader = first
      · -- The dependencies of the reader are put on the stack.
        subst here
        cases found.symm.trans reading
        exact mem_readBy_of_stacked calculated (List.mem_append_left _ listed)
      · -- The reader has its turn later, and its node waits until then.
        have later := (List.mem_cons.1 kept).resolve_left here
        rw [← find?_nodesBeside here] at reading
        exact ih reading calculated later

namespace DependencyGraph

variable {graph : DependencyGraph} {reader field : String}

/-- A field is affected when it lists a changed or an affected field among its dependencies. -/
theorem mem_affected {changed : List String} (listed : field ∈ graph.dependencies reader)
    (touched : field ∈ changed ∨ field ∈ graph.affected changed) :
    reader ∈ graph.affected changed := by
  obtain ⟨node, found⟩ := Option.isSome_iff_exists.1
    (contains_eq_isSome graph reader ▸ contains_of_mem_dependencies listed)
  -- The node of the reader is among the nodes that the search goes through.
  have reads : node.reads field = true := by
    rw [dependencies_of_node? found] at listed
    simpa [FieldNode.reads] using listed
  -- The field starts the search, or is met in it, and the reader is met after it.
  have met := mem_readersOf (List.mem_of_find?_eq_some found) reads touched
  rwa [name_of_node? found] at met

/-- What targets need contains the calculated fields that it reads. -/
theorem mem_closure {targets : List String} (reads : graph.Reads reader field)
    (needed : reader ∈ graph.closure targets) : field ∈ graph.closure targets := by
  obtain ⟨listed, calculated⟩ := reads
  have isReader := contains_of_mem_dependencies listed
  rw [contains_eq_isSome] at isReader calculated
  obtain ⟨node, found⟩ := Option.isSome_iff_exists.1 isReader
  rw [dependencies_of_node? found] at listed
  rw [closure, mem_sortedNames, List.mem_append] at needed ⊢
  refine .inr ?_
  obtain target | kept := needed
  · -- A target that reads something is calculated, and so the search starts with it.
    exact mem_readBy_of_read found listed calculated (mem_readBy_of_stacked isReader target)
  · -- What was kept has had its dependencies stacked.
    exact mem_readBy_of_read found listed calculated kept

end DependencyGraph

end CalcFields
