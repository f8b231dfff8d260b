import CalcFields.Proofs.Graph.Basic
import Mathlib.Data.List.Sort

/-!
The edges of a graph say once more what the dependency lists say: one leads from each calculated
field to each node that lists it. So the dependents of a field are the nodes that list it, as they
were last defined.
-/

namespace CalcFields

/-- A list without repetitions has each element once. -/
theorem nodup_eraseDups {α : Type} [BEq α] [LawfulBEq α] :
    ∀ items : List α, items.eraseDups.Nodup
  | [] => by simp
  | item :: rest => by
    rw [List.eraseDups_cons, List.nodup_cons]
    refine ⟨fun again => ?_, nodup_eraseDups _⟩
    -- The element was taken out of the rest.
    simp [List.mem_eraseDups] at again
termination_by items => items.length
decreasing_by exact Nat.lt_succ_of_le (List.length_filter_le _ _)

namespace DependencyGraph

variable {graph : DependencyGraph} {field : String}

/-- The place of a field is where its node stands. -/
theorem place?_eq_some_iff {place : Nat} :
    graph.place? field = some place ↔
      ∃ node, graph.nodes[place]? = some node ∧ node.name = field := by
  -- The place is the first one of the name, and names are not repeated.
  rw [place?, List.findIdx?_eq_some_iff_getElem]
  constructor
  · rintro ⟨within, named, _⟩
    exact ⟨_, List.getElem?_eq_getElem within, eq_of_beq named⟩
  · rintro ⟨node, stands, rfl⟩
    obtain ⟨within, rfl⟩ := List.getElem?_eq_some_iff.1 stands
    refine ⟨within, beq_self_eq_true _, fun other before named => ?_⟩
    -- Another node in front would have the same name.
    have inside : other < (graph.nodes.map FieldNode.name).length := by
      simpa using before.trans within
    have insideToo : place < (graph.nodes.map FieldNode.name).length := by
      simpa using within
    have same : (graph.nodes.map FieldNode.name)[other] =
        (graph.nodes.map FieldNode.name)[place] := by
      simpa using named
    exact before.ne (graph.distinct.getElem_inj_iff.1 same)

/-- A field has no place exactly when it is not calculated. -/
theorem place?_eq_none_iff : graph.place? field = none ↔ graph.contains field = false := by
  -- A field without a place is the name of no node.
  rw [place?, List.findIdx?_eq_none_iff, ← Bool.not_eq_true, contains_iff_mem, fields,
    List.mem_map]
  simp

/-- An edge leads from the place of a calculated field to that of a node that lists it. -/
theorem mem_edges {place reader : Nat} :
    (place, reader) ∈ graph.edges ↔ ∃ read node, graph.nodes[place]? = some read ∧
      graph.nodes[reader]? = some node ∧ read.name ∈ node.dependencies := by
  -- An edge is drawn for each listed name that has a node.
  simp only [edges, listedEdges, List.mem_eraseDups, List.mem_flatMap, List.mem_map,
    List.mem_filterMap, place?_eq_some_iff, Prod.exists, List.mk_mem_zipIdx_iff_getElem?,
    Prod.mk.injEq]
  constructor
  · rintro ⟨node, _, there, _, ⟨_, listed, read, stands, rfl⟩, rfl, rfl⟩
    exact ⟨read, node, stands, there, listed⟩
  · rintro ⟨read, node, stands, there, listed⟩
    exact ⟨node, reader, there, place, ⟨read.name, listed, read, stands, rfl⟩, rfl, rfl⟩

/-- The places of the nodes that list a field, in node order. -/
def readerPlaces (graph : DependencyGraph) (field : String) : List Nat :=
  (graph.nodes.zipIdx.filter (·.1.reads field)).map Prod.snd

/-- A place is one of a node that lists a field when such a node stands there. -/
theorem mem_readerPlaces {reader : Nat} :
    reader ∈ graph.readerPlaces field ↔
      ∃ node, graph.nodes[reader]? = some node ∧ field ∈ node.dependencies := by
  simp [readerPlaces, FieldNode.reads, List.mk_mem_zipIdx_iff_getElem?]

/-- The places of the nodes that list a field go up. -/
theorem pairwise_readerPlaces (graph : DependencyGraph) (field : String) :
    (graph.readerPlaces field).Pairwise (· < ·) := by
  -- The places are numbered upwards, and some of them are kept.
  have upwards : (graph.nodes.zipIdx.map Prod.snd).Pairwise (· < ·) := by
    rw [List.zipIdx_map_snd]
    exact List.pairwise_lt_range'
  exact upwards.sublist (List.filter_sublist.map _)

/-- The edges from a calculated field, in node order, lead to the nodes that list the field. -/
theorem mergeSort_readers {place : Nat} (placed : graph.place? field = some place) :
    (((graph.edges.filter (·.1 == place)).map Prod.snd).mergeSort (· ≤ ·)) =
      graph.readerPlaces field := by
  obtain ⟨read, stands, rfl⟩ := place?_eq_some_iff.1 placed
  -- No edge is drawn twice, so no reader is listed twice.
  have distinct : ((graph.edges.filter (·.1 == place)).map Prod.snd).Nodup := by
    refine ((nodup_eraseDups _).filter _).map_on fun a here b there same => ?_
    have start (edge : Nat × Nat) (member : edge ∈ graph.edges.filter (·.1 == place)) :
        edge.1 = place := eq_of_beq (List.mem_filter.1 member).2
    exact Prod.ext ((start a here).trans (start b there).symm) same
  have upwards : (((graph.edges.filter (·.1 == place)).map Prod.snd).mergeSort (· ≤ ·)).Pairwise
      (· < ·) := by
    have ordered := @List.pairwise_mergeSort Nat (fun a b => decide (a ≤ b))
      (fun a b c => by simpa using Nat.le_trans) (fun a b => by simpa using Nat.le_total a b)
      ((graph.edges.filter (·.1 == place)).map Prod.snd)
    refine (ordered.and ((List.mergeSort_perm _ _).nodup_iff.2 distinct)).imp fun both => ?_
    exact Nat.lt_of_le_of_ne (of_decide_eq_true both.1) both.2
  -- Two lists that go up are the same when they hold the same places.
  refine List.Pairwise.eq_of_mem_iff upwards (graph.pairwise_readerPlaces _) fun reader => ?_
  rw [List.mem_mergeSort, mem_readerPlaces]
  constructor
  · intro member
    obtain ⟨edge, starting, rfl⟩ := List.mem_map.1 member
    obtain ⟨drawn, start⟩ := List.mem_filter.1 starting
    rw [← eq_of_beq start] at stands
    obtain ⟨other, node, here, there, listed⟩ := mem_edges.1 drawn
    rw [stands, Option.some_inj] at here
    exact ⟨node, there, here ▸ listed⟩
  · rintro ⟨node, there, listed⟩
    refine List.mem_map.2 ⟨(place, reader), List.mem_filter.2 ⟨?_, beq_self_eq_true _⟩, rfl⟩
    exact mem_edges.2 ⟨read, node, stands, there, listed⟩

/-- The dependents of a calculated field are the nodes that list it, in node order. -/
theorem dependents_eq (graph : DependencyGraph) (field : String) :
    graph.dependents field =
      if graph.contains field then (graph.nodes.filter (·.reads field)).map FieldNode.name
      else [] := by
  rw [dependents]
  cases placed : graph.place? field with
  -- A name without a node has no edges.
  | none => rw [place?_eq_none_iff.1 placed]; rfl
  | some place =>
    have calculated : graph.contains field = true := by
      by_contra plain
      rw [place?_eq_none_iff.2 (Bool.not_eq_true _ ▸ plain)] at placed
      cases placed
    simp only [mergeSort_readers placed, calculated, if_true]
    -- At the place of a node stands the node.
    have stands : ∀ entry ∈ graph.nodes.zipIdx.filter (·.1.reads field),
        graph.nodes[entry.2]?.map FieldNode.name = some entry.1.name := by
      intro entry member
      rw [List.mem_zipIdx_iff_getElem?.1 (List.mem_filter.1 member).1, Option.map_some]
    have whole : graph.nodes.filter (·.reads field) =
        (graph.nodes.zipIdx.filter (·.1.reads field)).map Prod.fst := by
      conv_lhs => rw [← List.zipIdx_map_fst 0 graph.nodes, List.filter_map]
      rfl
    rw [readerPlaces, List.filterMap_map, whole, List.map_map, ← List.filterMap_eq_map]
    exact List.filterMap_congr stands

/-- A field is among the dependents of another exactly when both are calculated and it lists the
other. -/
theorem mem_dependents {reader : String} :
    reader ∈ graph.dependents field ↔ graph.contains field = true ∧
      ∃ node ∈ graph.nodes, node.name = reader ∧ field ∈ node.dependencies := by
  -- The readers are the nodes that list the field.
  rw [dependents_eq]
  cases graph.contains field with
  | false => simp
  | true =>
    simp only [if_true, List.mem_map, List.mem_filter, FieldNode.reads, List.contains_iff_mem,
      true_and]
    exact ⟨fun ⟨node, ⟨member, listed⟩, named⟩ => ⟨node, member, named, listed⟩,
      fun ⟨node, member, named, listed⟩ => ⟨node, ⟨member, listed⟩, named⟩⟩

/-- The dependents of a field stand in node order. -/
theorem dependents_sublist (graph : DependencyGraph) (field : String) :
    (graph.dependents field).Sublist graph.fields := by
  -- They are picked from the nodes, in their order.
  rw [dependents_eq]
  split
  · exact List.filter_sublist.map _
  · exact List.nil_sublist _

/-- The graph of a list has the names of the list, each where it comes first. -/
theorem fields_ofList (nodes : List FieldNode) :
    (ofList nodes).fields = (nodes.map FieldNode.name).eraseDups := by
  -- Induction on the nodes from the last one back.
  induction nodes using List.reverseRecOn with
  | nil => rfl
  | append_singleton front last ih =>
    -- The last name is put at the end unless it was there.
    rw [fields] at ih
    rw [fields, nodes_ofList_concat, map_name_putNode, ih, List.map_append, List.eraseDups_append,
      List.map_singleton, List.removeAll, List.filter_singleton]
    by_cases again : last.name ∈ front.map FieldNode.name
    · simp only [List.elem_eq_mem, List.mem_eraseDups, again, if_true, decide_true, Bool.not_true,
        Bool.cond_false, List.eraseDups_nil, List.append_nil]
    · simp only [List.elem_eq_mem, List.mem_eraseDups, again, if_false, decide_false,
        Bool.not_false, Bool.cond_true]
      rfl

end DependencyGraph

/-- A node is the last one of its name in a list. -/
def LastNamed (nodes : List FieldNode) (node : FieldNode) : Prop :=
  ∃ before after, nodes = before ++ node :: after ∧ ∀ later ∈ after, later.name ≠ node.name

namespace DependencyGraph

/-- The graph of a list has the nodes that are the last ones of their names. -/
theorem mem_nodes_ofList {nodes : List FieldNode} {node : FieldNode} :
    node ∈ (ofList nodes).nodes ↔ LastNamed nodes node := by
  have found : node ∈ (ofList nodes).nodes ↔ (ofList nodes).node? node.name = some node :=
    ⟨node?_of_mem, List.mem_of_find?_eq_some⟩
  rw [found, node?_ofList, List.find?_eq_some_iff_append]
  -- What comes behind in the list comes in front in the reversed list.
  constructor
  · rintro ⟨_, after, before, split, later⟩
    refine ⟨before.reverse, after.reverse, ?_, fun other member => ?_⟩
    · rw [← List.reverse_reverse nodes, split]
      simp
    · simpa using later other (List.mem_reverse.1 member)
  · rintro ⟨before, after, rfl, later⟩
    refine ⟨beq_self_eq_true _, after.reverse, before.reverse, by simp, fun other member => ?_⟩
    simpa using later other (List.mem_reverse.1 member)

/-- The graph of a list has one node for each name, where the name comes first, and as it comes
last. Its edges lead, each once, from the calculated fields to the nodes that list them. So the
dependents of a field are, each once and in node order, the fields whose last node lists it, if it
is calculated, and none otherwise. -/
theorem ofList_mirrors (nodes : List FieldNode) :
    let graph := ofList nodes
    graph.fields = (nodes.map FieldNode.name).eraseDups ∧
      (∀ node, node ∈ graph.nodes ↔ LastNamed nodes node) ∧
      graph.edges.Nodup ∧
      (∀ place reader, (place, reader) ∈ graph.edges ↔
        ∃ read node, graph.nodes[place]? = some read ∧ graph.nodes[reader]? = some node ∧
          read.name ∈ node.dependencies) ∧
      ∀ field, (graph.dependents field).Sublist graph.fields ∧ (graph.dependents field).Nodup ∧
        ∀ reader, reader ∈ graph.dependents field ↔ field ∈ nodes.map FieldNode.name ∧
          ∃ node, LastNamed nodes node ∧ node.name = reader ∧ field ∈ node.dependencies := by
  -- Each part of the graph is told from the list by a lemma of its own.
  intro graph
  refine ⟨fields_ofList nodes, fun node => mem_nodes_ofList, nodup_eraseDups _,
    fun place reader => mem_edges, fun field => ?_⟩
  have inOrder := graph.dependents_sublist field
  refine ⟨inOrder, inOrder.nodup graph.distinct, fun reader => ?_⟩
  have calculated : graph.contains field = true ↔ field ∈ nodes.map FieldNode.name := by
    rw [contains_iff_mem, fields_ofList, List.mem_eraseDups]
  simp only [mem_dependents, calculated, graph, mem_nodes_ofList]

/-- A field that is listed twice has its reader once, as that is defined last, and one that is not
calculated has none. -/
example :
    let graph := ofList [⟨"total", "", ["total"]⟩, ⟨"net", "", ["price"]⟩,
      ⟨"total", "", ["net", "net", "price"]⟩]
    (graph.dependents "net", graph.dependents "total", graph.dependents "price") =
      (["total"], [], []) := by
  cbv

end DependencyGraph

end CalcFields
