import CalcFields.Proofs.Graph.Turns

/-!
An order is topological when each field comes after the calculated fields that it reads. Without
cycles the sort gives such an order; nodes that come in such an order already are sorted as they
come.
-/

namespace CalcFields

/-- Nodes are arranged when their names are distinct and each comes after those that it reads. -/
structure Arranged (nodes : List FieldNode) : Prop where
  distinct : (nodes.map FieldNode.name).Nodup
  readFirst : ∀ before node after, nodes = before ++ node :: after →
    ∀ field ∈ node.dependencies, field ∈ nodes.map FieldNode.name →
      field ∈ before.map FieldNode.name

/-- A node of a new name is put at the end. -/
theorem putNode_of_not_mem {node : FieldNode} {nodes : List FieldNode}
    (fresh : node.name ∉ nodes.map FieldNode.name) : putNode node nodes = nodes ++ [node] := by
  -- Induction on the nodes, none of which has the name.
  induction nodes with
  | nil => rfl
  | cons other rest ih =>
    obtain ⟨differ, later⟩ := List.ne_and_not_mem_of_not_mem_cons fresh
    rw [putNode, if_neg (Ne.symm differ), ih later]
    rfl

namespace DependencyGraph

variable {graph : DependencyGraph} {name : String} {order pending : List String}
  {cycles : List (List String)}

/-- Each field of an order comes after the calculated fields that it reads. -/
def ReadFirst (graph : DependencyGraph) (order : List String) : Prop :=
  ∀ before field after, order = before ++ field :: after →
    ∀ other, graph.Reads field other → other ∈ before

/-- An order is topological when it has exactly the calculated fields, each after those that it
reads. -/
structure IsTopological (graph : DependencyGraph) (order : List String) : Prop where
  mem_iff : ∀ field, field ∈ order ↔ graph.contains field = true
  readFirst : graph.ReadFirst order

/-- Nothing comes before what it reads in an empty order. -/
@[simp] theorem readFirst_nil : graph.ReadFirst [] := by
  -- The empty order has no place to split at.
  intro before field after split
  simp at split

/-- A field that is put last is to come after what it reads, and the order so far is to read first
as well. -/
theorem readFirst_concat_iff {last : String} :
    graph.ReadFirst (order ++ [last]) ↔ graph.ReadFirst order ∧
      ∀ other ∈ graph.dependencies last, graph.contains other = true → other ∈ order := by
  constructor
  · -- An order that is shorter by its last field is one still.
    intro first
    refine ⟨fun before field after split => ?_, fun other listed calculated => ?_⟩
    swap
    · exact first order last [] rfl other ⟨listed, calculated⟩
    refine first before field (after ++ [last]) ?_
    rw [split, List.append_assoc, List.cons_append]
  · rintro ⟨first, lastFirst⟩ before field after split
    -- Either the field is the last one, or it stands in the order so far.
    rcases List.eq_nil_or_concat after with rfl | ⟨between, final, rfl⟩
    · obtain ⟨rfl, same⟩ := List.append_inj' split rfl
      obtain rfl : last = field := List.head_eq_of_cons_eq same
      exact fun other reads => lastFirst other reads.1 reads.2
    · rw [List.concat_eq_append, ← List.cons_append, ← List.append_assoc] at split
      exact first before field between (List.append_inj' split rfl).1

/-- Without cycles the sort gives a topological order. -/
theorem Acyclic.isTopological (acyclic : graph.Acyclic) : graph.IsTopological graph.order where
  mem_iff _ := mem_order
  readFirst := by
    -- The walk gives what is read its place first.
    intro before field after split other reads
    have precedes := (acyclic.cycleFree field).before reads
    have distinct := graph.nodup_order
    rw [split] at precedes distinct
    exact precedes.mem_front distinct

/-- A path of one field takes its place next when all calculated fields that are pending on it have
theirs. -/
theorem follow_of_placed (calculated : graph.contains name = true) (fresh : name ∉ order)
    (placed : ∀ field ∈ pending, graph.contains field = true → field ∈ order) :
    graph.follow ⟨[⟨name, pending⟩], order, cycles⟩ = ⟨[], order ++ [name], cycles⟩ := by
  -- Induction on what is still to be read.
  induction pending with
  | nil =>
    rw [← follow_advance]
    exact follow_of_path_eq_nil rfl
  | cons field rest ih =>
    obtain ⟨here, others⟩ := List.forall_mem_cons.1 placed
    -- The field is not the one on the path, which has no place yet, and is not entered either.
    have differ : field ≠ name := by
      rintro rfl
      exact fresh (here calculated)
    have turn : graph.advance ⟨[⟨name, field :: rest⟩], order, cycles⟩ =
        ⟨[⟨name, rest⟩], order, cycles⟩ := by
      simpa [advance, Walk.names, differ] using here
    rw [← follow_advance, turn]
    exact ih others

/-- A field takes its place next when all calculated fields that it reads have theirs. -/
theorem visit_of_placed (calculated : graph.contains name = true) (fresh : name ∉ order)
    (placed : ∀ field, graph.Reads name field → field ∈ order) :
    graph.visit ⟨[], order, cycles⟩ name = ⟨[], order ++ [name], cycles⟩ := by
  -- The visit enters the field with all that it reads.
  have turn : graph.visit ⟨[], order, cycles⟩ name =
      graph.follow ⟨[⟨name, graph.dependencies name⟩], order, cycles⟩ := by
    simp [visit, fresh]
  rw [turn]
  exact follow_of_placed calculated fresh fun field listed entered => placed field ⟨listed, entered⟩

/-- Fields that come after those that they read take their places as they come. -/
theorem foldl_visit_of_readFirst (order : List String) {rest : List String}
    (distinct : (order ++ rest).Nodup)
    (calculated : ∀ field ∈ rest, graph.contains field = true)
    (first : graph.ReadFirst (order ++ rest)) :
    rest.foldl graph.visit ⟨[], order, cycles⟩ = ⟨[], order ++ rest, cycles⟩ := by
  -- The fields that had their turn have their places, so that the order grows in the induction.
  induction rest generalizing order with
  | nil => rw [List.append_nil, List.foldl_nil]
  | cons name rest ih =>
    obtain ⟨here, others⟩ := List.forall_mem_cons.1 calculated
    have fresh : name ∉ order := fun placed =>
      (List.nodup_append.1 distinct).2.2 name placed name List.mem_cons_self rfl
    rw [List.foldl_cons, visit_of_placed here fresh (first order name rest rfl)]
    rw [List.append_cons order name rest] at distinct first ⊢
    exact ih (order ++ [name]) distinct others first

/-- When the fields of a graph come after those that they read, the sort keeps them as they come and
notes no cycle. -/
theorem walk_of_readFirst (first : graph.ReadFirst graph.fields) :
    graph.walk = ⟨[], graph.fields, []⟩ :=
  foldl_visit_of_readFirst [] graph.distinct (fun _ => contains_iff_mem.2) first

/-- Nodes of distinct names are the nodes of their graph. -/
theorem nodes_ofList {nodes : List FieldNode} (distinct : (nodes.map FieldNode.name).Nodup) :
    (ofList nodes).nodes = nodes := by
  -- The last node has a new name, and so is put at the end.
  induction nodes using List.reverseRecOn with
  | nil => rfl
  | append_singleton nodes last ih =>
    rw [List.map_append] at distinct
    obtain ⟨before, _, apart⟩ := List.nodup_append.1 distinct
    have fresh : last.name ∉ nodes.map FieldNode.name := fun named =>
      apart last.name named last.name List.mem_cons_self rfl
    rw [nodes_ofList_concat, ih before, putNode_of_not_mem fresh]

/-- The graph of arranged nodes has its fields after those that they read. -/
theorem readFirst_of_arranged {nodes : List FieldNode} (arranged : Arranged nodes) :
    (ofList nodes).ReadFirst (nodes.map FieldNode.name) := by
  have same := nodes_ofList arranged.distinct
  intro before field after split other reads
  -- Where the field stands among the names, its node stands among the nodes.
  obtain ⟨front, back, rfl, rfl, later⟩ := List.map_eq_append_iff.1 split
  obtain ⟨node, rest, rfl, rfl, rfl⟩ := List.map_eq_cons_iff.1 later
  -- What is read is a name of the list, and the arrangement puts it in front.
  obtain ⟨listed, calculated⟩ := reads
  have member : node ∈ (ofList (front ++ node :: rest)).nodes := by
    rw [same]
    exact List.mem_append_right front List.mem_cons_self
  rw [dependencies_of_node? (node?_of_mem member)] at listed
  rw [contains_iff_mem, fields, same] at calculated
  exact arranged.readFirst front node rest rfl other listed calculated

/-- Arranged nodes are sorted as they come, and no cycle is noted. -/
theorem walk_of_arranged {nodes : List FieldNode} (arranged : Arranged nodes) :
    (ofList nodes).walk = ⟨[], nodes.map FieldNode.name, []⟩ := by
  -- Each field has its place when its turn comes, and keeps it.
  have named : (ofList nodes).fields = nodes.map FieldNode.name := by
    rw [fields, nodes_ofList arranged.distinct]
  rw [walk_of_readFirst, named]
  rw [named]
  exact readFirst_of_arranged arranged

end DependencyGraph

end CalcFields
