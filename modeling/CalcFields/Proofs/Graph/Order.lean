import CalcFields.Graph.Analysis
import CalcFields.Proofs.Graph.Turns

/-!
The sort of any list of fields ends with an order of all of them. A field comes before those that
read it unless the sort has noted a cycle, and it notes one exactly when there is one.
-/

namespace CalcFields

namespace DependencyGraph

variable {graph : DependencyGraph} {reader field : String}

/-- The graph of a list calculates the fields that the list names. -/
theorem contains_ofList (nodes : List FieldNode) (field : String) :
    (ofList nodes).contains field = true ↔ ∃ node ∈ nodes, node.name = field := by
  rw [contains_eq_isSome, node?_ofList, List.find?_isSome]
  simp

/-- A field has its place before a field that reads it, or some cycle starts with the one and ends
with the other. -/
theorem idxOf_lt_or_closes (reads : graph.Reads reader field) :
    graph.order.idxOf field < graph.order.idxOf reader ∨ Closes graph.cycles field reader :=
  (before_or_closes reads).imp_left fun precedes => precedes.idxOf_lt graph.nodup_order

/-- A cycle that ends with the field it starts with has no other field. -/
theorem IsCycle.eq_singleton {cycle : List String} (isCycle : graph.IsCycle cycle)
    (starts : cycle.head? = some field) (ends : cycle.getLast? = some field) :
    cycle = [field] := by
  cases cycle with
  | nil => cases starts
  | cons first rest =>
    cases starts
    cases rest with
    | nil => rfl
    | cons second rest =>
      -- The last field would be a second place of the first one.
      obtain ⟨fresh, _⟩ := List.nodup_cons.1 isCycle.distinct
      rw [List.getLast?_cons_cons] at ends
      exact absurd (List.mem_of_getLast? ends) fresh

/-- A field that reads itself is noted as a cycle of its own. -/
theorem singleton_mem_cycles (reads : graph.Reads field field) : [field] ∈ graph.cycles := by
  -- A field does not stand before itself, so the reading closed a cycle.
  obtain before | ⟨cycle, noted, starts, ends⟩ := idxOf_lt_or_closes reads
  · exact absurd before (Nat.lt_irrefl _)
  · have genuine := graph.walk_sound.1.genuine cycle noted
    rwa [← genuine.eq_singleton starts ends]

/-- The sort of any list of fields comes to its end and places each calculated field once. A field
that is read comes strictly before its reader, or a cycle is noted that starts with the one and ends
with the other; without cycles it always comes before. -/
theorem order_ofList (nodes : List FieldNode) :
    let graph := ofList nodes
    (graph.turn^[graph.fields.length + (graph.fields.map graph.cost).sum]
        (graph.fields, Walk.start) = ([], graph.walk) ∧ graph.walk.path = []) ∧
      graph.order.Nodup ∧
      (∀ field, field ∈ graph.order ↔ ∃ node ∈ nodes, node.name = field) ∧
      (∀ reader field, graph.Reads reader field →
        graph.order.idxOf field < graph.order.idxOf reader ∨
          ∃ cycle ∈ graph.cycles, cycle.head? = some field ∧ cycle.getLast? = some reader) ∧
      (∀ field, graph.Reads field field → [field] ∈ graph.cycles) ∧
      (graph.Acyclic → ∀ reader field, graph.Reads reader field →
        graph.order.idxOf field < graph.order.idxOf reader) := by
  intro graph
  refine ⟨⟨graph.iterate_turn_start, graph.walk_sound.2.1⟩, graph.nodup_order, ?_, ?_, ?_, ?_⟩
  · exact fun field => mem_order.trans (contains_ofList nodes field)
  · exact fun _ _ reads => idxOf_lt_or_closes reads
  · exact fun _ reads => singleton_mem_cycles reads
  · -- Without cycles every reading leads to a field in front.
    intro acyclic reader field reads
    exact ((acyclic.cycleFree reader).before reads).idxOf_lt graph.nodup_order

/-- Two fields of which the first is defined twice: what it read at first is forgotten. -/
def redefined : List FieldNode :=
  [⟨"total", "", ["total"]⟩, ⟨"net", "", ["price"]⟩, ⟨"total", "", ["net", "net", "price"]⟩]

/-- Two fields that read each other, and one that reads itself. -/
def entangled : List FieldNode :=
  [⟨"gross", "", ["net", "rate"]⟩, ⟨"net", "", ["gross"]⟩, ⟨"count", "", ["count"]⟩]

/-- A field comes after what its last definition reads, and fields that read each other or
themselves are on cycles. -/
theorem order_ofList_redefined :
    (ofList redefined).Acyclic ∧ (ofList redefined).Reads "total" "net" ∧
      (ofList redefined).order.idxOf "net" < (ofList redefined).order.idxOf "total" ∧
      (ofList entangled).Reads "count" "count" ∧ ["count"] ∈ (ofList entangled).cycles := by
  -- The second node of the name is the one that counts.
  have acyclic : (ofList redefined).Acyclic := acyclic_of_cycles_eq_nil (by cbv)
  have reads : (ofList redefined).Reads "total" "net" := ⟨by decide, by decide⟩
  have itself : (ofList entangled).Reads "count" "count" := ⟨by decide, by decide⟩
  obtain ⟨_, _, _, _, _, before⟩ := order_ofList redefined
  obtain ⟨_, _, _, _, noted, _⟩ := order_ofList entangled
  exact ⟨acyclic, reads, before acyclic "total" "net" reads, itself, noted "count" itself⟩

/-- Every cycle noted is a simple cycle of the graph, and one is noted exactly when some field reads
itself, directly or through others. -/
theorem hasCycles_iff (graph : DependencyGraph) :
    (∀ cycle ∈ graph.analysis.cycles, graph.IsCycle cycle) ∧
      (graph.analysis.hasCycles = true ↔
        ∃ field, Relation.TransGen graph.Reads field field) := by
  have genuine := graph.walk_sound.1.genuine
  refine ⟨genuine, ?_⟩
  rw [Analysis.hasCycles, Bool.not_eq_true', List.isEmpty_eq_false_iff]
  constructor
  · -- The last field of a cycle that is noted reads itself.
    intro noted
    obtain ⟨cycle, member⟩ := List.exists_mem_of_ne_nil _ noted
    have isCycle := genuine cycle member
    obtain ⟨_, last, _, ends, _⟩ := isCycle.closed
    exact ⟨last, isCycle.transGen ends⟩
  · -- Without a cycle noted, no field reads itself.
    rintro ⟨field, path⟩ none
    exact acyclic_of_cycles_eq_nil none field path

/-- Of two fields that read each other a cycle is noted, from the one met first. -/
theorem hasCycles_entangled :
    ["gross", "net"] ∈ (ofList entangled).analysis.cycles ∧
      (ofList entangled).IsCycle ["gross", "net"] ∧
      Relation.TransGen (ofList entangled).Reads "net" "net" ∧
      (ofList entangled).analysis.hasCycles = true := by
  -- One cycle has two fields, and the other one reads itself.
  have cycles : (ofList entangled).cycles = [["gross", "net"], ["count"]] := by cbv
  have noted : ["gross", "net"] ∈ (ofList entangled).analysis.cycles := by
    show _ ∈ (ofList entangled).cycles
    simp [cycles]
  obtain ⟨genuine, verdict⟩ := hasCycles_iff (ofList entangled)
  have isCycle := genuine _ noted
  have path : Relation.TransGen (ofList entangled).Reads "net" "net" := isCycle.transGen rfl
  exact ⟨noted, isCycle, path, verdict.2 ⟨"net", path⟩⟩

end DependencyGraph

end CalcFields
