import CalcFields.Proofs.Graph.Reach
import Mathlib.Logic.Function.Iterate

/-!
What changes reach is found in a search over a queue of names, each of which has one turn. The
search comes to an end and has met exactly the calculated fields that lead to a change by one
reading or more; the part of an order that changes touch is made of these and of the changes
themselves.
-/

namespace CalcFields

/-- The search for what changes reach: the names that wait, those that had their turn, and the
fields met so far. -/
structure Spread where
  queue : List String
  done : List String
  met : List String

/-- The search that starts from changed names. -/
def Spread.start (changed : List String) : Spread := ⟨changed, [], []⟩

/-- The search for readers meets fields of nodes that were not met. -/
theorem mem_of_mem_readersOf {unmet : List FieldNode} {queue : List String} {name : String}
    (found : name ∈ readersOf unmet queue) : name ∈ unmet.map FieldNode.name := by
  fun_induction readersOf unmet queue with
  | case1 unmet => cases found
  | case2 unmet first rest met ih =>
    -- The nodes that read the first name and the others are all among those not met.
    obtain now | later := List.mem_append.1 found
    · exact (List.filter_sublist.map FieldNode.name).subset now
    · exact (List.filter_sublist.map FieldNode.name).subset (ih later)

/-- The search for readers meets no field twice. -/
theorem nodup_readersOf {unmet : List FieldNode} {queue : List String}
    (distinct : (unmet.map FieldNode.name).Nodup) : (readersOf unmet queue).Nodup := by
  -- Induction on the search: who is met now has one name each, and is not met again.
  fun_induction readersOf unmet queue with
  | case1 unmet => exact List.nodup_nil
  | case2 unmet first rest met ih =>
    have now : met.Nodup := distinct.sublist (List.filter_sublist.map _)
    have later := ih (distinct.sublist (List.filter_sublist.map _))
    refine List.nodup_append.2 ⟨now, later, ?_⟩
    -- A field met later has a node that does not read the first name, and only one node.
    rintro name here other there rfl
    obtain ⟨reader, among, named⟩ := List.mem_map.1 here
    obtain ⟨waiting, beside, alsoNamed⟩ := List.mem_map.1 (mem_of_mem_readersOf there)
    obtain ⟨member, reads⟩ := List.mem_filter.1 among
    obtain ⟨alsoMember, misses⟩ := List.mem_filter.1 beside
    have same := List.inj_on_of_nodup_map distinct member alsoMember (named.trans alsoNamed.symm)
    rw [← same, reads] at misses
    cases misses

namespace DependencyGraph

variable {graph : DependencyGraph} {field : String} {changed met : List String}

/-- A field lists each of its dependencies, calculated or not. -/
def Lists (graph : DependencyGraph) (reader field : String) : Prop :=
  field ∈ graph.dependencies reader

/-- Changes reach a name that leads to one of them by one reading or more. -/
def ReachedFrom (graph : DependencyGraph) (changed : List String) (field : String) : Prop :=
  ∃ name ∈ changed, Relation.TransGen graph.Lists field name

/-- A node of the graph lists what it reads. -/
theorem lists_of_reads {node : FieldNode} (member : node ∈ graph.nodes)
    (reads : node.reads field = true) : graph.Lists node.name field := by
  rw [Lists, dependencies_of_node? (node?_of_mem member)]
  simpa [FieldNode.reads] using reads

/-- The search for readers meets only what its queue reaches. -/
theorem reachedFrom_of_mem_readersOf {unmet : List FieldNode} {queue : List String}
    (within : unmet ⊆ graph.nodes) (found : field ∈ readersOf unmet queue) :
    graph.ReachedFrom queue field := by
  -- Induction on the search.
  fun_induction readersOf unmet queue with
  | case1 unmet => cases found
  | case2 unmet first rest met ih =>
    -- A field met now reads the first name, and one met later leads to the rest or to one met now.
    have now {name : String} (here : name ∈ met) : graph.Lists name first := by
      obtain ⟨node, among, rfl⟩ := List.mem_map.1 here
      obtain ⟨member, reads⟩ := List.mem_filter.1 among
      exact lists_of_reads (within member) reads
    obtain here | later := List.mem_append.1 found
    · exact ⟨first, List.mem_cons_self, .single (now here)⟩
    · have others : othersAmong unmet first ⊆ graph.nodes :=
        List.Subset.trans List.filter_sublist.subset within
      obtain ⟨name, waits, path⟩ := ih others later
      obtain behind | joined := List.mem_append.1 waits
      · exact ⟨name, List.mem_cons_of_mem first behind, path⟩
      · exact ⟨first, List.mem_cons_self, path.tail (now joined)⟩

/-- The affected fields are those that the changes reach. -/
theorem mem_affected_iff : field ∈ graph.affected changed ↔ graph.ReachedFrom changed field := by
  constructor
  · exact reachedFrom_of_mem_readersOf (List.Subset.refl graph.nodes)
  · -- The last reading is of a change, and each one before it is of a field that is affected.
    rintro ⟨name, change, path⟩
    induction path using Relation.TransGen.head_induction_on with
    | single listed => exact mem_affected listed (.inl change)
    | head listed _ ih => exact mem_affected listed (.inr ih)

/-- The nodes of the fields that a search has not met. -/
def unmet (graph : DependencyGraph) (met : List String) : List FieldNode :=
  graph.nodes.filter fun node => !met.contains node.name

/-- One turn of the search: the first name that waits is done, and the readers of it that were not
met join the queue, unless the name was done before. -/
def spread (graph : DependencyGraph) (search : Spread) : Spread :=
  match search.queue with
  | [] => search
  | field :: rest =>
    if search.done.contains field then ⟨rest, search.done, search.met⟩
    else
      let readers := (readersAmong (graph.unmet search.met) field).map FieldNode.name
      ⟨rest ++ readers, field :: search.done, search.met ++ readers⟩

/-- In the beginning no field was met. -/
theorem unmet_nil (graph : DependencyGraph) : graph.unmet [] = graph.nodes :=
  List.filter_eq_self.2 fun _ _ => rfl

/-- Once the readers of a name are met, the nodes not met are those that do not read it. -/
theorem unmet_append_readers (graph : DependencyGraph) (met : List String) (field : String) :
    graph.unmet (met ++ (readersAmong (graph.unmet met) field).map FieldNode.name) =
      othersAmong (graph.unmet met) field := by
  rw [othersAmong, unmet, unmet, List.filter_filter]
  refine List.filter_congr fun node member => ?_
  -- Only the node itself has its name, so that the name joins when the node reads the field.
  have joins : node.name ∈ (readersAmong (graph.unmet met) field).map FieldNode.name ↔
      node.reads field = true ∧ node.name ∉ met := by
    simp only [readersAmong, unmet, List.mem_map, List.mem_filter, Bool.not_eq_true',
      List.contains_eq_mem, decide_eq_false_iff_not]
    constructor
    · rintro ⟨other, ⟨⟨alsoMember, fresh⟩, reads⟩, named⟩
      cases List.inj_on_of_nodup_map graph.distinct alsoMember member named
      exact ⟨reads, fresh⟩
    · rintro ⟨reads, fresh⟩
      exact ⟨node, ⟨⟨member, fresh⟩, reads⟩, rfl⟩
  rw [← unmet, Bool.eq_iff_iff, Bool.not_eq_true', ← Bool.not_eq_true, List.contains_iff_mem,
    List.mem_append, joins]
  cases node.reads field <;> simp

/-- A name whose readers are all met has none among the nodes that wait, now and later. -/
theorem readersAmong_othersAmong {unmet : List FieldNode} {name : String}
    (settled : readersAmong unmet name = []) (other : String) :
    readersAmong (othersAmong unmet other) name = [] := by
  rw [readersAmong, List.filter_eq_nil_iff] at settled ⊢
  exact fun node member => settled node (List.mem_of_mem_filter member)

/-- A name has no reader among the nodes that do not read it. -/
theorem readersAmong_othersAmong_self (unmet : List FieldNode) (name : String) :
    readersAmong (othersAmong unmet name) name = [] := by
  refine List.filter_eq_nil_iff.2 fun node member => ?_
  simpa using (List.mem_filter.1 member).2

/-- The search goes on until its queue is empty, with one turn for each name that waits and one for
each field that is met on the way, which are those that the search for readers meets. -/
theorem exists_iterate_spread {queue done met : List String} {unmet : List FieldNode}
    (left : graph.unmet met = unmet)
    (settled : ∀ name ∈ done, readersAmong unmet name = []) :
    ∃ ended, graph.spread^[queue.length + (readersOf unmet queue).length] ⟨queue, done, met⟩ =
      ⟨[], ended, met ++ readersOf unmet queue⟩ := by
  -- Induction on the search, a turn of which takes the first name off the queue.
  induction unmet, queue using readersOf.induct generalizing done met with
  | case1 unmet => exact ⟨done, by simp [readersOf]⟩
  | case2 unmet first rest readers =>
    rename_i ih
    subst left
    -- This turn is for the first name, and the readers met in it have theirs later.
    have turns : (first :: rest).length + (readersOf (graph.unmet met) (first :: rest)).length =
        (rest ++ readers).length +
          (readersOf (othersAmong (graph.unmet met) first) (rest ++ readers)).length + 1 := by
      simp only [readersOf, List.length_append, List.length_cons, readers]
      omega
    rw [turns, Function.iterate_succ_apply, readersOf]
    by_cases before : first ∈ done
    · -- A name that was done has no reader left to meet.
      have none : readersAmong (graph.unmet met) first = [] := settled first before
      have others : othersAmong (graph.unmet met) first = graph.unmet met :=
        List.filter_eq_self.2 fun node member => by
          simpa using List.filter_eq_nil_iff.1 none node member
      have turn : graph.spread ⟨first :: rest, done, met⟩ = ⟨rest, done, met⟩ := by
        simp [spread, before]
      rw [turn]
      simpa [readers, none, others] using ih others.symm (by rwa [others])
    · have turn : graph.spread ⟨first :: rest, done, met⟩ =
          ⟨rest ++ readers, first :: done, met ++ readers⟩ := by
        simp [spread, before, readers]
      rw [turn]
      have next : ∀ name ∈ first :: done,
          readersAmong (othersAmong (graph.unmet met) first) name = [] := by
        refine List.forall_mem_cons.2 ⟨readersAmong_othersAmong_self _ first, ?_⟩
        exact fun name earlier => readersAmong_othersAmong (settled name earlier) first
      obtain ⟨ended, reached⟩ := ih (graph.unmet_append_readers met first) next
      exact ⟨ended, by rw [reached, List.append_assoc]⟩

/-- The search for what changes reach comes to its end after one turn for each change and one for
each field met, and has then met the affected fields: each once, and exactly the calculated fields
from which one reading or more lead to a change. Of any order, changes touch what they reach and the
changes themselves, in that order. -/
theorem affected_exact (graph : DependencyGraph) (changed : List String) :
    (∃ done, graph.spread^[changed.length + (graph.affected changed).length] (.start changed) =
        ⟨[], done, graph.affected changed⟩) ∧
      (graph.affected changed).Nodup ∧
      (∀ field, field ∈ graph.affected changed ↔ graph.contains field = true ∧
        ∃ name ∈ changed, Relation.TransGen graph.Lists field name) ∧
      ∃ touched : String → Bool,
        (∀ field, touched field = true ↔
          (∃ name ∈ changed, Relation.TransGen graph.Lists field name) ∨ field ∈ changed) ∧
        ∀ order, graph.narrowed order changed = order.filter touched := by
  refine ⟨?_, nodup_readersOf graph.distinct, ?_, ?_⟩
  · -- At the start nobody was met and nothing is done.
    refine exists_iterate_spread graph.unmet_nil fun name none => ?_
    cases none
  · intro field
    rw [mem_affected_iff]
    refine (and_iff_right_of_imp ?_).symm
    -- A field from which a reading leads on is calculated.
    rintro ⟨name, _, path⟩
    obtain ⟨other, listed, _⟩ := Relation.TransGen.head'_iff.1 path
    exact contains_of_mem_dependencies listed
  · refine ⟨_, fun field => ?_, fun order => rfl⟩
    rw [Bool.or_eq_true, List.contains_iff_mem, List.contains_iff_mem, mem_affected_iff]
    rfl

end DependencyGraph

end CalcFields
