import CalcFields.Proofs.Graph.Order
import CalcFields.Proofs.Graph.Reach
import Mathlib.Logic.Function.Iterate

/-!
What targets need is gathered in a search over a stack of names. The search comes to an end and has
then kept exactly the targets that have a name and the calculated fields that they read, directly or
through others. So it keeps what it is given, keeps more when it is given more, and finds nothing
more in what it has kept.
-/

namespace CalcFields

/-- The search for what targets need: the names to look at, the next one first, and those kept. -/
structure Gathering where
  stack : List String
  kept : List String

/-- The search that starts from the targets that have a name, the last one first. -/
def Gathering.start (targets : List String) : Gathering :=
  ⟨(targets.filter (!·.isEmpty)).reverse, []⟩

/-- Names in order are strictly sorted. -/
theorem pairwise_sortedNames (names : List String) : (sortedNames names).Pairwise (· < ·) :=
  List.pairwise_map.2 (FieldMap.ofList (names.map fun name => (name, ()))).sorted

namespace DependencyGraph

variable {graph : DependencyGraph} {field : String} {targets more : List String}
  {search : Gathering}

/-- Targets need themselves when they have a name, and the calculated fields that they read,
directly or through others. -/
def Needs (graph : DependencyGraph) (targets : List String) (field : String) : Prop :=
  ∃ target ∈ targets, target ≠ "" ∧ Relation.ReflTransGen graph.Reads target field

/-- Targets need what is read by a field that they need. -/
theorem Needs.reads {reader : String} (needs : graph.Needs targets reader)
    (reads : graph.Reads reader field) : graph.Needs targets field := by
  obtain ⟨target, listed, named, path⟩ := needs
  exact ⟨target, listed, named, path.tail reads⟩

/-- Targets need what targets need that they need themselves. -/
theorem Needs.trans (needs : graph.Needs more field)
    (within : ∀ target ∈ more, target ≠ "" → graph.Needs targets target) :
    graph.Needs targets field := by
  -- Induction on the path from the nearer target.
  obtain ⟨target, listed, named, path⟩ := needs
  induction path with
  | refl => exact within target listed named
  | tail _ reads ih => exact ih.reads reads

/-- The search for what is read keeps only what the calculated fields of its stack read, directly or
through others. -/
theorem exists_of_mem_readBy {unmet : List FieldNode} {stack : List String}
    (within : unmet ⊆ graph.nodes) (kept : field ∈ readBy unmet stack) :
    ∃ name ∈ stack, graph.contains name = true ∧
      Relation.ReflTransGen graph.Reads name field := by
  -- Induction on the search: a name that is kept was stacked or is read on the way.
  fun_induction readBy unmet stack with
  | case1 unmet => cases kept
  | case2 unmet first rest absent ih =>
    obtain ⟨name, stacked, leads⟩ := ih within kept
    exact ⟨name, List.mem_cons_of_mem first stacked, leads⟩
  | case3 unmet first rest node found ih =>
    have named : node.name = first := by simpa using List.find?_some found
    have here : graph.node? first = some node :=
      named ▸ node?_of_mem (within (List.mem_of_find?_eq_some found))
    -- later := | The first of the stack is kept now, and leads to itself.
    obtain rfl | later := List.mem_cons.1 kept
    · refine ⟨field, List.mem_cons_self, ?_, .refl⟩
      rw [contains_eq_isSome, here]
      rfl
    · have beside : nodesBeside unmet first ⊆ graph.nodes :=
        List.Subset.trans List.filter_sublist.subset within
      obtain ⟨name, stacked, calculated, path⟩ := ih beside later
      obtain listed | behind := List.mem_append.1 stacked
      · -- What a dependency of the first field leads to, the field leads to through it.
        rw [← dependencies_of_node? here] at listed
        exact ⟨first, List.mem_cons_self, contains_of_mem_dependencies listed,
          .head ⟨listed, calculated⟩ path⟩
      · exact ⟨name, List.mem_cons_of_mem first behind, calculated, path⟩

/-- What targets need is in their closure, and nothing else. -/
theorem mem_closure_iff : field ∈ graph.closure targets ↔ graph.Needs targets field := by
  have named {name : String} : name ∈ targets.filter (!·.isEmpty) ↔ name ∈ targets ∧ name ≠ "" := by
    simp [List.mem_filter]
  constructor
  · -- What the search keeps is led to by a target.
    intro inside
    rw [closure, mem_sortedNames, List.mem_append] at inside
    obtain target | kept := inside
    · exact ⟨field, (named.1 target).1, (named.1 target).2, .refl⟩
    · obtain ⟨name, target, _, path⟩ :=
        exists_of_mem_readBy (List.Subset.refl graph.nodes) kept
      exact ⟨name, (named.1 target).1, (named.1 target).2, path⟩
  · -- A target is in the closure, and each reading stays inside of it.
    rintro ⟨name, target, filled, path⟩
    induction path with
    | refl =>
      rw [closure, mem_sortedNames]
      exact List.mem_append_left _ (named.2 ⟨target, filled⟩)
    | tail _ reads ih => exact mem_closure reads ih

/-- Targets that need the same have the same closure. -/
theorem closure_congr (same : ∀ field, graph.Needs targets field ↔ graph.Needs more field) :
    graph.closure targets = graph.closure more := by
  -- Two sorted lists are the same when they have the same members.
  refine (pairwise_sortedNames _).eq_of_mem_iff (pairwise_sortedNames _) fun field => ?_
  exact mem_closure_iff.trans ((same field).trans mem_closure_iff.symm)

/-- The calculated fields that a field lists among its dependencies, as it lists them. -/
def readFields (graph : DependencyGraph) (field : String) : List String :=
  (graph.dependencies field).filter graph.contains

/-- A field reads the calculated fields among its dependencies. -/
theorem mem_readFields {reader : String} :
    field ∈ graph.readFields reader ↔ graph.Reads reader field :=
  List.mem_filter

/-- One turn of the search: the name on top of the stack is kept, and the calculated fields that it
reads go on the stack, unless it was kept before. -/
def gather (graph : DependencyGraph) (search : Gathering) : Gathering :=
  match search.stack with
  | [] => search
  | field :: rest =>
    if search.kept.contains field then ⟨rest, search.kept⟩
    else ⟨(graph.readFields field).reverse ++ rest, field :: search.kept⟩

/-- The turns that a search has left: one for each name on the stack, and one for each reading of a
calculated field by another that is not kept. -/
def turnsLeft (graph : DependencyGraph) (search : Gathering) : Nat :=
  search.stack.length + ((graph.fields.filter fun field => !search.kept.contains field).map
    fun field => (graph.readFields field).length).sum

/-- A field that is kept for the first time takes its readings out of those that are left. -/
theorem sum_readFields_kept (graph : DependencyGraph) {kept : List String} (fresh : field ∉ kept) :
    (graph.readFields field).length +
        ((graph.fields.filter fun name => !(field :: kept).contains name).map
          fun name => (graph.readFields name).length).sum =
      ((graph.fields.filter fun name => !kept.contains name).map
        fun name => (graph.readFields name).length).sum := by
  -- Keeping one more name takes it out of those left.
  have beside (name : String) : (!(field :: kept).contains name) =
      (!kept.contains name && name != field) := by
    by_cases same : name = field <;> simp [same]
  cases calculated : graph.contains field with
  | true =>
    exact sum_map_filter_beside (fun name => (graph.readFields name).length) calculated
      (by simpa using fresh) beside
  | false =>
    -- A field that is not calculated reads nothing, and is not among those left.
    have none : graph.readFields field = [] := by
      refine List.eq_nil_iff_forall_not_mem.2 fun name member => ?_
      rw [contains_of_mem_dependencies (mem_readFields.1 member).1] at calculated
      cases calculated
    rw [none, List.length_nil, Nat.zero_add]
    congr 2
    refine List.filter_congr fun name member => ?_
    have differ : name ≠ field := by
      rintro rfl
      rw [contains_iff_mem.2 member] at calculated
      cases calculated
    rw [beside]
    simp [differ]

/-- A turn of the search is one of those that are left. -/
theorem turnsLeft_gather (graph : DependencyGraph) (waiting : search.stack ≠ []) :
    graph.turnsLeft (graph.gather search) + 1 = graph.turnsLeft search := by
  obtain ⟨_ | ⟨field, rest⟩, kept⟩ := search
  · exact absurd rfl waiting
  · simp only [gather]
    -- A field that was kept before only leaves the stack, and a new one gives up its own
    -- dependencies.
    split
    · simp only [turnsLeft, List.length_cons]
      omega
    · rename_i fresh
      have taken := graph.sum_readFields_kept (by simpa using fresh : field ∉ kept)
      simp only [turnsLeft, List.length_append, List.length_reverse, List.length_cons]
      omega

/-- The search stays as it is when its stack is empty. -/
theorem gather_of_stack_eq_nil (ended : search.stack = []) : graph.gather search = search := by
  -- A search with nothing left stands still.
  obtain ⟨stack, kept⟩ := search
  cases ended
  rfl

/-- The stack is empty after the turns that are left, and stays so. -/
theorem stack_iterate_gather {turns : Nat} (enough : graph.turnsLeft search ≤ turns) :
    (graph.gather^[turns] search).stack = [] := by
  -- Induction on the turns; with none left the stack is empty.
  induction turns generalizing search with
  | zero =>
    refine List.length_eq_zero_iff.1 ?_
    rw [turnsLeft] at enough
    exact Nat.le_zero.1 (Nat.le_trans (Nat.le_add_right _ _) enough)
  | succ turns ih =>
    by_cases ended : search.stack = []
    · rwa [Function.iterate_fixed (gather_of_stack_eq_nil ended)]
    · -- This turn is one of those that are left.
      have used := graph.turnsLeft_gather ended
      rw [Function.iterate_succ_apply]
      exact ih (by omega)

end DependencyGraph

namespace Gathering

variable {graph : DependencyGraph} {field : String} {targets : List String} {search : Gathering}

/-- What holds of a search before and after each of its turns. -/
structure Sound (graph : DependencyGraph) (targets : List String) (search : Gathering) : Prop where
  needed : ∀ field ∈ search.stack ++ search.kept, graph.Needs targets field
  started : ∀ target ∈ targets, target ≠ "" → target ∈ search.stack ++ search.kept
  /-- What a kept field reads is kept or still to be looked at. -/
  closed : ∀ reader ∈ search.kept, ∀ field, graph.Reads reader field →
    field ∈ search.stack ++ search.kept

/-- The search that has not begun is sound. -/
theorem sound_start (graph : DependencyGraph) (targets : List String) :
    Sound graph targets (.start targets) where
  needed := by
    -- At the start the targets wait and nothing is kept.
    intro field waits
    have target : field ∈ targets ∧ field ≠ "" := by simpa [start] using waits
    exact ⟨field, target.1, target.2, .refl⟩
  started := by
    intro target listed named
    simpa [start] using ⟨listed, named⟩
  closed := by simp [start]

/-- A turn of the search keeps it sound. -/
theorem Sound.gather (sound : Sound graph targets search) :
    Sound graph targets (graph.gather search) := by
  obtain ⟨_ | ⟨first, rest⟩, kept⟩ := search
  · exact sound
  obtain ⟨needed, started, closed⟩ := sound
  simp only [DependencyGraph.gather]
  split
  · -- The name on top was kept before, so that nothing is lost with it.
    rename_i before
    have same : ∀ field, field ∈ rest ++ kept ↔ field ∈ first :: rest ++ kept := by
      intro field
      simp only [List.cons_append, List.mem_cons]
      refine (or_iff_right_of_imp ?_).symm
      rintro rfl
      exact List.mem_append_right rest (List.contains_iff_mem.1 before)
    exact ⟨fun field inside => needed field ((same field).1 inside),
      fun target listed named => (same target).2 (started target listed named),
      fun reader inside field reads => (same field).2 (closed reader inside field reads)⟩
  · -- The name moves from the stack to those kept, and what it reads takes its place.
    have more {field : String} (inside : field ∈ first :: rest ++ kept) :
        field ∈ (graph.readFields first).reverse ++ rest ++ first :: kept := by
      simp only [List.cons_append, List.mem_cons, List.mem_append] at inside ⊢
      tauto
    refine ⟨fun field inside => ?_, fun target listed named => more (started target listed named),
      List.forall_mem_cons.2 ⟨fun field reads => ?_, fun reader inside field reads =>
        more (closed reader inside field reads)⟩⟩
    · -- What the name reads is needed because the name is.
      have here : graph.Needs targets first := needed first List.mem_cons_self
      obtain waits | done := List.mem_append.1 inside
      · obtain listed | behind := List.mem_append.1 waits
        · exact here.reads (DependencyGraph.mem_readFields.1 (List.mem_reverse.1 listed))
        · exact needed field (List.mem_cons_of_mem first (List.mem_append_left kept behind))
      · obtain rfl | before := List.mem_cons.1 done
        · exact here
        · exact needed field (List.mem_append_right (first :: rest) before)
    · -- And the stack has it now.
      have listed := List.mem_reverse.2 (DependencyGraph.mem_readFields.2 reads)
      exact List.mem_append_left _ (List.mem_append_left _ listed)

/-- The turns of the search keep it sound. -/
theorem Sound.iterate (sound : Sound graph targets search) (turns : Nat) :
    Sound graph targets (graph.gather^[turns] search) := by
  -- Induction on the turns, with the search that each one leaves.
  induction turns generalizing search with
  | zero => exact sound
  | succ turns ih =>
    rw [Function.iterate_succ_apply]
    exact ih sound.gather

/-- A search with an empty stack has kept what the targets need. -/
theorem Sound.mem_kept_iff (sound : Sound graph targets search) (ended : search.stack = []) :
    field ∈ search.kept ↔ graph.Needs targets field := by
  -- Nothing waits any more, so what is needed can only be kept.
  obtain ⟨stack, kept⟩ := search
  cases ended
  constructor
  · exact sound.needed field
  · rintro ⟨target, listed, named, path⟩
    -- What is kept is closed under reading once nothing waits.
    induction path with
    | refl => exact sound.started target listed named
    | tail _ reads ih => exact sound.closed _ ih _ reads

end Gathering

namespace DependencyGraph

variable {graph : DependencyGraph} {targets : List String}

/-- A name that leads to a calculated field is calculated. -/
theorem contains_of_path {name field : String}
    (path : Relation.ReflTransGen graph.Reads name field)
    (calculated : graph.contains field = true) : graph.contains name = true := by
  obtain rfl | ⟨other, first, _⟩ := Relation.ReflTransGen.cases_head path
  · exact calculated
  -- A name that something is read from has a node.
  · exact contains_of_mem_dependencies first.1

/-- A field that targets need is one of them that has a name, or a calculated field that one which
is calculated leads to. -/
theorem needs_iff {field : String} : graph.Needs targets field ↔
    (field ∈ targets ∧ field ≠ "") ∨ (graph.contains field = true ∧ ∃ target ∈ targets,
      target ≠ "" ∧ graph.contains target = true ∧
        Relation.ReflTransGen graph.Reads target field) := by
  constructor
  · rintro ⟨target, listed, named, path⟩
    -- A path that leads anywhere ends in a calculated field.
    obtain rfl | ⟨reader, _, last⟩ := Relation.ReflTransGen.cases_tail path
    · exact .inl ⟨listed, named⟩
    · exact .inr ⟨last.2, target, listed, named, contains_of_path path last.2, path⟩
  · -- A target needs itself, by the path that leads nowhere.
    rintro (⟨listed, named⟩ | ⟨_, target, listed, named, _, path⟩)
    · exact ⟨field, listed, named, .refl⟩
    · exact ⟨target, listed, named, path⟩

/-- The search for what targets need comes to its end in as many turns as are left at its start, and
has then kept their closure. The closure has exactly the targets that have a name and the calculated
fields that calculated ones among them lead to, strictly sorted. It has all targets that have a
name, grows with the targets and is its own closure; it has a calculated field exactly when some
target that has a name is calculated. -/
theorem closure_exact (graph : DependencyGraph) (targets : List String) :
    (∃ kept, graph.gather^[graph.turnsLeft (.start targets)] (.start targets) = ⟨[], kept⟩ ∧
        sortedNames kept = graph.closure targets) ∧
      (graph.closure targets).Pairwise (· < ·) ∧
      (∀ field, field ∈ graph.closure targets ↔
        (field ∈ targets ∧ field ≠ "") ∨ (graph.contains field = true ∧ ∃ target ∈ targets,
          target ≠ "" ∧ graph.contains target = true ∧
            Relation.ReflTransGen graph.Reads target field)) ∧
      (∀ target ∈ targets, target ≠ "" → target ∈ graph.closure targets) ∧
      (∀ more, targets ⊆ more → graph.closure targets ⊆ graph.closure more) ∧
      graph.closure (graph.closure targets) = graph.closure targets ∧
      ((∃ field ∈ graph.closure targets, graph.contains field = true) ↔
        ∃ target ∈ targets, target ≠ "" ∧ graph.contains target = true) := by
  refine ⟨?_, pairwise_sortedNames _, fun field => mem_closure_iff.trans needs_iff, ?_, ?_, ?_, ?_⟩
  · have sound := (Gathering.sound_start graph targets).iterate (graph.turnsLeft (.start targets))
    have ended : (graph.gather^[graph.turnsLeft (.start targets)] (.start targets)).stack = [] :=
      graph.stack_iterate_gather (Nat.le_refl _)
    generalize graph.gather^[graph.turnsLeft (.start targets)] (.start targets) = search at *
    obtain ⟨stack, kept⟩ := search
    cases ended
    refine ⟨kept, rfl, ?_⟩
    -- The names kept are those in the closure, and both come in their order.
    refine (pairwise_sortedNames kept).eq_of_mem_iff (pairwise_sortedNames _) fun field => ?_
    exact mem_sortedNames.trans ((sound.mem_kept_iff rfl).trans mem_closure_iff.symm)
  · exact fun target listed named => mem_closure_iff.2 ⟨target, listed, named, .refl⟩
  · -- More targets lead to more.
    intro more within field inside
    refine mem_closure_iff.2 ((mem_closure_iff.1 inside).trans fun target listed named => ?_)
    exact ⟨target, within listed, named, .refl⟩
  · -- What the closure leads to, the targets lead to already.
    refine closure_congr fun field => ⟨fun needs => ?_, fun needs => ?_⟩
    · exact needs.trans fun target inside _ => mem_closure_iff.1 inside
    · refine needs.trans fun target listed named => ⟨target, ?_, named, .refl⟩
      exact mem_closure_iff.2 ⟨target, listed, named, .refl⟩
  · -- A path that ends in a calculated field starts in one.
    constructor
    · rintro ⟨field, inside, calculated⟩
      obtain ⟨target, listed, named, path⟩ := mem_closure_iff.1 inside
      exact ⟨target, listed, named, contains_of_path path calculated⟩
    · rintro ⟨target, listed, named, calculated⟩
      exact ⟨target, mem_closure_iff.2 ⟨target, listed, named, .refl⟩, calculated⟩

/-- Of two fields that read each other each needs both, and a field that is not calculated needs
itself alone. -/
theorem closure_exact_entangled :
    ["price", "net"] ⊆ ["net", "", "price"] ∧
      (ofList entangled).closure ["price", "net"] ⊆
        (ofList entangled).closure ["net", "", "price"] ∧
      "price" ∈ (ofList entangled).closure ["price", "net"] ∧
      "gross" ∈ (ofList entangled).closure ["price", "net"] := by
  have within : ["price", "net"] ⊆ ["net", "", "price"] := by decide
  obtain ⟨_, _, members, keeps, grows, _⟩ := closure_exact (ofList entangled) ["price", "net"]
  -- The net amount reads the gross one, so that one is needed too.
  have reads : (ofList entangled).Reads "net" "gross" := ⟨by decide, by decide⟩
  refine ⟨within, grows _ within, keeps "price" (by simp) (by decide), ?_⟩
  exact (members "gross").2 (.inr
    ⟨by decide, "net", by simp, by decide, by decide, .single reads⟩)

end DependencyGraph

end CalcFields
