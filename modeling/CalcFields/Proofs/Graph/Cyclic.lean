import CalcFields.Proofs.Graph.Order
import CalcFields.Proofs.Graph.Reach

/-!
The fields that an analysis calls cyclic are those on the cycles that the sort has noted. All of
them are on cycles of the graph, and every cycle has two neighbours among them. A field on a cycle
is missed only when a cycle that shares a link with that one avoids the field.
-/

namespace CalcFields

namespace DependencyGraph

variable {graph : DependencyGraph} {cycle : List String} {reader field : String}

/-- A cycle goes from each of its fields to the next one, and from the last one to the first. -/
def Links (cycle : List String) (reader field : String) : Prop :=
  [reader, field] <:+: cycle ++ cycle.take 1

/-- Two cycles share a link. -/
def ShareLink (first second : List String) : Prop :=
  ∃ reader field, Links first reader field ∧ Links second reader field

/-- Both ends of a link of a cycle are on the cycle. -/
theorem Links.mem (links : Links cycle reader field) : reader ∈ cycle ∧ field ∈ cycle := by
  -- A link lies on the cycle, or wraps around to its first field.
  have onCycle {name : String} (member : name ∈ [reader, field]) : name ∈ cycle := by
    obtain inside | first := List.mem_append.1 (links.subset member)
    · exact inside
    · exact List.mem_of_mem_take first
  exact ⟨onCycle (by simp), onCycle (by simp)⟩

/-- A cycle goes from its last field to its first one. -/
theorem links_closing (starts : cycle.head? = some field) (ends : cycle.getLast? = some reader) :
    Links cycle reader field := by
  obtain ⟨front, whole⟩ := List.getLast?_eq_some_iff.1 ends
  -- The closing pair is the last field and the one that is taken from the front again.
  have first : cycle.take 1 = [field] := by
    cases cycle with
    | nil => cases starts
    | cons head rest =>
      cases starts
      rfl
  exact ⟨front, [], by rw [first, List.append_nil, whole, List.append_assoc]; rfl⟩

/-- The fields of a cycle read one another all the way round. -/
theorem IsCycle.isChain (isCycle : graph.IsCycle cycle) :
    (cycle ++ cycle.take 1).IsChain graph.Reads := by
  -- Going round, the first field comes once more, behind the last one that reads it.
  obtain ⟨_, linked, first, last, starts, ends, closes⟩ := isCycle
  refine List.isChain_append.2 ⟨linked, linked.take 1, ?_⟩
  intro before atEnd after atStart
  rw [List.head?_take, if_neg (by decide), starts] at atStart
  rw [ends] at atEnd
  cases atStart
  cases atEnd
  exact closes

/-- No list is ordered all the way round. -/
theorem exists_link_not_lt (place : String → Nat) (filled : cycle ≠ []) :
    ∃ reader field, Links cycle reader field ∧ ¬ place field < place reader := by
  by_contra ordered
  -- Every link would lead to a place further in front.
  have descends : (cycle ++ cycle.take 1).IsChain fun a b => place b < place a := by
    rw [List.isChain_iff_forall_rel_of_append_cons_cons]
    intro a b before after split
    by_contra stays
    refine ordered ⟨a, b, ⟨before, after, ?_⟩, stays⟩
    rw [split, List.append_assoc]
    rfl
  obtain ⟨first, rest, rfl⟩ := List.exists_cons_of_ne_nil filled
  -- The way round leads from the first name down to itself.
  have _trans : IsTrans String fun a b => place b < place a := ⟨fun _ _ _ => flip Nat.lt_trans⟩
  have below := (List.pairwise_cons.1 (List.isChain_iff_pairwise.1 descends)).1 first
  exact Nat.lt_irrefl _ (below (by simp))

/-- Every cycle shares a link with a cycle that the sort has noted. -/
theorem IsCycle.exists_noted (isCycle : graph.IsCycle cycle) :
    ∃ noted ∈ graph.cycles, ShareLink cycle noted := by
  have filled : cycle ≠ [] := by
    rintro rfl
    obtain ⟨_, _, starts, _⟩ := isCycle.closed
    cases starts
  -- Some field comes no earlier in the order than its reader on the cycle.
  obtain ⟨reader, field, links, late⟩ := exists_link_not_lt graph.order.idxOf filled
  have linked : [reader, field].IsChain graph.Reads :=
    List.IsChain.infix isCycle.isChain links
  have reads : graph.Reads reader field := List.isChain_pair.1 linked
  obtain before | ⟨noted, member, starts, ends⟩ := idxOf_lt_or_closes reads
  · exact absurd before late
  · -- The walk closed a cycle there, with the same link.
    exact ⟨noted, member, reader, field, links, links_closing starts ends⟩

/-- The cyclic fields are those of the cycles that the sort has noted. -/
theorem mem_cyclicFields :
    field ∈ graph.analysis.cyclicFields ↔ ∃ noted ∈ graph.cycles, field ∈ noted := by
  -- The cyclic fields are those of the noted cycles, sorted and each once.
  rw [Analysis.cyclicFields, mem_sortedNames, List.mem_flatten]
  rfl

/-- Every cyclic field is on a cycle, and every cycle shares a link with one all of whose fields are
cyclic. So a field is cyclic when it is on all the cycles that share a link with one cycle. -/
theorem cyclicFields_exact (graph : DependencyGraph) :
    (∀ field ∈ graph.analysis.cyclicFields, ∃ cycle, graph.IsCycle cycle ∧ field ∈ cycle) ∧
      (∀ cycle, graph.IsCycle cycle → ∃ shared, graph.IsCycle shared ∧ ShareLink cycle shared ∧
        ∀ field ∈ shared, field ∈ graph.analysis.cyclicFields) ∧
      ∀ cycle field, graph.IsCycle cycle →
        (∀ other, graph.IsCycle other → ShareLink cycle other → field ∈ other) →
        field ∈ graph.analysis.cyclicFields := by
  have genuine := graph.walk_sound.1.genuine
  refine ⟨?_, ?_, ?_⟩
  · -- Only cycles are noted, so that a field of one lies on a cycle.
    intro field cyclic
    obtain ⟨noted, member, onCycle⟩ := mem_cyclicFields.1 cyclic
    exact ⟨noted, genuine noted member, onCycle⟩
  · -- Every cycle shares a link with a noted one, all of whose fields are reported.
    intro cycle isCycle
    obtain ⟨noted, member, shares⟩ := isCycle.exists_noted
    exact ⟨noted, genuine noted member, shares, fun field onCycle =>
      mem_cyclicFields.2 ⟨noted, member, onCycle⟩⟩
  · -- A field on all the cycles that share a link is on the noted one too.
    intro cycle field isCycle always
    obtain ⟨noted, member, shares⟩ := isCycle.exists_noted
    exact mem_cyclicFields.2 ⟨noted, member, always noted (genuine noted member) shares⟩

/-- Of two fields that read each other both are cyclic: each link between them leads through
both. -/
theorem cyclicFields_exact_entangled :
    (ofList entangled).IsCycle ["gross", "net"] ∧
      (∀ other, (ofList entangled).IsCycle other → ShareLink ["gross", "net"] other →
        "net" ∈ other) ∧
      "net" ∈ (ofList entangled).analysis.cyclicFields := by
  have isCycle : (ofList entangled).IsCycle ["gross", "net"] := by
    refine ⟨by decide, ?_, "gross", "net", rfl, rfl, by decide, by decide⟩
    exact List.isChain_pair.2 ⟨by decide, by decide⟩
  have always : ∀ other, (ofList entangled).IsCycle other → ShareLink ["gross", "net"] other →
      "net" ∈ other := by
    rintro other _ ⟨reader, field, here, there⟩
    -- The links of the cycle lead from the one to the other and back.
    have both : (reader = "gross" ∧ field = "net") ∨ (reader = "net" ∧ field = "gross") := by
      simpa [Links, List.infix_cons_iff] using here
    obtain ⟨_, rfl⟩ | ⟨rfl, _⟩ := both
    · exact there.mem.2
    · exact there.mem.1
  obtain ⟨_, _, exact⟩ := cyclicFields_exact (ofList entangled)
  exact ⟨isCycle, always, exact ["gross", "net"] "net" isCycle always⟩

/-- A field that reads another one both itself and through a third, and is read by it. -/
def detour : List FieldNode :=
  [⟨"gross", "", ["net", "fee"]⟩, ⟨"net", "", ["gross"]⟩, ⟨"fee", "", ["net"]⟩]

/-- The third field is on a cycle, but is not called cyclic: the sort has placed what it reads by
the time it is looked at. -/
theorem fee_not_mem_cyclicFields :
    (ofList detour).IsCycle ["gross", "fee", "net"] ∧
      "fee" ∉ (ofList detour).analysis.cyclicFields := by
  refine ⟨⟨by decide, ?_, "gross", "net", rfl, rfl, by decide, by decide⟩, ?_⟩
  · have first : (ofList detour).Reads "gross" "fee" := ⟨by decide, by decide⟩
    have second : (ofList detour).Reads "fee" "net" := ⟨by decide, by decide⟩
    exact .cons_cons first (.cons_cons second (.singleton _))
  · -- The walk meets the cycle at its net link, by the shorter way.
    have cycles : (ofList detour).cycles = [["gross", "net"]] := by cbv
    rw [mem_cyclicFields, cycles]
    decide

end DependencyGraph

end CalcFields
