import CalcFields.Proofs.FieldMap
import CalcFields.Proofs.Graph.Order
import CalcFields.Proofs.Graph.Topological
import Mathlib.Order.Bounds.Defs

/-!
Without cycles the level of a field is the length of the longest chain of calculated fields that
ends with it, each of which is read by the next. So the levels are the same along all topological
orders.
-/

namespace CalcFields

/-- The greatest of some numbers is no more than a bound when none of them is. -/
theorem foldl_max_le_iff {items : List Nat} {least bound : Nat} :
    items.foldl max least ≤ bound ↔ least ≤ bound ∧ ∀ item ∈ items, item ≤ bound := by
  -- Induction on the items, with the least value free.
  induction items generalizing least with
  | nil => simp
  | cons item rest ih => rw [List.foldl_cons, ih, Nat.max_le, List.forall_mem_cons, and_assoc]

namespace DependencyGraph

variable {graph : DependencyGraph} {field : String} {order : List String} {levels : FieldMap Nat}

/-- A chain of calculated fields ends with a field, given from its end: each of its fields reads the
one before it. Its length is the number of readings. -/
def HasChain (graph : DependencyGraph) (field : String) (length : Nat) : Prop :=
  ∃ chain : List String, (field :: chain).IsChain graph.Reads ∧ chain.length = length

/-- The depth of a field is the length of the longest chain that ends with it. -/
def IsDepth (graph : DependencyGraph) (field : String) (depth : Nat) : Prop :=
  IsGreatest {length | graph.HasChain field length} depth

/-- A chain of one reading or more has a chain of one reading less that ends with a field which is
read last. -/
theorem hasChain_succ_iff {length : Nat} :
    graph.HasChain field (length + 1) ↔
      ∃ other, graph.Reads field other ∧ graph.HasChain other length := by
  -- A chain that is not empty starts with a field that is read.
  constructor
  · rintro ⟨_ | ⟨other, rest⟩, linked, size⟩
    · cases size
    · obtain ⟨reads, later⟩ := List.isChain_cons_cons.1 linked
      exact ⟨other, reads, rest, later, Nat.succ.inj size⟩
  · rintro ⟨other, reads, rest, linked, rfl⟩
    exact ⟨other :: rest, .cons_cons reads linked, rfl⟩

/-- The level above some fields is within a bound when each of them has a level below it. -/
theorem levelAbove_le_iff {dependencies : List String} {bound : Nat} :
    levelAbove levels dependencies ≤ bound ↔
      ∀ other ∈ dependencies, ∀ level, levels.get? other = some level → level < bound := by
  -- The level is a maximum over what is known so far.
  rw [levelAbove, foldl_max_le_iff]
  constructor
  · rintro ⟨_, within⟩ other listed level found
    exact within _ (List.mem_map_of_mem (List.mem_filterMap.2 ⟨other, listed, found⟩))
  · refine fun below => ⟨Nat.zero_le bound, fun item member => ?_⟩
    obtain ⟨level, known, rfl⟩ := List.mem_map.1 member
    obtain ⟨other, listed, found⟩ := List.mem_filterMap.1 known
    exact below other listed level found

/-- When the levels of the calculated fields that a field reads are their depths, and no other field
has a level, the level above its dependencies is the depth of the field. -/
theorem isDepth_levelAbove
    (known : ∀ other, graph.Reads field other →
      ∃ level, levels.get? other = some level ∧ graph.IsDepth other level)
    (plain : ∀ other, graph.contains other = false → levels.get? other = none) :
    graph.IsDepth field (levelAbove levels (graph.dependencies field)) := by
  constructor
  · -- The level is reached by a chain: nothing is to be shown of zero, and any other level is one
    -- above that of some dependency.
    cases above : levelAbove levels (graph.dependencies field) with
    | zero => exact ⟨[], .singleton field, rfl⟩
    | succ level =>
      have more : ¬ levelAbove levels (graph.dependencies field) ≤ level := by omega
      simp only [levelAbove_le_iff, not_forall, not_lt] at more
      obtain ⟨other, listed, below, found, atLeast⟩ := more
      have calculated : graph.contains other = true := by
        by_contra absent
        rw [plain other (Bool.eq_false_iff.2 absent)] at found
        cases found
      have reads : graph.Reads field other := ⟨listed, calculated⟩
      obtain ⟨depth, same, isDepth⟩ := known other reads
      have belowIt : below < level + 1 := levelAbove_le_iff.1 above.le other listed below found
      obtain rfl : below = level := Nat.le_antisymm (Nat.le_of_lt_succ belowIt) atLeast
      obtain rfl : depth = below := Option.some.inj (same.symm.trans found)
      exact hasChain_succ_iff.2 ⟨other, reads, isDepth.1⟩
  · -- No chain is longer.
    rintro (_ | length) chain
    · exact Nat.zero_le _
    · obtain ⟨other, reads, shorter⟩ := hasChain_succ_iff.1 chain
      obtain ⟨depth, found, isDepth⟩ := known other reads
      have below := levelAbove_le_iff.1 (Nat.le_refl _) other reads.1 depth found
      exact Nat.lt_of_le_of_lt (isDepth.2 shorter) below

/-- The last field of an order has its level set from those before it. -/
theorem levels_concat (graph : DependencyGraph) (order : List String) (last : String) :
    graph.levels (order ++ [last]) = (graph.levels order).insert last
      (levelAbove (graph.levels order) (graph.dependencies last)) :=
  List.foldl_concat _ _ _ _

/-- The fields of an order have levels, and no others. -/
theorem isSome_get?_levels :
    ((graph.levels order).get? field).isSome = true ↔ field ∈ order := by
  -- Induction on the order: each turn gives its field a level.
  induction order using List.reverseRecOn with
  | nil => simp [levels]
  | append_singleton order last ih =>
    rw [levels_concat, FieldMap.get?_insert, List.mem_append, List.mem_singleton, ← ih]
    by_cases same : field = last <;> simp [same]

/-- Along calculated fields that come after those that they read, levels are depths. -/
theorem get?_levels (calculated : ∀ field ∈ order, graph.contains field = true)
    (first : graph.ReadFirst order) (member : field ∈ order) :
    ∃ level, (graph.levels order).get? field = some level ∧ graph.IsDepth field level := by
  -- Induction on the order from its last field back.
  induction order using List.reverseRecOn generalizing field with
  | nil => cases member
  | append_singleton order last ih =>
    have among : ∀ name ∈ order, graph.contains name = true := fun name here =>
      calculated name (List.mem_append_left [last] here)
    obtain ⟨earlier, readBefore⟩ := readFirst_concat_iff.1 first
    have before {name : String} (here : name ∈ order) := ih among earlier here
    rw [levels_concat, FieldMap.get?_insert]
    by_cases same : field = last
    · -- What the last field reads stands before it, and plain fields have no level.
      subst same
      rw [if_pos rfl]
      refine ⟨_, rfl, isDepth_levelAbove (fun other reads => ?_) fun other plain => ?_⟩
      · exact before (readBefore other reads.1 reads.2)
      · cases found : (graph.levels order).get? other with
        | none => rfl
        | some level =>
          have placed : other ∈ order := isSome_get?_levels.1 (by rw [found]; rfl)
          rw [among other placed] at plain
          cases plain
    · rw [if_neg same]
      have here := (List.mem_append.1 member).resolve_right fun alone =>
        same (List.mem_singleton.1 alone)
      -- The others had their level before, and keep it.
      exact before here

/-- Along a topological order each calculated field has its depth for level. -/
theorem IsTopological.get?_levels_eq_some_iff (topological : graph.IsTopological order)
    {level : Nat} : (graph.levels order).get? field = some level ↔
      graph.contains field = true ∧ graph.IsDepth field level := by
  -- The order has every calculated field, and a depth is unique.
  have known (calculated : graph.contains field = true) :=
    get?_levels (fun name => (topological.mem_iff name).1) topological.readFirst
      ((topological.mem_iff field).2 calculated)
  constructor
  · intro found
    have placed : field ∈ order := isSome_get?_levels.1 (by rw [found]; rfl)
    have calculated := (topological.mem_iff field).1 placed
    obtain ⟨depth, same, isDepth⟩ := known calculated
    cases same.symm.trans found
    exact ⟨calculated, isDepth⟩
  · rintro ⟨calculated, isDepth⟩
    obtain ⟨depth, found, also⟩ := known calculated
    rw [found, also.unique isDepth]

/-- A field has depth zero exactly when it reads no calculated field. -/
theorem isDepth_zero_iff : graph.IsDepth field 0 ↔ ∀ other, ¬ graph.Reads field other := by
  constructor
  · intro isDepth other reads
    -- A field that is read makes a chain of one.
    have chain : graph.HasChain field 1 :=
      hasChain_succ_iff.2 ⟨other, reads, [], .singleton other, rfl⟩
    exact absurd (isDepth.2 chain) (by decide)
  · -- With nothing read there is no chain but the empty one.
    intro none
    refine ⟨⟨[], .singleton field, rfl⟩, ?_⟩
    rintro (_ | length) chain
    · exact Nat.le_refl 0
    · obtain ⟨other, reads, _⟩ := hasChain_succ_iff.1 chain
      exact absurd reads (none other)

/-- Without cycles the analysis gives each calculated field, and no other, the length of the longest
chain of calculated fields that ends with it for level. So what a field reads has a smaller level,
and level zero is that of fields which read no calculated field; the levels are those along every
topological order. -/
theorem levels_longest {graph : DependencyGraph} (acyclic : graph.Acyclic) :
    (∀ field, graph.contains field = true → ∃ level,
        graph.analysis.levels.get? field = some level ∧
          IsGreatest {length | graph.HasChain field length} level) ∧
      (∀ field, graph.contains field = false → graph.analysis.levels.get? field = none) ∧
      (∀ reader field, graph.Reads reader field → ∃ below above,
        graph.analysis.levels.get? field = some below ∧
          graph.analysis.levels.get? reader = some above ∧ below < above) ∧
      (∀ field, graph.analysis.levels.get? field = some 0 ↔
        graph.contains field = true ∧ ∀ other, ¬ graph.Reads field other) ∧
      ∀ order, graph.IsTopological order → graph.levels order = graph.analysis.levels := by
  have sorted := acyclic.isTopological
  have level {field : String} {level : Nat} :
      graph.analysis.levels.get? field = some level ↔
        graph.contains field = true ∧ graph.IsDepth field level :=
    sorted.get?_levels_eq_some_iff
  have known (field : String) (calculated : graph.contains field = true) : ∃ level,
      graph.analysis.levels.get? field = some level ∧ graph.IsDepth field level :=
    get?_levels (fun name => (sorted.mem_iff name).1) sorted.readFirst
      ((sorted.mem_iff field).2 calculated)
  refine ⟨known, ?_, ?_, ?_, ?_⟩
  · -- A field without a node has no level.
    intro field plain
    refine Option.eq_none_iff_forall_ne_some.2 fun value found => ?_
    rw [(level.1 found).1] at plain
    cases plain
  · intro reader field reads
    obtain ⟨below, found, isDepth⟩ := known field reads.2
    obtain ⟨above, alsoFound, alsoDepth⟩ := known reader (contains_of_mem_dependencies reads.1)
    -- The longest chain to the field is one that its reader ends one reading later.
    have longer := hasChain_succ_iff.2 ⟨field, reads, isDepth.1⟩
    exact ⟨below, above, found, alsoFound, alsoDepth.2 longer⟩
  · exact fun field => level.trans (and_congr_right fun _ => isDepth_zero_iff)
  · -- Two topological orders give each field its one depth.
    intro order topological
    refine FieldMap.ext_get? fun field => Option.ext fun value => ?_
    exact topological.get?_levels_eq_some_iff.trans level.symm

/-- A field that reads another one directly and through a third one, and a field apart from them. -/
def stepped : List FieldNode :=
  [⟨"total", "", ["net", "tax", "fee"]⟩, ⟨"tax", "", ["net", "rate"]⟩, ⟨"net", "", ["price"]⟩,
    ⟨"fee", "", []⟩]

/-- Of two ways to a field the longer one counts, and of two orders both give the levels. -/
theorem levels_longest_stepped :
    (ofList stepped).Acyclic ∧ (ofList stepped).Reads "total" "net" ∧
      IsGreatest {length | (ofList stepped).HasChain "total" length} 2 ∧
      (ofList stepped).analysis.order = ["net", "tax", "fee", "total"] ∧
      (ofList stepped).IsTopological ["fee", "net", "tax", "total"] ∧
      (ofList stepped).levels ["fee", "net", "tax", "total"] =
        (ofList stepped).analysis.levels := by
  have acyclic : (ofList stepped).Acyclic := acyclic_of_cycles_eq_nil (by cbv)
  have reads : (ofList stepped).Reads "total" "net" := ⟨by decide, by decide⟩
  obtain ⟨longest, plain, steps, zero, same⟩ := levels_longest acyclic
  have first : (ofList stepped).ReadFirst ([] ++ ["fee"] ++ ["net"] ++ ["tax"] ++ ["total"]) := by
    simp only [readFirst_concat_iff]
    exact ⟨⟨⟨⟨readFirst_nil, by decide⟩, by decide⟩, by decide⟩, by decide⟩
  -- In this order the fee comes before the net amount, which it does not read.
  have topological : (ofList stepped).IsTopological ["fee", "net", "tax", "total"] := by
    refine ⟨fun field => ?_, first⟩
    have listed : ["fee", "net", "tax", "total"].Perm (ofList stepped).fields := by decide
    exact listed.mem_iff.trans contains_iff_mem.symm
  obtain ⟨level, found, greatest⟩ := longest "total" (by decide)
  have two : (ofList stepped).analysis.levels.get? "total" = some 2 := by cbv
  obtain rfl : 2 = level := Option.some.inj (two.symm.trans found)
  exact ⟨acyclic, reads, greatest, by cbv, topological, same _ topological⟩

end DependencyGraph

end CalcFields
