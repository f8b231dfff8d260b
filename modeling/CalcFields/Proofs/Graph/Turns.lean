import CalcFields.Proofs.Graph.Walk
import Mathlib

/-!
The sort is a loop of turns. A turn goes on along the path of the walk, or starts from the next
field when there is no path. The loop comes to its end after one turn for each field to start from,
one for each dependency to look at and one for each field to leave.
-/

namespace CalcFields

namespace DependencyGraph

variable {graph : DependencyGraph} {walk : Walk} {name field : String}
  {rest order : List String} {outer : List Frame} {cycles : List (List String)}

/-- Of what the calculated fields that pass a test weigh, one of them has its part. -/
theorem sum_map_filter_beside {test others : String → Bool} (weight : String → Nat)
    (calculated : graph.contains field = true) (passes : test field = true)
    (beside : ∀ name, others name = (test name && name != field)) :
    weight field + ((graph.fields.filter others).map weight).sum =
      ((graph.fields.filter test).map weight).sum := by
  -- No field comes twice, so that leaving out its first place is leaving out the field.
  have left : graph.fields.filter others = (graph.fields.filter test).erase field := by
    have distinct : (graph.fields.filter test).Nodup := graph.distinct.filter _
    rw [distinct.erase_eq_filter, List.filter_filter]
    refine List.filter_congr fun name _ => ?_
    rw [beside, Bool.and_comm]
  rw [left]
  exact List.sum_map_erase weight (List.mem_filter.2 ⟨contains_iff_mem.1 calculated, passes⟩)

/-- One turn along the path of a walk; a walk without a path stays as it is. -/
def advance (graph : DependencyGraph) (walk : Walk) : Walk :=
  match walk.path with
  | [] => walk
  | ⟨name, []⟩ :: outer => ⟨outer, walk.order ++ [name], walk.cycles⟩
  | ⟨name, field :: rest⟩ :: outer =>
    let here : List Frame := ⟨name, rest⟩ :: outer
    if walk.names.contains field then ⟨here, walk.order, walk.cycles ++ [walk.cycleFrom field]⟩
    else if graph.contains field && !walk.order.contains field then
      ⟨⟨field, graph.dependencies field⟩ :: here, walk.order, walk.cycles⟩
    else ⟨here, walk.order, walk.cycles⟩

/-- Starts a path from a field unless it has its place. -/
def begin (graph : DependencyGraph) (walk : Walk) (field : String) : Walk :=
  if walk.order.contains field then walk
  else { walk with path := [⟨field, graph.dependencies field⟩] }

/-- One turn of the sort, on the fields that it has still to start from and its walk. -/
def turn (graph : DependencyGraph) (state : List String × Walk) : List String × Walk :=
  match state.1, state.2.path with
  | [], [] => state
  | root :: roots, [] => (roots, graph.begin state.2 root)
  | roots, _ :: _ => (roots, graph.advance state.2)

/-- The turns that a field takes along the path: one for each dependency and one to leave. -/
def cost (graph : DependencyGraph) (field : String) : Nat :=
  (graph.dependencies field).length + 1

/-- The turns that are left along the path and at the fields that a walk has not touched. -/
def allowance (graph : DependencyGraph) (walk : Walk) : Nat :=
  Walk.work walk.path + ((graph.fields.filter walk.leaves).map graph.cost).sum

/-- Walks that have touched the same fields differ in their turns left by those along the path. -/
theorem allowance_congr (graph : DependencyGraph) (walk other : Walk)
    (same : ∀ name, other.leaves name = walk.leaves name) :
    graph.allowance other + Walk.work walk.path =
      graph.allowance walk + Walk.work other.path := by
  -- The allowance counts the untouched fields and the work on the path.
  have untouched : graph.fields.filter other.leaves = graph.fields.filter walk.leaves :=
    List.filter_congr fun name _ => same name
  rw [allowance, allowance, untouched]
  omega

/-- A field that is entered has its turns along the path and no more among the untouched fields. -/
theorem allowance_enter (walk other : Walk) (calculated : graph.contains field = true)
    (untouched : walk.leaves field = true)
    (touched : ∀ name, other.leaves name = (walk.leaves name && name != field)) :
    graph.allowance other + graph.cost field + Walk.work walk.path =
      graph.allowance walk + Walk.work other.path := by
  -- Entering a field takes its cost out of the sum of those that are left.
  have sum := sum_map_filter_beside graph.cost calculated untouched touched
  rw [allowance, allowance]
  omega

/-- The field that leaves the path goes into the order, and takes one turn for that. -/
theorem allowance_leave :
    graph.allowance ⟨outer, order ++ [name], cycles⟩ + 1 =
      graph.allowance ⟨⟨name, []⟩ :: outer, order, cycles⟩ := by
  -- The field was touched on the path and stays so in the order.
  have left := allowance_congr graph ⟨⟨name, []⟩ :: outer, order, cycles⟩
    ⟨outer, order ++ [name], cycles⟩
    (fun other => by simp [Walk.leaves, Walk.names, Bool.and_assoc])
  simp only [Walk.work, List.length_nil] at left
  omega

/-- Looking at a dependency takes one turn and touches no field, whatever cycle it closes. -/
theorem allowance_look (noted : List (List String)) :
    graph.allowance ⟨⟨name, rest⟩ :: outer, order, noted⟩ + 1 =
      graph.allowance ⟨⟨name, field :: rest⟩ :: outer, order, cycles⟩ := by
  -- A look touches no field and takes one name off the work.
  have looked := allowance_congr graph ⟨⟨name, field :: rest⟩ :: outer, order, cycles⟩
    ⟨⟨name, rest⟩ :: outer, order, noted⟩ (fun other => by simp [Walk.leaves, Walk.names])
  simp only [Walk.work, List.length_cons] at looked
  omega

/-- Entering a dependency that is untouched takes one turn as well. -/
theorem allowance_descend (calculated : graph.contains field = true)
    (untouched : Walk.leaves ⟨⟨name, field :: rest⟩ :: outer, order, cycles⟩ field = true) :
    graph.allowance
        ⟨⟨field, graph.dependencies field⟩ :: ⟨name, rest⟩ :: outer, order, cycles⟩ + 1 =
      graph.allowance ⟨⟨name, field :: rest⟩ :: outer, order, cycles⟩ := by
  -- The turns of the field move from the untouched fields to the path.
  have entered := allowance_enter ⟨⟨name, field :: rest⟩ :: outer, order, cycles⟩
    ⟨⟨field, graph.dependencies field⟩ :: ⟨name, rest⟩ :: outer, order, cycles⟩
    calculated untouched (fun other => by simp only [Walk.leaves, Walk.names]; grind)
  simp only [Walk.work, List.length_cons, cost] at entered
  omega

/-- A turn along a path is one of the turns that are left. -/
theorem allowance_advance (graph : DependencyGraph) (walking : walk.path ≠ []) :
    graph.allowance (graph.advance walk) + 1 = graph.allowance walk := by
  obtain ⟨_ | ⟨⟨name, _ | ⟨field, rest⟩⟩, outer⟩, order, cycles⟩ := walk
  · exact absurd rfl walking
  · -- Leaving a field takes its frame off.
    exact allowance_leave
  · simp only [advance]
    split
    · exact allowance_look _
    · rename_i offPath
      split
      · rename_i fresh
        rw [Bool.and_eq_true] at fresh
        refine allowance_descend fresh.1 ?_
        -- The field is neither in the order nor on the path.
        rw [Walk.leaves, Bool.and_eq_true]
        exact ⟨fresh.2, by simpa using offPath⟩
      · exact allowance_look _

/-- A walk ends where it ends after one turn more along its path. -/
theorem follow_advance (graph : DependencyGraph) (walk : Walk) :
    graph.follow (graph.advance walk) = graph.follow walk := by
  -- A step of the walk is the first step of what follows.
  obtain ⟨_ | ⟨⟨name, _ | ⟨field, rest⟩⟩, outer⟩, order, cycles⟩ := walk
  · rfl
  · conv_rhs => rw [follow]
    rfl
  · conv_rhs => rw [follow]
    simp only [advance]
    split
    · rfl
    · split <;> rfl

/-- A walk without a path has ended. -/
theorem follow_of_path_eq_nil (ended : walk.path = []) : graph.follow walk = walk := by
  -- A walk without a path stands still.
  obtain ⟨path, order, cycles⟩ := walk
  cases ended
  rw [follow]

/-- The sort takes turns along a path until it is empty, and each is one of the turns left. -/
theorem exists_turns_follow (graph : DependencyGraph) (roots : List String) (walk : Walk) :
    ∃ turns, graph.turn^[turns] (roots, walk) = (roots, graph.follow walk) ∧
      turns + graph.allowance (graph.follow walk) = graph.allowance walk := by
  -- Induction on the allowance, of which every turn takes one.
  cases path : walk.path with
  | nil =>
    rw [follow_of_path_eq_nil path]
    exact ⟨0, rfl, Nat.zero_add _⟩
  | cons frame outer =>
    have walking : walk.path ≠ [] := by simp [path]
    have first : graph.turn (roots, walk) = (roots, graph.advance walk) := by simp [turn, path]
    have used := graph.allowance_advance walking
    -- The walk after this turn has one turn less, and ends at the same place.
    obtain ⟨turns, reached, sum⟩ := exists_turns_follow graph roots (graph.advance walk)
    rw [follow_advance] at reached sum
    refine ⟨turns + 1, ?_, by omega⟩
    rw [Function.iterate_succ_apply, first, reached]
termination_by graph.allowance walk
decreasing_by omega

/-- Starting a path from a field takes its turns out of those at the untouched fields. -/
theorem allowance_begin (idle : walk.path = []) (calculated : graph.contains field = true) :
    graph.allowance (graph.begin walk field) = graph.allowance walk := by
  obtain ⟨path, order, cycles⟩ := walk
  cases idle
  unfold begin
  split
  · rfl
  · rename_i unplaced
    -- The frame of the new field brings as much work as the field had been allowed.
    have entered := allowance_enter ⟨[], order, cycles⟩
      ⟨[⟨field, graph.dependencies field⟩], order, cycles⟩ calculated
      (by simpa [Walk.leaves, Walk.names] using unplaced)
      (fun name => by simp [Walk.leaves, Walk.names, bne, beq_eq_decide])
    simp only [Walk.work, cost] at entered
    dsimp only
    omega

/-- The turn of a field is the walk along the path that starts from it. -/
theorem follow_begin (idle : walk.path = []) :
    graph.follow (graph.begin walk field) = graph.visit walk field := by
  -- A field with a place is not entered.
  unfold begin visit
  split
  · exact follow_of_path_eq_nil idle
  · rfl

/-- The sort takes turns until there is no field left to start from. -/
theorem exists_turns_visit (roots : List String) (walk : Walk) (idle : walk.path = [])
    (calculated : ∀ root ∈ roots, graph.contains root = true) :
    ∃ turns, graph.turn^[turns] (roots, walk) = ([], roots.foldl graph.visit walk) ∧
      turns + graph.allowance (roots.foldl graph.visit walk) =
        roots.length + graph.allowance walk := by
  -- Induction on the roots that have not had their turn.
  induction roots generalizing walk with
  | nil => exact ⟨0, rfl, rfl⟩
  | cons root roots ih =>
    obtain ⟨here, others⟩ := List.forall_mem_cons.1 calculated
    have first : graph.turn (root :: roots, walk) = (roots, graph.begin walk root) := by
      simp [turn, idle]
    -- The path from the root is walked to its end, and then come the other roots.
    obtain ⟨along, walked, used⟩ := exists_turns_follow graph roots (graph.begin walk root)
    rw [follow_begin idle] at walked used
    rw [allowance_begin idle here] at used
    have ended : (graph.visit walk root).path = [] := by
      rw [← follow_begin idle, path_follow]
    obtain ⟨later, reached, rest⟩ := ih (graph.visit walk root) ended others
    refine ⟨later + along + 1, ?_, ?_⟩
    · rw [Function.iterate_succ_apply, first, Function.iterate_add_apply, walked, reached]
      rfl
    · rw [List.foldl_cons, List.length_cons]
      omega

/-- The sort ends with every field in its place after one turn for each field to start from and the
turns that each field takes along the path. -/
theorem iterate_turn_start (graph : DependencyGraph) :
    graph.turn^[graph.fields.length + (graph.fields.map graph.cost).sum]
      (graph.fields, Walk.start) = ([], graph.walk) := by
  have calculated : ∀ root ∈ graph.fields, graph.contains root = true :=
    fun _ => contains_iff_mem.2
  obtain ⟨turns, reached, sum⟩ := exists_turns_visit graph.fields Walk.start rfl calculated
  change graph.turn^[turns] _ = ([], graph.walk) at reached
  change turns + graph.allowance graph.walk = _ at sum
  -- In the beginning every field is untouched.
  have all : graph.allowance Walk.start = (graph.fields.map graph.cost).sum := by
    have untouched : graph.fields.filter Walk.start.leaves = graph.fields :=
      List.filter_eq_self.2 fun _ _ => rfl
    rw [allowance, untouched]
    exact Nat.zero_add _
  -- In the end every field has its place, and the path is empty.
  have spent : graph.allowance graph.walk = 0 := by
    obtain ⟨_, ended, placed⟩ := graph.walk_sound
    have touched : graph.fields.filter graph.walk.leaves = [] :=
      List.filter_eq_nil_iff.2 fun field member => by simp [Walk.leaves, placed member]
    rw [allowance, ended, touched]
    rfl
  -- So the turns used are all that were allowed.
  rw [all, spent, Nat.add_zero] at sum
  rw [← sum, reached]

end DependencyGraph

end CalcFields
