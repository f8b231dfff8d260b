import CalcFields.Graph.Basic

/-!
A depth-first walk orders the calculated fields so that each comes after those it reads. The walk
keeps its path, where a field met again closes a cycle; the walk notes the cycle and goes on, so
that every field has its place in the order.
-/

namespace CalcFields

/-- A field on the path of a walk and those of its dependencies that are still to be looked at. -/
structure Frame where
  name : String
  pending : List String

/-- The state of a walk: the path from its innermost field outwards, and the results so far. -/
structure Walk where
  path : List Frame
  order : List String
  cycles : List (List String)

namespace Walk

/-- The walk that has not started. -/
def start : Walk := ⟨[], [], []⟩

/-- The fields on the path, the innermost one first. -/
def names (walk : Walk) : List String :=
  walk.path.map Frame.name

/-- A field is untouched until it is on the path or in the order. -/
def leaves (walk : Walk) (field : String) : Bool :=
  !walk.order.contains field && !walk.names.contains field

/-- The part of the path from a field on it to the innermost field. -/
def cycleFrom (walk : Walk) (field : String) : List String :=
  walk.names.reverse.dropWhile (· != field)

/-- The steps that the frames of a path still need when no other field is entered. -/
def work : List Frame → Nat
  | [] => 0
  | frame :: outer => frame.pending.length + 1 + work outer

end Walk

/-- Where one test accepts more than another and an element tells them apart, it counts more. -/
theorem countP_lt_countP_of_mem {α : Type} {p q : α → Bool} {items : List α} {a : α}
    (found : a ∈ items) (accepted : q a = true) (refused : p a = false)
    (more : ∀ x, p x = true → q x = true) : items.countP p < items.countP q := by
  induction items with
  | nil => cases found
  | cons head rest ih =>
    simp only [List.countP_cons]
    rcases List.mem_cons.1 found with rfl | later
    · have atMost := List.countP_mono_left (l := rest) fun x _ => more x
      simp [accepted, refused]
      omega
    · have fewer := ih later
      by_cases holds : p head = true
      · simp [holds, more head holds, fewer]
      · by_cases held : q head = true <;> simp [holds, held] <;> omega

namespace DependencyGraph

/-- The number of calculated fields that a walk has not touched. -/
def untouched (graph : DependencyGraph) (walk : Walk) : Nat :=
  graph.fields.countP walk.leaves

/-- Walks along the path until it is empty: a frame without pending dependencies ends the turn of
its field; a pending dependency that is calculated and untouched is entered. -/
def follow (graph : DependencyGraph) (walk : Walk) : Walk :=
  match _path : walk.path with
  | [] => walk
  | ⟨name, []⟩ :: outer => graph.follow ⟨outer, walk.order ++ [name], walk.cycles⟩
  | ⟨name, field :: rest⟩ :: outer =>
    let here : List Frame := ⟨name, rest⟩ :: outer
    if walk.names.contains field then
      graph.follow ⟨here, walk.order, walk.cycles ++ [walk.cycleFrom field]⟩
    else if graph.contains field && !walk.order.contains field then
      graph.follow ⟨⟨field, graph.dependencies field⟩ :: here, walk.order, walk.cycles⟩
    else graph.follow ⟨here, walk.order, walk.cycles⟩
termination_by (graph.untouched walk, Walk.work walk.path)
decreasing_by
  · -- The field moves from the path to the order, so that it stays touched.
    have same : ∀ field, Walk.leaves ⟨outer, walk.order ++ [name], walk.cycles⟩ field =
        walk.leaves field := by
      intro field
      simp [Walk.leaves, Walk.names, _path, Bool.and_assoc, Bool.and_left_comm]
    have count : graph.untouched ⟨outer, walk.order ++ [name], walk.cycles⟩ =
        graph.untouched walk := by
      simp only [untouched]
      congr 1
      exact funext same
    rw [count]
    exact Prod.Lex.right _ (by simp [_path, Walk.work])
  · have count : graph.untouched ⟨here, walk.order, walk.cycles ++ [walk.cycleFrom field]⟩ =
        graph.untouched walk := by
      simp only [untouched]
      congr 1
      exact funext fun other => by simp [Walk.leaves, Walk.names, _path, here]
    rw [count]
    exact Prod.Lex.right _ (by simp [_path, Walk.work])
  · rename_i offPath fresh
    refine Prod.Lex.left _ _ ?_
    simp only [Bool.and_eq_true, contains] at fresh
    refine countP_lt_countP_of_mem (a := field) (by simpa using fresh.1) ?_ ?_ ?_
    · simp only [Walk.leaves, Bool.and_eq_true]
      exact ⟨fresh.2, by simpa using offPath⟩
    · simp [Walk.leaves, Walk.names]
    · intro other
      simp only [Walk.leaves, Walk.names, _path]
      simp
      intro notLast _ notHere notOuter
      exact ⟨notLast, notHere, notOuter⟩
  · have count : graph.untouched ⟨here, walk.order, walk.cycles⟩ = graph.untouched walk := by
      simp only [untouched]
      congr 1
      exact funext fun other => by simp [Walk.leaves, Walk.names, _path, here]
    rw [count]
    exact Prod.Lex.right _ (by simp [_path, Walk.work])

/-- Walks from a field unless it has had its turn. -/
def visit (graph : DependencyGraph) (walk : Walk) (field : String) : Walk :=
  if walk.order.contains field then walk
  else graph.follow { walk with path := [⟨field, graph.dependencies field⟩] }

/-- The walk from every field in node order. -/
def walk (graph : DependencyGraph) : Walk :=
  graph.fields.foldl graph.visit Walk.start

/-- Every calculated field once, after the calculated fields it reads unless a cycle forbids. -/
def order (graph : DependencyGraph) : List String := graph.walk.order

/-- The cycles that the walk met, each from the field where it closed. -/
def cycles (graph : DependencyGraph) : List (List String) := graph.walk.cycles

end DependencyGraph

end CalcFields
