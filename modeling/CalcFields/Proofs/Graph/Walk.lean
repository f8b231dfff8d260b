import CalcFields.Graph.Walk
import CalcFields.Proofs.Graph.Basic
import CalcFields.Proofs.Graph.Precedes

/-!
A walk gives each calculated field once. A field comes after one that it reads, unless a cycle that
the walk has noted starts with the one and ends with the other; each cycle noted is a cycle indeed.
-/

namespace CalcFields

/-- Some noted cycle starts with a field and ends with one that reads it. -/
def Closes (cycles : List (List String)) (field reader : String) : Prop :=
  ∃ cycle ∈ cycles, cycle.head? = some field ∧ cycle.getLast? = some reader

/-- What some cycles close is closed when there are more of them. -/
theorem Closes.more {cycles more : List (List String)} {field reader : String}
    (closes : Closes cycles field reader) : Closes (cycles ++ more) field reader := by
  obtain ⟨cycle, noted, ends⟩ := closes
  exact ⟨cycle, List.mem_append_left more noted, ends⟩

namespace Walk

/-- What each field of a path reads is still to be looked at, or has been seen inside of it, or
closes a cycle; the fields seen are those in the order and those further in. -/
def Looked (graph : DependencyGraph) (cycles : List (List String)) :
    List String → List Frame → Prop
  | _, [] => True
  | seen, ⟨name, pending⟩ :: outer =>
    (∀ field, graph.Reads name field →
      field ∈ pending ∨ field ∈ seen ∨ Closes cycles field name) ∧
    Looked graph cycles (name :: seen) outer

/-- A path that is looked at stays so when more fields are seen and more cycles are noted. -/
theorem Looked.more {graph : DependencyGraph} {cycles : List (List String)}
    (more : List (List String)) {seen wider : List String} {path : List Frame}
    (looked : Looked graph cycles seen path) (within : seen ⊆ wider) :
    Looked graph (cycles ++ more) wider path := by
  -- Each frame further out has seen what the frames inside of it are.
  induction path generalizing seen wider with
  | nil => trivial
  | cons frame outer ih =>
    obtain ⟨here, beyond⟩ := looked
    refine ⟨fun field reads => ?_, ih beyond (List.cons_subset_cons frame.name within)⟩
    obtain pending | already | closes := here field reads
    · exact .inl pending
    · exact .inr (.inl (within already))
    · exact .inr (.inr closes.more)

/-- What holds of a walk before and after each of its steps. -/
structure Sound (graph : DependencyGraph) (walk : Walk) : Prop where
  /-- A field is on the path or in the order, at one place. -/
  once : (walk.order ++ walk.names).Nodup
  calculated : ∀ field ∈ walk.order ++ walk.names, graph.contains field = true
  /-- Each field of the path reads the next one inwards. -/
  linked : walk.names.IsChain fun inner outer => graph.Reads outer inner
  listed : ∀ frame ∈ walk.path, frame.pending ⊆ graph.dependencies frame.name
  looked : Looked graph walk.cycles walk.order walk.path
  settled : ∀ reader ∈ walk.order, ∀ field, graph.Reads reader field →
    Precedes walk.order field reader ∨ Closes walk.cycles field reader
  genuine : ∀ cycle ∈ walk.cycles, graph.IsCycle cycle

variable {graph : DependencyGraph} {name field : String} {rest order : List String}
  {outer : List Frame} {cycles : List (List String)}

/-- A path stays looked at when its innermost field turns to the next one that it reads, once the
one before is seen or closes a cycle. -/
theorem Looked.advance {seen : List String}
    (looked : Looked graph cycles seen (⟨name, field :: rest⟩ :: outer))
    (done : graph.Reads name field → field ∈ seen ∨ Closes cycles field name) :
    Looked graph cycles seen (⟨name, rest⟩ :: outer) := by
  obtain ⟨here, beyond⟩ := looked
  refine ⟨fun other reads => ?_, beyond⟩
  obtain pending | settled := here other reads
  · -- The field that was next is done with, and any other one is still pending.
    obtain rfl | later := List.mem_cons.1 pending
    · exact .inr (done reads)
    · exact .inl later
  · exact .inr settled

/-- What is pending on a path is listed still when its innermost field turns to the next one. -/
theorem listed_advance
    (listed : ∀ frame ∈ (⟨name, field :: rest⟩ :: outer : List Frame),
      frame.pending ⊆ graph.dependencies frame.name) :
    ∀ frame ∈ (⟨name, rest⟩ :: outer : List Frame),
      frame.pending ⊆ graph.dependencies frame.name := by
  obtain ⟨first, others⟩ := List.forall_mem_cons.1 listed
  exact List.forall_mem_cons.2 ⟨List.Subset.trans (List.subset_cons_self field rest) first, others⟩

/-- The walk that has not started is sound. -/
theorem sound_start (graph : DependencyGraph) : start.Sound graph where
  -- Nothing is on the path, in the order or noted.
  once := List.nodup_nil
  calculated := by simp [start, names]
  linked := List.isChain_nil
  listed := by simp [start]
  looked := trivial
  settled := by simp [start]
  genuine := by simp [start]

/-- A field that has looked at all it reads moves from the path to the order. -/
theorem Sound.leave (sound : Sound graph ⟨⟨name, []⟩ :: outer, order, cycles⟩) :
    Sound graph ⟨outer, order ++ [name], cycles⟩ := by
  obtain ⟨once, calculated, linked, listed, looked, settled, genuine⟩ := sound
  obtain ⟨here, beyond⟩ := looked
  -- The fields touched are the same, in the same row.
  have moved : order ++ names ⟨⟨name, []⟩ :: outer, order, cycles⟩ =
      order ++ [name] ++ names ⟨outer, order ++ [name], cycles⟩ := by
    simp [names]
  refine ⟨moved ▸ once, moved ▸ calculated, linked.tail, ?_, ?_, ?_, genuine⟩
  · exact fun frame found => listed frame (List.mem_cons_of_mem _ found)
  · -- The frames further out have seen the field on the path, and now see it in the order.
    have within : name :: order ⊆ order ++ [name] := by simp
    simpa using beyond.more [] within
  · intro reader placed field reads
    obtain before | last := List.mem_append.1 placed
    · -- Fields that were in the order before keep their places.
      obtain ahead | closes := settled reader before field reads
      · exact .inl (ahead.append [name])
      · exact .inr closes
    · -- The field that leaves has nothing pending, and comes after all that it has seen.
      cases List.mem_singleton.1 last
      obtain pending | already | closes := here field reads
      · cases pending
      · exact .inl (Precedes.append_last already name)
      · exact .inr closes

/-- The part of a path from a field on it, read inwards, is a cycle when the innermost field reads
the field; it starts with the field and ends with the innermost one. -/
theorem Sound.isCycle {walk : Walk} (sound : walk.Sound graph)
    (innermost : walk.names.head? = some name) (reads : graph.Reads name field)
    (onPath : field ∈ walk.names) :
    graph.IsCycle (walk.cycleFrom field) ∧ (walk.cycleFrom field).head? = some field ∧
      (walk.cycleFrom field).getLast? = some name := by
  -- The fields outside of the first meeting with the field are dropped, and nothing else.
  obtain ⟨front, back, split, absent⟩ := List.eq_append_cons_of_mem (List.mem_reverse.2 onPath)
  have whole : walk.cycleFrom field = field :: back := by
    rw [cycleFrom, split, List.dropWhile_append_of_pos]
    · simp
    · -- The part outside of the meeting does not have the field.
      intro other outside
      have differ : other ≠ field := fun same => absent (same ▸ outside)
      simpa using differ
  have cut : walk.cycleFrom field <:+ walk.names.reverse := ⟨front, whole ▸ split.symm⟩
  have starts : (walk.cycleFrom field).head? = some field := by
    rw [whole, List.head?_cons]
  have ends : (walk.cycleFrom field).getLast? = some name := by
    -- What is dropped is at the other end, so that the innermost field stays the last one.
    have last : (front ++ field :: back).getLast? = some name := by
      rw [← split, List.getLast?_reverse, innermost]
    rwa [List.getLast?_append_of_ne_nil front (List.cons_ne_nil field back), ← whole] at last
  -- A part of the path has no repetition and is linked, as the path is.
  refine ⟨⟨?_, ?_, field, name, starts, ends, reads⟩, starts, ends⟩
  · have apart := (List.nodup_append.1 sound.once).2.1
    exact (List.nodup_reverse.2 apart).sublist cut.sublist
  · exact (List.isChain_reverse.2 sound.linked).suffix cut

/-- A field that is on the path again closes a cycle. -/
theorem Sound.close (sound : Sound graph ⟨⟨name, field :: rest⟩ :: outer, order, cycles⟩)
    (onPath : field ∈ names ⟨⟨name, field :: rest⟩ :: outer, order, cycles⟩) :
    Sound graph ⟨⟨name, rest⟩ :: outer, order,
      cycles ++ [cycleFrom ⟨⟨name, field :: rest⟩ :: outer, order, cycles⟩ field]⟩ := by
  have depends : field ∈ graph.dependencies name :=
    sound.listed ⟨name, field :: rest⟩ List.mem_cons_self List.mem_cons_self
  have reads : graph.Reads name field :=
    ⟨depends, sound.calculated field (List.mem_append_right _ onPath)⟩
  -- The field looked at is settled by the cycle, and everything else stays as it is.
  obtain ⟨isCycle, starts, ends⟩ := sound.isCycle rfl reads onPath
  obtain ⟨once, calculated, linked, listed, looked, settled, genuine⟩ := sound
  refine ⟨once, calculated, linked, listed_advance listed, ?_, ?_, ?_⟩
  · refine Looked.advance (looked.more _ (List.Subset.refl order)) fun _ => ?_
    exact .inr ⟨_, List.mem_append_right _ List.mem_cons_self, starts, ends⟩
  · intro reader placed other reads
    exact (settled reader placed other reads).imp_right Closes.more
  · -- The cycles noted before are genuine, and so is the new one.
    intro cycle noted
    obtain before | new := List.mem_append.1 noted
    · exact genuine cycle before
    · cases List.mem_singleton.1 new
      exact isCycle

/-- A calculated field that is neither on the path nor in the order is entered. -/
theorem Sound.enter (sound : Sound graph ⟨⟨name, field :: rest⟩ :: outer, order, cycles⟩)
    (offPath : field ∉ names ⟨⟨name, field :: rest⟩ :: outer, order, cycles⟩)
    (calculable : graph.contains field = true) (unplaced : field ∉ order) :
    Sound graph
      ⟨⟨field, graph.dependencies field⟩ :: ⟨name, rest⟩ :: outer, order, cycles⟩ := by
  have depends : field ∈ graph.dependencies name :=
    sound.listed ⟨name, field :: rest⟩ List.mem_cons_self List.mem_cons_self
  obtain ⟨once, calculated, linked, listed, looked, settled, genuine⟩ := sound
  refine ⟨?_, ?_, ?_, ?_, ⟨?_, ?_⟩, settled, genuine⟩
  · -- The field has not been touched, and so is put on the path for the first time.
    have fresh : field ∉ order ++ names ⟨⟨name, field :: rest⟩ :: outer, order, cycles⟩ := by
      rw [List.mem_append]
      exact not_or.2 ⟨unplaced, offPath⟩
    exact List.nodup_middle.2 (List.nodup_cons.2 ⟨fresh, once⟩)
  · intro other touched
    obtain placed | onPath := List.mem_append.1 touched
    · exact calculated other (List.mem_append_left _ placed)
    · obtain rfl | outside := List.mem_cons.1 onPath
      · exact calculable
      · exact calculated other (List.mem_append_right _ outside)
  · exact List.IsChain.cons_cons ⟨depends, calculable⟩ linked
  · exact List.forall_mem_cons.2 ⟨List.Subset.refl _, listed_advance listed⟩
  · -- The field entered has all that it reads pending.
    exact fun other reads => .inl reads.1
  · -- The frame outside of it has seen it, and turns to what is next.
    have wider := looked.more [] (List.subset_cons_self field order)
    rw [List.append_nil] at wider
    exact wider.advance fun _ => .inl List.mem_cons_self

/-- A field that is not calculated, or that is in the order, needs no turn. -/
theorem Sound.skip (sound : Sound graph ⟨⟨name, field :: rest⟩ :: outer, order, cycles⟩)
    (needless : graph.contains field = true → field ∈ order) :
    Sound graph ⟨⟨name, rest⟩ :: outer, order, cycles⟩ := by
  obtain ⟨once, calculated, linked, listed, looked, settled, genuine⟩ := sound
  refine ⟨once, calculated, linked, listed_advance listed, ?_, settled, genuine⟩
  -- A calculated field that is skipped is in the order, and so has been seen.
  exact looked.advance fun reads => .inl (needless reads.2)

/-- Walking along a path keeps a walk sound, step by step. -/
theorem Sound.follow {walk : Walk} (sound : walk.Sound graph) :
    (graph.follow walk).Sound graph := by
  -- Each case of the walk is one of the four steps, until the path is empty.
  fun_induction graph.follow walk with
  | case1 walk empty => exact sound
  | case2 walk name outer path ih =>
    cases walk
    cases path
    exact ih sound.leave
  | case3 walk name field rest outer path here onPath ih =>
    cases walk
    cases path
    exact ih (sound.close (List.contains_iff_mem.1 onPath))
  | case4 walk name field rest outer path here offPath fresh ih =>
    cases walk
    cases path
    -- The tests of the walk are read as what they say of the field.
    simp only [Bool.and_eq_true, Bool.not_eq_true', List.contains_eq_mem,
      decide_eq_false_iff_not, decide_eq_true_eq] at offPath fresh
    exact ih (sound.enter offPath fresh.1 fresh.2)
  | case5 walk name field rest outer path here offPath stale ih =>
    cases walk
    cases path
    refine ih (sound.skip fun calculable => ?_)
    simpa [calculable] using stale

end Walk

namespace DependencyGraph

variable {graph : DependencyGraph} {reader field : String}

/-- Walking along a path ends with an empty path. -/
theorem path_follow (graph : DependencyGraph) (walk : Walk) : (graph.follow walk).path = [] := by
  -- Induction on the walk, which ends only with an empty path.
  fun_induction graph.follow walk with
  | case1 walk empty => exact empty
  | case2 walk name outer path ih => exact ih
  | case3 walk name field rest outer path here onPath ih => exact ih
  | case4 walk name field rest outer path here offPath fresh ih => exact ih
  | case5 walk name field rest outer path here offPath stale ih => exact ih

/-- Every field that a walk has touched is in the order when its path is empty. -/
theorem mem_order_follow {walk : Walk} (touched : field ∈ walk.order ++ walk.names) :
    field ∈ (graph.follow walk).order := by
  -- A step moves a field from the path to the order or puts one on the path, and drops none.
  fun_induction graph.follow walk with
  | case1 walk empty => simpa [Walk.names, empty] using touched
  | case2 walk name outer path ih =>
    apply ih
    simpa [Walk.names, path] using touched
  | case3 walk name field rest outer path here onPath ih =>
    apply ih
    simpa [Walk.names, path, here] using touched
  | case4 walk name field rest outer path here offPath fresh ih =>
    apply ih
    -- The path grows by the field that is entered, and keeps those that were on it.
    simp only [Walk.names, path, List.map_cons, List.mem_append] at touched ⊢
    exact touched.imp_right (List.mem_cons_of_mem _)
  | case5 walk name field rest outer path here offPath stale ih =>
    apply ih
    simpa [Walk.names, path, here] using touched

/-- The turn of a calculated field leaves a sound walk without a path, keeps the fields placed
before and places the field. -/
theorem visit_sound {walk : Walk} (sound : walk.Sound graph) (idle : walk.path = [])
    (calculable : graph.contains field = true) :
    (graph.visit walk field).Sound graph ∧ (graph.visit walk field).path = [] ∧
      walk.order ⊆ (graph.visit walk field).order ∧ field ∈ (graph.visit walk field).order := by
  obtain ⟨path, order, cycles⟩ := walk
  cases idle
  -- A field that has its place needs no turn, and any other one starts a path of its own.
  by_cases placed : field ∈ order
  · have kept : graph.visit ⟨[], order, cycles⟩ field = ⟨[], order, cycles⟩ := by
      simp [visit, placed]
    rw [kept]
    exact ⟨sound, rfl, List.Subset.refl _, placed⟩
  · have turn : graph.visit ⟨[], order, cycles⟩ field =
        graph.follow ⟨[⟨field, graph.dependencies field⟩], order, cycles⟩ := by
      simp [visit, placed]
    rw [turn]
    refine ⟨Walk.Sound.follow ?_, graph.path_follow _, ?_, ?_⟩
    · -- A path of one field is sound, because all that it reads is pending.
      obtain ⟨once, calculated, linked, listed, looked, settled, genuine⟩ := sound
      refine ⟨?_, ?_, List.isChain_singleton _, ?_, ⟨?_, trivial⟩, settled, genuine⟩
      · have single : (order ++ []).Nodup := once
        rw [List.append_nil] at single
        exact List.nodup_append_comm.1 (List.nodup_cons.2 ⟨placed, single⟩)
      · intro other touched
        obtain before | here := List.mem_append.1 touched
        · exact calculated other (List.mem_append_left _ before)
        · cases List.mem_singleton.1 here
          exact calculable
      · intro frame found
        cases List.mem_singleton.1 found
        exact List.Subset.refl _
      · exact fun other reads => .inl reads.1
    -- No field that was placed gets lost on the way.
    · exact fun other before => mem_order_follow (List.mem_append_left _ before)
    · exact mem_order_follow (List.mem_append_right _ List.mem_cons_self)

/-- The turns of some calculated fields leave a sound walk, which places them all. -/
theorem foldl_visit_sound {fields : List String} {walk : Walk} (sound : walk.Sound graph)
    (idle : walk.path = []) (calculable : ∀ field ∈ fields, graph.contains field = true) :
    (fields.foldl graph.visit walk).Sound graph ∧ (fields.foldl graph.visit walk).path = [] ∧
      walk.order ⊆ (fields.foldl graph.visit walk).order ∧
      fields ⊆ (fields.foldl graph.visit walk).order := by
  -- The walk is sound and idle between two turns, which is what each turn needs.
  induction fields generalizing walk with
  | nil => exact ⟨sound, idle, List.Subset.refl _, List.nil_subset _⟩
  | cons field rest ih =>
    obtain ⟨first, others⟩ := List.forall_mem_cons.1 calculable
    obtain ⟨still, emptied, kept, placed⟩ := visit_sound sound idle first
    obtain ⟨after, ended, keptOn, restPlaced⟩ := ih still emptied others
    -- What had its place keeps it.
    refine ⟨after, ended, List.Subset.trans kept keptOn, ?_⟩
    exact List.cons_subset.2 ⟨keptOn placed, restPlaced⟩

/-- The walk of a graph is sound, has no path left and places every calculated field. -/
theorem walk_sound (graph : DependencyGraph) :
    graph.walk.Sound graph ∧ graph.walk.path = [] ∧ graph.fields ⊆ graph.walk.order := by
  have calculable : ∀ field ∈ graph.fields, graph.contains field = true :=
    fun _ => contains_iff_mem.2
  -- The turns start with the walk that has touched nothing.
  obtain ⟨sound, ended, _, placed⟩ :=
    foldl_visit_sound (Walk.sound_start graph) rfl calculable
  exact ⟨sound, ended, placed⟩

/-- No field comes twice in the order. -/
theorem nodup_order (graph : DependencyGraph) : graph.order.Nodup :=
  (List.nodup_append.1 graph.walk_sound.1.once).1

/-- The order holds exactly the calculated fields. -/
theorem mem_order : field ∈ graph.order ↔ graph.contains field = true := by
  constructor
  -- The walk touches calculated fields only, and ends with all of them placed.
  · exact fun placed => graph.walk_sound.1.calculated field (List.mem_append_left _ placed)
  · exact fun calculated => graph.walk_sound.2.2 (contains_iff_mem.1 calculated)

/-- A calculated field comes before one that reads it, or some cycle starts with the one and ends
with the other. -/
theorem before_or_closes (reads : graph.Reads reader field) :
    Precedes graph.order field reader ∨ Closes graph.cycles field reader := by
  -- The reader is calculated, and so it has its place in the order.
  have placed : reader ∈ graph.order := mem_order.2 (contains_of_mem_dependencies reads.1)
  exact graph.walk_sound.1.settled reader placed field reads

/-- A field that is free of cycles comes after every calculated field that it reads. -/
theorem CycleFree.before (free : graph.CycleFree reader) (reads : graph.Reads reader field) :
    Precedes graph.order field reader := by
  obtain before | ⟨cycle, noted, _, ends⟩ := before_or_closes reads
  · exact before
  · -- The cycle would lead from the reader back to it.
    have genuine := graph.walk_sound.1.genuine cycle noted
    exact absurd (genuine.transGen ends) (free reader .refl)

/-- Where every field comes after those that it reads, there is no cycle. -/
theorem acyclic_of_precedes
    (ordered : ∀ reader field, graph.Reads reader field → Precedes graph.order field reader) :
    graph.Acyclic := by
  -- Along a path of readings the place in the order goes down.
  have earlier : ∀ reader field, Relation.TransGen graph.Reads reader field →
      graph.order.idxOf field < graph.order.idxOf reader := by
    intro reader field path
    induction path with
    | single reads => exact (ordered _ _ reads).idxOf_lt graph.nodup_order
    | tail _ reads ih => exact ((ordered _ _ reads).idxOf_lt graph.nodup_order).trans ih
  exact fun field path => Nat.lt_irrefl _ (earlier field field path)

/-- A graph whose walk notes no cycle has none. -/
theorem acyclic_of_cycles_eq_nil (none : graph.cycles = []) : graph.Acyclic := by
  -- Without a cycle to close, every field that is read comes before its reader.
  refine acyclic_of_precedes fun reader field reads => ?_
  obtain precedes | ⟨cycle, noted, _⟩ := before_or_closes reads
  · exact precedes
  · rw [none] at noted
    cases noted

/-- In a graph without cycles, going from readers to what they read comes to an end. -/
theorem Acyclic.wellFounded (acyclic : graph.Acyclic) :
    WellFounded fun field reader => graph.Reads reader field := by
  -- Every step goes to an earlier place of the order.
  refine Subrelation.wf ?_ (measure graph.order.idxOf).wf
  intro field reader reads
  exact ((acyclic.cycleFree reader).before reads).idxOf_lt graph.nodup_order

end DependencyGraph

end CalcFields
