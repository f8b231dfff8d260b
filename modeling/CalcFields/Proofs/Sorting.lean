import Mathlib.Data.List.Perm.Basic

/-!
A list that is sorted by a comparison stands in the order of the comparison, and what stood in that
order before the sort still does so after it.
-/

namespace CalcFields

variable {α : Type} (cmp : α → α → Ordering) [Std.TransCmp cmp]

/-- Of two elements one comes no later than the other. -/
theorem isLE_or_isLE (a b : α) : ((cmp a b).isLE || (cmp b a).isLE) = true := by
  -- An ordering and its reverse are not both strict.
  have swapped : cmp b a = (cmp a b).swap := Std.OrientedCmp.eq_swap
  rw [swapped]
  cases cmp a b <;> rfl

/-- Sorted elements stand in the order of the comparison. -/
theorem pairwise_mergeSort_isLE (items : List α) :
    (items.mergeSort fun a b => (cmp a b).isLE).Pairwise fun a b => (cmp a b).isLE = true :=
  List.pairwise_mergeSort (fun _ _ _ => Std.TransCmp.isLE_trans) (isLE_or_isLE cmp) items

/-- A sort moves no elements past one another that stand in order. -/
theorem sublist_mergeSort_isLE {items ordered : List α}
    (inOrder : ordered.Pairwise fun a b => (cmp a b).isLE = true) (inside : ordered.Sublist items) :
    ordered.Sublist (items.mergeSort fun a b => (cmp a b).isLE) :=
  List.sublist_mergeSort (fun _ _ _ => Std.TransCmp.isLE_trans) (isLE_or_isLE cmp) inOrder inside

/-- A sort leaves the elements that pass a test as they come when they stand in order. -/
theorem filter_mergeSort_isLE {items : List α} {test : α → Bool}
    (inOrder : (items.filter test).Pairwise fun a b => (cmp a b).isLE = true) :
    (items.mergeSort fun a b => (cmp a b).isLE).filter test = items.filter test := by
  have kept := (sublist_mergeSort_isLE cmp inOrder List.filter_sublist).filter test
  rw [List.filter_filter, List.filter_congr fun _ _ => Bool.and_self _] at kept
  -- The sorted list has as many elements that pass, so that it has no others.
  exact (kept.eq_of_length ((List.mergeSort_perm _ _).filter test).length_eq.symm).symm

/-- The last element of a sorted list that passes a test is, where it comes from, behind all others
that pass and go as late: in front of it those that pass go no later, and behind it they go
earlier. -/
theorem exists_append_of_getLast?_mergeSort {items : List α} {test : α → Bool} {last : α}
    (found : ((items.mergeSort fun a b => (cmp a b).isLE).filter test).getLast? = some last) :
    test last = true ∧ ∃ before after, items = before ++ last :: after ∧
      (∀ item ∈ before, test item = true → (cmp item last).isLE = true) ∧
      ∀ item ∈ after, test item = true → cmp item last = .lt := by
  obtain ⟨front, whole⟩ := List.getLast?_eq_some_iff.1 found
  have passes : test last = true :=
    (List.mem_filter.1 (whole ▸ List.mem_append_right front (List.mem_singleton_self last))).2
  -- The list is sorted, so whatever passes goes no later than its last one.
  have noLater : ∀ item ∈ items, test item = true → (cmp item last).isLE = true := by
    intro item member pass
    have sorted : item ∈ front ++ [last] :=
      whole ▸ List.mem_filter.2 ⟨(List.mergeSort_perm _ _).mem_iff.2 member, pass⟩
    have ordered := (pairwise_mergeSort_isLE cmp items).filter test
    rw [whole] at ordered
    obtain before | alone := List.mem_append.1 sorted
    · exact (List.pairwise_append.1 ordered).2.2 item before last (List.mem_singleton_self last)
    · exact List.mem_singleton.1 alone ▸ Std.ReflCmp.isLE_rfl
  -- Those that go as late as the last one are left by the sort as they come.
  have inOrder : (items.filter fun item => (cmp last item).isLE && test item).Pairwise
      fun a b => (cmp a b).isLE = true := by
    refine List.pairwise_of_forall_mem_list fun a here b there => ?_
    obtain ⟨member, both⟩ := List.mem_filter.1 here
    have late := (Bool.and_eq_true_iff.1 (List.mem_filter.1 there).2).1
    exact Std.TransCmp.isLE_trans (noLater a member (Bool.and_eq_true_iff.1 both).2) late
  have ties := filter_mergeSort_isLE cmp inOrder
  rw [← List.filter_filter, whole, List.filter_append] at ties
  have itself : [last].filter (fun item => (cmp last item).isLE) = [last] :=
    List.filter_eq_self.2 (List.forall_mem_singleton.2 Std.ReflCmp.isLE_rfl)
  rw [itself] at ties
  -- So the last one is the last of its ties in the unsorted list as well.
  obtain ⟨first, rest, rfl, _, second⟩ := List.filter_eq_append_iff.1 ties.symm
  obtain ⟨before, after, rfl, _, _, none⟩ := List.filter_eq_cons_iff.1 second
  refine ⟨passes, first ++ before, after, (List.append_assoc ..).symm, ?_, ?_⟩
  · intro item member pass
    refine noLater item ?_ pass
    rw [← List.append_assoc]
    exact List.mem_append_left _ member
  · intro item member pass
    have early := List.filter_eq_nil_iff.1 none item member
    rw [pass, Bool.and_true] at early
    exact Std.OrientedCmp.lt_of_not_isLE early

/-- Of the elements that pass a test, the first one comes last in the sorted list when all others go
before it, and otherwise one of the others does that goes no earlier. -/
theorem exists_getLast?_mergeSort {items others : List α} {first : α} {test : α → Bool}
    (picked : items.filter test = first :: others) :
    ∃ last, ((items.mergeSort fun a b => (cmp a b).isLE).filter test).getLast? = some last ∧
      ((∀ other ∈ others, cmp other first = .lt) → last = first) ∧
      ∀ other ∈ others, (cmp first other).isLE = true →
        last ∈ others ∧ (cmp first last).isLE = true := by
  -- Sorting loses nothing, so something passes.
  obtain ⟨last, found⟩ : ∃ last, ((items.mergeSort fun a b =>
      (cmp a b).isLE).filter test).getLast? = some last := by
    refine Option.isSome_iff_exists.1 (List.getLast?_isSome.2 fun none => ?_)
    have same := (List.mergeSort_perm items fun a b => (cmp a b).isLE).filter test
    rw [none, picked] at same
    cases same.length_eq
  refine ⟨last, found, ?_⟩
  obtain ⟨passes, before, after, rfl, noLater, earlier⟩ :=
    exists_append_of_getLast?_mergeSort cmp found
  rw [List.filter_append, List.filter_cons_of_pos passes] at picked
  -- The last one is the first one that passes, or has that in front of it.
  cases inFront : before.filter test with
  | nil =>
    rw [inFront] at picked
    obtain ⟨rfl, rfl⟩ := List.cons.inj picked
    refine ⟨fun _ => rfl, fun other member late => absurd late ?_⟩
    obtain ⟨inside, pass⟩ := List.mem_filter.1 member
    exact Std.OrientedCmp.not_isLE_of_lt (earlier other inside pass)
  | cons head more =>
    rw [inFront] at picked
    obtain ⟨rfl, rfl⟩ := List.cons.inj picked
    obtain ⟨inside, pass⟩ := List.mem_filter.1 (inFront ▸ List.mem_cons_self)
    have late := noLater head inside pass
    have member : last ∈ more ++ last :: after.filter test :=
      List.mem_append_right more List.mem_cons_self
    refine ⟨fun early => absurd late ?_, fun _ _ _ => ⟨member, late⟩⟩
    exact Std.OrientedCmp.not_isLE_of_lt (early last member)

end CalcFields
