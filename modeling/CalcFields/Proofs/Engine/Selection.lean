import CalcFields.Engine.Selection
import CalcFields.Proofs.Sorting
import Mathlib.Data.List.Nodup

/-!
The order of definitions leaves no choice where no two of them have one identity. Such definitions
are sorted and selected alike in whatever order they come.
-/

namespace CalcFields

/-- Suggested places are in one line, with the absent ones all last. -/
instance : Std.TransCmp comparePlaces where
  eq_swap {a b} :=
    match a, b with
    | some a, some b => show compare a b = (compare b a).swap from Std.OrientedCmp.eq_swap
    | some _, none => rfl
    | none, some _ => rfl
    | none, none => rfl
  isLE_trans {a b c} first second :=
    match a, b, c with
    | some a, some b, some c =>
      show (compare a c).isLE = true from Std.TransCmp.isLE_trans (b := b) first second
    | some _, _, none => rfl
    | none, none, none => rfl

namespace Definition

/-- Definitions are ordered by one of their parts after the other. -/
instance : Std.TransCmp order :=
  have _placed : Std.TransCmp fun a b : Definition => comparePlaces a.sort b.sort :=
    { eq_swap := Std.OrientedCmp.eq_swap
      isLE_trans := Std.TransCmp.isLE_trans }
  inferInstanceAs (Std.TransCmp (compareLex (compareOn collection)
    (compareLex (fun a b => comparePlaces a.sort b.sort) (compareOn field))))

/-- Definitions that the order does not tell apart have one identity. -/
theorem key_eq_of_order_eq {a b : Definition} (same : order a b = .eq) : a.key = b.key := by
  simp only [order, Ordering.then_eq_eq, Std.LawfulEqCmp.compare_eq_iff_eq] at same
  rw [key, key, same.1, same.2.2]

/-- Sorted definitions are the ones that were to be sorted. -/
theorem sorted_perm (definitions : List Definition) : (sorted definitions).Perm definitions :=
  List.mergeSort_perm _ _

/-- Sorted definitions stand in their order. -/
theorem pairwise_sorted (definitions : List Definition) :
    (sorted definitions).Pairwise fun a b => (order a b).isLE = true :=
  pairwise_mergeSort_isLE order definitions

/-- Definitions of distinct identities are sorted in one way, whatever order they come in. -/
theorem sorted_eq_of_perm {definitions arranged : List Definition}
    (distinct : (definitions.map key).Nodup) (same : definitions.Perm arranged) :
    sorted definitions = sorted arranged := by
  have through := (sorted_perm definitions).trans (same.trans (sorted_perm arranged).symm)
  refine through.eq_of_pairwise ?_ (pairwise_sorted definitions) (pairwise_sorted arranged)
  -- Two definitions that stand before one another have one identity, and so are one.
  intro a b here there before after
  refine List.inj_on_of_nodup_map distinct ((sorted_perm definitions).mem_iff.1 here) ?_
    (key_eq_of_order_eq (Std.OrientedCmp.isLE_antisymm before after))
  exact same.mem_iff.2 ((sorted_perm arranged).mem_iff.1 there)

end Definition

/-- Selections from definitions of distinct identities are alike whatever order these come in, but
for the order of those left out. -/
theorem Selection.ofDefinitions_perm {definitions arranged : List Definition}
    (distinct : (definitions.map Definition.key).Nodup) (same : definitions.Perm arranged) :
    (ofDefinitions definitions).formulas = (ofDefinitions arranged).formulas ∧
      (ofDefinitions definitions).inactive = (ofDefinitions arranged).inactive ∧
      (ofDefinitions definitions).incomplete = (ofDefinitions arranged).incomplete ∧
      (ofDefinitions definitions).nonLocal.Perm (ofDefinitions arranged).nonLocal := by
  simp only [ofDefinitions, List.partition_eq_filter_filter]
  -- Each part of the report is read off a part of the definitions, which only changes its order.
  have active := same.filter fun d => d.status.isActive
  have complete := active.filter Definition.isComplete
  refine ⟨?_, (same.filter _).length_eq, (active.filter _).length_eq, (complete.filter _).map _⟩
  refine Definition.sorted_eq_of_perm (distinct.sublist ?_) (complete.filter _)
  exact ((List.filter_sublist.trans List.filter_sublist).trans List.filter_sublist).map _

end CalcFields
