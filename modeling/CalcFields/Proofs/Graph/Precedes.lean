import Mathlib.Data.List.Nodup

/-! One name precedes another where both stand in a list in this order. -/

namespace CalcFields

/-- Some place of a name in a list is before some place of another. -/
def Precedes (names : List String) (first second : String) : Prop :=
  [first, second].Sublist names

namespace Precedes

variable {names rest : List String} {first second name : String}

/-- A name in a list precedes one that is put at its end. -/
theorem append_last (member : first ∈ names) (last : String) :
    Precedes (names ++ [last]) first last :=
  (List.singleton_sublist.2 member).append (List.Sublist.refl [last])

/-- Names keep their order when others are put behind them. -/
theorem append (precedes : Precedes names first second) (more : List String) :
    Precedes (names ++ more) first second :=
  List.Sublist.trans precedes (List.sublist_append_left names more)

/-- Names keep their order when others are left out. -/
theorem filter {keep : String → Bool} (precedes : Precedes names first second)
    (left : keep first = true) (right : keep second = true) :
    Precedes (names.filter keep) first second := by
  -- The two names are a part of the list that the test leaves whole.
  have both := List.Sublist.filter keep precedes
  rwa [List.filter_cons_of_pos left, List.filter_cons_of_pos right] at both

/-- A name behind another is in the rest of a list without its first name. -/
theorem second_mem_rest (precedes : Precedes (name :: rest) first second) : second ∈ rest := by
  cases precedes with
  -- Both stand in the rest, or the first name is the head and the second one stands in the rest.
  | cons _ later => exact later.subset (by simp)
  | cons_cons _ later => exact later.subset (by simp)

/-- Two names keep their order in the rest of a list when it starts with neither. -/
theorem of_cons (precedes : Precedes (name :: rest) first second) (differ : first ≠ name) :
    Precedes rest first second := by
  -- The first field cannot be taken from the front.
  cases precedes with
  | cons _ later => exact later
  | cons_cons _ _ => exact absurd rfl differ

/-- In a list without repetition a name that precedes another one stands in front of it. -/
theorem mem_front {front back : List String}
    (precedes : Precedes (front ++ second :: back) first second)
    (distinct : (front ++ second :: back).Nodup) : first ∈ front := by
  induction front with
  | nil =>
    -- With nothing in front, the second name would stand at another place as well.
    exact absurd precedes.second_mem_rest (List.nodup_cons.1 distinct).1
  | cons name front ih =>
    by_cases here : first = name
    · exact here ▸ List.mem_cons_self
    · exact List.mem_cons_of_mem name (ih (precedes.of_cons here) (List.nodup_cons.1 distinct).2)

/-- In a list without repetition the place of a name is before the place of one it precedes. -/
theorem idxOf_lt (precedes : Precedes names first second) (distinct : names.Nodup) :
    names.idxOf first < names.idxOf second := by
  induction names with
  | nil => cases precedes
  | cons name rest ih =>
    obtain ⟨fresh, restDistinct⟩ := List.nodup_cons.1 distinct
    -- The second name is further on, and the first one is here or further on before it.
    have behind := precedes.second_mem_rest
    have later : name ≠ second := fun same => fresh (same ▸ behind)
    rw [List.idxOf_cons_ne rest later]
    by_cases here : first = name
    · rw [here, List.idxOf_cons_self]
      exact Nat.succ_pos _
    -- Both places are those in the rest, one further.
    · rw [List.idxOf_cons_ne rest (Ne.symm here)]
      exact Nat.succ_lt_succ (ih (precedes.of_cons here) restDistinct)

end Precedes

end CalcFields
