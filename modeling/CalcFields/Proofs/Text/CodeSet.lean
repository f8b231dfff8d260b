import CalcFields.Proofs.Text.Ranges

/-!
The operations on sets of code points keep their ranges apart, whatever ranges they are given, and
have the code points that their names say.
-/

namespace CalcFields

namespace CodeSet

/-- Ranges that a set can be made of: none is empty or goes past the greatest code point. -/
def Proper (ranges : List CodeRange) : Prop :=
  ∀ range ∈ ranges, range.first ≤ range.last ∧ range.last ≤ greatest

/-- Nothing is in the set without ranges. -/
theorem has_nil {code : Nat} : ¬ Has [] code := by
  rintro ⟨range, member, -⟩
  cases member

/-- What is in a set is in its first range or in the others. -/
theorem has_cons {range : CodeRange} {rest : List CodeRange} {code : Nat} :
    Has (range :: rest) code ↔ (range.first ≤ code ∧ code ≤ range.last) ∨ Has rest code := by
  simp only [Has, List.exists_mem_cons_iff, CodeRange.holds_iff]

/-- What is in two lists of ranges is in one of them. -/
theorem has_append {a b : List CodeRange} {code : Nat} :
    Has (a ++ b) code ↔ Has a code ∨ Has b code := by
  simp only [Has, List.mem_append, or_and_right, exists_or]

/-- Ranges that are apart are proper. -/
theorem proper_of_apart {ranges : List CodeRange} (apart : Apart ranges) : Proper ranges :=
  fun range member => ⟨apart.ordered range member, apart.within range member⟩

/-- Proper ranges are a proper one and further ones. -/
theorem proper_cons {range : CodeRange} {rest : List CodeRange} : Proper (range :: rest) ↔
    (range.first ≤ range.last ∧ range.last ≤ greatest) ∧ Proper rest :=
  List.forall_mem_cons

/-- What is in proper ranges is a code point. -/
theorem Proper.le_greatest {ranges : List CodeRange} (proper : Proper ranges) {code : Nat}
    (has : Has ranges code) : code ≤ greatest := by
  obtain ⟨range, member, holds⟩ := has
  exact Nat.le_trans (CodeRange.holds_iff.1 holds).2 (proper range member).2

/-- Two lists of proper ranges make one. -/
theorem Proper.append {a b : List CodeRange} (left : Proper a) (right : Proper b) :
    Proper (a ++ b) := by
  -- Every range is one of the first or one of the second.
  intro range member
  rcases List.mem_append.1 member with member | member
  · exact left range member
  · exact right range member

section Join

/-- Joining keeps the code points of ranges that start in order. -/
theorem has_joinFrom {range : CodeRange} {rest : List CodeRange}
    (sorted : (range :: rest).Pairwise fun a b => a.first ≤ b.first) {code : Nat} :
    Has (joinFrom range rest) code ↔ Has (range :: rest) code := by
  -- The range grows as it takes others in, so it stays free.
  induction rest generalizing range with
  | nil => rw [joinFrom]
  | cons next rest ih =>
    obtain ⟨below, sorted⟩ := List.pairwise_cons.1 sorted
    obtain ⟨belowNext, belowRest⟩ := List.forall_mem_cons.1 below
    rw [joinFrom]
    split
    · have grown : (⟨range.first, max range.last next.last⟩ :: rest).Pairwise
          fun a b => a.first ≤ b.first :=
        List.pairwise_cons.2 ⟨belowRest, (List.pairwise_cons.1 sorted).2⟩
      -- The next range starts within this one or right after it, so nothing lies between them.
      have joined : (range.first ≤ code ∧ code ≤ max range.last next.last) ↔
          (range.first ≤ code ∧ code ≤ range.last) ∨ (next.first ≤ code ∧ code ≤ next.last) := by
        omega
      rw [ih grown, has_cons, has_cons, has_cons, joined, or_assoc]
    · rw [has_cons, ih sorted, @has_cons range]

/-- Joining parts proper ranges that start in order. -/
theorem apartFrom_joinFrom {start : Nat} {range : CodeRange} {rest : List CodeRange}
    (low : start ≤ range.first) (proper : Proper (range :: rest))
    (sorted : (range :: rest).Pairwise fun a b => a.first ≤ b.first) :
    apartFrom start (joinFrom range rest) = true := by
  induction rest generalizing start range with
  | nil =>
    obtain ⟨ordered, within⟩ := proper range List.mem_cons_self
    rw [joinFrom, apartFrom_cons]
    exact ⟨low, ordered, within, rfl⟩
  | cons next rest ih =>
    obtain ⟨⟨ordered, within⟩, properRest⟩ := proper_cons.1 proper
    obtain ⟨⟨orderedNext, withinNext⟩, properOthers⟩ := proper_cons.1 properRest
    obtain ⟨below, sortedRest⟩ := List.pairwise_cons.1 sorted
    rw [joinFrom]
    split
    · -- The joined range starts where this one does, and the others start no sooner.
      refine ih ?_ ?_ ?_
      · exact low
      · refine proper_cons.2 ⟨⟨?_, ?_⟩, properOthers⟩
        · exact Nat.le_trans ordered (Nat.le_max_left _ _)
        · exact Nat.max_le.2 ⟨within, withinNext⟩
      · apply List.pairwise_cons.2
        refine ⟨?_, (List.pairwise_cons.1 sortedRest).2⟩
        exact fun other member => below other (List.mem_cons_of_mem _ member)
    · -- A range that does not touch the next one is left behind, with a gap after it.
      rw [apartFrom_cons]
      exact ⟨low, ordered, within, ih (by omega) properRest sortedRest⟩

/-- A range that holds later ones swallows them all. -/
example : join [⟨0, 100⟩, ⟨5, 6⟩, ⟨50, 60⟩] = [⟨0, 100⟩] := by decide

variable (ranges : List CodeRange)

/-- The ranges of a set are joined in the order of their starts. -/
theorem sorted_mergeSort_first :
    (ranges.mergeSort fun a b => decide (a.first ≤ b.first)).Pairwise
      fun a b => a.first ≤ b.first := by
  -- The order is by first code points alone, which is total.
  have trans (a b c : CodeRange) (ab : decide (a.first ≤ b.first) = true)
      (bc : decide (b.first ≤ c.first) = true) : decide (a.first ≤ c.first) = true :=
    decide_eq_true (Nat.le_trans (of_decide_eq_true ab) (of_decide_eq_true bc))
  have total (a b : CodeRange) :
      (decide (a.first ≤ b.first) || decide (b.first ≤ a.first)) = true := by
    simpa using Nat.le_total a.first b.first
  exact (List.pairwise_mergeSort trans total ranges).imp of_decide_eq_true

/-- The set of some ranges has the code points of the ranges. -/
theorem has_ofRanges {code : Nat} : Has (ofRanges ranges) code ↔ Has ranges code := by
  have same : Has (ranges.mergeSort fun a b => decide (a.first ≤ b.first)) code ↔
      Has ranges code := by
    -- Sorting changes the order alone.
    simp only [Has, List.mem_mergeSort]
  have sorted := sorted_mergeSort_first ranges
  rw [ofRanges, ← same]
  cases ordered : ranges.mergeSort fun a b => decide (a.first ≤ b.first) with
  | nil => rw [join]
  | cons range rest =>
    rw [ordered] at sorted
    rw [join, has_joinFrom sorted]

variable {ranges}

/-- The set of proper ranges in any order has its ranges apart. -/
theorem apart_ofRanges (proper : Proper ranges) : Apart (ofRanges ranges) := by
  have sorted := sorted_mergeSort_first ranges
  have kept : Proper (ranges.mergeSort fun a b => decide (a.first ≤ b.first)) :=
    fun range member => proper range (List.mem_mergeSort.1 member)
  rw [← apartFrom_zero_iff, ofRanges]
  -- Joining sorted ranges leaves gaps between them.
  cases ordered : ranges.mergeSort fun a b => decide (a.first ≤ b.first) with
  | nil => rfl
  | cons range rest =>
    rw [ordered] at sorted kept
    exact apartFrom_joinFrom (Nat.zero_le _) kept sorted

end Join

section Complement

/-- The gaps of a set from a start on have what the set leaves out from there on. -/
theorem has_gaps {start : Nat} {set : CodeSet} (apart : apartFrom start set = true) {code : Nat} :
    Has (gaps start set) code ↔ start ≤ code ∧ code ≤ greatest ∧ ¬ Has set code := by
  induction set generalizing start with
  | nil =>
    -- Past the last range everything is left out, unless it ends with the greatest code point.
    rw [gaps]
    split
    · simp [has_cons, has_nil]
    · simp only [has_nil, not_false_eq_true, and_true, false_iff]
      omega
  | cons range rest ih =>
    obtain ⟨low, ordered, within, apart⟩ := apartFrom_cons.1 apart
    have others := ih (apartFrom_mono (Nat.le_succ _) apart)
    -- The ranges after this one hold nothing up to the end of it.
    have beyond : Has rest code → range.last < code := by
      rintro ⟨other, member, holds⟩
      have := (apartFrom_iff.1 apart).2 other member
      have := (CodeRange.holds_iff.1 holds).1
      omega
    rw [gaps, has_cons]
    split
    · -- The gap in front of this range comes first.
      rw [has_cons, others]
      by_cases held : Has rest code
      · have := beyond held
        simp only [held, not_true_eq_false, and_false, or_true, or_false, iff_false]
        omega
      · simp only [held, not_false_eq_true, and_true, or_false]
        omega
    · rw [others]
      by_cases held : Has rest code
      · simp [held]
      · simp only [held, not_false_eq_true, and_true, or_false]
        omega

/-- The gaps of a set are apart. -/
theorem apartFrom_gaps {start : Nat} {set : CodeSet} (apart : apartFrom start set = true) :
    apartFrom start (gaps start set) = true := by
  induction set generalizing start with
  | nil =>
    rw [gaps]
    split
    · -- Behind the last range there is one gap more, up to the greatest code point.
      rename_i room
      exact apartFrom_cons.2 ⟨Nat.le_refl _, room, Nat.le_refl _, rfl⟩
    · rfl
  | cons range rest ih =>
    obtain ⟨low, ordered, within, apart⟩ := apartFrom_cons.1 apart
    have others := ih (apartFrom_mono (Nat.le_succ _) apart)
    rw [gaps]
    split
    · -- This range lies between its own gap and the next one.
      refine apartFrom_cons.2 ⟨Nat.le_refl _, ?_, ?_, apartFrom_mono ?_ others⟩
      all_goals simp only
      all_goals omega
    · exact apartFrom_mono (by omega) others

variable {set : CodeSet} (apart : Apart set)

include apart

/-- A complement has the code points that are not in the set. -/
theorem has_complement {code : Nat} :
    Has set.complement code ↔ code ≤ greatest ∧ ¬ Has set code := by
  rw [complement, has_gaps (apartFrom_zero_iff.2 apart)]
  exact and_iff_right (Nat.zero_le code)

/-- A complement has its ranges apart. -/
theorem apart_complement : Apart set.complement :=
  apartFrom_zero_iff.1 (apartFrom_gaps (apartFrom_zero_iff.2 apart))

end Complement

section Two

variable {a b : CodeSet} (left : Apart a) (right : Apart b) {code : Nat}

/-- A union has the code points of either set. -/
theorem has_union : Has (a.union b) code ↔ Has a code ∨ Has b code := by
  rw [union, has_ofRanges, has_append]

include left right

/-- A union has its ranges apart. -/
theorem apart_union : Apart (a.union b) :=
  apart_ofRanges ((proper_of_apart left).append (proper_of_apart right))

/-- An intersection has its ranges apart. -/
theorem apart_inter : Apart (a.inter b) :=
  apart_complement (apart_union (apart_complement left) (apart_complement right))

/-- An intersection has the code points of both sets. -/
theorem has_inter : Has (a.inter b) code ↔ Has a code ∧ Has b code := by
  have outside := apart_union (apart_complement left) (apart_complement right)
  rw [inter, has_complement outside, has_union, has_complement left, has_complement right]
  -- A member of either set is a code point, so that leaving both complements is no more than that.
  have point : Has a code → code ≤ greatest := (proper_of_apart left).le_greatest
  tauto

/-- A difference has its ranges apart. -/
theorem apart_diff : Apart (a.diff b) :=
  apart_inter left (apart_complement right)

/-- A difference has the code points of the first set that are not in the second. -/
theorem has_diff : Has (a.diff b) code ↔ Has a code ∧ ¬ Has b code := by
  -- A difference is what the set has in common with the complement of the other.
  rw [diff, has_inter left (apart_complement right), has_complement right]
  have point : Has a code → code ≤ greatest := (proper_of_apart left).le_greatest
  tauto

/-- A symmetric difference has its ranges apart. -/
theorem apart_symmDiff : Apart (a.symmDiff b) :=
  apart_union (apart_diff left right) (apart_diff right left)

/-- A symmetric difference has the code points of exactly one of the sets. -/
theorem has_symmDiff : Has (a.symmDiff b) code ↔ ¬ (Has a code ↔ Has b code) := by
  -- It is the union of the two differences.
  rw [symmDiff, has_union, has_diff left right, has_diff right left]
  tauto

end Two

end CodeSet

end CalcFields
