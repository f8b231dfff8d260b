import CalcFields.Text.CodeSet
import Mathlib.Algebra.Group.Nat.Defs
import Mathlib.Data.List.Basic

/-!
Ranges are apart when each ends no sooner than it starts and a gap parts it from the next one. Among
ranges that are apart the search by halving finds a code point exactly when one of them holds it.
-/

namespace CalcFields

/-- A code point is in a set when one of the ranges holds it. -/
def CodeSet.Has (set : CodeSet) (code : Nat) : Prop :=
  ∃ range ∈ set, range.holds code = true

/-- A range holds the code points from its first to its last. -/
theorem CodeRange.holds_iff {range : CodeRange} {code : Nat} :
    range.holds code = true ↔ range.first ≤ code ∧ code ≤ range.last := by
  -- The check asks for both bounds, one after the other.
  simp [holds]

/-- Ranges that are apart: none is empty or goes past the greatest code point, and between two of
them is at least one code point that neither holds. -/
structure Apart (ranges : List CodeRange) : Prop where
  ordered : ∀ range ∈ ranges, range.first ≤ range.last
  within : ∀ range ∈ ranges, range.last ≤ CodeSet.greatest
  parted : ranges.Pairwise fun a b => a.last + 1 < b.first

/-- Ranges are apart from a start on, as one pass over them finds out. -/
def apartFrom : Nat → List CodeRange → Bool
  | _, [] => true
  | start, range :: rest =>
    start ≤ range.first && range.first ≤ range.last && range.last ≤ CodeSet.greatest &&
      apartFrom (range.last + 2) rest

/-- The first of some ranges starts where they may, and the others are two further on. -/
theorem apartFrom_cons {start : Nat} {range : CodeRange} {rest : List CodeRange} :
    apartFrom start (range :: rest) = true ↔ start ≤ range.first ∧ range.first ≤ range.last ∧
      range.last ≤ CodeSet.greatest ∧ apartFrom (range.last + 2) rest = true := by
  -- The pass makes the four checks in this order.
  simp [apartFrom, and_assoc]

/-- What is apart from a start on is apart from an earlier one on. -/
theorem apartFrom_mono {start earlier : Nat} (le : earlier ≤ start) {ranges : List CodeRange}
    (apart : apartFrom start ranges = true) : apartFrom earlier ranges = true := by
  cases ranges with
  | nil => rfl
  | cons range rest =>
    -- Only the first range is measured against the start.
    rw [apartFrom_cons] at apart ⊢
    exact ⟨Nat.le_trans le apart.1, apart.2⟩

/-- The pass accepts the ranges that are apart and do not begin before the start. -/
theorem apartFrom_iff {start : Nat} {ranges : List CodeRange} :
    apartFrom start ranges = true ↔ Apart ranges ∧ ∀ range ∈ ranges, start ≤ range.first := by
  induction ranges generalizing start with
  | nil =>
    -- Without ranges there is nothing to check.
    refine iff_of_true rfl ⟨⟨?_, ?_, List.Pairwise.nil⟩, ?_⟩
    all_goals exact List.forall_mem_nil _
  | cons range rest ih =>
    rw [apartFrom_cons, ih]
    constructor
    · rintro ⟨low, ordered, within, apart, after⟩
      refine ⟨⟨?_, ?_, ?_⟩, ?_⟩
      · exact List.forall_mem_cons.2 ⟨ordered, apart.ordered⟩
      · exact List.forall_mem_cons.2 ⟨within, apart.within⟩
      · -- Everything after the first range starts two past its end.
        exact List.pairwise_cons.2 ⟨fun other member => after other member, apart.parted⟩
      · -- The others start even later than the first one.
        intro other member
        rcases List.mem_cons.1 member with rfl | member
        · exact low
        · have := after other member
          omega
    · rintro ⟨apart, low⟩
      obtain ⟨after, parted⟩ := List.pairwise_cons.1 apart.parted
      obtain ⟨ordered, orderedRest⟩ := List.forall_mem_cons.1 apart.ordered
      obtain ⟨within, withinRest⟩ := List.forall_mem_cons.1 apart.within
      refine ⟨low range List.mem_cons_self, ordered, within, ⟨orderedRest, withinRest, parted⟩, ?_⟩
      exact fun other member => after other member

/-- Ranges are apart when the pass from the least code point accepts them. -/
theorem apartFrom_zero_iff {ranges : List CodeRange} :
    apartFrom 0 ranges = true ↔ Apart ranges := by
  rw [apartFrom_iff]
  -- No range begins before the least code point.
  exact and_iff_left fun _ _ => Nat.zero_le _

/-- Each range takes up at least one code point and the gap after it another one. -/
theorem length_of_apartFrom {start : Nat} {ranges : List CodeRange}
    (apart : apartFrom start ranges = true) (low : start ≤ CodeSet.greatest + 2) :
    start + 2 * ranges.length ≤ CodeSet.greatest + 2 := by
  induction ranges generalizing start with
  | nil => exact low
  | cons range rest ih =>
    obtain ⟨first, ordered, within, apart⟩ := apartFrom_cons.1 apart
    -- The rest starts two past the end of this range, which is at most the greatest code point.
    have others := ih apart (by omega)
    rw [List.length_cons]
    omega

namespace Apart

/-- Ranges that are apart are few enough for the steps of a search. -/
theorem length_lt {ranges : List CodeRange} (apart : Apart ranges) : ranges.length < 2 ^ 32 := by
  have few := length_of_apartFrom (apartFrom_zero_iff.2 apart) (Nat.zero_le _)
  -- There are fewer code points than numbers of 32 bits.
  simp only [CodeSet.greatest] at few
  omega

variable {ranges : Array CodeRange} (apart : Apart ranges.toList)

include apart

/-- A range starts past the end of every range before it. -/
theorem last_lt_first {i j : Nat} (before : i < j) (within : j < ranges.size) :
    ranges[i].last < ranges[j].first := by
  -- Any two ranges are parted by a gap, whatever stands between them.
  have gap := List.pairwise_iff_getElem.1 apart.parted i j (by simp; omega) (by simp; omega) before
  simp only [Array.getElem_toList] at gap
  omega

/-- A range of an array ends no sooner than it starts. -/
theorem first_le_last {i : Nat} (within : i < ranges.size) :
    ranges[i].first ≤ ranges[i].last :=
  apart.ordered _ (Array.getElem_mem_toList within)

/-- A code point that comes before a range is held by none from that one on. -/
theorem lt_of_lt_first {code i j : Nat} (within : i < ranges.size) (other : j < ranges.size)
    (before : code < ranges[j].first) (reached : ranges[i].first ≤ code) : i < j := by
  by_contra beyond
  rcases Nat.lt_or_eq_of_le (Nat.not_lt.1 beyond) with after | rfl
  · -- A later range starts past the end of this one, which the code point does not even reach.
    have := apart.last_lt_first after within
    have := apart.first_le_last other
    omega
  · omega

/-- A code point that comes after a range is held by none up to that one. -/
theorem lt_of_last_lt {code i j : Nat} (within : i < ranges.size) (other : j < ranges.size)
    (past : ranges[j].last < code) (reached : code ≤ ranges[i].last) : j < i := by
  by_contra short
  rcases Nat.lt_or_eq_of_le (Nat.not_lt.1 short) with before | rfl
  · -- An earlier range ends before this one starts, and this one is already left behind.
    have := apart.last_lt_first before other
    have := apart.first_le_last other
    omega
  · omega

/-- A search by halving finds a code point exactly when a range between its bounds holds it, as long
as its steps suffice for the number of these ranges. -/
theorem searchRanges_iff {code : Nat} (steps : Nat) {low high : Nat} (bounded : high ≤ ranges.size)
    (enough : high - low < 2 ^ steps) :
    searchRanges ranges code steps low high = true ↔
      ∃ i, ∃ within : i < ranges.size,
        low ≤ i ∧ i < high ∧ ranges[i].first ≤ code ∧ code ≤ ranges[i].last := by
  -- A step goes on with one half of what lies between the bounds, so both of them stay free.
  induction steps generalizing low high with
  | zero =>
    -- When no steps are left, no range lies between the bounds.
    rw [searchRanges]
    refine iff_of_false Bool.false_ne_true ?_
    rintro ⟨i, -, above, below, -⟩
    omega
  | succ steps ih =>
    rw [searchRanges]
    split
    · -- Bounds that have met leave nothing between them.
      refine iff_of_false Bool.false_ne_true ?_
      rintro ⟨i, -, above, below, -⟩
      omega
    · have half : (low + high) / 2 < ranges.size := by omega
      rw [Nat.pow_succ] at enough
      simp only [Array.getElem?_eq_getElem half]
      split
      · rename_i before
        -- What the range in the middle starts after is not in the upper half.
        rw [ih (by omega) (by omega)]
        constructor
        · rintro ⟨i, within, above, below, holds⟩
          exact ⟨i, within, above, by omega, holds⟩
        · rintro ⟨i, within, above, below, first, last⟩
          exact ⟨i, within, above, apart.lt_of_lt_first within half before first, first, last⟩
      · split
        · rename_i past
          -- What the range in the middle ends before is not in the lower half.
          rw [ih bounded (by omega)]
          constructor
          · rintro ⟨i, within, above, below, holds⟩
            exact ⟨i, within, by omega, below, holds⟩
          · rintro ⟨i, within, above, below, first, last⟩
            exact ⟨i, within, apart.lt_of_last_lt within half past last, below, first, last⟩
        · -- What the range in the middle neither starts after nor ends before, it holds.
          exact iff_of_true rfl ⟨_, half, by omega, by omega, by omega, by omega⟩

end Apart

/-- A character is found in ranges that are apart exactly when one of them holds it. -/
theorem Apart.inRanges_iff {ranges : List CodeRange} (apart : Apart ranges) {c : Char} :
    inRanges ranges.toArray c = true ↔ CodeSet.Has ranges c.toNat := by
  -- Every table is short enough for the search to come to its end.
  have few : ranges.toArray.size < 2 ^ 32 := apart.length_lt
  have same : Apart ranges.toArray.toList := apart
  rw [inRanges, same.searchRanges_iff 32 (Nat.le_refl _) (by omega)]
  constructor
  · rintro ⟨i, within, -, -, holds⟩
    exact ⟨ranges[i], List.getElem_mem within, CodeRange.holds_iff.2 holds⟩
  · rintro ⟨range, member, holds⟩
    obtain ⟨i, within, rfl⟩ := List.getElem_of_mem member
    exact ⟨i, within, Nat.zero_le i, within, CodeRange.holds_iff.1 holds⟩

end CalcFields
