import CalcFields.Text.CodeSet
import CalcFields.Text.LetterCase

/-! Case folding groups the characters that match one another in any letter case. -/

namespace CalcFields

/-- The runs of simple case folding. -/
def foldRuns : List CaseRun := caseRuns foldLines

/-- The code points of a run with the code points that they fold to. -/
def CaseRun.pairs (run : CaseRun) : List (Nat × Nat) :=
  (List.range ((run.last + 1 - run.first + run.step - 1) / run.step)).flatMap fun i =>
    run.image.map fun image => (run.first + i * run.step, image + i * run.step)

/-- Gathers the code points that stand next to one another with one folding. -/
def gatherFolds : List (Nat × Nat) → List (List Nat)
  | [] => []
  | (code, folded) :: rest =>
    match rest, gatherFolds rest with
    | (_, next) :: _, group :: groups =>
      if next == folded then (code :: group) :: groups else [code, folded] :: group :: groups
    | _, groups => [code, folded] :: groups

/-- The groups of code points that match one another in any letter case. -/
def foldGroups : List (List Nat) :=
  gatherFolds ((foldRuns.flatMap CaseRun.pairs).mergeSort fun a b => decide (a.2 ≤ b.2))

/-- A set with every code point that matches one of its own in another letter case. -/
def CodeSet.foldClosure (set : CodeSet) : CodeSet :=
  let ranges := set.toArray
  let holds (code : Nat) : Bool := searchRanges ranges code 32 0 ranges.size
  let more := (foldGroups.filter (·.any holds)).flatten
  if more.isEmpty then set else CodeSet.ofRanges (set ++ more.map fun code => ⟨code, code⟩)

end CalcFields
