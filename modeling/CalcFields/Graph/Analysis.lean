import CalcFields.Graph.Reach
import CalcFields.Graph.Walk

/-!
The analysis of a graph gives its order, its cycles and the level of each field, which is the length
of the longest chain of calculated fields that it reads.
-/

namespace CalcFields

/-- The order of the calculated fields, the cycles among them and their levels. -/
structure Analysis where
  order : List String
  cycles : List (List String)
  levels : FieldMap Nat

namespace DependencyGraph

/-- The level of a field is one more than the greatest level that it reads, and zero when it reads
no field that has one. -/
def levelAbove (levels : FieldMap Nat) (dependencies : List String) : Nat :=
  ((dependencies.filterMap levels.get?).map (· + 1)).foldl max 0

/-- The levels of the fields of an order, each set from those before it. -/
def levels (graph : DependencyGraph) (order : List String) : FieldMap Nat :=
  order.foldl (fun levels field =>
    levels.insert field (levelAbove levels (graph.dependencies field))) .empty

/-- The analysis of a graph. -/
def analysis (graph : DependencyGraph) : Analysis :=
  ⟨graph.order, graph.cycles, graph.levels graph.order⟩

end DependencyGraph

namespace Analysis

/-- Some field was met again on the path to it. -/
def hasCycles (analysis : Analysis) : Bool :=
  !analysis.cycles.isEmpty

/-- The fields on the cycles that were met, in order. -/
def cyclicFields (analysis : Analysis) : List String :=
  sortedNames analysis.cycles.flatten

/-- One line for each cycle, which ends with the field that it starts with. -/
def cycleWarnings (analysis : Analysis) : List String :=
  analysis.cycles.map fun cycle => " → ".intercalate (cycle ++ cycle.take 1)

end Analysis

end CalcFields
