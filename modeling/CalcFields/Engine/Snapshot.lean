import CalcFields.Engine.Selection
import CalcFields.Formula.Cache
import CalcFields.Graph.Analysis

/-!
A snapshot holds the compiled formulas of every collection from one load of definitions. What does
not compile is reported and left out.
-/

namespace CalcFields

/-- A definition with its compiled formula. -/
structure CalculatedField where
  definition : Definition
  formula : Formula
  same : formula.source = definition.formula

namespace CalculatedField

/-- The name of the field. -/
def name (f : CalculatedField) : String := f.definition.field

/-- The node of the field in the dependency graph. -/
def node (f : CalculatedField) : FieldNode :=
  ⟨f.name, f.definition.formula, f.formula.dependencies⟩

end CalculatedField

/-- The calculated fields of one collection in the order of their definitions; of several that share
a name the last one counts. -/
structure CollectionFormulas where
  name : String
  calculated : List CalculatedField

namespace CollectionFormulas

/-- The fields by name. -/
def fields (formulas : CollectionFormulas) : FieldMap CalculatedField :=
  .ofList (formulas.calculated.map fun f => (f.name, f))

/-- What the fields read of one another. -/
def graph (formulas : CollectionFormulas) : DependencyGraph :=
  .ofList (formulas.calculated.map CalculatedField.node)

/-- The order of calculation with the cycles and levels. -/
def analysis (formulas : CollectionFormulas) : Analysis :=
  formulas.graph.analysis

/-- The number of fields. -/
def size (formulas : CollectionFormulas) : Nat :=
  formulas.fields.size

end CollectionFormulas

/-- What a load kept and what it left out. -/
structure LoadReport where
  loaded : Nat
  inactive : Nat
  incomplete : Nat
  nonLocal : List Omission
  /-- Definitions whose formulas do not compile. -/
  failed : List Omission

/-- The report of a load of nothing. -/
def LoadReport.blank : LoadReport := ⟨0, 0, 0, [], []⟩

/-- The compiled formulas of every collection, with the signature of their selection. -/
structure Snapshot where
  collections : FieldMap CollectionFormulas
  signature : String
  report : LoadReport

/-- The parts of a selection after compilation. -/
structure Compilation where
  fields : List CalculatedField
  failed : List Omission
  cache : FormulaCache

namespace Compilation

/-- A definition with the formula of its text. -/
def pair (d : Definition) (f : Formula) : Option CalculatedField :=
  if same : f.source = d.formula then some ⟨d, f, same⟩ else none

/-- Compiles one more definition through the cache. -/
def add (done : Compilation) (d : Definition) : Compilation :=
  match done.cache.compile d.formula with
  | (.ok f, cache) => ⟨done.fields ++ (pair d f).toList, done.failed, cache⟩
  | (.error e, cache) =>
    ⟨done.fields, done.failed ++ [⟨d.collection, d.field, e.message⟩], cache⟩

/-- Compiles definitions one after the other. -/
def ofDefinitions (cache : FormulaCache) (definitions : List Definition) : Compilation :=
  definitions.foldl add ⟨[], [], cache⟩

end Compilation

/-- Fields by collection, each group in the order in which its fields come. -/
def groupFields (fields : List CalculatedField) : FieldMap CollectionFormulas :=
  fields.foldl (fun groups f =>
    groups.alter f.definition.collection fun held =>
      match held with
      | some formulas => { formulas with calculated := formulas.calculated ++ [f] }
      | none => ⟨f.definition.collection, [f]⟩) .empty

namespace Snapshot

/-- The snapshot of nothing, which has no signature. -/
def blank : Snapshot := ⟨.empty, "", .blank⟩

/-- The snapshot of a selection, compiled through a cache. -/
def ofSelection (selection : Selection) (cache : FormulaCache) : Snapshot × FormulaCache :=
  let done := Compilation.ofDefinitions cache selection.formulas
  let report : LoadReport := ⟨done.fields.length, selection.inactive, selection.incomplete,
    selection.nonLocal, done.failed⟩
  (⟨groupFields done.fields, selection.signature, report⟩, done.cache)

/-- The snapshot of definitions, compiled through a cache. -/
def build (definitions : List Definition) (cache : FormulaCache) : Snapshot × FormulaCache :=
  ofSelection (.ofDefinitions definitions) cache

/-- The formulas of a collection. -/
def collection? (snapshot : Snapshot) (name : String) : Option CollectionFormulas :=
  snapshot.collections.get? name

/-- The number of fields of all collections. -/
def size (snapshot : Snapshot) : Nat :=
  snapshot.collections.values.foldl (fun total formulas => total + formulas.size) 0

end Snapshot

end CalcFields
