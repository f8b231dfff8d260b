import CalcFields.Proofs.Engine.Building
import CalcFields.Proofs.Engine.Selection

/-!
What is built from definitions of distinct identities is the same in whatever order they come and
whatever formulas were compiled before.
-/

namespace CalcFields

/-- What is reported of a definition whose formula does not compile. -/
def Definition.failure? (d : Definition) : Option Omission :=
  match Formula.compile d.formula with
  | .ok _ => none
  | .error e => some ⟨d.collection, d.field, e.message⟩

/-- A compilation reports the formulas that do not compile, in the order of their definitions. -/
theorem Compilation.failed_ofDefinitions (cache : FormulaCache) (definitions : List Definition) :
    (ofDefinitions cache definitions).failed = definitions.filterMap Definition.failure? := by
  refine foldl_add failed Definition.failure? (fun done d => ?_) _ definitions
  -- One definition adds what is reported of it, if anything.
  have same := done.cache.fst_compile d.formula
  rw [add, Definition.failure?, ← same]
  cases outcome : done.cache.compile d.formula with
  | mk result after => cases result <;> simp

/-- A snapshot holds the fields that its selection compiles to and tells of the rest, whatever its
formulas are compiled through. -/
theorem Snapshot.fst_ofSelection (selection : Selection) (cache : FormulaCache) :
    (ofSelection selection cache).1 =
      ⟨groupFields (selection.formulas.filterMap Definition.calculated?), selection.signature,
        ⟨(selection.formulas.filterMap Definition.calculated?).length, selection.inactive,
          selection.incomplete, selection.nonLocal,
          selection.formulas.filterMap Definition.failure?⟩⟩ := by
  simp only [ofSelection, Compilation.fields_ofDefinitions, Compilation.failed_ofDefinitions]

/-- Two snapshots agree when they differ at most in the order of the definitions that are left out
as not local. Graphs, orders, cycles and levels are functions of the collections. -/
structure Snapshot.Agrees (first second : Snapshot) : Prop where
  collections : first.collections = second.collections
  signature : first.signature = second.signature
  loaded : first.report.loaded = second.report.loaded
  inactive : first.report.inactive = second.report.inactive
  incomplete : first.report.incomplete = second.report.incomplete
  nonLocal : first.report.nonLocal.Perm second.report.nonLocal
  failed : first.report.failed = second.report.failed

/-- Snapshots of definitions of distinct identities agree in whatever order the definitions come and
through whatever caches they are compiled. -/
theorem Snapshot.build_agrees {definitions arranged : List Definition}
    (distinct : (definitions.map Definition.key).Nodup) (same : definitions.Perm arranged)
    (cache other : FormulaCache) :
    (build definitions cache).1.Agrees (build arranged other).1 := by
  obtain ⟨formulas, inactive, incomplete, nonLocal⟩ := Selection.ofDefinitions_perm distinct same
  rw [build, build, fst_ofSelection, fst_ofSelection]
  -- All but the definitions left out is told from the selected ones, which are sorted alike.
  exact {
    collections := by rw [formulas]
    signature := by rw [Selection.signature, Selection.signature, formulas]
    loaded := by rw [formulas]
    inactive := inactive
    incomplete := incomplete
    nonLocal := nonLocal
    failed := by rw [formulas] }

/-- Definitions of which some are left out, and one does not compile. -/
def assorted : List Definition :=
  [⟨"orders", "total", "\x7b\x7bnet\x7d\x7d", .published, none, none⟩,
    ⟨"orders", "net", "\x7b\x7bprice\x7d\x7d", .published, some 1, none⟩,
    ⟨"orders", "open", "(", .published, none, none⟩,
    ⟨"orders", "city", "\x7b\x7bclient.city\x7d\x7d", .published, none, none⟩,
    ⟨"orders", "old", "1", .archived, none, none⟩]

/-- Snapshots agree of definitions and of the same ones the other way round, where a formula of
theirs was compiled before. -/
theorem Snapshot.build_agrees_reversed :
    (build assorted .empty).1.Agrees
      (build assorted.reverse (FormulaCache.empty.compile "\x7b\x7bnet\x7d\x7d").2).1 :=
  build_agrees (by decide) (List.reverse_perm assorted).symm _ _

end CalcFields
