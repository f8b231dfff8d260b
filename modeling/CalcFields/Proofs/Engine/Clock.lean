import CalcFields.Proofs.Engine.Solution

/-! Without a formula that asks the time, a pass computes the same at all clocks. -/

namespace CalcFields

namespace CollectionFormulas

variable {formulas : CollectionFormulas}

/-- A collection is timeless when none of its formulas asks the time. -/
def Timeless (formulas : CollectionFormulas) : Prop :=
  ∀ f ∈ formulas.calculated, f.formula.expr.Timeless

namespace Timeless

/-- The turn of a field of a timeless collection is the same at all clocks. -/
theorem step (timeless : formulas.Timeless) (record : Record) (now later : Instant) :
    Pass.step formulas record now = Pass.step formulas record later := by
  funext pass field
  unfold Pass.step
  cases found : formulas.fields.get? field with
  | none => rfl
  | some f =>
    -- A field that is found is one of the collection's, so its formula asks for no time.
    rw [get?_fields] at found
    have member : f ∈ formulas.calculated := List.mem_reverse.1 (List.mem_of_find?_eq_some found)
    have same : f.formula.eval (pass.environment record now) =
        f.formula.eval (pass.environment record later) :=
      Formula.eval_timeless (timeless f member) _ now later
    show pass.evaluate record now f = pass.evaluate record later f
    rw [Pass.evaluate, Pass.evaluate, same]

/-- A pass over a timeless collection is the same at all clocks. -/
theorem passOver (timeless : formulas.Timeless) (record : Record) (now later : Instant)
    (schedule : List String) :
    formulas.passOver record now schedule = formulas.passOver record later schedule := by
  rw [CollectionFormulas.passOver, CollectionFormulas.passOver, timeless.step record now later]

/-- A timeless collection is recomputed alike at all clocks. -/
theorem recompute (timeless : formulas.Timeless) (record : Record)
    (changed targets : Option (List String)) (now later : Instant) :
    formulas.recompute record changed targets now =
      formulas.recompute record changed targets later :=
  congrArg Pass.outcome (timeless.passOver record now later _)

end Timeless

end CollectionFormulas

end CalcFields
