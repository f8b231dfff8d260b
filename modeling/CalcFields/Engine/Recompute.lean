import CalcFields.Engine.Snapshot
import CalcFields.Value.Change

/-!
A pass evaluates scheduled fields on one record, each on what the pass has computed before it laid
over the record. A field that fails is passed over and keeps its stored value; a value that says the
same as the stored one is no update.
-/

namespace CalcFields

/-- A field whose formula failed. -/
structure FieldError where
  field : String
  error : EvalError

/-- The outcome of a pass: new values that differ, the fields evaluated and those that failed. -/
structure Outcome where
  updates : Record
  evaluated : List String
  errors : List FieldError

namespace Outcome

/-- The outcome of evaluating nothing. -/
def blank : Outcome := ⟨.empty, [], []⟩

/-- Some value differs from the stored one. -/
def hasChanges (outcome : Outcome) : Bool :=
  !outcome.updates.isEmpty

end Outcome

/-- The state of a pass: the values computed so far, and the outcome so far. -/
structure Pass where
  computed : Record
  outcome : Outcome

namespace Pass

/-- What a formula sees during a pass: computed values in front of the record. -/
def environment (pass : Pass) (record : Record) (now : Instant) : Environment :=
  ⟨fun name => pass.computed.get? name <|> record.get? name, now⟩

/-- A value is an update when it differs from the stored one. -/
def withUpdate (updates record : Record) (field : String) (v : Value) : Record :=
  if (record.field field).equivalent v then updates else updates.insert field v

/-- Evaluates one field. -/
def evaluate (pass : Pass) (record : Record) (now : Instant) (f : CalculatedField) : Pass :=
  let outcome := pass.outcome
  let evaluated := outcome.evaluated ++ [f.name]
  match f.formula.eval (pass.environment record now) with
  | .ok v =>
    let stored := v.storable
    ⟨pass.computed.insert f.name stored,
      ⟨withUpdate outcome.updates record f.name stored, evaluated, outcome.errors⟩⟩
  | .error e =>
    ⟨pass.computed, ⟨outcome.updates, evaluated, outcome.errors ++ [⟨f.name, e⟩]⟩⟩

/-- Evaluates the field of a name, if there is one. -/
def step (formulas : CollectionFormulas) (record : Record) (now : Instant) (pass : Pass)
    (field : String) : Pass :=
  match formulas.fields.get? field with
  | some f => pass.evaluate record now f
  | none => pass

end Pass

namespace CollectionFormulas

/-- The fields that a pass evaluates: all in their order, or those that changes touch, and of them
the ones that the targets need. -/
def schedule (formulas : CollectionFormulas) (changed targets : Option (List String)) :
    List String :=
  let order := formulas.analysis.order
  let touched :=
    match changed with
    | some names => formulas.graph.narrowed order names
    | none => order
  match targets with
  | some names =>
    let needed := formulas.graph.closure names
    touched.filter needed.contains
  | none => touched

/-- The pass over a schedule. -/
def passOver (formulas : CollectionFormulas) (record : Record) (now : Instant)
    (schedule : List String) : Pass :=
  schedule.foldl (Pass.step formulas record now) ⟨.empty, .blank⟩

/-- The outcome of the pass that changes and targets ask for. -/
def recompute (formulas : CollectionFormulas) (record : Record)
    (changed targets : Option (List String)) (now : Instant) : Outcome :=
  (formulas.passOver record now (formulas.schedule changed targets)).outcome

end CollectionFormulas

/-- The outcome of a pass over a record of a collection, blank when it has no formulas. -/
def Snapshot.recompute (snapshot : Snapshot) (collection : String) (record : Record)
    (changed targets : Option (List String)) (now : Instant) : Outcome :=
  match snapshot.collection? collection with
  | some formulas => formulas.recompute record changed targets now
  | none => .blank

end CalcFields
