import CalcFields.Formula.Eval
import CalcFields.Formula.Parser
import CalcFields.Formula.Scope

/-! A formula is a text that compiles, with its tree, ready to be evaluated on records. -/

namespace CalcFields

/-- A text with the tree that it compiles to. -/
structure Formula where
  source : String
  expr : Expr
  parsed : parse source = .ok expr

namespace Formula

/-- Compiles a text, or says why it does not compile. -/
def compile (source : String) : Except CompileError Formula :=
  match parsed : parse source with
  | .ok expr => .ok ⟨source, expr, parsed⟩
  | .error fault => .error ⟨source, fault⟩

/-- A text that compiles gives a formula of that text, which is its only one. -/
theorem compile_eq_ok_iff {source : String} {f : Formula} :
    compile source = .ok f ↔ f.source = source := by
  constructor
  · -- What is compiled from a text carries that text.
    intro compiled
    unfold compile at compiled
    split at compiled
    · cases compiled
      rfl
    · cases compiled
  · rintro rfl
    obtain ⟨source, expr, parsed⟩ := f
    unfold compile
    -- The text has one outcome, so that no other tree can come from it.
    split
    · rename_i other again
      cases again.symm.trans parsed
      rfl
    · -- A text that parses does not also fail.
      rename_i fault failed
      cases failed.symm.trans parsed

/-- The fields of the same record that a formula refers to. -/
def dependencies (f : Formula) : List String := extractDependencies f.source

/-- The value of a formula in an environment. -/
def eval (f : Formula) (env : Environment) : Except EvalError Value := f.expr.eval env

end Formula

/-- The outcome of trying a formula on one record. -/
structure Validation where
  /-- The value, or the message of what went wrong. -/
  outcome : Except String Value
  fields : List String
  isLocal : Bool

namespace Validation

/-- Compiles a text and evaluates it on a record. -/
def ofFormula (text : String) (sample : Record) (now : Instant) : Validation :=
  let outcome :=
    match Formula.compile text with
    | .error e => .error e.message
    | .ok f =>
      match f.eval (.ofRecord sample now) with
      | .error e => .error e.message
      | .ok v => .ok v
  ⟨outcome, extractDependencies text, CalcFields.isLocal text⟩

/-- What a validation says in one line. -/
def message (validation : Validation) : String :=
  match validation.outcome with
  | .error text => "Formula error: " ++ text
  | .ok v =>
    (if validation.isLocal then "Formula is valid (local). Result: "
      else "Formula is valid but requires full engine (uses relations/aggregations). Result: ") ++
      v.display

end Validation

end CalcFields
