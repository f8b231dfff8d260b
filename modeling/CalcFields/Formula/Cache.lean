import CalcFields.Formula.Compiled

/-!
A cache keeps compiled formulas under their texts. Texts that do not compile are not kept, so that
what the cache gives is what compiling anew would give.
-/

namespace CalcFields

/-- The formulas compiled so far, each under its own text. -/
structure FormulaCache where
  entries : FieldMap Formula
  keyed : ∀ source f, entries.get? source = some f → f.source = source

/-- A formula that does not compile, or that fails on a record. -/
inductive FormulaError where
  | compile (e : CompileError)
  | eval (formula : String) (e : EvalError)

/-- The message of a failure; one of evaluation names the formula. -/
def FormulaError.message : FormulaError → String
  | compile e => e.message
  | eval formula e => "Error evaluating formula `" ++ formula ++ "`: " ++ e.message

namespace FormulaCache

/-- The cache that holds nothing. -/
def empty : FormulaCache := ⟨.empty, fun _ _ found => nomatch found⟩

/-- The number of formulas kept. -/
def size (cache : FormulaCache) : Nat := cache.entries.size

/-- Keeps a formula under its text. -/
def keep (cache : FormulaCache) (f : Formula) : FormulaCache :=
  ⟨cache.entries.insert f.source f, by
    intro source held found
    rw [FieldMap.get?_insert] at found
    split at found
    · cases found
      exact Eq.symm ‹_›
    · exact cache.keyed source held found⟩

/-- Compiles a text unless its formula is kept, and keeps the new formula. -/
def compile (cache : FormulaCache) (source : String) :
    Except CompileError Formula × FormulaCache :=
  match cache.entries.get? source with
  | some f => (.ok f, cache)
  | none =>
    match Formula.compile source with
    | .ok f => (.ok f, cache.keep f)
    | .error e => (.error e, cache)

/-- Compiles a text through the cache and evaluates it. -/
def eval (cache : FormulaCache) (source : String) (env : Environment) :
    Except FormulaError Value × FormulaCache :=
  match cache.compile source with
  | (.error e, after) => (.error (.compile e), after)
  | (.ok f, after) =>
    match f.eval env with
    | .ok v => (.ok v, after)
    | .error e => (.error (.eval source e), after)

end FormulaCache

end CalcFields
