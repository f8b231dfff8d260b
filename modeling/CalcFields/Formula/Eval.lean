import CalcFields.Formula.Calculation
import CalcFields.Formula.Conversion
import CalcFields.Formula.Operator
import CalcFields.Formula.Test
import CalcFields.Formula.Wording

/-!
Evaluation of a tree sees the fields of one record and one clock. It evaluates from left to right;
the operators AND and OR and the functions that choose leave out what they do not need.
-/

namespace CalcFields

/-- What a formula sees: the fields of a record, absent ones as nothing, and the clock. -/
structure Environment where
  field : String → Option Value
  now : Instant

/-- The fields of a record at a clock. -/
def Environment.ofRecord (record : Record) (now : Instant) : Environment :=
  ⟨record.get?, now⟩

/-- The functions that evaluate all of their arguments, on values of a number that fits. -/
def Function.evaluate? (now : Instant) : Function → List Value → Option (Except EvalError Value)
  | .choice _, _ => none
  | .test f, args => (f.evaluate? args).map .ok
  | .calculation f, args => (f.evaluate? args).map .ok
  | .wording f, args => (f.evaluate? args).map .ok
  | .dating f, args => (f.evaluate? now args).map .ok
  | .conversion f, args => f.evaluate? args

namespace Expr

mutual

/-- The value of a tree in an environment. -/
def eval (env : Environment) : Expr → Except EvalError Value
  | literal v => .ok v
  | field name => .ok ((env.field name).getD .null)
  | foreign _ _ => .ok .null
  | unary op operand =>
    match operand.eval env with
    | .ok a => .ok (op.apply a)
    | .error e => .error e
  | binary op left right =>
    match left.eval env with
    | .error e => .error e
    | .ok a =>
      if op.stopsAt a then .ok a
      else
        match right.eval env with
        | .ok b => .ok (op.apply a b)
        | .error e => .error e
  | call (.choice .ifThen) args => evalIf env args
  | call (.choice .caseWhen) args => evalCases env args
  | call (.choice .coalesce) args => evalPresent env args
  | call (.choice .allOf) args => evalAll env args
  | call (.choice .anyOf) args => evalAny env args
  | call f args =>
    match evalEach env args with
    | .ok values => (f.evaluate? env.now values).getD (.ok .null)
    | .error e => .error e

/-- The values of all arguments, or the first error. -/
def evalEach (env : Environment) : List Expr → Except EvalError (List Value)
  | [] => .ok []
  | arg :: rest =>
    match arg.eval env with
    | .error e => .error e
    | .ok v =>
      match evalEach env rest with
      | .ok values => .ok (v :: values)
      | .error e => .error e

/-- A condition chooses the argument after it or else the one after that, null without one. -/
def evalIf (env : Environment) : List Expr → Except EvalError Value
  | condition :: result :: rest =>
    match condition.eval env with
    | .error e => .error e
    | .ok c => if c.isTruthy then result.eval env else evalHead env rest
  | _ => .ok .null

/-- The value of the first of some trees, null when there is none. -/
def evalHead (env : Environment) : List Expr → Except EvalError Value
  | [] => .ok .null
  | first :: _ => first.eval env

/-- Conditions alternate with results; one argument alone at the end is the default. -/
def evalCases (env : Environment) : List Expr → Except EvalError Value
  | [] => .ok .null
  | [default] => default.eval env
  | condition :: result :: rest =>
    match condition.eval env with
    | .error e => .error e
    | .ok c => if c.isTruthy then result.eval env else evalCases env rest

/-- The first value that is not null. -/
def evalPresent (env : Environment) : List Expr → Except EvalError Value
  | [] => .ok .null
  | arg :: rest =>
    match arg.eval env with
    | .error e => .error e
    | .ok v => if v.isNull then evalPresent env rest else .ok v

/-- True unless some argument is false; the arguments after it are left out. -/
def evalAll (env : Environment) : List Expr → Except EvalError Value
  | [] => .ok (.bool true)
  | arg :: rest =>
    match arg.eval env with
    | .error e => .error e
    | .ok v => if v.isTruthy then evalAll env rest else .ok (.bool false)

/-- False unless some argument is true; the arguments after it are left out. -/
def evalAny (env : Environment) : List Expr → Except EvalError Value
  | [] => .ok (.bool false)
  | arg :: rest =>
    match arg.eval env with
    | .error e => .error e
    | .ok v => if v.isTruthy then .ok (.bool true) else evalAny env rest

end

end Expr

end CalcFields
