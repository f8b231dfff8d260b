import CalcFields.Formula.Eval

/-!
Functions and operators that spell the same calculation agree, errors included: a function of truth
values with the chain of its operator, a list of cases with conditionals inside each other, and a
function of one or two values with the operator that it names.
-/

namespace CalcFields

namespace Expr

/-- The chain of an operator between operands, which are taken together from the left. -/
def chain (op : BinaryOp) (first : Expr) (rest : List Expr) : Expr :=
  rest.foldl (binary op) first

/-- Conditions with their results as conditionals, each in the place of what else the one before it
gives; last comes the default, or null without one. -/
def conditionals : List Expr → Expr
  | [] => literal .null
  | [default] => default
  | condition :: result :: rest => call (.choice .ifThen) [condition, result, conditionals rest]

/-- The truth value of an outcome. -/
def truth (outcome : Except EvalError Value) : Except EvalError Value :=
  outcome.map fun v => .bool v.isTruthy

variable (env : Environment)

/-- The outcome of a call of the function that a word names, none without such a function. -/
def called? (word : String) (args : List Expr) : Option (Except EvalError Value) :=
  (Function.named? word).map fun f => (call f args).eval env

/-- A call by name is a call of the function that has the name. -/
theorem called?_eq {word : String} {f : Function} (named : Function.named? word = some f)
    {args : List Expr} : called? env word args = some ((call f args).eval env) := by
  rw [called?, named, Option.map_some]

/-- A conditional gives one of its results by the condition, and evaluates no other. -/
theorem eval_ifThen (condition result other : Expr) :
    (call (.choice .ifThen) [condition, result, other]).eval env =
      (condition.eval env).bind fun c =>
        if c.isTruthy then result.eval env else other.eval env := by
  rw [eval, evalIf, evalHead]
  cases condition.eval env <;> rfl

/-- Cases are conditionals inside each other. -/
theorem eval_caseWhen : ∀ args : List Expr,
    (call (.choice .caseWhen) args).eval env = (conditionals args).eval env
  | [] => by rw [conditionals, eval, eval, evalCases]
  | [default] => by
    rw [conditionals, eval, evalCases]
  -- A condition with its result is one conditional, with the others behind its ELSE.
  | condition :: result :: rest => by
    have others := eval_caseWhen rest
    rw [eval] at others
    rw [conditionals, eval_ifThen, ← others, eval, evalCases]
    cases condition.eval env <;> rfl

section Truth

-- The operator goes on to its right operand at a left one of the truth value `going`.
variable (op : BinaryOp) {going : Bool} (stops : ∀ v, op.stopsAt v = (v.isTruthy != going))
  (gives : ∀ v w, op.apply v w = w)

include stops gives

/-- An operator between truth values gives its right operand when the left one leaves it open, and
else its left one. -/
theorem eval_binary_of_stopsAt (a b : Expr) : (binary op a b).eval env =
    (a.eval env).bind fun v => if v.isTruthy = going then b.eval env else .ok v := by
  -- The second operand counts only when the first one goes on.
  rw [eval]
  cases a.eval env with
  | error e => rfl
  | ok v =>
    simp only [stops, gives, Except.bind, bne_iff_ne, ne_eq, ite_not]
    cases b.eval env <;> rfl

/-- A function that takes truth values as long as they leave it open gives the truth value of the
chain of the operator. -/
theorem gather_eq_chain {gather : List Expr → Except EvalError Value}
    (none : gather [] = .ok (.bool going))
    (more : ∀ arg rest, gather (arg :: rest) = (arg.eval env).bind fun v =>
      if v.isTruthy = going then gather rest else .ok (.bool !going))
    (first : Expr) (rest : List Expr) :
    gather (first :: rest) = truth ((chain op first rest).eval env) := by
  -- The first operand of the chain takes in the others one by one.
  induction rest generalizing first with
  | nil =>
    rw [more, none, chain, List.foldl_nil]
    cases first.eval env with
    | error e => rfl
    | ok v =>
      cases going <;> cases given : v.isTruthy <;> simp [truth, Except.map, Except.bind, given]
  | cons next rest ih =>
    have taken : chain op first (next :: rest) = chain op (binary op first next) rest := rfl
    rw [taken, ← ih, more, more, more, eval_binary_of_stopsAt env op stops gives]
    cases first.eval env with
    | error e => rfl
    | ok v =>
      by_cases leaves : v.isTruthy = going <;> simp [Except.bind, leaves]

end Truth

/-- The function AND of some arguments gives the truth value of the chain of its operator. -/
theorem evalAll_eq_chain (first : Expr) (rest : List Expr) :
    evalAll env (first :: rest) = truth ((chain .and first rest).eval env) := by
  -- A conjunction goes on while its operands hold.
  refine gather_eq_chain env .and (fun v => (Bool.bne_true _).symm) (fun _ _ => rfl)
    (evalAll.eq_1 env) (fun arg rest => ?_) first rest
  rw [evalAll]
  cases arg.eval env <;> rfl

/-- The function OR of some arguments gives the truth value of the chain of its operator. -/
theorem evalAny_eq_chain (first : Expr) (rest : List Expr) :
    evalAny env (first :: rest) = truth ((chain .or first rest).eval env) := by
  -- A disjunction goes on while they do not.
  refine gather_eq_chain env .or (fun v => (Bool.bne_false _).symm) (fun _ _ => rfl)
    (evalAny.eq_1 env) (fun arg rest => ?_) first rest
  rw [evalAny]
  cases arg.eval env with
  | error e => rfl
  | ok v => by_cases holds : v.isTruthy <;> simp [Except.bind, holds]

/-- A function of two values agrees with an operator that evaluates both operands and gives the same
value. -/
theorem called?_eq_binary {word : String} {f : Function} {op : BinaryOp}
    (named : Function.named? word = some f) (strict : ∀ v, op.stopsAt v = false)
    (same : ∀ x y, f.evaluate? env.now [x, y] = some (.ok (op.apply x y))) (a b : Expr) :
    called? env word [a, b] = some ((binary op a b).eval env) := by
  rw [called?_eq env named]
  refine congrArg some ?_
  -- A function that chooses has no value of evaluated arguments.
  cases f with
  | choice f => cases same .null .null
  | _ =>
    simp only [eval, evalEach, strict]
    cases a.eval env with
    | error e => rfl
    | ok x =>
      cases b.eval env with
      | error e => rfl
      | ok y => simp [same]

/-- A function of one value agrees with an operator in front of it that gives the same value. -/
theorem called?_eq_unary {word : String} {f : Function} {op : UnaryOp}
    (named : Function.named? word = some f)
    (same : ∀ x, f.evaluate? env.now [x] = some (.ok (op.apply x))) (a : Expr) :
    called? env word [a] = some ((unary op a).eval env) := by
  rw [called?_eq env named]
  refine congrArg some ?_
  -- A choice is no function of values, and could not have given the same ones.
  cases f with
  | choice f => cases same .null
  | _ =>
    simp only [eval, evalEach]
    cases a.eval env with
    | error e => rfl
    | ok x => simp [same]

/-- A function of two numbers and an operator that calculate alike give the same value, null where
one of them is no number. -/
theorem withNumbers_eq_arithmetic {calculate other : Float → Float → Option Float}
    (alike : ∀ x y, calculate x y = other x y) (a b : Value) :
    Calculation.withNumbers calculate a b = .arithmetic other a b := by
  -- Both are null unless both operands are numbers.
  rw [Calculation.withNumbers, Value.arithmetic]
  cases a.toNumber? with
  | none => rfl
  | some x =>
    cases b.toNumber? with
    | none => rfl
    | some y => simp only [alike]

/-- The function DIV and its operator both leave out a divisor that is zero. -/
theorem divide_eq_quotient? (x y : Float) :
    (if y != 0 then some (x / y) else none) = quotient? x y := by
  -- The one asks whether the divisor differs from zero, the other whether it equals it.
  rw [quotient?, bne]
  cases y == 0 <;> rfl

/-- So do the function MOD and its operator. -/
theorem modulo_eq_remainder? (x y : Float) :
    (if y != 0 then some (remainder x y) else none) = remainder? x y := by
  rw [remainder?, bne]
  cases y == 0 <;> rfl

/-- The function NEGATE changes the sign of a number as the operator in front of it does. -/
theorem withNumber_neg (a : Value) :
    Calculation.withNumber (fun x => some (-x)) a = a.negated := by
  -- Both are null at what is no number.
  rw [Calculation.withNumber, Value.negated]
  cases a.toNumber? <;> rfl

/-- The functions AND and OR give the truth value of the chain of their operator, and fail as it
does; cases are conditionals inside each other; and DIV, MOD, NEGATE, EQ and NE are their
operators. -/
theorem spellings_agree :
    (∀ first rest, called? env "AND" (first :: rest) =
      some (truth ((chain .and first rest).eval env))) ∧
    (∀ first rest, called? env "OR" (first :: rest) =
      some (truth ((chain .or first rest).eval env))) ∧
    (∀ args, called? env "CASE_WHEN" args = some ((conditionals args).eval env)) ∧
    (∀ a b, called? env "DIV" [a, b] = some ((binary .divide a b).eval env)) ∧
    (∀ a b, called? env "MOD" [a, b] = some ((binary .modulo a b).eval env)) ∧
    (∀ a, called? env "NEGATE" [a] = some ((unary .negate a).eval env)) ∧
    (∀ a b, called? env "EQ" [a, b] = some ((binary .equal a b).eval env)) ∧
    ∀ a b, called? env "NE" [a, b] = some ((binary .notEqual a b).eval env) := by
  -- Words are looked up by evaluation, and each spelling has its lemma above.
  refine ⟨fun first rest => ?_, fun first rest => ?_, fun args => ?_, ?_, ?_, ?_, ?_, ?_⟩
  · rw [called?_eq env (by decide : _ = some (.choice .allOf)), eval, evalAll_eq_chain]
  · rw [called?_eq env (by decide : _ = some (.choice .anyOf)), eval, evalAny_eq_chain]
  · rw [called?_eq env (by decide : _ = some (.choice .caseWhen)), eval_caseWhen]
  · exact called?_eq_binary env (f := .calculation .divide) (by decide) (fun _ => rfl) fun x y =>
      congrArg (some ∘ Except.ok) (withNumbers_eq_arithmetic divide_eq_quotient? x y)
  · exact called?_eq_binary env (f := .calculation .modulo) (by decide) (fun _ => rfl) fun x y =>
      congrArg (some ∘ Except.ok) (withNumbers_eq_arithmetic modulo_eq_remainder? x y)
  · exact called?_eq_unary env (f := .calculation .negate) (by decide) fun x =>
      congrArg (some ∘ Except.ok) (withNumber_neg x)
  · exact called?_eq_binary env (f := .test .equal) (by decide) (fun _ => rfl) fun _ _ => rfl
  · exact called?_eq_binary env (f := .test .notEqual) (by decide) (fun _ => rfl) fun _ _ => rfl

end Expr

end CalcFields
