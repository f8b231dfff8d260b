import CalcFields.Proofs.Formula.Extraction

/-!
Evaluation fails only in a strict cast. Each function has a value for any values in a number that it
takes, and the calls of a formula have arguments in such a number.
-/

namespace CalcFields

/-- A test has a value exactly for the numbers of arguments that it takes. -/
theorem Test.isSome_evaluate? (f : Test) (args : List Value) :
    (f.evaluate? args).isSome = (Function.test f).arity.accepts args.length := by
  -- No test takes more than three arguments unless it takes any number.
  rcases args with _ | ⟨_, _ | ⟨_, _ | ⟨_, _ | ⟨_, _⟩⟩⟩⟩ <;> cases f <;> rfl

/-- A calculation has a value exactly for the numbers of arguments that it takes. -/
theorem Calculation.isSome_evaluate? (f : Calculation) (args : List Value) :
    (f.evaluate? args).isSome = (Function.calculation f).arity.accepts args.length := by
  rcases args with _ | ⟨_, _ | ⟨_, _ | ⟨_, _⟩⟩⟩ <;> cases f <;> rfl

/-- A function on texts has a value exactly for the numbers of arguments that it takes. -/
theorem Wording.isSome_evaluate? (f : Wording) (args : List Value) :
    (f.evaluate? args).isSome = (Function.wording f).arity.accepts args.length := by
  -- Replacing by a pattern takes up to four arguments.
  rcases args with _ | ⟨_, _ | ⟨_, _ | ⟨_, _ | ⟨_, _ | ⟨_, _⟩⟩⟩⟩⟩ <;> cases f <;> rfl

/-- A function on dates has a value exactly for the numbers of arguments that it takes. -/
theorem Dating.isSome_evaluate? (now : Instant) (f : Dating) (args : List Value) :
    (f.evaluate? now args).isSome = (Function.dating f).arity.accepts args.length := by
  rcases args with _ | ⟨_, _ | ⟨_, _ | ⟨_, _ | ⟨_, _⟩⟩⟩⟩ <;> cases f <;> rfl

/-- A conversion has an outcome exactly for the numbers of arguments that it takes. -/
theorem Conversion.isSome_evaluate? (f : Conversion) (args : List Value) :
    (f.evaluate? args).isSome = (Function.conversion f).arity.accepts args.length := by
  rcases args with _ | ⟨_, _ | ⟨_, _ | ⟨_, _⟩⟩⟩ <;> cases f <;> rfl

namespace Function

/-- So many arguments are enough for all that a function asks of them: IF asks for a condition and a
result, the other functions that choose ask for nothing, and a function of values has an outcome for
any values of this number. -/
def Covers (count : Nat) : Function → Prop
  | .choice .ifThen => 2 ≤ count
  | .choice _ => True
  | f => ∀ (now : Instant) (values : List Value), values.length = count →
      (f.evaluate? now values).isSome = true

/-- A number of arguments that a function takes is enough for it. -/
theorem covers_of_accepts {f : Function} {count : Nat} (accepted : f.arity.accepts count = true) :
    f.Covers count := by
  cases f with
  -- A conditional needs two arguments, and the other choices need none.
  | choice f =>
    cases f with
    | ifThen => exact of_decide_eq_true (p := 2 ≤ count) (Bool.and_eq_true_iff.1 accepted).1
    | _ => trivial
  -- A function of values has an outcome for exactly the numbers that its arity accepts.
  | test f | calculation f | wording f | dating f =>
    rintro now values rfl
    rw [evaluate?, Option.isSome_map, f.isSome_evaluate?, accepted]
  | conversion f =>
    rintro now values rfl
    rw [evaluate?, f.isSome_evaluate?, accepted]

/-- A function of values other than a strict cast gives a value when it gives anything. -/
theorem exists_of_isSome_evaluate? {f : Function} (other : f ≠ .conversion .cast) {now : Instant}
    {values : List Value} (given : (f.evaluate? now values).isSome = true) :
    ∃ v, f.evaluate? now values = some (.ok v) := by
  cases f with
  | choice f => cases given
  | test f | calculation f | wording f | dating f =>
    rw [evaluate?, Option.isSome_map, Option.isSome_iff_exists] at given
    exact given.imp fun _ same => by rw [evaluate?, same, Option.map_some]
  | conversion f =>
    cases f with
    | cast => exact absurd rfl other
    | tryCast =>
      -- The other cast gives a value wherever a strict one fails.
      rw [evaluate?] at given ⊢
      unfold Conversion.evaluate? at given ⊢
      split at given
      · contradiction
      · exact ⟨_, rfl⟩
      · cases given

end Function

/-- A derived call has arguments in a number that its function takes. -/
theorem Derives.accepts {level : Level} {tokens : List Token} {f : Function} {args : List Expr}
    (derived : Derives level tokens (.call f args)) : f.arity.accepts args.length = true := by
  generalize same : Expr.call f args = e at derived
  -- Only the rule of calls makes one; levels and parentheses pass it on.
  induction derived with
  | tighter _ _ ih => exact ih same
  | enclosed _ ih => exact ih same
  | call _ accepted =>
    cases same
    rwa [List.length_map]
  | _ => cases same

/-- The calls of a formula have arguments in a number that their functions take. -/
theorem Formula.accepts_of_occurs (formula : Formula) {f : Function} {args : List Expr}
    (occurs : Expr.Occurs (.call f args) formula.expr) : f.arity.accepts args.length = true := by
  obtain ⟨_, _, ⟨_, blank⟩ | derived⟩ := parse_cut formula.parsed
  · -- A text without tokens is a literal, in which there is no call.
    rw [blank] at occurs
    cases occurs
  · obtain ⟨_, _, part⟩ := derived.exists_of_occurs occurs
    exact part.accepts

namespace Expr

variable {env : Environment} {args : List Expr}

/-- All arguments have values when each one has. -/
theorem exists_evalEach (each : ∀ arg ∈ args, ∃ v, arg.eval env = .ok v) :
    ∃ values, values.length = args.length ∧ evalEach env args = .ok values := by
  -- Induction on the arguments.
  induction args with
  | nil => exact ⟨[], rfl, by rw [evalEach]⟩
  | cons arg rest ih =>
    obtain ⟨⟨v, first⟩, others⟩ := List.forall_mem_cons.1 each
    obtain ⟨values, long, further⟩ := ih others
    refine ⟨v :: values, by rw [List.length_cons, List.length_cons, long], ?_⟩
    rw [evalEach, first, further]

/-- There is a first value that is present, or null, when each argument has a value. -/
theorem exists_evalPresent (each : ∀ arg ∈ args, ∃ v, arg.eval env = .ok v) :
    ∃ v, evalPresent env args = .ok v := by
  -- Induction on the arguments, up to the first that is not null.
  induction args with
  | nil => exact ⟨.null, by rw [evalPresent]⟩
  | cons arg rest ih =>
    obtain ⟨⟨v, first⟩, others⟩ := List.forall_mem_cons.1 each
    simp only [evalPresent, first]
    split
    · exact ih others
    · exact ⟨v, rfl⟩

/-- Whether all arguments are true is decided when each one has a value. -/
theorem exists_evalAll (each : ∀ arg ∈ args, ∃ v, arg.eval env = .ok v) :
    ∃ v, evalAll env args = .ok v := by
  -- Induction on the arguments, up to the first that fails to hold.
  induction args with
  | nil => exact ⟨.bool true, by rw [evalAll]⟩
  | cons arg rest ih =>
    obtain ⟨⟨v, first⟩, others⟩ := List.forall_mem_cons.1 each
    simp only [evalAll, first]
    split
    · exact ih others
    · exact ⟨.bool false, rfl⟩

/-- Whether some argument is true is decided when each one has a value. -/
theorem exists_evalAny (each : ∀ arg ∈ args, ∃ v, arg.eval env = .ok v) :
    ∃ v, evalAny env args = .ok v := by
  -- Induction on the arguments, up to the first that holds.
  induction args with
  | nil => exact ⟨.bool false, by rw [evalAny]⟩
  | cons arg rest ih =>
    obtain ⟨⟨v, first⟩, others⟩ := List.forall_mem_cons.1 each
    simp only [evalAny, first]
    split
    · exact ⟨.bool true, rfl⟩
    · exact ih others

/-- A conditional has a value when its condition and the arguments to choose from have one. -/
theorem exists_evalIf (each : ∀ arg ∈ args, ∃ v, arg.eval env = .ok v) :
    ∃ v, evalIf env args = .ok v := by
  unfold evalIf
  split
  · rename_i condition result rest
    obtain ⟨⟨c, first⟩, each⟩ := List.forall_mem_cons.1 each
    obtain ⟨second, others⟩ := List.forall_mem_cons.1 each
    simp only [first]
    split
    · exact second
    · cases rest with
      -- Without a third argument there is nothing to evaluate, and the value is null.
      | nil => exact ⟨.null, by rw [evalHead]⟩
      | cons other _ =>
        rw [evalHead]
        exact others other List.mem_cons_self
  · exact ⟨.null, rfl⟩

/-- A case is chosen when each condition and each result has a value. -/
theorem exists_evalCases : ∀ {args : List Expr}, (∀ arg ∈ args, ∃ v, arg.eval env = .ok v) →
    ∃ v, evalCases env args = .ok v
  | [], _ => ⟨.null, by rw [evalCases]⟩
  | [default], each => by
    rw [evalCases]
    exact each default List.mem_cons_self
  -- Each condition takes its result or leaves it to the others.
  | condition :: result :: rest, each => by
    obtain ⟨⟨c, first⟩, each⟩ := List.forall_mem_cons.1 each
    obtain ⟨second, others⟩ := List.forall_mem_cons.1 each
    simp only [evalCases, first]
    split
    · exact second
    · exact exists_evalCases others

/-- A call that is no strict cast has a value when its arguments have, in a number that the function
takes. -/
theorem exists_eval_call {f : Function} (other : f ≠ .conversion .cast)
    (accepted : f.arity.accepts args.length = true)
    (each : ∀ arg ∈ args, ∃ v, arg.eval env = .ok v) : ∃ v, (call f args).eval env = .ok v := by
  have covered := Function.covers_of_accepts accepted
  obtain ⟨values, long, evaluated⟩ := exists_evalEach each
  cases f with
  | choice f =>
    -- The functions that choose their arguments have an evaluation of their own.
    cases f with
    | ifThen =>
      rw [eval]
      exact exists_evalIf each
    | caseWhen =>
      rw [eval]
      exact exists_evalCases each
    | coalesce =>
      rw [eval]
      exact exists_evalPresent each
    | allOf =>
      rw [eval]
      exact exists_evalAll each
    | anyOf =>
      rw [eval]
      exact exists_evalAny each
  -- Every other function gets the values of all its arguments.
  | _ =>
    obtain ⟨v, given⟩ := Function.exists_of_isSome_evaluate? other (covered env.now values long)
    simp only [eval, evaluated, given]
    exact ⟨v, rfl⟩

mutual

/-- A tree whose calls fit their functions, none of them a strict cast, has a value in every
environment. -/
theorem exists_eval (env : Environment) :
    ∀ e : Expr, (∀ f args, Occurs (.call f args) e →
      f.arity.accepts args.length = true ∧ f ≠ .conversion .cast) → ∃ v, e.eval env = .ok v
  | literal v, _ => ⟨v, by rw [eval]⟩
  | field _, _ => ⟨_, by rw [eval]⟩
  | foreign _ _, _ => ⟨.null, by rw [eval]⟩
  | unary op operand, fits => by
    obtain ⟨a, given⟩ := exists_eval env operand fun f args inside => fits f args (.operand inside)
    exact ⟨op.apply a, by rw [eval, given]⟩
  | binary op left right, fits => by
    obtain ⟨a, first⟩ := exists_eval env left fun f args inside => fits f args (.left inside)
    obtain ⟨b, second⟩ := exists_eval env right fun f args inside => fits f args (.right inside)
    simp only [eval, first, second]
    -- The left operand may decide, and is the value then.
    split
    · exact ⟨a, rfl⟩
    · exact ⟨op.apply a b, rfl⟩
  | call f args, fits => by
    obtain ⟨accepted, other⟩ := fits f args .here
    refine exists_eval_call other accepted (exists_evalEvery env args ?_)
    exact fun arg member g inner inside => fits g inner (.argument member inside)

/-- Each of some trees whose calls fit their functions, none of them a strict cast, has a value. -/
theorem exists_evalEvery (env : Environment) :
    ∀ args : List Expr, (∀ arg ∈ args, ∀ f inner, Occurs (.call f inner) arg →
      f.arity.accepts inner.length = true ∧ f ≠ .conversion .cast) →
        ∀ arg ∈ args, ∃ v, arg.eval env = .ok v
  | [], _ => List.forall_mem_nil _
  | first :: rest, fits => by
    obtain ⟨here, others⟩ := List.forall_mem_cons.1 fits
    rw [List.forall_mem_cons]
    exact ⟨exists_eval env first here, exists_evalEvery env rest others⟩

end

end Expr

namespace Formula

/-- The calls of a formula have arguments in a number that their functions take, which is enough for
all that the functions ask of them. Without a strict cast the formula has a value for all fields and
at every clock. -/
theorem eval_total (f : Formula) :
    (∀ g args, Expr.Occurs (.call g args) f.expr →
        g.arity.accepts args.length = true ∧ g.Covers args.length) ∧
      ((∀ args, ¬ Expr.Occurs (.call (.conversion .cast) args) f.expr) →
        ∀ (fields : String → Option Value) (now : Instant), ∃ v, f.eval ⟨fields, now⟩ = .ok v) := by
  constructor
  · intro g args occurs
    have accepted := f.accepts_of_occurs occurs
    exact ⟨accepted, Function.covers_of_accepts accepted⟩
  · -- Without the strict cast no function fails.
    intro noCast fields now
    refine f.expr.exists_eval ⟨fields, now⟩ fun g args occurs => ⟨f.accepts_of_occurs occurs, ?_⟩
    rintro rfl
    exact noCast args occurs

set_option maxRecDepth 2000 in
/-- A formula that calls one function without its last argument, within a call that takes any number
of them. -/
def lenient : Formula :=
  ⟨"IN(IF(\x7b\x7ba\x7d\x7d, \"b\"))",
    .call (.test .oneOf) [.call (.choice .ifThen) [.field "a", .literal (.string "b")]], by cbv⟩

/-- The call without its last argument has enough of them, and the formula has a value even where
its field holds an array. -/
theorem eval_total_lenient :
    (Function.choice .ifThen).Covers 2 ∧
      ∃ v, lenient.eval ⟨(FieldMap.ofList [("a", .array [])]).get?, .midnight 0⟩ = .ok v := by
  obtain ⟨fits, total⟩ := eval_total lenient
  refine ⟨(fits _ [.field "a", .literal (.string "b")] ?_).2, total ?_ _ _⟩
  · exact .argument List.mem_cons_self .here
  · -- None of the parts of the tree is a strict cast.
    rintro args (_ | _ | _ | _ | ⟨member, inside⟩)
    cases List.mem_singleton.1 member
    obtain _ | _ | _ | _ | ⟨member, inside⟩ := inside
    simp only [List.mem_cons, List.not_mem_nil, or_false] at member
    obtain rfl | rfl := member <;> cases inside

end Formula

end CalcFields
