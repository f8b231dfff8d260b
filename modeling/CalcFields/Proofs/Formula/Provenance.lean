import CalcFields.Proofs.Formula.Reading

/-!
What a formula gives is a scalar or the value of a field: no operator and no function builds an
array or an object, and no literal of a text is one.
-/

namespace CalcFields

namespace Value

/-- A scalar is neither an array nor an object. -/
def isScalar : Value → Bool
  | array _ => false
  | object _ => false
  | _ => true

/-- A number or null is a scalar. -/
theorem isScalar_ofNumber? (x : Option Float) : (ofNumber? x).isScalar = true := by
  cases x <;> rfl

/-- Arithmetic gives scalars. -/
theorem isScalar_arithmetic (calculate : Float → Float → Option Float) (a b : Value) :
    (arithmetic calculate a b).isScalar = true := by
  -- Arithmetic gives a number or null.
  unfold arithmetic
  split
  · exact isScalar_ofNumber? _
  · rfl

/-- A sum is a number, a text or null. -/
theorem isScalar_plus (a b : Value) : (a.plus b).isScalar = true := by
  -- An addition gives a text, a number or null.
  unfold plus
  split
  · rfl
  · split <;> rfl

/-- A value has scalars for its forms under every type. -/
theorem isScalar_of_convert? {v result : Value} {kind : CastKind}
    (converted : v.convert? kind = some result) : result.isScalar = true := by
  -- Every kind makes a scalar of its own.
  cases kind with
  | text =>
    cases converted
    rfl
  | _ =>
    obtain ⟨_, _, rfl⟩ := Option.map_eq_some_iff.1 converted
    rfl

/-- A strict cast gives null for null, and else the form of the value under the type. -/
theorem cast_eq_ok_iff {v result : Value} {target : String} : v.cast target = .ok result ↔
    (v.isNull = true ∧ result = null) ∨
      (v.isNull = false ∧ ∃ kind, CastKind.named? (lowercase (trim target)) = some kind ∧
        v.convert? kind = some result) := by
  -- Null is left alone, and any other value needs a known kind that it can be read as.
  rw [cast, castWith]
  cases v.isNull with
  | true => simpa using eq_comm
  | false =>
    cases CastKind.named? (lowercase (trim target)) with
    | none => simp
    | some kind => cases formed : v.convert? kind <;> simp [formed]

/-- A cast gives scalars. -/
theorem isScalar_of_cast {v result : Value} {target : String}
    (given : v.cast target = .ok result) : result.isScalar = true := by
  obtain ⟨-, rfl⟩ | ⟨-, kind, -, converted⟩ := cast_eq_ok_iff.1 given
  · -- Null is null under every type.
    rfl
  · exact isScalar_of_convert? converted

/-- A cast that is not strict gives what a strict one gives, and null where that one fails. -/
theorem tryCast_eq (v : Value) (target : String) : v.tryCast target =
    match v.cast target with
    | .ok result => result
    | .error _ => null := by
  -- Both read the kind and the value alike.
  unfold tryCast cast castWith
  split
  · rfl
  split
  · rfl
  split <;> rfl

end Value

/-- An operator in front of an operand gives scalars. -/
theorem UnaryOp.isScalar_apply (op : UnaryOp) (a : Value) : (op.apply a).isScalar = true := by
  -- A sign gives a number or null, and a negation a truth value.
  cases op with
  | negate => exact Value.isScalar_ofNumber? _
  | plus => exact Value.isScalar_ofNumber? _
  | not => rfl

/-- An operator between two operands gives a scalar or its right operand. -/
theorem BinaryOp.isScalar_apply_or_eq (op : BinaryOp) (a b : Value) :
    (op.apply a b).isScalar = true ∨ op.apply a b = b := by
  cases op with
  | add => exact .inl (Value.isScalar_plus a b)
  | subtract => exact .inl (Value.isScalar_arithmetic _ a b)
  | multiply => exact .inl (Value.isScalar_arithmetic _ a b)
  | divide => exact .inl (Value.isScalar_arithmetic _ a b)
  | modulo => exact .inl (Value.isScalar_arithmetic _ a b)
  -- Only the logical operators hand an operand on.
  | and => exact .inr rfl
  | or => exact .inr rfl
  | _ => exact .inl rfl

/-- A test gives a truth value, null or one of its arguments. -/
theorem Test.isScalar_or_mem {f : Test} {args : List Value} {v : Value}
    (given : f.evaluate? args = some v) : v.isScalar = true ∨ v ∈ args := by
  unfold evaluate? at given
  split at given
  · -- A test gives a truth value or null.
    cases given
    exact .inl rfl
  · -- The value that is not to be null comes back as it is.
    cases given
    split
    · exact .inl rfl
    · exact .inr List.mem_cons_self
  all_goals cases given
  all_goals exact .inl rfl

/-- A calculation gives a number or null. -/
theorem Calculation.isScalar_of_evaluate? {f : Calculation} {args : List Value} {v : Value}
    (given : f.evaluate? args = some v) : v.isScalar = true := by
  -- A calculation gives a number, a text or null.
  unfold evaluate? at given
  split at given
  all_goals cases given
  all_goals first
    | exact Value.isScalar_ofNumber? _
    | rfl

/-- A function on texts gives a scalar. -/
theorem Wording.isScalar_of_evaluate? {f : Wording} {args : List Value} {v : Value}
    (given : f.evaluate? args = some v) : v.isScalar = true := by
  have extracted (a pattern : Value) (group : Int) :
      (extractGroup a pattern group).isScalar = true := by
    unfold extractGroup
    split
    · rfl
    · dsimp only
      split <;> rfl
  have replaced (a pattern replacement : Value) (everywhere : Bool) :
      (replaceMatches a pattern replacement everywhere).isScalar = true := by
    unfold replaceMatches
    split
    · rfl
    · split <;> rfl
  unfold evaluate? at given
  split at given
  all_goals cases given
  -- Extraction and replacement give null where a pattern does not match or is malformed.
  all_goals first | exact extracted _ _ _ | exact replaced _ _ _ _ | rfl

/-- A function on dates gives a text, a whole number or null. -/
theorem Dating.isScalar_of_evaluate? {f : Dating} {now : Instant} {args : List Value} {v : Value}
    (given : f.evaluate? now args = some v) : v.isScalar = true := by
  have worded (unit : TimeUnit) (t : Option Instant) : (inUnit unit t).isScalar = true := by
    cases t <;> rfl
  have counted (unit start stop : Value) : (differenceOf unit start stop).isScalar = true := by
    unfold differenceOf
    split <;> rfl
  have added (unit amount base : Value) : (sumOf unit amount base).isScalar = true := by
    unfold sumOf
    split
    · exact worded _ _
    · rfl
  have started (unit v : Value) : (unitStart unit v).isScalar = true := by
    unfold unitStart
    split
    · exact worded _ _
    · rfl
  have ended (unit v : Value) : (unitEnd unit v).isScalar = true := by
    unfold unitEnd
    split
    · exact worded _ _
    · rfl
  have named (name v : Value) : (partOf name v).isScalar = true := by
    unfold partOf
    split
    · split <;> rfl
    · rfl
  have made (year month day : Value) : (dateOf year month day).isScalar = true := by
    unfold dateOf
    split
    · split <;> rfl
    · rfl
  -- Each function is one of these, and two start a unit.
  unfold evaluate? at given
  split at given
  all_goals simp only [Option.some.injEq, reduceCtorEq] at given
  all_goals subst given
  · rfl
  · rfl
  · exact counted _ _ _
  · exact counted _ _ _
  · exact added _ _ _
  · exact started _ _
  · exact started _ _
  · exact ended _ _
  · exact named _ _
  · exact made _ _ _

/-- A function that evaluates all of its arguments gives a scalar or one of their values. -/
theorem Function.isScalar_or_mem {f : Function} {now : Instant} {args : List Value} {v : Value}
    (given : f.evaluate? now args = some (.ok v)) : v.isScalar = true ∨ v ∈ args := by
  cases f with
  | choice f => cases given
  | test f =>
    obtain ⟨_, evaluated, same⟩ := Option.map_eq_some_iff.1 given
    cases same
    exact Test.isScalar_or_mem evaluated
  | calculation f =>
    obtain ⟨_, evaluated, same⟩ := Option.map_eq_some_iff.1 given
    cases same
    exact .inl (Calculation.isScalar_of_evaluate? evaluated)
  | wording f =>
    obtain ⟨_, evaluated, same⟩ := Option.map_eq_some_iff.1 given
    cases same
    exact .inl (Wording.isScalar_of_evaluate? evaluated)
  | dating f =>
    obtain ⟨_, evaluated, same⟩ := Option.map_eq_some_iff.1 given
    cases same
    exact .inl (Dating.isScalar_of_evaluate? evaluated)
  | conversion f =>
    -- A strict cast may fail, and the other one never does.
    simp only [evaluate?] at given
    unfold Conversion.evaluate? at given
    split at given
    · exact .inl (Value.isScalar_of_cast (Option.some.inj given))
    · cases given
      rw [Value.tryCast_eq]
      split
      · rename_i cast
        exact .inl (Value.isScalar_of_cast cast)
      · exact .inl rfl
    · cases given

/-- No word names a constant that is an array or an object. -/
theorem isScalar_of_constant? {word : String} {v : Value} (known : constant? word = some v) :
    v.isScalar = true := by
  unfold constant? at known
  split at known <;> cases known <;> rfl

/-- A derived literal is a scalar. -/
theorem Derives.isScalar {level : Level} {tokens : List Token} {v : Value}
    (derived : Derives level tokens (.literal v)) : v.isScalar = true := by
  generalize same : Expr.literal v = e at derived
  -- A number, a string and a constant make literals; levels and parentheses pass them on.
  induction derived with
  | tighter _ _ ih => exact ih same
  | enclosed _ ih => exact ih same
  | number =>
    cases same
    rfl
  | string =>
    cases same
    rfl
  | constant known =>
    cases same
    exact isScalar_of_constant? known
  | _ => cases same

/-- The literals of a formula are scalars. -/
theorem Formula.isScalar_of_occurs (f : Formula) {v : Value}
    (occurs : Expr.Occurs (.literal v) f.expr) : v.isScalar = true := by
  obtain ⟨_, _, ⟨_, blank⟩ | derived⟩ := parse_cut f.parsed
  · -- A text without tokens is the literal null.
    rw [blank] at occurs
    cases occurs
    rfl
  · obtain ⟨_, _, part⟩ := derived.exists_of_occurs occurs
    exact part.isScalar

namespace Expr

variable {env : Environment} {good : Value → Prop} {args : List Expr} {v : Value}

/-- Arguments that give good values one by one give a list of them. -/
theorem evalEach_good {values : List Value}
    (each : ∀ arg ∈ args, ∀ v, arg.eval env = .ok v → good v)
    (evaluated : evalEach env args = .ok values) : ∀ v ∈ values, good v := by
  -- Induction on the arguments, all of which are evaluated.
  induction args generalizing values with
  | nil =>
    rw [evalEach] at evaluated
    cases evaluated
    exact List.forall_mem_nil _
  | cons arg rest ih =>
    obtain ⟨first, others⟩ := List.forall_mem_cons.1 each
    rw [evalEach] at evaluated
    split at evaluated
    · cases evaluated
    · rename_i given
      split at evaluated
      · rename_i further
        cases evaluated
        exact List.forall_mem_cons.2 ⟨first _ given, ih others further⟩
      · cases evaluated

/-- The first argument that is present is good when all are, and so is null without one. -/
theorem evalPresent_good (scalar : ∀ v, v.isScalar = true → good v)
    (each : ∀ arg ∈ args, ∀ v, arg.eval env = .ok v → good v)
    (evaluated : evalPresent env args = .ok v) : good v := by
  -- Induction on the arguments, up to the first that is not null.
  induction args with
  | nil =>
    rw [evalPresent] at evaluated
    cases evaluated
    exact scalar _ rfl
  | cons arg rest ih =>
    obtain ⟨first, others⟩ := List.forall_mem_cons.1 each
    rw [evalPresent] at evaluated
    split at evaluated
    · cases evaluated
    · rename_i given
      split at evaluated
      · exact ih others evaluated
      · cases evaluated
        exact first _ given

/-- Whether all arguments are true is a truth value. -/
theorem isScalar_of_evalAll (evaluated : evalAll env args = .ok v) : v.isScalar = true := by
  -- Induction on the arguments, none of which is handed on.
  induction args with
  | nil =>
    rw [evalAll] at evaluated
    cases evaluated
    rfl
  | cons arg rest ih =>
    rw [evalAll] at evaluated
    split at evaluated
    · cases evaluated
    · split at evaluated
      · exact ih evaluated
      · cases evaluated
        rfl

/-- Whether some argument is true is a truth value. -/
theorem isScalar_of_evalAny (evaluated : evalAny env args = .ok v) : v.isScalar = true := by
  -- Induction on the arguments, as for the conjunction.
  induction args with
  | nil =>
    rw [evalAny] at evaluated
    cases evaluated
    rfl
  | cons arg rest ih =>
    rw [evalAny] at evaluated
    split at evaluated
    · cases evaluated
    · split at evaluated
      · cases evaluated
        rfl
      · exact ih evaluated

/-- What a condition chooses is good when all arguments are, and so is null for a missing one. -/
theorem evalIf_good (scalar : ∀ v, v.isScalar = true → good v)
    (each : ∀ arg ∈ args, ∀ v, arg.eval env = .ok v → good v)
    (evaluated : evalIf env args = .ok v) : good v := by
  unfold evalIf at evaluated
  split at evaluated
  · rename_i condition result rest
    obtain ⟨_, each⟩ := List.forall_mem_cons.1 each
    obtain ⟨second, others⟩ := List.forall_mem_cons.1 each
    split at evaluated
    · cases evaluated
    · split at evaluated
      · exact second _ evaluated
      · -- Without a third argument the value is null.
        cases rest with
        | nil =>
          rw [evalHead] at evaluated
          cases evaluated
          exact scalar _ rfl
        | cons other _ =>
          rw [evalHead] at evaluated
          exact others other List.mem_cons_self _ evaluated
  · cases evaluated
    exact scalar _ rfl

/-- The result of a case is good when all arguments are, and so is null without a case. -/
theorem evalCases_good (scalar : ∀ v, v.isScalar = true → good v) :
    ∀ {args : List Expr}, (∀ arg ∈ args, ∀ v, arg.eval env = .ok v → good v) →
      evalCases env args = .ok v → good v
  | [], _, evaluated => by
    rw [evalCases] at evaluated
    cases evaluated
    exact scalar _ rfl
  | [default], each, evaluated => by
    rw [evalCases] at evaluated
    exact each default List.mem_cons_self _ evaluated
  -- The result belongs to the first condition that holds.
  | condition :: result :: rest, each, evaluated => by
    obtain ⟨_, each⟩ := List.forall_mem_cons.1 each
    obtain ⟨second, others⟩ := List.forall_mem_cons.1 each
    rw [evalCases] at evaluated
    split at evaluated
    · cases evaluated
    · split at evaluated
      · exact second _ evaluated
      · exact evalCases_good scalar others evaluated

/-- A function of the values of all its arguments gives a good value when each argument does. -/
theorem evaluate?_good (scalar : ∀ v, v.isScalar = true → good v) (f : Function)
    (each : ∀ arg ∈ args, ∀ v, arg.eval env = .ok v → good v) {values : List Value}
    (further : evalEach env args = .ok values)
    (given : (f.evaluate? env.now values).getD (.ok .null) = .ok v) : good v := by
  cases found : f.evaluate? env.now values with
  | none =>
    -- A number of arguments that does not fit gives null.
    rw [found] at given
    cases given
    exact scalar _ rfl
  | some outcome =>
    rw [found, Option.getD_some] at given
    subst given
    obtain plain | member := Function.isScalar_or_mem found
    · exact scalar v plain
    · exact evalEach_good each further v member

/-- A call gives a good value when its arguments do. -/
theorem eval_call_good (scalar : ∀ v, v.isScalar = true → good v) (f : Function)
    (each : ∀ arg ∈ args, ∀ v, arg.eval env = .ok v → good v)
    (evaluated : (call f args).eval env = .ok v) : good v := by
  cases f with
  | choice f =>
    -- The functions that choose their arguments have an evaluation of their own.
    cases f with
    | ifThen =>
      rw [eval] at evaluated
      exact evalIf_good scalar each evaluated
    | caseWhen =>
      rw [eval] at evaluated
      exact evalCases_good scalar each evaluated
    | coalesce =>
      rw [eval] at evaluated
      exact evalPresent_good scalar each evaluated
    | allOf =>
      rw [eval] at evaluated
      exact scalar v (isScalar_of_evalAll evaluated)
    | anyOf =>
      rw [eval] at evaluated
      exact scalar v (isScalar_of_evalAny evaluated)
  -- Every other function gets the values of all its arguments.
  | _ =>
    simp only [eval] at evaluated
    split at evaluated
    · exact evaluate?_good scalar _ each ‹_› evaluated
    · cases evaluated

mutual

/-- A tree whose literals are scalars gives a good value when scalars and fields are good. -/
theorem eval_good (scalar : ∀ v, v.isScalar = true → good v)
    (fields : ∀ name, good (env.reading name)) :
    ∀ e : Expr, (∀ v, Occurs (.literal v) e → v.isScalar = true) →
      ∀ v, e.eval env = .ok v → good v
  | literal w, literals, v, evaluated => by
    rw [eval] at evaluated
    cases evaluated
    exact scalar w (literals w .here)
  | field name, _, v, evaluated => by
    rw [eval] at evaluated
    cases evaluated
    exact fields name
  | foreign _ _, _, v, evaluated => by
    rw [eval] at evaluated
    cases evaluated
    exact scalar _ rfl
  -- An operator gives a scalar, or hands its second operand on.
  | unary op operand, _, v, evaluated => by
    rw [eval] at evaluated
    split at evaluated
    · cases evaluated
      exact scalar _ (op.isScalar_apply _)
    · cases evaluated
  | binary op left right, literals, v, evaluated => by
    rw [eval] at evaluated
    split at evaluated
    · cases evaluated
    · rename_i a given
      split at evaluated
      · -- The left operand decides, and is the value.
        cases evaluated
        exact eval_good scalar fields left (fun v inside => literals v (.left inside)) _ given
      · split at evaluated
        · rename_i b further
          cases evaluated
          obtain plain | same := op.isScalar_apply_or_eq a b
          · exact scalar _ plain
          · rw [same]
            exact eval_good scalar fields right (fun v inside => literals v (.right inside)) b
              further
        · cases evaluated
  | call f args, literals, v, evaluated =>
    eval_call_good scalar f (evalEvery_good scalar fields args fun arg member v inside =>
      literals v (.argument member inside)) evaluated

/-- Each of some trees whose literals are scalars gives a good value. -/
theorem evalEvery_good (scalar : ∀ v, v.isScalar = true → good v)
    (fields : ∀ name, good (env.reading name)) :
    ∀ args : List Expr, (∀ arg ∈ args, ∀ v, Occurs (.literal v) arg → v.isScalar = true) →
      ∀ arg ∈ args, ∀ v, arg.eval env = .ok v → good v
  | [], _ => List.forall_mem_nil _
  | first :: rest, literals => by
    obtain ⟨here, others⟩ := List.forall_mem_cons.1 literals
    rw [List.forall_mem_cons]
    exact ⟨eval_good scalar fields first here, evalEvery_good scalar fields rest others⟩

end

end Expr

/-- A formula gives a good value when scalars and the fields that it sees are good. -/
theorem Formula.eval_good {env : Environment} {good : Value → Prop} (f : Formula)
    (scalar : ∀ v, v.isScalar = true → good v) (fields : ∀ name, good (env.reading name))
    {v : Value} (evaluated : f.eval env = .ok v) : good v :=
  Expr.eval_good scalar fields f.expr (fun _ => f.isScalar_of_occurs) v evaluated

end CalcFields
