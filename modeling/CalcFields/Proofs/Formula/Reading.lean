import CalcFields.Proofs.Formula.Extraction

/-!
A formula reads only the fields that its text names as dependencies. The tree names no other field,
and the value of a tree depends only on the fields that it names.
-/

namespace CalcFields

/-- What a formula reads in a field: the value there, and null where there is none. -/
def Environment.reading (env : Environment) (name : String) : Value :=
  (env.field name).getD .null

/-- The functions on dates but those that tell the time give the same at all clocks. -/
theorem Dating.evaluate?_clock {f : Dating} (noNow : f ≠ .now) (noToday : f ≠ .today)
    (now later : Instant) : f.evaluate? now = f.evaluate? later := by
  funext values
  fun_cases Dating.evaluate? now f values with
  | case1 => exact absurd rfl noToday
  | case2 => exact absurd rfl noNow
  -- No other function looks at the clock, whatever the arguments are.
  | _ => simp_all [Dating.evaluate?]

namespace Expr

variable {a b : Environment}

/-- Arguments that evaluate alike have the same list of values. -/
theorem evalEach_congr {args : List Expr} (alike : ∀ arg ∈ args, arg.eval a = arg.eval b) :
    evalEach a args = evalEach b args := by
  -- Induction on the arguments, each of which has the same value.
  induction args with
  | nil => rw [evalEach, evalEach]
  | cons arg rest ih =>
    obtain ⟨first, others⟩ := List.forall_mem_cons.1 alike
    rw [evalEach, evalEach, first, ih others]

/-- Arguments that evaluate alike choose the same one as the first that is present. -/
theorem evalPresent_congr {args : List Expr} (alike : ∀ arg ∈ args, arg.eval a = arg.eval b) :
    evalPresent a args = evalPresent b args := by
  -- Induction on the arguments.
  induction args with
  | nil => rw [evalPresent, evalPresent]
  | cons arg rest ih =>
    obtain ⟨first, others⟩ := List.forall_mem_cons.1 alike
    rw [evalPresent, evalPresent, first, ih others]

/-- Arguments that evaluate alike are all true together. -/
theorem evalAll_congr {args : List Expr} (alike : ∀ arg ∈ args, arg.eval a = arg.eval b) :
    evalAll a args = evalAll b args := by
  -- Induction on the arguments.
  induction args with
  | nil => rw [evalAll, evalAll]
  | cons arg rest ih =>
    obtain ⟨first, others⟩ := List.forall_mem_cons.1 alike
    rw [evalAll, evalAll, first, ih others]

/-- Arguments that evaluate alike are all false together. -/
theorem evalAny_congr {args : List Expr} (alike : ∀ arg ∈ args, arg.eval a = arg.eval b) :
    evalAny a args = evalAny b args := by
  -- Induction on the arguments.
  induction args with
  | nil => rw [evalAny, evalAny]
  | cons arg rest ih =>
    obtain ⟨first, others⟩ := List.forall_mem_cons.1 alike
    rw [evalAny, evalAny, first, ih others]

/-- A condition that evaluates alike chooses the same argument, which evaluates alike. -/
theorem evalIf_congr : ∀ {args : List Expr}, (∀ arg ∈ args, arg.eval a = arg.eval b) →
    evalIf a args = evalIf b args
  | [], _ => rfl
  | [_], _ => rfl
  | condition :: result :: rest, alike => by
    obtain ⟨first, alike⟩ := List.forall_mem_cons.1 alike
    obtain ⟨second, others⟩ := List.forall_mem_cons.1 alike
    rw [evalIf, evalIf, first, second]
    cases rest with
    | nil => rw [evalHead, evalHead]
    -- Arguments after the third one are never evaluated.
    | cons other _ => rw [evalHead, evalHead, others other List.mem_cons_self]

/-- Conditions and results that evaluate alike choose the same case. -/
theorem evalCases_congr : ∀ {args : List Expr}, (∀ arg ∈ args, arg.eval a = arg.eval b) →
    evalCases a args = evalCases b args
  | [], _ => by rw [evalCases, evalCases]
  -- A last argument without a partner is the result when no condition holds.
  | [default], alike => by
    rw [evalCases, evalCases]
    exact alike default List.mem_cons_self
  | condition :: result :: rest, alike => by
    obtain ⟨first, alike⟩ := List.forall_mem_cons.1 alike
    obtain ⟨second, others⟩ := List.forall_mem_cons.1 alike
    rw [evalCases, evalCases, first, second, evalCases_congr others]

/-- A call of a function whose arguments evaluate alike has one value, when the function gives the
same at both clocks. -/
theorem eval_call_congr {f : Function} (clock : f.evaluate? a.now = f.evaluate? b.now)
    {args : List Expr} (alike : ∀ arg ∈ args, arg.eval a = arg.eval b) :
    (call f args).eval a = (call f args).eval b := by
  -- The functions that choose their arguments have an evaluation of their own.
  cases f with
  | choice f =>
    cases f with
    | ifThen => rw [eval, eval, evalIf_congr alike]
    | caseWhen => rw [eval, eval, evalCases_congr alike]
    | coalesce => rw [eval, eval, evalPresent_congr alike]
    | allOf => rw [eval, eval, evalAll_congr alike]
    | anyOf => rw [eval, eval, evalAny_congr alike]
  -- Every other function gets the values of all its arguments, and some ask the clock.
  | test f => simp only [eval, evalEach_congr alike, clock]
  | calculation f => simp only [eval, evalEach_congr alike, clock]
  | wording f => simp only [eval, evalEach_congr alike, clock]
  | dating f => simp only [eval, evalEach_congr alike, clock]
  | conversion f => simp only [eval, evalEach_congr alike, clock]

/-- The functions that a tree calls give the same at the clocks of two environments. -/
def ClocksAgree (a b : Environment) (e : Expr) : Prop :=
  ∀ f args, Occurs (call f args) e → f.evaluate? a.now = f.evaluate? b.now

mutual

/-- The value of a tree depends only on the fields that it names, and on the clock. -/
theorem eval_congr : ∀ e : Expr, ClocksAgree a b e →
    (∀ name ∈ e.mentions, a.reading name = b.reading name) → e.eval a = e.eval b
  | literal v, _, _ => by rw [eval, eval]
  | field name, _, agree => by
    -- Only here does the value of a tree come from a field.
    rw [eval, eval]
    exact congrArg Except.ok (agree name (by simp [mentions]))
  | foreign _ _, _, _ => by rw [eval, eval]
  | unary op operand, clocks, agree => by
    rw [eval, eval, eval_congr operand (fun f args inside => clocks f args (.operand inside)) agree]
  | binary op left right, clocks, agree => by
    have first := eval_congr left (fun f args inside => clocks f args (.left inside))
      fun name named => agree name (by simp [mentions, named])
    have second := eval_congr right (fun f args inside => clocks f args (.right inside))
      fun name named => agree name (by simp [mentions, named])
    rw [eval, eval, first, second]
  | call f args, clocks, agree => by
    -- A call agrees when its clock does and its arguments do.
    refine eval_call_congr (clocks f args .here) (evalEvery_congr args ?_ agree)
    exact fun arg member g inner inside => clocks g inner (.argument member inside)

/-- Each of some trees has a value that depends only on the fields that they name. -/
theorem evalEvery_congr : ∀ args : List Expr, (∀ arg ∈ args, ClocksAgree a b arg) →
    (∀ name ∈ mentionsAll args, a.reading name = b.reading name) →
      ∀ arg ∈ args, arg.eval a = arg.eval b
  | [], _, _ => fun _ member => absurd member List.not_mem_nil
  | first :: rest, clocks, agree => by
    rw [List.forall_mem_cons] at clocks ⊢
    refine ⟨eval_congr first clocks.1 ?_, evalEvery_congr rest clocks.2 ?_⟩
    · exact fun name named => agree name (by simp [mentionsAll, named])
    · exact fun name named => agree name (by simp [mentionsAll, named])

end

/-- A tree is timeless when it calls neither of the functions that tell the time. -/
structure Timeless (e : Expr) : Prop where
  noNow : ∀ args, ¬ Occurs (call (.dating .now) args) e
  noToday : ∀ args, ¬ Occurs (call (.dating .today) args) e

/-- The functions that a timeless tree calls give the same at all clocks. -/
theorem Timeless.clocksAgree {e : Expr} (timeless : e.Timeless) (a b : Environment) :
    ClocksAgree a b e := by
  intro f args inside
  cases f with
  | dating f =>
    have noNow : f ≠ .now := by
      rintro rfl
      exact timeless.noNow args inside
    have noToday : f ≠ .today := by
      rintro rfl
      exact timeless.noToday args inside
    -- Only two functions look at the clock, and neither is called here.
    have same := f.evaluate?_clock noNow noToday a.now b.now
    funext values
    rw [Function.evaluate?, Function.evaluate?, same]
  | _ => rfl

end Expr

namespace Formula

/-- The value of a formula depends only on its dependencies and on the clock. -/
theorem eval_congr {a b : Environment} (f : Formula) (clock : a.now = b.now)
    (agree : ∀ name ∈ f.dependencies, a.reading name = b.reading name) : f.eval a = f.eval b :=
  f.expr.eval_congr (fun _ _ _ => by rw [clock]) fun name named =>
    agree name (mentions_subset_dependencies f.parsed named)

/-- The value of a timeless formula does not depend on the clock. -/
theorem eval_timeless {f : Formula} (timeless : f.expr.Timeless) (fields : String → Option Value)
    (now later : Instant) : f.eval ⟨fields, now⟩ = f.eval ⟨fields, later⟩ :=
  f.expr.eval_congr (timeless.clocksAgree _ _) fun _ _ => rfl

/-- A text that compiles names every field of its tree among its dependencies. Two sources of fields
that agree on the dependencies, where an absent field agrees with null, give the same value or the
same error at every clock. -/
theorem compile_reads_dependencies {source : String} {f : Formula}
    (compiled : compile source = .ok f) :
    (∀ name ∈ f.expr.fields, name ∈ extractDependencies source) ∧
      ∀ (a b : String → Option Value) (now : Instant),
        (∀ name ∈ extractDependencies source, (a name).getD .null = (b name).getD .null) →
          f.eval ⟨a, now⟩ = f.eval ⟨b, now⟩ := by
  -- A compiled formula carries its text, from which the dependencies are read.
  obtain rfl := compile_eq_ok_iff.1 compiled
  constructor
  · intro name named
    exact mentions_subset_dependencies f.parsed (List.mem_eraseDups.1 named)
  · intro a b now agree
    exact f.eval_congr rfl agree

/-- A formula that reads one field and names another in a string. -/
def quoting : Formula :=
  ⟨"\x7b\x7b net \x7d\x7d = \"\x7b\x7btax\x7d\x7d\"",
    .binary .equal (.field "net") (.literal (.string "\x7b\x7btax\x7d\x7d")), by cbv⟩

/-- The field that the formula reads is a dependency, and a null in it is no different from nothing
at all. -/
theorem compile_reads_dependencies_quoting :
    compile quoting.source = .ok quoting ∧ "net" ∈ extractDependencies quoting.source ∧
      quoting.eval ⟨(FieldMap.ofList [("net", .null), ("gross", .string "7")]).get?, .midnight 0⟩ =
        quoting.eval ⟨(FieldMap.empty : Record).get?, .midnight 0⟩ := by
  have compiled : compile quoting.source = .ok quoting := compile_eq_ok_iff.2 rfl
  obtain ⟨named, alike⟩ := compile_reads_dependencies compiled
  refine ⟨compiled, named "net" (List.mem_singleton.2 rfl), alike _ _ _ ?_⟩
  -- The text names two fields, which are null in both records.
  have dependencies : extractDependencies quoting.source = ["net", "tax"] := by cbv
  rw [dependencies]
  simp only [List.mem_cons, List.not_mem_nil, or_false, forall_eq_or_imp, forall_eq]
  exact ⟨rfl, rfl⟩

end Formula

end CalcFields
