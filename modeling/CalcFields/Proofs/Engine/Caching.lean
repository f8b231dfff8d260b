import CalcFields.Engine.Reload
import CalcFields.Proofs.Engine.Rebuilding
import Mathlib.Data.Finset.Card

/-!
The cache of compiled formulas changes no answer. However a registry was used, its cache keeps the
formulas of the texts that were compiled since it was cleared, and nothing of those that do not
compile.
-/

namespace CalcFields

namespace FormulaCache

variable {cache : FormulaCache} {texts : List String} {source : String}

/-- Compiling a text sets what is kept under it to its formula, if it has one. -/
theorem get?_compile (cache : FormulaCache) (source other : String) :
    (cache.compile source).2.entries.get? other =
      if other = source then (Formula.compile source).toOption else cache.entries.get? other := by
  unfold compile
  cases kept : cache.entries.get? source with
  | some f =>
    -- What is kept already is the formula of the text.
    have compiled : Formula.compile source = .ok f :=
      Formula.compile_eq_ok_iff.2 (cache.keyed source f kept)
    by_cases same : other = source
    · rw [if_pos same, same, kept, compiled]
      rfl
    · rw [if_neg same]
  | none =>
    cases compiled : Formula.compile source with
    -- What compiles is kept under its own text.
    | ok f =>
      have named : f.source = source := Formula.compile_eq_ok_iff.1 compiled
      simp only [keep, FieldMap.get?_insert, named]
      rfl
    -- What does not compile is not kept, and nothing was there before.
    | error e =>
      by_cases same : other = source
      · rw [if_pos same, same]
        exact kept
      · rw [if_neg same]

/-- Evaluating a text through a cache gives what compiling it anew and evaluating gives. -/
theorem fst_eval (cache other : FormulaCache) (source : String) (env : Environment) :
    (cache.eval source env).1 = (other.eval source env).1 := by
  -- A formula that is kept is the one that compiling anew gives.
  have same : (cache.compile source).1 = (other.compile source).1 := by
    rw [fst_compile, fst_compile]
  unfold eval
  cases outcome : cache.compile source with
  | mk result after =>
    cases outcomeToo : other.compile source with
    | mk resultToo afterToo =>
      rw [outcome, outcomeToo] at same
      cases same
      cases result with
      | error e => rfl
      | ok f => cases value : f.eval env <;> simp [value]

/-- Evaluating a text keeps what compiling it keeps. -/
theorem snd_eval (cache : FormulaCache) (source : String) (env : Environment) :
    (cache.eval source env).2 = (cache.compile source).2 := by
  -- Evaluating leaves the cache as the compilation left it.
  unfold eval
  cases outcome : cache.compile source with
  | mk result after =>
    cases result with
    | error e => rfl
    | ok f => cases value : f.eval env <;> simp [value]

/-- A cache keeps the formulas of some texts: of those that compile, and of no others. -/
def Keeps (cache : FormulaCache) (texts : List String) : Prop :=
  ∀ source f, cache.entries.get? source = some f ↔
    source ∈ texts ∧ Formula.compile source = .ok f

/-- The cache that holds nothing keeps the formulas of no texts. -/
theorem keeps_empty : Keeps .empty [] := by
  -- Nothing is held, and no text was asked for.
  intro source f
  simp [empty]

/-- Compiling a text adds it to those whose formulas are kept. -/
theorem Keeps.compile (keeps : Keeps cache texts) (source : String) :
    Keeps (cache.compile source).2 (source :: texts) := by
  -- The text itself is kept if it compiles, and the others are as before.
  intro other f
  rw [get?_compile, List.mem_cons]
  by_cases same : other = source
  · rw [if_pos same, same]
    cases Formula.compile source <;> simp [Except.toOption]
  · rw [if_neg same, keeps other f]
    simp [same]

/-- Compiling definitions adds their texts to those whose formulas are kept. -/
theorem Keeps.ofDefinitions (keeps : Keeps cache texts) (definitions : List Definition) :
    Keeps (Compilation.ofDefinitions cache definitions).cache
      (definitions.map Definition.formula ++ texts) := by
  -- The cache is handed on, and so the induction starts from any compilation under way.
  have grown (done : Compilation) (before : List String) (held : Keeps done.cache before) :
      Keeps (definitions.foldl Compilation.add done).cache
        ((definitions.map Definition.formula).reverse ++ before) := by
    induction definitions generalizing done before with
    | nil => exact held
    | cons d rest ih =>
      have next : (done.add d).cache = (done.cache.compile d.formula).2 := by
        rw [Compilation.add]
        cases outcome : done.cache.compile d.formula with
        | mk result after => cases result <;> rfl
      have added := held.compile d.formula
      rw [← next] at added
      simpa using ih (done.add d) _ added
  intro source f
  simpa [Compilation.ofDefinitions] using grown ⟨[], [], cache⟩ texts keeps source f

/-- A cache has as many entries as there are texts of those whose formulas it keeps that compile. -/
theorem Keeps.size_eq (keeps : Keeps cache texts) :
    cache.size =
      (texts.toFinset.filter fun source => (Formula.compile source).toOption.isSome).card := by
  have distinct : cache.entries.keys.Nodup :=
    (List.pairwise_map.2 cache.entries.distinct)
  -- The keys are the texts that compile, each of them once.
  have names : cache.entries.keys.toFinset =
      texts.toFinset.filter fun source => (Formula.compile source).toOption.isSome := by
    ext source
    rw [List.mem_toFinset, ← FieldMap.isSome_get?_iff, Finset.mem_filter, List.mem_toFinset,
      Option.isSome_iff_exists]
    constructor
    · rintro ⟨f, kept⟩
      obtain ⟨asked, compiled⟩ := (keeps source f).1 kept
      rw [compiled]
      exact ⟨asked, rfl⟩
    · rintro ⟨asked, compiles⟩
      cases compiled : Formula.compile source with
      | ok f => exact ⟨f, (keeps source f).2 ⟨asked, compiled⟩⟩
      | error e =>
        rw [compiled] at compiles
        cases compiles
  rw [← names, List.toFinset_card_of_nodup distinct, FieldMap.keys, List.length_map]
  rfl

end FormulaCache

/-- A use of the cache of a registry. -/
inductive CacheUse where
  | compile (source : String)
  | eval (source : String) (env : Environment)
  | clear
  | build (definitions : List Definition)

/-- What a use of a cache gives. -/
inductive CacheAnswer where
  | formula (outcome : Except CompileError Formula)
  | value (outcome : Except FormulaError Value)
  | cleared
  | snapshot (built : Snapshot)

namespace CacheUse

/-- The answer to a use and the registry after it. -/
def perform (registry : Registry) : CacheUse → CacheAnswer × Registry
  | compile source =>
    let (outcome, cache) := registry.cache.compile source
    (.formula outcome, { registry with cache := cache })
  | eval source env =>
    let (outcome, cache) := registry.cache.eval source env
    (.value outcome, { registry with cache := cache })
  | clear => (.cleared, { registry with cache := .empty })
  | build definitions =>
    let (snapshot, after) := registry.build definitions
    (.snapshot snapshot, after)

/-- The answers to uses one after the other and the registry after them. -/
def performAll (registry : Registry) : List CacheUse → List CacheAnswer × Registry
  | [] => ([], registry)
  | use :: uses =>
    let (answer, next) := use.perform registry
    let (answers, last) := performAll next uses
    (answer :: answers, last)

/-- A use that clears the cache. -/
def isClear : CacheUse → Bool
  | clear => true
  | _ => false

/-- The texts that a use compiles; a snapshot compiles those of its selection. -/
def texts : CacheUse → List String
  | compile source => [source]
  | eval source _ => [source]
  | clear => []
  | build definitions => (Selection.ofDefinitions definitions).formulas.map Definition.formula

/-- The texts that are compiled after the last use that clears the cache. -/
def textsSinceClear (uses : List CacheUse) : List String :=
  (uses.reverse.takeWhile fun use => !use.isClear).flatMap texts

/-- The answer to a use is the same whatever the registry holds. -/
theorem fst_perform (registry other : Registry) (use : CacheUse) :
    (use.perform registry).1 = (use.perform other).1 := by
  -- Each use answers from the texts it is given.
  cases use with
  | compile source =>
    exact congrArg CacheAnswer.formula
      ((registry.cache.fst_compile source).trans (other.cache.fst_compile source).symm)
  | eval source env =>
    exact congrArg CacheAnswer.value (registry.cache.fst_eval other.cache source env)
  | clear => rfl
  | build definitions =>
    have same : (Snapshot.build definitions registry.cache).1 =
        (Snapshot.build definitions other.cache).1 := by
      rw [Snapshot.build, Snapshot.build, Snapshot.fst_ofSelection, Snapshot.fst_ofSelection]
    exact congrArg CacheAnswer.snapshot same

/-- A use leaves the active snapshot. -/
theorem active_perform (registry : Registry) (use : CacheUse) :
    (use.perform registry).2.active = registry.active := by
  cases use <;> rfl

/-- A use that clears the cache leaves it empty, and any other adds the texts that it compiles. -/
theorem keeps_perform {registry : Registry} {kept : List String}
    (keeps : registry.cache.Keeps kept) (use : CacheUse) :
    (use.perform registry).2.cache.Keeps
      (if use.isClear then [] else use.texts ++ kept) := by
  -- Only clearing forgets; every other use compiles its own texts.
  cases use with
  | compile source => exact keeps.compile source
  | eval source env =>
    show (registry.cache.eval source env).2.Keeps _
    rw [FormulaCache.snd_eval]
    exact keeps.compile source
  | clear => exact FormulaCache.keeps_empty
  | build definitions => exact keeps.ofDefinitions _

/-- The answers to uses one after the other are those to each of them alone. -/
theorem fst_performAll (registry other : Registry) (uses : List CacheUse) :
    (performAll registry uses).1 = uses.map fun use => (use.perform other).1 := by
  -- Induction on the uses; the answer of each is the same over any cache.
  induction uses generalizing registry with
  | nil => rfl
  | cons use rest ih => exact congrArg₂ List.cons (fst_perform registry other use) (ih _)

/-- Uses one after the other leave the active snapshot. -/
theorem active_performAll (registry : Registry) (uses : List CacheUse) :
    (performAll registry uses).2.active = registry.active := by
  -- No use replaces the active snapshot.
  induction uses generalizing registry with
  | nil => rfl
  | cons use rest ih => exact (ih _).trans (active_perform registry use)

/-- One more use follows the others. -/
theorem snd_performAll_concat (registry : Registry) (uses : List CacheUse) (use : CacheUse) :
    (performAll registry (uses ++ [use])).2 = (use.perform (performAll registry uses).2).2 := by
  -- Induction on the uses before the last one.
  induction uses generalizing registry with
  | nil => rfl
  | cons first rest ih => exact ih (first.perform registry).2

/-- The texts compiled since a use are none when it clears the cache, and its own and those before
it when it does not. -/
theorem textsSinceClear_concat (uses : List CacheUse) (use : CacheUse) :
    textsSinceClear (uses ++ [use]) =
      if use.isClear then [] else use.texts ++ textsSinceClear uses := by
  -- The uses are counted from the last one back, up to a use that clears.
  rw [textsSinceClear, List.reverse_append, List.reverse_singleton, List.singleton_append,
    List.takeWhile_cons]
  cases use.isClear <;> rfl

/-- A registry whose cache was empty at first keeps the formulas of the texts that were compiled
since the cache was cleared. -/
theorem keeps_performAll (active : Snapshot) (uses : List CacheUse) :
    (performAll ⟨active, .empty⟩ uses).2.cache.Keeps (textsSinceClear uses) := by
  -- Induction on the uses from the last one back.
  induction uses using List.reverseRecOn with
  | nil => exact FormulaCache.keeps_empty
  | append_singleton uses use ih =>
    rw [snd_performAll_concat, textsSinceClear_concat]
    exact keeps_perform ih use

/-- Uses of a cache one after the other get the answers that an empty cache gives to each, and leave
the active snapshot. The cache then has an entry under every text that compiles and was compiled
since the last clearing, with its formula, and no other. -/
theorem performAll_transparent (active : Snapshot) (uses : List CacheUse) :
    let (answers, after) := performAll ⟨active, .empty⟩ uses
    answers = uses.map (fun use => (use.perform ⟨active, .empty⟩).1) ∧ after.active = active ∧
      (∀ source f, after.cache.entries.get? source = some f ↔
        source ∈ textsSinceClear uses ∧ Formula.compile source = .ok f) ∧
      after.cache.size = ((textsSinceClear uses).toFinset.filter fun source =>
        (Formula.compile source).toOption.isSome).card := by
  have keeps := keeps_performAll active uses
  exact ⟨fst_performAll _ _ uses, active_performAll _ uses, keeps, keeps.size_eq⟩

end CacheUse

end CalcFields
