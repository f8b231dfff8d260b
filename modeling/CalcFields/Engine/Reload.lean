import CalcFields.Engine.Snapshot

/-!
A registry holds the active snapshot. A reload reads the definitions until two reads in a row select
the same formulas, or until its attempts are used up, and then installs the last read as a whole. A
read that fails ends the reload and leaves the active snapshot in place.
-/

namespace CalcFields

/-- The active snapshot and the cache of compiled formulas. -/
structure Registry where
  active : Snapshot
  cache : FormulaCache

namespace Registry

/-- The registry without formulas. -/
def blank : Registry := ⟨.blank, .empty⟩

/-- Builds a snapshot without making it the active one. -/
def build (registry : Registry) (definitions : List Definition) : Snapshot × Registry :=
  let (snapshot, cache) := Snapshot.build definitions registry.cache
  (snapshot, { registry with cache := cache })

/-- Makes a snapshot the active one. -/
def install (registry : Registry) (snapshot : Snapshot) : Registry :=
  { registry with active := snapshot }

/-- Builds a snapshot and makes it the active one. -/
def load (registry : Registry) (definitions : List Definition) : Registry :=
  let (snapshot, built) := registry.build definitions
  built.install snapshot

end Registry

/-- What a read gives: definitions, or the message of its failure. -/
abbrev DefinitionRead : Type := Except String (List Definition)

/-- A source of definitions: what the next read gives, and the source as that read leaves it. -/
abbrev DefinitionSource (σ : Type) : Type := σ → DefinitionRead × σ

/-- The source of numbered reads, whose state is the number of the next one. -/
def numberedSource (read : Nat → DefinitionRead) : DefinitionSource Nat :=
  fun n => (read n, n + 1)

/-- A read that failed, by its number. -/
structure ReloadError where
  attempt : Nat
  reason : String

/-- The message of a failed reload. -/
def ReloadError.message (e : ReloadError) : String :=
  "Failed to load formula definitions (attempt " ++ toString e.attempt ++ "): " ++ e.reason

/-- The read that a reload ends with, its number, and whether it agrees with the read before it. -/
structure SettledRead where
  definitions : List Definition
  attempts : Nat
  stabilized : Bool

/-- What a reload installed. -/
structure ReloadReport where
  attempts : Nat
  stabilized : Bool
  collections : Nat
  formulas : Nat
  signature : String
  nonLocal : Nat
  failed : Nat

/-- The line that tells of a reload. -/
def ReloadReport.message (report : ReloadReport) : String :=
  toString report.formulas ++ " formula(s) active across " ++ toString report.collections ++
    " collection(s)"

/-- What a read selects has the signature of the read before it. -/
def agrees (last : Option String) (definitions : List Definition) : Bool :=
  last == some (Selection.ofDefinitions definitions).signature

/-- Reads until a read agrees with the one before it; so many attempts are left after this one. -/
def settleFrom {σ : Type} (source : DefinitionSource σ) :
    Nat → Nat → Option String → σ → Except ReloadError SettledRead × σ
  | 0, attempt, last, state =>
    match source state with
    | (.error reason, after) => (.error ⟨attempt, reason⟩, after)
    | (.ok definitions, after) => (.ok ⟨definitions, attempt, agrees last definitions⟩, after)
  | left + 1, attempt, last, state =>
    match source state with
    | (.error reason, after) => (.error ⟨attempt, reason⟩, after)
    | (.ok definitions, after) =>
      if agrees last definitions then (.ok ⟨definitions, attempt, true⟩, after)
      else
        settleFrom source left (attempt + 1)
          (some (Selection.ofDefinitions definitions).signature) after

/-- Reads at most so many times, and at least once. -/
def settle (read : Nat → DefinitionRead) (attempts : Nat) : Except ReloadError SettledRead :=
  (settleFrom (numberedSource read) (attempts - 1) 1 none 1).1

/-- A reload that is over: its outcome, and what it leaves of the registry and of the source. -/
structure Reloaded (σ : Type) where
  outcome : Except ReloadError ReloadReport
  registry : Registry
  source : σ

/-- Reads a source until its definitions settle and installs what was read last. -/
def Registry.reloadFrom {σ : Type} (registry : Registry) (source : DefinitionSource σ) (state : σ)
    (attempts : Nat) : Reloaded σ :=
  match settleFrom source (attempts - 1) 1 none state with
  | (.error e, after) => ⟨.error e, registry, after⟩
  | (.ok settled, after) =>
    let (snapshot, built) := registry.build settled.definitions
    let report : ReloadReport := {
      attempts := settled.attempts
      stabilized := settled.stabilized
      collections := snapshot.collections.size
      formulas := snapshot.size
      signature := snapshot.signature
      nonLocal := snapshot.report.nonLocal.length
      failed := snapshot.report.failed.length }
    ⟨.ok report, built.install snapshot, after⟩

/-- Reloads from numbered reads. -/
def Registry.reload (registry : Registry) (read : Nat → DefinitionRead) (attempts : Nat) :
    Except ReloadError (ReloadReport × Registry) :=
  let reloaded := registry.reloadFrom (numberedSource read) 1 attempts
  reloaded.outcome.map fun report => (report, reloaded.registry)

end CalcFields
