import CalcFields.Engine.Reload
import Mathlib.Order.Bounds.Defs

/-!
A reload makes reads up to the first one that fails, that agrees with the read before it or that
uses its attempts up, and none after it. What that read gives decides what the reload leaves.
-/

namespace CalcFields

namespace DefinitionSource

variable {σ : Type} (source : DefinitionSource σ) (start : σ)

/-- The source after so many reads. -/
def after : Nat → σ
  | 0 => start
  | count + 1 => (source (after count)).2

/-- What a read gives, where the first one has the number one. -/
def read (number : Nat) : DefinitionRead :=
  (source (source.after start (number - 1))).1

/-- The next read gives what its number says and takes the source one read further. -/
theorem source_after (count : Nat) : source (source.after start count) =
    (source.read start (count + 1), source.after start (count + 1)) := rfl

end DefinitionSource

variable {reads : Nat → DefinitionRead} {attempts number : Nat}

/-- Two reads agree when both give definitions, and the selections of these have one signature. -/
def ReadsAgree (earlier later : DefinitionRead) : Prop :=
  ∃ first second, earlier = .ok first ∧ later = .ok second ∧
    (Selection.ofDefinitions first).signature = (Selection.ofDefinitions second).signature

/-- A reload can end with a read that fails, with one that agrees with the read before it and with
the last one that its attempts allow, of which there is at least one. -/
def EndsReload (reads : Nat → DefinitionRead) (attempts number : Nat) : Prop :=
  1 ≤ number ∧
    ((∃ reason, reads number = .error reason) ∨
      2 ≤ number ∧ ReadsAgree (reads (number - 1)) (reads number) ∨ number = max attempts 1)

/-- The signature that is known before a read: the one of the read before it, if there was one. -/
def signatureBefore (reads : Nat → DefinitionRead) : Nat → Option String
  | 0 | 1 => none
  | number + 2 =>
    (reads (number + 1)).toOption.map fun definitions =>
      (Selection.ofDefinitions definitions).signature

/-- What is read agrees with the signature that is known before it exactly when the two reads
agree. -/
theorem agrees_signatureBefore {definitions : List Definition}
    (given : reads number = .ok definitions) :
    agrees (signatureBefore reads number) definitions = true ↔
      2 ≤ number ∧ ReadsAgree (reads (number - 1)) (reads number) := by
  -- Before the second read no signature is known.
  match number with
  | 0 | 1 => simp [agrees, signatureBefore]
  | number + 2 =>
    rw [and_iff_right (Nat.le_add_left 2 number), Nat.add_sub_assoc (by decide)]
    show (_ == _) = true ↔ ReadsAgree (reads (number + 1)) (reads (number + 2))
    rw [beq_iff_eq, ReadsAgree, given]
    cases before : reads (number + 1) with
    | error reason => simp [signatureBefore, before, Except.toOption]
    | ok first => simp [signatureBefore, before, Except.toOption]

/-- How reading ends with a read. -/
def settledBy (reads : Nat → DefinitionRead) (number : Nat) : Except ReloadError SettledRead :=
  match reads number with
  | .error reason => .error ⟨number, reason⟩
  | .ok definitions =>
    .ok ⟨definitions, number, agrees (signatureBefore reads number) definitions⟩

/-- The first read from some point on is the first of all when the reload cannot end before it. -/
theorem isLeast_endsReload {done : Nat}
    (quiet : ∀ number, EndsReload reads attempts number → done < number)
    (ends : (∃ reason, reads (done + 1) = .error reason) ∨
      2 ≤ done + 1 ∧ ReadsAgree (reads done) (reads (done + 1)) ∨ done + 1 = max attempts 1) :
    IsLeast {number | EndsReload reads attempts number} (done + 1) :=
  ⟨⟨Nat.le_add_left 1 done, ends⟩, quiet⟩

/-- Reading that was not to end earlier ends with the first read that it can end with. -/
theorem settleFrom_eq {σ : Type} (source : DefinitionSource σ) (start : σ)
    (attempts left done : Nat) (all : done + 1 + left = max attempts 1)
    (quiet : ∀ number, EndsReload (source.read start) attempts number → done < number) :
    ∃ number, IsLeast {number | EndsReload (source.read start) attempts number} number ∧
      settleFrom source left (done + 1) (signatureBefore (source.read start) (done + 1))
          (source.after start done) =
        (settledBy (source.read start) number, source.after start number) := by
  -- Induction on the reads that are left, none of which before has ended the reload.
  induction left generalizing done with
  | zero =>
    -- This read is the last one that is allowed.
    refine ⟨done + 1, isLeast_endsReload quiet (.inr (.inr all)), ?_⟩
    rw [settleFrom, source.source_after]
    cases given : source.read start (done + 1) with
    | error reason => simp only [settledBy, given]
    | ok definitions => simp only [settledBy, given]
  | succ left ih =>
    rw [settleFrom, source.source_after]
    cases given : source.read start (done + 1) with
    | error reason =>
      -- A read that fails ends the reload, and is not tried again.
      refine ⟨done + 1, isLeast_endsReload quiet (.inl ⟨reason, given⟩), ?_⟩
      simp only [settledBy, given]
    | ok definitions =>
      have same := agrees_signatureBefore given
      by_cases settled :
          agrees (signatureBefore (source.read start) (done + 1)) definitions = true
      · -- This read agrees with the one before it.
        refine ⟨done + 1, isLeast_endsReload quiet (.inr (.inl (same.1 settled))), ?_⟩
        simp only [settledBy, given, settled, if_true]
      · -- Reading goes on, since this read is none to end with.
        have further : ∀ number,
            EndsReload (source.read start) attempts number → done + 1 < number := by
          intro number ends
          refine Nat.lt_of_le_of_ne (quiet number ends) ?_
          rintro rfl
          obtain ⟨-, ⟨reason, failed⟩ | agree | last⟩ := ends
          · cases given.symm.trans failed
          · exact settled (same.2 agree)
          · omega
        have known : signatureBefore (source.read start) (done + 1 + 1) =
            some (Selection.ofDefinitions definitions).signature := by
          simp only [signatureBefore, given, Except.toOption, Option.map_some]
        dsimp only
        rw [if_neg settled, ← known]
        exact ih (done + 1) (by omega) further

/-- A reload makes the reads up to the first one that it can end with and no other. When that read
fails, the reload reports it and leaves the registry alone. Otherwise the snapshot of what the read
gave becomes the active one, and the report tells of it, of the number of reads and of whether the
last two agree. -/
theorem Registry.reloadFrom_ends {σ : Type} (registry : Registry) (source : DefinitionSource σ)
    (start : σ) (attempts : Nat) :
    let reads := source.read start
    let reloaded := registry.reloadFrom source start attempts
    ∃ number, IsLeast {number | EndsReload reads attempts number} number ∧
      reloaded.source = source.after start number ∧
      match reads number with
      | .error reason => reloaded.outcome = .error ⟨number, reason⟩ ∧ reloaded.registry = registry
      | .ok definitions =>
        reloaded.registry = registry.load definitions ∧
          reloaded.registry.active = (Snapshot.build definitions registry.cache).1 ∧
          ∃ report, reloaded.outcome = .ok report ∧ report.attempts = number ∧
            (report.stabilized = true ↔
              2 ≤ number ∧ ReadsAgree (reads (number - 1)) (reads number)) ∧
            report.signature = reloaded.registry.active.signature ∧
            report.formulas = reloaded.registry.active.size ∧
            report.collections = reloaded.registry.active.collections.size := by
  intro reads reloaded
  obtain ⟨number, least, settled⟩ := settleFrom_eq source start attempts (attempts - 1) 0
    (by omega) fun number ends => ends.1
  refine ⟨number, least, ?_⟩
  -- No signature is known before the first read.
  have run : settleFrom source (attempts - 1) 1 none start =
      (settledBy reads number, source.after start number) := settled
  have whole : reloaded = registry.reloadFrom source start attempts := rfl
  rw [Registry.reloadFrom, run] at whole
  -- A failed read keeps the old snapshot; any other one loads what it read.
  cases given : reads number with
  | error reason =>
    simp only [settledBy, given] at whole
    rw [whole]
    exact ⟨rfl, rfl, rfl⟩
  | ok definitions =>
    simp only [settledBy, given] at whole
    rw [whole]
    refine ⟨rfl, rfl, rfl, _, rfl, rfl, ?_, rfl, rfl, rfl⟩
    rw [← given]
    exact agrees_signatureBefore given

end CalcFields
