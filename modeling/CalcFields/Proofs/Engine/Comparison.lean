import CalcFields.Proofs.Engine.Attempt
import CalcFields.Proofs.Graph.Precedes

/-!
Two series of attempts give the same where the fields that they read are the same. One comparison
leaves fields out of a schedule, and the other changes the record under it.
-/

namespace CalcFields

namespace CollectionFormulas

variable {formulas : CollectionFormulas} {record other : Record} {now : Instant}
  {computed otherComputed : Record} {name reader field : String} {rest schedule : List String}

/-- The same attempt keeps two readings of a field the same. -/
theorem reading_after_congr
    (same : formulas.attempt record now computed name =
      formulas.attempt other now otherComputed name)
    (alike : (computed.get? field).getD (record.field field) =
      (otherComputed.get? field).getD (other.field field)) :
    ((formulas.after record now computed name).get? field).getD (record.field field) =
      ((formulas.after other now otherComputed name).get? field).getD (other.field field) := by
  by_cases here : field = name
  · subst here
    rw [get?_after_self, get?_after_self, same]
    cases (formulas.attempt other now otherComputed field).bind Attempt.value? with
    -- The attempt failed on both sides, and each reads on as it did.
    | none => exact alike
    -- The attempt gave one value, which both sides read from now on.
    | some v => rfl
  · -- The turn of another field moves neither reading.
    rw [get?_after_of_ne here, get?_after_of_ne here]
    exact alike

/-- A field that gives the value which the record has reads the same after its turn. -/
theorem reading_after_of_stored
    (stored : ∀ v, formulas.attempt record now computed name = some ⟨name, .ok v⟩ →
      v = record.field name)
    (before : (computed.get? name).getD (record.field name) = record.field name) :
    ((formulas.after record now computed name).get? name).getD (record.field name) =
      record.field name := by
  -- The reading stays at what it was, or moves to the value given, which the record has.
  rw [get?_after_self]
  cases given : (formulas.attempt record now computed name).bind Attempt.value? with
  | none => exact before
  | some v => exact stored v (value?_attempt.1 given)

/-- The attempt at a field is kept by a test exactly when the field is. -/
theorem filter_attempt (keep : String → Bool) :
    (formulas.attempt record now computed name).toList.filter (keep ·.field) =
      if keep name then (formulas.attempt record now computed name).toList else [] := by
  cases tried : formulas.attempt record now computed name with
  | none => simp
  | some a =>
    -- The one attempt is at the field of the name, whose test decides.
    rw [← field_of_attempt tried, Option.toList_some, List.filter_singleton]
    cases keep a.field <;> rfl

/-- Fields can be left out of a schedule when those that stay read no value computed for them that
differs from the record: the attempts at the fields that stay are the same. -/
theorem attemptsFrom_filter {keep : String → Bool} {whole part : Record}
    (alike : ∀ reader, keep reader = true → ∀ field ∈ formulas.graph.dependencies reader,
      (whole.get? field).getD (record.field field) = (part.get? field).getD (record.field field))
    (blank : ∀ field, keep field = false → part.get? field = none)
    (settled : ∀ reader, keep reader = true → ∀ field ∈ formulas.graph.dependencies reader,
      keep field = false → ∀ v,
        ⟨field, .ok v⟩ ∈ formulas.attemptsFrom record now whole schedule →
          v = record.field field) :
    formulas.attemptsFrom record now part (schedule.filter keep) =
      (formulas.attemptsFrom record now whole schedule).filter (keep ·.field) := by
  -- Along the schedule, what the fields that stay read is the same in both series.
  induction schedule generalizing whole part with
  | nil => rfl
  | cons name rest ih =>
    have later : ∀ reader, keep reader = true → ∀ field ∈ formulas.graph.dependencies reader,
        keep field = false → ∀ v, ⟨field, .ok v⟩ ∈ formulas.attemptsFrom record now
          (formulas.after record now whole name) rest → v = record.field field := by
      intro reader stays field listed dropped v made
      exact settled reader stays field listed dropped v (List.mem_append_right _ made)
    rw [attemptsFrom, List.filter_append, filter_attempt]
    cases stays : keep name with
    | true =>
      have same : formulas.attempt record now whole name = formulas.attempt record now part name :=
        attempt_congr (alike name stays)
      rw [List.filter_cons_of_pos stays, attemptsFrom, same, if_pos rfl]
      congr 1
      -- A field that stays is attempted in both series, on the same readings.
      refine ih ?_ ?_ later
      · intro reader staying field listed
        exact reading_after_congr same (alike reader staying field listed)
      · -- A field left out is another one, and stays without a value in the part.
        intro field dropped
        have differ : field ≠ name := fun here => by simp [here, stays] at dropped
        rw [get?_after_of_ne differ]
        exact blank field dropped
    | false =>
      rw [List.filter_cons_of_neg (by simp [stays]), if_neg Bool.false_ne_true, List.nil_append]
      -- A field left out is attempted in the whole series only.
      refine ih ?_ blank later
      intro reader staying field listed
      by_cases here : field = name
      · -- A value computed for a field left out is the one that the record has.
        subst here
        have before := alike reader staying field listed
        rw [blank field stays] at before ⊢
        refine reading_after_of_stored (fun v tried => ?_) before
        refine settled reader staying field listed stays v ?_
        exact List.mem_append_left _ (Option.mem_toList.2 tried)
      · -- Every other field keeps its reading.
        rw [get?_after_of_ne here]
        exact alike reader staying field listed

/-- A pass over part of a schedule makes the attempts of the whole pass at that part, when the
fields of the part read no value computed beside it that differs from the record. -/
theorem attempts_filter {keep : String → Bool}
    (settled : ∀ reader, keep reader = true → ∀ field ∈ formulas.graph.dependencies reader,
      keep field = false → ∀ v,
        ⟨field, .ok v⟩ ∈ formulas.attempts record now schedule → v = record.field field) :
    formulas.attempts record now (schedule.filter keep) =
      (formulas.attempts record now schedule).filter (keep ·.field) :=
  attemptsFrom_filter (fun _ _ _ _ => rfl) (fun _ _ => rfl) settled

/-- A field is ready for a reader when two records have the same in it, or when its value is known
by the turn of the reader: it has been computed, or will be before that turn. -/
def Ready (formulas : CollectionFormulas) (record other : Record) (now : Instant)
    (computed : Record) (schedule : List String) (reader field : String) : Prop :=
  record.field field = other.field field ∨ (computed.get? field).isSome = true ∨
    Precedes schedule field reader ∧
      ∃ v, ⟨field, .ok v⟩ ∈ formulas.attemptsFrom record now computed schedule

/-- When the turn of a reader has come, a field that is ready reads the same on both records. -/
theorem Ready.reading (fresh : reader ∉ rest)
    (ready : Ready formulas record other now computed (reader :: rest) reader field)
    (alike : computed.get? field = otherComputed.get? field) :
    (computed.get? field).getD (record.field field) =
      (otherComputed.get? field).getD (other.field field) := by
  rw [← alike]
  obtain stored | known | ⟨precedes, _⟩ := ready
  · -- Both records have the same, behind the same computed value if there is one.
    rw [stored]
  · -- The computed value stands before either record.
    obtain ⟨v, held⟩ := Option.isSome_iff_exists.1 known
    rw [held]
    rfl
  · -- A field before the reader would put the reader into the rest.
    exact absurd precedes.second_mem_rest fresh

/-- A field that is ready stays so after a turn. -/
theorem Ready.after (fresh : name ∉ rest)
    (ready : Ready formulas record other now computed (name :: rest) reader field) :
    Ready formulas record other now (formulas.after record now computed name) rest reader
      field := by
  obtain stored | known | ⟨precedes, v, made⟩ := ready
  · exact .inl stored
  · -- A turn may replace a computed value, but takes none away.
    refine .inr (.inl ?_)
    by_cases here : field = name
    · subst here
      rw [get?_after_self, Option.isSome_or, known, Bool.or_true]
    · rwa [get?_after_of_ne here]
  · rw [attemptsFrom, List.mem_append, Option.mem_toList] at made
    obtain tried | later := made
    · -- The turn of the field is this one, and leaves its value computed.
      cases field_of_attempt tried
      refine .inr (.inl ?_)
      rw [get?_after_self, value?_attempt.2 tried]
      rfl
    · -- The turn of the field is still to come, in the rest.
      have differ : field ≠ name := fun here =>
        fresh (here ▸ field_mem_of_mem_attemptsFrom later)
      exact .inr (.inr ⟨precedes.of_cons differ, v, later⟩)

/-- Two records under one schedule give the same attempts at some fields that read no others, when
the fields on which the records differ are ready for their readers. -/
theorem mem_attemptsFrom_iff {among : String → Prop} (distinct : schedule.Nodup)
    (closed : ∀ reader, among reader → ∀ field ∈ formulas.graph.dependencies reader, among field)
    (alike : ∀ field, among field → computed.get? field = otherComputed.get? field)
    (ready : ∀ reader ∈ schedule, among reader → ∀ field ∈ formulas.graph.dependencies reader,
      Ready formulas record other now computed schedule reader field)
    {a : Attempt} (covered : among a.field) :
    a ∈ formulas.attemptsFrom record now computed schedule ↔
      a ∈ formulas.attemptsFrom other now otherComputed schedule := by
  -- After each turn the values computed for the fields covered are still the same on both records.
  induction schedule generalizing computed otherComputed with
  | nil => exact Iff.rfl
  | cons name rest ih =>
    obtain ⟨fresh, restDistinct⟩ := List.nodup_cons.1 distinct
    -- A field covered gets the same attempt, because all that it reads is ready at its turn.
    have same (covers : among name) : formulas.attempt record now computed name =
        formulas.attempt other now otherComputed name := by
      refine attempt_congr fun field listed => ?_
      exact (ready name List.mem_cons_self covers field listed).reading fresh
        (alike field (closed name covers field listed))
    rw [attemptsFrom, attemptsFrom, List.mem_append, List.mem_append, Option.mem_toList,
      Option.mem_toList]
    refine or_congr ?_ (ih restDistinct ?_ ?_)
    · by_cases here : a.field = name
      -- An attempt now is at a field covered, and so the same on both records.
      · rw [same (here ▸ covered)]
      · -- An attempt at another field is not made now.
        constructor
        · exact fun tried => absurd (field_of_attempt tried) here
        · exact fun tried => absurd (field_of_attempt tried) here
    · -- The same attempt leaves the same value behind.
      intro field covers
      by_cases here : field = name
      · subst here
        rw [get?_after_self, get?_after_self, same covers, alike field covers]
      · rw [get?_after_of_ne here, get?_after_of_ne here]
        exact alike field covers
    · -- What is ready for a later reader stays ready.
      intro reader scheduled covers field listed
      exact (ready reader (List.mem_cons_of_mem _ scheduled) covers field listed).after fresh

/-- Passes over two records under one schedule give the same attempts at some fields that read no
others, when the fields on which the records differ are ready for their readers. -/
theorem mem_attempts_iff (distinct : schedule.Nodup) (among : String → Prop)
    (closed : ∀ reader, among reader → ∀ field ∈ formulas.graph.dependencies reader, among field)
    (ready : ∀ reader ∈ schedule, among reader → ∀ field ∈ formulas.graph.dependencies reader,
      Ready formulas record other now .empty schedule reader field)
    {a : Attempt} (covered : among a.field) :
    a ∈ formulas.attempts record now schedule ↔ a ∈ formulas.attempts other now schedule :=
  mem_attemptsFrom_iff distinct closed (fun _ _ => rfl) ready covered

end CollectionFormulas

end CalcFields
