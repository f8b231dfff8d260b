import CalcFields.Proofs.Definition
import CalcFields.Proofs.Sorting
import CalcFields.Proofs.Store.Files
import CalcFields.Store.DefinitionStore
import Mathlib.Data.List.Nodup

/-!
A definition store whose keys are distinct is a finite map that is kept in the order of keys: each
key has the definition that the last call about it left.
-/

namespace CalcFields

namespace Definition

variable {definitions : List Definition} {d : Definition} {key : String × String}

/-- Keys are ordered by one of their parts after the other. -/
instance : Std.TransCmp compareKeys :=
  inferInstanceAs (Std.TransCmp (compareLex (compareOn collection) (compareOn field)))

/-- The order of keys ties definitions of one key and no others. -/
theorem compareKeys_eq_eq_iff {a b : Definition} : compareKeys a b = .eq ↔ a.key = b.key := by
  simp only [compareKeys, Ordering.then_eq_eq, Std.LawfulEqCmp.compare_eq_iff_eq, Definition.key,
    Prod.mk.injEq]

/-- The definitions of a key, as they come. -/
def rowsOf (definitions : List Definition) (key : String × String) : List Definition :=
  definitions.filter (·.key = key)

/-- The first definition of a key. -/
def lookup (definitions : List Definition) (key : String × String) : Option Definition :=
  definitions.find? (·.key = key)

/-- Keys are distinct when none of them has two definitions. -/
theorem nodup_keys_iff :
    (definitions.map Definition.key).Nodup ↔
      ∀ key, (rowsOf definitions key).length ≤ 1 := by
  -- A key occurs as often as it has rows.
  rw [List.nodup_iff_count_le_one]
  refine forall_congr' fun key => ?_
  simp only [List.count, List.countP_eq_length_filter, List.filter_map, List.length_map, rowsOf,
    Function.comp_def, beq_eq_decide]

/-- Where keys are distinct, the definitions of a key are the one that is found, or none. -/
theorem rowsOf_eq_lookup (distinct : (definitions.map Definition.key).Nodup)
    (key : String × String) : rowsOf definitions key = (lookup definitions key).toList := by
  have few := nodup_keys_iff.1 distinct key
  rw [lookup, ← List.head?_filter, ← rowsOf]
  -- A list of one element at most is its head.
  match rowsOf definitions key, few with
  | [], _ => rfl
  | [_], _ => rfl

/-- Keys are distinct when each has one definition or none. -/
theorem nodup_keys_of_rowsOf {held : String × String → Option Definition}
    (rows : ∀ key, rowsOf definitions key = (held key).toList) :
    (definitions.map Definition.key).Nodup := by
  -- A key that has at most one row stands at most once in the list.
  refine nodup_keys_iff.2 fun key => ?_
  rw [rows]
  exact Option.length_toList_le

/-- Definitions that are sorted by keys are the ones that were to be sorted. -/
theorem sortedByKey_perm (definitions : List Definition) :
    (sortedByKey definitions).Perm definitions :=
  List.mergeSort_perm _ _

/-- Sorting by keys moves no definition past another one of its key. -/
theorem rowsOf_sortedByKey (definitions : List Definition) (key : String × String) :
    rowsOf (sortedByKey definitions) key = rowsOf definitions key := by
  refine filter_mergeSort_isLE compareKeys (List.pairwise_filter.2 ?_)
  -- Definitions of one key are tied, and so in order however they come.
  refine List.pairwise_of_forall fun a b here there => ?_
  rw [compareKeys_eq_eq_iff.2 ((of_decide_eq_true here).trans (of_decide_eq_true there).symm)]
  rfl

/-- Definitions of distinct keys are sorted strictly. -/
theorem pairwise_sortedByKey (distinct : (definitions.map Definition.key).Nodup) :
    (sortedByKey definitions).Pairwise fun a b => compareKeys a b = .lt := by
  -- The sort only moves the keys, so they are still all different.
  have apart := List.pairwise_map.1
    (((sortedByKey_perm definitions).map Definition.key).nodup_iff.2 distinct)
  refine ((pairwise_mergeSort_isLE compareKeys definitions).and apart).imp fun {a b} both => ?_
  -- The order ties no two keys that differ.
  cases order : compareKeys a b with
  | lt => rfl
  | eq => exact absurd (compareKeys_eq_eq_iff.1 order) both.2
  | gt =>
    rw [order] at both
    cases both.1

/-- Definitions after one of them is put: the first one of its key is replaced, or it comes last. -/
def putInto (definitions : List Definition) (d : Definition) : List Definition :=
  (d.replaceFirst? definitions).getD (definitions ++ [d])

/-- A definition replaces the first one of its key, or one behind it. -/
theorem putInto_cons (other : Definition) (rest : List Definition) (d : Definition) :
    putInto (other :: rest) d =
      if other.key = d.key then d :: rest else other :: putInto rest d := by
  -- The search ends at the first row of the key.
  rw [putInto, replaceFirst?]
  split
  · rfl
  · rw [putInto]
    cases d.replaceFirst? rest <;> rfl

/-- A definition that is put is the first one of its key, in place of the one that was, and leaves
those of the other keys. -/
theorem rowsOf_putInto (definitions : List Definition) (d : Definition) (key : String × String) :
    rowsOf (putInto definitions d) key =
      if key = d.key then d :: (rowsOf definitions key).tail else rowsOf definitions key := by
  -- Induction on the rows.
  induction definitions with
  | nil => by_cases same : key = d.key <;> simp [putInto, replaceFirst?, rowsOf, same, eq_comm]
  | cons other rest ih =>
    rw [putInto_cons]
    by_cases replaced : other.key = d.key
    · -- The definition takes the place of the head, and the rest stays.
      rw [if_pos replaced]
      by_cases same : key = d.key
      · simp [rowsOf, same, replaced]
      · simp [rowsOf, same, Ne.symm same, replaced]
    · -- The head has another key, and the definition is put behind it.
      rw [if_neg replaced]
      by_cases same : key = d.key
      · simp only [rowsOf, same, if_true] at ih ⊢
        simp [replaced, ih]
      · simp only [rowsOf, same, if_false] at ih ⊢
        simp [List.filter_cons, ih]

/-- Leaving a key out leaves out its definitions and no others. -/
theorem rowsOf_filter_ne (definitions : List Definition) (key other : String × String) :
    rowsOf (definitions.filter (·.key ≠ key)) other =
      if other = key then [] else rowsOf definitions other := by
  rw [rowsOf, List.filter_filter]
  split
  · rename_i same
    simp [same]
  · -- Rows of another key are all kept.
    rename_i differ
    refine List.filter_congr fun d _ => ?_
    by_cases here : d.key = other <;> simp [here, differ]

/-- A definition is replaced exactly when there is one of its key. -/
theorem isSome_replaceFirst? (definitions : List Definition) (d : Definition) :
    (d.replaceFirst? definitions).isSome = (lookup definitions d.key).isSome := by
  -- Induction on the rows.
  induction definitions with
  | nil => rfl
  | cons other rest ih =>
    rw [replaceFirst?, lookup, List.find?_cons]
    by_cases same : other.key = d.key
    · simp [same]
    · simpa [same, lookup] using ih

/-- What holds of definitions and of the one that is put holds of them all after the put. -/
theorem forall_putInto {P : Definition → Prop} (each : ∀ other ∈ definitions, P other) (put : P d) :
    ∀ other ∈ putInto definitions d, P other := by
  -- Induction on the rows.
  induction definitions with
  | nil => exact List.forall_mem_singleton.2 put
  | cons other rest ih =>
    obtain ⟨first, others⟩ := List.forall_mem_cons.1 each
    rw [putInto_cons]
    split
    · exact List.forall_mem_cons.2 ⟨put, others⟩
    · exact List.forall_mem_cons.2 ⟨first, ih others⟩

end Definition

namespace DefinitionStore

variable {store next : DefinitionStore} {definitions : List Definition} {d : Definition}

/-- Definitions are saved when they are written in the order of their keys. -/
theorem saveAll_eq_ok_iff :
    store.saveAll definitions = .ok next ↔
      ∃ files, store.file.writeItems store.files (Definition.sortedByKey definitions) = .ok files ∧
        { store with files := files } = next :=
  map_eq_ok_iff

/-- Definitions that fit their lines are read as they were saved, in the order of their keys. -/
theorem all_of_saveAll (fit : ∀ d ∈ definitions, d.FitsLine)
    (done : store.saveAll definitions = .ok next) :
    next.all = .ok (Definition.sortedByKey definitions) := by
  -- The sorted definitions are what was written, and they fit their lines as before.
  obtain ⟨files, written, rfl⟩ := saveAll_eq_ok_iff.1 done
  rw [all, LineFile.readItems_of_writeItems written]
  exact Definition.itemsOf_textOf
    (fun d member => fit d ((Definition.sortedByKey_perm definitions).mem_iff.1 member)) _ 1

/-- Definitions that are read fit their lines. -/
theorem fitsLine_of_all (read : store.all = .ok definitions) : ∀ d ∈ definitions, d.FitsLine :=
  LineFile.forall_of_readItems (fun _ _ => Definition.fitsLine_of_read?) read

/-- A store can save whatever definitions. -/
def Writable (store : DefinitionStore) : Prop :=
  ∀ definitions, ∃ next, store.saveAll definitions = .ok next

/-- A store that was saved can save whatever definitions. -/
theorem writable_of_saveAll (done : store.saveAll definitions = .ok next) : next.Writable := by
  -- What was written once can be written again at the same place.
  obtain ⟨files, written, rfl⟩ := saveAll_eq_ok_iff.1 done
  intro others
  obtain ⟨again, writtenAgain⟩ := LineFile.exists_writeItems_after written written rfl
    (Definition.sortedByKey others)
  exact ⟨_, saveAll_eq_ok_iff.2 ⟨again, writtenAgain, rfl⟩⟩

/-- An upsert puts its definition into those that are read, and tells whether one had its key. -/
theorem upsert_eq (read : store.all = .ok definitions) (d : Definition) :
    store.upsert d = (store.saveAll (Definition.putInto definitions d)).map fun next =>
      ((Definition.lookup definitions d.key).isSome, next) := by
  rw [upsert, read, ← Definition.isSome_replaceFirst?, Definition.putInto]
  simp only [bind, Except.bind]
  cases d.replaceFirst? definitions with
  -- Without a row of the key the definition is put at the end.
  | none =>
    simp only [Option.getD_none]
    cases store.saveAll (definitions ++ [d]) <;> rfl
  | some replaced =>
    simp only [Option.getD_some]
    cases store.saveAll replaced <;> rfl

/-- A removal leaves those that are read without those of its key, when there is one. -/
theorem remove_eq (read : store.all = .ok definitions) (key : String × String) :
    store.remove key =
      if (Definition.lookup definitions key).isSome then
        (store.saveAll (definitions.filter (·.key ≠ key))).map fun next => (true, next)
      else .ok (false, store) := by
  -- As many definitions are left as there were when none has the key.
  have count : (definitions.filter (·.key ≠ key)).length = definitions.length ↔
      (Definition.lookup definitions key).isSome = false := by
    rw [List.length_filter_eq_length_iff, Definition.lookup, ← Bool.not_eq_true,
      List.find?_isSome]
    simp
  rw [remove, read]
  cases here : (Definition.lookup definitions key).isSome with
  | false =>
    simp only [bind, Except.bind, count.2 here, if_true]
    rfl
  | true =>
    -- Otherwise some are left out, and the others are saved.
    have fewer := mt count.1 (by simp [here])
    simp only [bind, Except.bind, fewer, if_false, if_true]
    cases store.saveAll (definitions.filter (·.key ≠ key)) <;> rfl

/-- An upserted definition is read as the first one of its key, in place of the one that was, and
the definitions of the other keys are read as before. -/
theorem exists_all_of_upsert (read : store.all = .ok definitions) (fits : d.FitsLine)
    {replaced : Bool} (done : store.upsert d = .ok (replaced, next)) :
    ∃ stored, next.all = .ok stored ∧ ∀ key, Definition.rowsOf stored key =
      if key = d.key then d :: (Definition.rowsOf definitions key).tail
      else Definition.rowsOf definitions key := by
  -- Those that were read fit their lines already, so that all of them can be read again.
  have fit := Definition.forall_putInto (fitsLine_of_all read) fits
  rw [upsert_eq read] at done
  obtain ⟨_, saved, given⟩ := map_eq_ok_iff.1 done
  cases given
  refine ⟨_, all_of_saveAll fit saved, fun key => ?_⟩
  rw [Definition.rowsOf_sortedByKey, Definition.rowsOf_putInto]

/-- An upsert succeeds when the store is read and can be written. -/
theorem exists_upsert (read : store.all = .ok definitions) (writable : store.Writable)
    (d : Definition) :
    ∃ next, store.upsert d = .ok ((Definition.lookup definitions d.key).isSome, next) := by
  obtain ⟨next, saved⟩ := writable (Definition.putInto definitions d)
  rw [upsert_eq read, saved]
  exact ⟨next, rfl⟩

/-- A store whose file lists definitions. -/
def listing (definitions : List Definition) : DefinitionStore :=
  ⟨⟨[(["data"], .directory),
      (["data", "formulas.jsonl"], .text (LineFile.textOf definitions))]⟩,
    ⟨.ofNames ["data"], "formulas"⟩⟩

/-- A store reads the definitions that its file lists. -/
theorem all_listing (fit : ∀ d ∈ definitions, d.FitsLine) :
    (listing definitions).all = .ok definitions := by
  -- The file holds the text of the definitions.
  have there : (listing definitions).files.node? (listing definitions).file.path.names =
      some (.text (LineFile.textOf definitions)) := rfl
  rw [all, LineFile.readItems_of_text there]
  exact Definition.itemsOf_textOf fit _ 1

/-- A store whose file lists definitions can be written. -/
theorem writable_listing (definitions : List Definition) : (listing definitions).Writable :=
  fun _ => ⟨_, saveAll_eq_ok_iff.2
    ⟨_, LineFile.writeItems_eq_ok_iff.2 ⟨_, rfl, ⟨rfl, rfl, rfl⟩, rfl⟩, rfl⟩⟩

/-- A store holds definitions by their keys: it can be written, and of each key it reads the one
definition or none. -/
structure Holds (store : DefinitionStore) (held : String × String → Option Definition) : Prop where
  read : ∃ definitions, store.all = .ok definitions ∧
    ∀ key, Definition.rowsOf definitions key = (held key).toList
  writable : store.Writable

/-- A store reads its definitions in the strict order of their keys. -/
def IsSorted (store : DefinitionStore) : Prop :=
  ∃ sorted, store.all = .ok sorted ∧
    sorted.Pairwise fun a b => Definition.compareKeys a b = .lt

end DefinitionStore

/-- A call that changes a definition store. -/
inductive DefinitionCall where
  | upsert (d : Definition)
  | remove (key : String × String)

namespace DefinitionCall

/-- The key that a call is about. -/
def key : DefinitionCall → String × String
  | upsert d => d.key
  | remove key => key

/-- The definition that a call leaves under its key. -/
def left : DefinitionCall → Option Definition
  | upsert d => some d
  | remove _ => none

/-- The answer to a call and the store after it. -/
def perform (store : DefinitionStore) : DefinitionCall → Except StoreError (Bool × DefinitionStore)
  | upsert d => store.upsert d
  | remove key => store.remove key

/-- The store after calls one after the other. -/
def performAll (store : DefinitionStore) : List DefinitionCall → Except StoreError DefinitionStore
  | [] => .ok store
  | call :: calls => do
    let (_, next) ← call.perform store
    performAll next calls

/-- What a call leaves fits its line. -/
def Fits (call : DefinitionCall) : Prop :=
  ∀ d ∈ call.left, d.FitsLine

/-- Definitions by key after a call. -/
def after (call : DefinitionCall) (held : String × String → Option Definition)
    (key : String × String) : Option Definition :=
  if key = call.key then call.left else held key

/-- Definitions by key after calls: what the last call about a key left, or else what was held. -/
def leftBy (held : String × String → Option Definition) (calls : List DefinitionCall)
    (key : String × String) : Option Definition :=
  match calls.reverse.find? (·.key = key) with
  | some call => call.left
  | none => held key

/-- The calls after the first one go on from what it left. -/
theorem leftBy_cons (held : String × String → Option Definition) (call : DefinitionCall)
    (calls : List DefinitionCall) :
    leftBy held (call :: calls) = leftBy (call.after held) calls := by
  funext key
  rw [leftBy, leftBy, List.reverse_cons, List.find?_append, after]
  cases calls.reverse.find? (·.key = key) with
  | some last => rfl
  | none =>
    -- The first call counts when no later one is about the key.
    by_cases same : call.key = key
    · simp [same]
    · simp [same, Ne.symm same]

end DefinitionCall

namespace DefinitionStore

namespace Holds

variable {store : DefinitionStore} {held left : String × String → Option Definition}
  {call : DefinitionCall}

/-- A store whose keys are distinct holds the definitions that are found by key. -/
theorem of_distinct {definitions : List Definition} (read : store.all = .ok definitions)
    (distinct : (definitions.map Definition.key).Nodup) (writable : store.Writable) :
    store.Holds (Definition.lookup definitions) :=
  ⟨⟨definitions, read, Definition.rowsOf_eq_lookup distinct⟩, writable⟩

/-- Each definition of the store is the one that is held under its key. -/
theorem lookup_eq (holds : store.Holds held) {definitions : List Definition}
    (read : store.all = .ok definitions) (key : String × String) :
    Definition.lookup definitions key = held key := by
  -- The first of the rows of a key is the only one.
  obtain ⟨listed, readToo, rows⟩ := holds.read
  cases read.symm.trans readToo
  rw [Definition.lookup, ← List.head?_filter, ← Definition.rowsOf, rows, Option.head?_toList]

/-- Definitions with one of a key at most can be saved: the store holds them then, and reads them in
the strict order of their keys. -/
theorem exists_save (holds : store.Holds held) {written : List Definition}
    (fit : ∀ d ∈ written, d.FitsLine)
    (rows : ∀ key, Definition.rowsOf written key = (left key).toList) :
    ∃ next, store.saveAll written = .ok next ∧ next.Holds left ∧ next.IsSorted := by
  obtain ⟨next, done⟩ := holds.writable written
  have read := all_of_saveAll fit done
  -- Sorting leaves the definitions of each key as they are.
  refine ⟨next, done, ⟨⟨_, read, fun key => ?_⟩, writable_of_saveAll done⟩, _, read,
    Definition.pairwise_sortedByKey (Definition.nodup_keys_of_rowsOf rows)⟩
  rw [Definition.rowsOf_sortedByKey, rows]

/-- An upsert tells whether its key is held, and leaves its definition under the key. -/
theorem exists_upsert (holds : store.Holds held) {d : Definition} (fits : d.FitsLine) :
    ∃ next, store.upsert d = .ok ((held d.key).isSome, next) ∧
      next.Holds ((DefinitionCall.upsert d).after held) ∧ next.IsSorted := by
  obtain ⟨definitions, read, rows⟩ := holds.read
  have put : ∀ key, Definition.rowsOf (Definition.putInto definitions d) key =
      ((DefinitionCall.upsert d).after held key).toList := by
    intro key
    rw [Definition.rowsOf_putInto, rows, DefinitionCall.after, DefinitionCall.key]
    split
    · -- There was one definition of the key at most, so that none is left behind the first.
      cases held key <;> rfl
    · rfl
  -- What is read fits its lines, and so does what is put.
  have fit := Definition.forall_putInto (fitsLine_of_all read) fits
  obtain ⟨next, done, again, sorted⟩ := holds.exists_save fit put
  refine ⟨next, ?_, again, sorted⟩
  rw [upsert_eq read, done, holds.lookup_eq read]
  rfl

/-- A removal of a key that is held tells so, and leaves nothing under the key. -/
theorem exists_remove (holds : store.Holds held) {key : String × String}
    (here : (held key).isSome = true) :
    ∃ next, store.remove key = .ok (true, next) ∧
      next.Holds ((DefinitionCall.remove key).after held) ∧ next.IsSorted := by
  obtain ⟨definitions, read, rows⟩ := holds.read
  -- Leaving out the rows of one key is what the call does to what is held.
  have kept : ∀ other, Definition.rowsOf (definitions.filter (·.key ≠ key)) other =
      ((DefinitionCall.remove key).after held other).toList := by
    intro other
    rw [Definition.rowsOf_filter_ne, rows, DefinitionCall.after, DefinitionCall.key]
    split <;> rfl
  have fit : ∀ d ∈ definitions.filter (·.key ≠ key), d.FitsLine := fun d member =>
    fitsLine_of_all read d (List.mem_of_mem_filter member)
  obtain ⟨next, done, again, sorted⟩ := holds.exists_save fit kept
  refine ⟨next, ?_, again, sorted⟩
  rw [remove_eq read, holds.lookup_eq read, if_pos here, done]
  rfl

/-- A removal of a key that is not held tells so, and leaves the store as it is. -/
theorem remove_of_eq_none (holds : store.Holds held) {key : String × String}
    (absent : held key = none) : store.remove key = .ok (false, store) := by
  -- Nothing is removed, so nothing is saved either.
  obtain ⟨definitions, read, _⟩ := holds.read
  rw [remove_eq read, holds.lookup_eq read, absent]
  exact if_neg (by simp)

/-- A call tells whether its key is held, and leaves its definition under the key; a removal of a
key that is not held leaves the store as it is, and any other call leaves it sorted. -/
theorem exists_perform (holds : store.Holds held) (fits : call.Fits) :
    ∃ next, call.perform store = .ok ((held call.key).isSome, next) ∧
      next.Holds (call.after held) ∧
      if call.left = none ∧ held call.key = none then next = store else next.IsSorted := by
  cases call with
  | upsert d =>
    obtain ⟨next, done, again, sorted⟩ := holds.exists_upsert (fits d rfl)
    exact ⟨next, done, again, by simpa [DefinitionCall.left] using sorted⟩
  | remove key =>
    cases here : held key with
    | none =>
      -- Nothing is held under the key, before the call and after it.
      have unchanged : (DefinitionCall.remove key).after held = held := by
        funext other
        rw [DefinitionCall.after]
        split
        · rename_i same
          rw [same]
          exact here.symm
        · rfl
      refine ⟨store, ?_, ?_, ?_⟩
      · rw [DefinitionCall.perform, holds.remove_of_eq_none here, DefinitionCall.key, here]
        rfl
      · rwa [unchanged]
      · simp [DefinitionCall.left, DefinitionCall.key, here]
    | some d =>
      -- A definition that is held is removed.
      have present : (held key).isSome = true := by simp [here]
      obtain ⟨next, done, again, sorted⟩ := holds.exists_remove present
      refine ⟨next, ?_, again, ?_⟩
      · rw [DefinitionCall.perform, done, DefinitionCall.key, here]
        rfl
      · simpa [DefinitionCall.key, here] using sorted

/-- Calls leave under each key what the last call about it left, and a sorted store sorted. -/
theorem exists_performAll (holds : store.Holds held) {calls : List DefinitionCall}
    (fit : ∀ call ∈ calls, call.Fits) :
    ∃ last, DefinitionCall.performAll store calls = .ok last ∧
      last.Holds (DefinitionCall.leftBy held calls) ∧ (store.IsSorted → last.IsSorted) := by
  -- Induction on the calls, each of which leaves a store that holds what it should.
  induction calls generalizing store held with
  | nil => exact ⟨store, rfl, holds, id⟩
  | cons call calls ih =>
    obtain ⟨first, others⟩ := List.forall_mem_cons.1 fit
    obtain ⟨next, done, again, written⟩ := holds.exists_perform first
    obtain ⟨last, doneAll, left, onward⟩ := ih again others
    refine ⟨last, ?_, ?_, fun sorted => onward ?_⟩
    · rw [DefinitionCall.performAll, done]
      exact doneAll
    · rwa [DefinitionCall.leftBy_cons]
    · -- A call that does not sort the store does not change it.
      split at written
      · rwa [written]
      · exact written

end Holds

end DefinitionStore

namespace DefinitionCall

/-- A store is sorted from now on, whatever calls follow. -/
def StaysSorted (store : DefinitionStore) : Prop :=
  ∀ calls : List DefinitionCall, (∀ call ∈ calls, call.Fits) →
    ∃ last, performAll store calls = .ok last ∧ last.IsSorted

/-- A store whose keys are distinct is a finite map in the order of keys. Calls leave under each key
the definition that the last call about it left, whole and once; and one more call tells whether its
key is there, and sorts the store from then on unless it removes a key that is not there, which
leaves the store as it is. -/
theorem performAll_leaves_last {store : DefinitionStore} {definitions : List Definition}
    (read : store.all = .ok definitions) (distinct : (definitions.map Definition.key).Nodup)
    (writable : store.Writable) {calls : List DefinitionCall} (fit : ∀ call ∈ calls, call.Fits) :
    ∃ last stored, performAll store calls = .ok last ∧ last.all = .ok stored ∧
      (stored.map Definition.key).Nodup ∧
      (∀ key, Definition.rowsOf stored key =
        (leftBy (Definition.lookup definitions) calls key).toList) ∧
      ∀ call : DefinitionCall, call.Fits →
        let there := leftBy (Definition.lookup definitions) calls call.key
        ∃ next, call.perform last = .ok (there.isSome, next) ∧
          if call.left = none ∧ there = none then next = last else StaysSorted next := by
  have holds := DefinitionStore.Holds.of_distinct read distinct writable
  obtain ⟨last, done, left, _⟩ := holds.exists_performAll fit
  obtain ⟨stored, readLast, rows⟩ := left.read
  refine ⟨last, stored, done, readLast, Definition.nodup_keys_of_rowsOf rows, rows, ?_⟩
  -- One more call goes the way of those before it.
  intro call fits there
  obtain ⟨next, performed, again, written⟩ := left.exists_perform fits
  refine ⟨next, performed, ?_⟩
  split at written
  · rename_i absent
    rwa [if_pos absent]
  · rename_i changes
    rw [if_neg changes]
    intro others fitToo
    obtain ⟨final, doneAll, _, sorted⟩ := again.exists_performAll fitToo
    exact ⟨final, doneAll, sorted written⟩

/-- Definitions of a total that is kept with its place and its description. -/
def keptTotal (formula : String) : Definition :=
  ⟨"orders", "total", formula, .draft, some 3, some "with taxes"⟩

/-- A total that is upserted anew is kept whole and in place of the old one, although another field
is removed that was never there. -/
theorem performAll_leaves_last_total :
    ∃ last stored, performAll (.listing [keptTotal "1"])
        [.upsert (keptTotal "2"), .remove ("orders", "gross")] = .ok last ∧
      last.all = .ok stored ∧
      Definition.rowsOf stored ("orders", "total") = [keptTotal "2"] ∧
      Definition.rowsOf stored ("orders", "gross") = [] ∧
      ∃ next, last.remove ("orders", "total") = .ok (true, next) := by
  -- The first call replaces the total, and the second one finds nothing to remove.
  have fits (formula : String) : (keptTotal formula).FitsLine := by
    rintro place ⟨⟩
    decide
  have fit : ∀ call ∈ [upsert (keptTotal "2"), remove ("orders", "gross")], call.Fits := by
    simp [Fits, left, fits]
  obtain ⟨last, stored, done, read, _, rows, onward⟩ := performAll_leaves_last
    (DefinitionStore.all_listing (List.forall_mem_singleton.2 (fits "1"))) (by decide)
    (DefinitionStore.writable_listing _) fit
  obtain ⟨next, removed, _⟩ := onward (.remove ("orders", "total")) (by simp [Fits, left])
  exact ⟨last, stored, done, read, rows _, rows _, next, removed⟩

end DefinitionCall

end CalcFields
