import CalcFields.Proofs.Batch.Shelf
import CalcFields.Proofs.Json.Whole
import CalcFields.Proofs.Store.Unsigned

/-!
A line store refines the store in memory: whatever calls are made, both give the same answers but
for the signs of zeros, as long as the values of the run survive their texts.
-/

namespace CalcFields

/-- A call of a record store. -/
inductive StoreCall where
  | put (collection : String) (record : Record)
  | updateOne (collection id : String) (updates : Record)
  | readOne (collection id : String) (fields : Option (List String))
  | readMany (collection : String) (query : RecordQuery)
  | count (collection : String) (filter : Record)

/-- What a record store answers. -/
inductive StoreAnswer where
  | id (id : String)
  | updated (found : Bool)
  | record (record : Option Record)
  | records (records : List Record)
  | size (size : Option Nat)

/-- An answer without signs at the zeros of its records. -/
def StoreAnswer.unsigned : StoreAnswer → StoreAnswer
  | record found => record (found.map Record.unsigned)
  | records read => records (read.map Record.unsigned)
  | other => other

namespace StoreCall

variable {σ : Type} [RecordStore σ]

/-- The collection that a call is about. -/
def collection : StoreCall → String
  | put collection _ => collection
  | updateOne collection _ _ => collection
  | readOne collection _ _ => collection
  | readMany collection _ => collection
  | count collection _ => collection

/-- The answer to a call and the store after it. -/
def perform (store : σ) : StoreCall → Except StoreError (StoreAnswer × σ)
  | put collection record =>
    (RecordStore.put store collection record).map fun (id, next) => (.id id, next)
  | updateOne collection id updates =>
    (RecordStore.updateOne store collection id updates).map fun (found, next) =>
      (.updated found, next)
  | readOne collection id fields =>
    (RecordStore.readOne store collection id fields).map fun found => (.record found, store)
  | readMany collection query =>
    (RecordStore.readMany store collection query).map fun read => (.records read, store)
  | count collection filter =>
    (RecordStore.count store collection filter).map fun size => (.size size, store)

/-- The answers to calls one after the other, of which a failed one leaves the store. -/
def answersOf (store : σ) : List StoreCall → List (Except StoreError StoreAnswer)
  | [] => []
  | call :: calls =>
    match call.perform store with
    | .ok (answer, next) => .ok answer :: answersOf next calls
    | .error fault => .error fault :: answersOf store calls

/-- The values that a call brings into a collection of some records survive the texts of a line
store, and so does the id that the collection gives. -/
def Survives (records : List Record) : StoreCall → Prop
  | put _ record =>
    (∀ e ∈ record.entries, Saved LineStore e.2) ∧
      (record.id? = none → LineStore.Restores (.ofInt (Record.nextId records)))
  | updateOne _ _ updates => ∀ e ∈ updates.entries, Saved LineStore e.2
  | _ => True

/-- Calls on collections with names for files, whose values survive the texts of a line store. The
id that a collection gives depends on the records in it, which are those of the store in memory. -/
def RunSurvives (memory : MemoryStore) : List StoreCall → Prop
  | [] => True
  | call :: calls =>
    LineStore.isName call.collection = true ∧ call.Survives (memory.records call.collection) ∧
      ∀ answer next, call.perform memory = .ok (answer, next) → RunSurvives next calls

end StoreCall

/-- A line store holds what a store in memory does, but for the signs of zeros, and can be
written. -/
structure Mirrors (line : LineStore) (memory : MemoryStore) : Prop where
  loaded : ∀ collection, LineStore.isName collection = true →
    line.records collection = .ok ((memory.records collection).map Record.unsigned)
  writable : ∀ collection, LineStore.isName collection = true →
    RecordShelf.Writable line collection
  saved : ∀ collection, ∀ record ∈ memory.records collection, ∀ e ∈ record.entries,
    Saved LineStore e.2

namespace MemoryStore

/-- A collection that is saved holds the saved records, and the others what they did. -/
theorem records_insert (memory : MemoryStore) (collection other : String) (records : List Record) :
    MemoryStore.records ⟨memory.collections.insert collection records⟩ other =
      if other = collection then records else memory.records other := by
  -- Only the collection that is written to changes.
  rw [MemoryStore.records, MemoryStore.records, FieldMap.get?_insert]
  split <;> rfl

end MemoryStore

namespace Mirrors

variable {line : LineStore} {memory : MemoryStore} {collection : String}

/-- Records that agree but for the signs of zeros can be saved in both stores, which agree again. -/
theorem exists_save (mirrors : Mirrors line memory) (named : LineStore.isName collection = true)
    {held written : List Record} (agree : written.map Record.unsigned = held.map Record.unsigned)
    (savedHeld : ∀ record ∈ held, ∀ e ∈ record.entries, Saved LineStore e.2)
    (savedWritten : ∀ record ∈ written, ∀ e ∈ record.entries, Saved LineStore e.2) :
    ∃ next, line.saveAll collection written = .ok next ∧
      Mirrors next ⟨memory.collections.insert collection held⟩ := by
  obtain ⟨next, done⟩ := mirrors.writable collection named written
  have loaded : next.records collection = .ok (written.map Record.unsigned) :=
    KeepingShelf.load_save done fun record member e inside =>
      ⟨(savedWritten record member e inside).shaped,
        (savedWritten record member e inside).restores⟩
  -- The collection that was saved is read anew, and the others are read as before.
  refine ⟨next, done, fun other namedToo => ?_, fun other namedToo => ?_,
    fun other record member => ?_⟩
  · rw [MemoryStore.records_insert]
    split
    · rename_i same
      rw [same, loaded, agree]
    · rename_i differ
      have beside : next.records other = line.records other :=
        KeepingShelf.load_save_of_ne done differ
      rw [beside, mirrors.loaded other namedToo]
  · exact LineStore.writable_after done (mirrors.writable other namedToo)
  · rw [MemoryStore.records_insert] at member
    split at member
    · exact savedHeld record member
    · exact mirrors.saved other record member

/-- What a store in memory holds can be saved without the signs of zeros as well. -/
theorem saved_unsigned (mirrors : Mirrors line memory) (collection : String) :
    ∀ record ∈ (memory.records collection).map Record.unsigned, ∀ e ∈ record.entries,
      Saved LineStore e.2 := by
  -- What was saved may lose signs, and is still saved as it is.
  rw [List.forall_mem_map]
  intro record member e inside
  obtain ⟨held, heldIn, rfl⟩ := List.mem_map.1 inside
  exact (mirrors.saved collection record member held heldIn).givenBack.saved

/-- A put gives the same id in both stores, which agree again. -/
theorem exists_put (mirrors : Mirrors line memory) (collection : String)
    (named : LineStore.isName collection = true) {record : Record}
    (fresh : ∀ e ∈ record.entries, Saved LineStore e.2)
    (assigned : record.id? = none →
      LineStore.Restores (.ofInt (Record.nextId (memory.records collection)))) :
    ∃ id next lineNext, RecordStore.put memory collection record = .ok (id, next) ∧
      RecordStore.put line collection record = .ok (id, lineNext) ∧ Mirrors lineNext next := by
  have loaded := mirrors.loaded collection named
  obtain ⟨sameId, agree⟩ := Record.putInto_unsigned record (memory.records collection)
  -- The id that may be given survives in both collections, being the same one.
  have assignedSaved (unnamed : record.id? = none) :
      Saved LineStore (.ofInt (Record.nextId (memory.records collection))) :=
    ⟨trivial, List.forall_mem_singleton.2 (.inl (assigned unnamed))⟩
  -- Every entry of the memory store was there, is fresh, or is the id.
  have saved := (Record.isPut_putInto (memory.records collection) record).forall_entries
    (mirrors.saved collection) fresh assignedSaved
  -- So is every entry of the file, apart from signs.
  have savedUnsigned := (Record.isPut_putInto
    ((memory.records collection).map Record.unsigned) record).forall_entries
    (mirrors.saved_unsigned collection) fresh (by rwa [Record.nextId_unsigned])
  obtain ⟨lineNext, done, again⟩ := mirrors.exists_save named agree saved savedUnsigned
  refine ⟨_, _, lineNext, RecordShelf.put_eq rfl, ?_, again⟩
  have put : RecordStore.put line collection record = _ := RecordShelf.put_eq loaded
  rw [put]
  show (line.saveAll _ _).map _ = _
  rw [done, Except.map, sameId]

/-- An update finds a record in both stores or in none, and they agree again. -/
theorem exists_updateOne (mirrors : Mirrors line memory) (collection : String)
    (named : LineStore.isName collection = true) {updates : Record}
    (fresh : ∀ e ∈ updates.entries, Saved LineStore e.2) (id : String) :
    ∃ found next lineNext, RecordStore.updateOne memory collection id updates = .ok (found, next) ∧
      RecordStore.updateOne line collection id updates = .ok (found, lineNext) ∧
      Mirrors lineNext next := by
  have loaded := mirrors.loaded collection named
  have inMemory : RecordShelf.load memory collection = .ok (memory.records collection) := rfl
  have agree := Record.updateFirst?_unsigned updates (memory.records collection) id
  cases here : Record.updateFirst? (memory.records collection) id updates with
  | none =>
    -- No record has the id, and both stores stay as they are.
    rw [here, Option.map_none, Option.map_eq_none_iff] at agree
    exact ⟨false, memory, line, RecordShelf.updateOne_eq_none inMemory here,
      RecordShelf.updateOne_eq_none loaded agree, mirrors⟩
  | some updated =>
    rw [here, Option.map_some, Option.map_eq_some_iff] at agree
    -- The same record is extended in both.
    obtain ⟨written, there, agree⟩ := agree
    have saved := (Record.isExtended_of_updateFirst? here).forall_entries
      (mirrors.saved collection) fresh
    have savedUnsigned := (Record.isExtended_of_updateFirst? there).forall_entries
      (mirrors.saved_unsigned collection) fresh
    obtain ⟨lineNext, done, again⟩ := mirrors.exists_save named agree saved savedUnsigned
    refine ⟨true, _, lineNext, RecordShelf.updateOne_eq_some inMemory here, ?_, again⟩
    have update : RecordStore.updateOne line collection id updates = _ :=
      RecordShelf.updateOne_eq_some loaded there
    rw [update]
    show (line.saveAll _ _).map _ = _
    rw [done]
    rfl

/-- A call whose values survive their texts gets the same answer from both stores but for the signs
of zeros, and they agree again. -/
theorem exists_perform (mirrors : Mirrors line memory) {call : StoreCall}
    (named : LineStore.isName call.collection = true)
    (survives : call.Survives (memory.records call.collection)) :
    ∃ answer next lineNext, call.perform memory = .ok (answer, next) ∧
      call.perform line = .ok (answer.unsigned, lineNext) ∧ Mirrors lineNext next := by
  have loaded (collection : String) (named : LineStore.isName collection = true) :
      RecordShelf.load line collection = .ok ((memory.records collection).map Record.unsigned) :=
    mirrors.loaded collection named
  cases call with
  -- Writes are compared above, and reads change nothing.
  | put collection record =>
    obtain ⟨id, next, lineNext, put, linePut, again⟩ :=
      mirrors.exists_put collection named survives.1 survives.2
    exact ⟨.id id, next, lineNext, by rw [StoreCall.perform, put]; rfl,
      by rw [StoreCall.perform, linePut]; rfl, again⟩
  | updateOne collection id updates =>
    obtain ⟨found, next, lineNext, update, lineUpdate, again⟩ :=
      mirrors.exists_updateOne collection named survives id
    exact ⟨.updated found, next, lineNext, by rw [StoreCall.perform, update]; rfl,
      by rw [StoreCall.perform, lineUpdate]; rfl, again⟩
  | readOne collection id fields =>
    refine ⟨.record _, memory, line, rfl, ?_, mirrors⟩
    show ((RecordShelf.load line collection).map _).map _ = _
    -- Taking signs off the record that is found and cutting it down go in any order.
    have cut : (fun record => Record.cutTo record fields) ∘ Record.unsigned =
        Record.unsigned ∘ fun record => Record.cutTo record fields :=
      funext fun record => record.cutTo_unsigned fields
    rw [loaded collection named, Except.map, Record.find?_hasId_unsigned, Option.map_map, cut,
      ← Option.map_map]
    rfl
  | readMany collection query =>
    refine ⟨.records (query.select (memory.records collection)), memory, line, rfl, ?_, mirrors⟩
    show ((RecordShelf.load line collection).map _).map _ = _
    rw [loaded collection named, Except.map, Record.select_unsigned]
    rfl
  | count collection filter =>
    refine ⟨.size _, memory, line, rfl, ?_, mirrors⟩
    show ((RecordShelf.load line collection).map _).map _ = _
    rw [loaded collection named, Except.map, Record.countP_meets_unsigned]
    rfl

end Mirrors

namespace StoreCall

/-- Two stores that agree give the same answers to all calls of a run. -/
theorem answersOf_of_mirrors {line : LineStore} {memory : MemoryStore}
    (mirrors : Mirrors line memory) {calls : List StoreCall} (survives : RunSurvives memory calls) :
    answersOf line calls = (answersOf memory calls).map (Except.map StoreAnswer.unsigned) ∧
      ∀ answer ∈ answersOf line calls, ∃ given, answer = .ok given := by
  -- Induction on the calls.
  induction calls generalizing line memory with
  | nil => exact ⟨rfl, List.forall_mem_nil _⟩
  | cons call calls ih =>
    obtain ⟨named, fits, onward⟩ := survives
    -- One call leads to stores that agree again, which is what the other calls need.
    obtain ⟨answer, next, lineNext, done, lineDone, again⟩ := mirrors.exists_perform named fits
    obtain ⟨same, answered⟩ := ih again (onward answer next done)
    rw [answersOf, answersOf, done, lineDone]
    exact ⟨congrArg _ same, List.forall_mem_cons.2 ⟨⟨_, rfl⟩, answered⟩⟩

/-- A line store that can be written and holds nothing at first answers all calls, and answers as
the store in memory does but for the signs of zeros. -/
theorem line_refines_memory {line : LineStore} {calls : List StoreCall}
    (blank : ∀ collection, LineStore.isName collection = true →
      line.records collection = .ok [])
    (writable : ∀ collection, LineStore.isName collection = true →
      RecordShelf.Writable line collection)
    (survives : RunSurvives MemoryStore.empty calls) :
    answersOf line calls =
        (answersOf MemoryStore.empty calls).map (Except.map StoreAnswer.unsigned) ∧
      ∀ answer ∈ answersOf line calls, ∃ given, answer = .ok given :=
  answersOf_of_mirrors ⟨blank, writable, fun _ _ member => by cases member⟩ survives

/-- A line store whose directory is yet to be made. -/
def blankStore : LineStore :=
  ⟨.empty, .ofNames ["data"]⟩

/-- In a directory that is made when it is needed, every collection can be written. -/
theorem writable_blankStore {collection : String} (named : LineStore.isName collection = true) :
    RecordShelf.Writable blankStore collection := by
  have takes : LineFile.TakesDraft ⟨blankStore.directory, collection⟩
      ⟨[(["data"], .directory)]⟩ := by
    refine ⟨?_, rfl, rfl⟩
    -- The draft lies below the directory, and nothing does.
    have deeper : ["data", collection ++ ".jsonl.tmp"] ≠ ["data"] := by simp
    have none : List.lookup ["data", collection ++ ".jsonl.tmp"]
        [(["data"], FileNode.directory)] = none := by
      rw [Files.lookup_cons_entry, if_neg deeper, List.lookup_nil]
    exact congrArg (· == some FileNode.directory) none
  exact fun records => ⟨_, LineStore.saveAll_eq_ok_iff.2
    ⟨named, _, LineFile.writeItems_eq_ok_iff.2 ⟨_, rfl, takes, rfl⟩, rfl⟩⟩

/-- Orders that are put, changed, read and counted, one of them with a price of minus zero. -/
def orderCalls : List StoreCall :=
  [put "orders" (.ofList [("price", .ofInt 2)]),
    put "orders" (.ofList [("id", .string "a"), ("price", .number (-0.0))]),
    updateOne "orders" "1" (.ofList [("price", .ofInt 3)]),
    readMany "orders" .all,
    count "orders" (.ofList [("price", .ofInt 3)]),
    readOne "customers" "1" none]

/-- Both stores give the same answers on orders. -/
theorem line_refines_memory_orders :
    answersOf blankStore orderCalls =
        (answersOf MemoryStore.empty orderCalls).map (Except.map StoreAnswer.unsigned) ∧
      ∀ answer ∈ answersOf blankStore orderCalls, ∃ given, answer = .ok given := by
  have price (n : Int) (few : n.natAbs ≤ 9007199254740992) : Saved LineStore (.ofInt n) :=
    ⟨trivial, List.forall_mem_singleton.2 (.inl (LineStore.restores_ofInt few))⟩
  -- The first id is one.
  have first : LineStore.Restores (.ofInt (Record.nextId [])) := by
    have one : Record.nextId [] = 1 := by decide +kernel
    rw [one]
    exact LineStore.restores_ofInt (by decide)
  refine line_refines_memory (fun collection named => ?_) (fun _ => writable_blankStore) ?_
  · rw [LineStore.records_eq named]
    rfl
  · refine ⟨by decide +kernel, ⟨?_, fun _ => first⟩, fun _ _ _ => ?_⟩
    · exact List.forall_mem_singleton.2 (price 2 (by decide))
    refine ⟨by decide +kernel, ⟨?_, fun unnamed => by cases unnamed⟩, fun _ _ _ => ?_⟩
    · refine List.forall_mem_cons.2 ⟨⟨trivial, List.forall_mem_nil _⟩, ?_⟩
      exact List.forall_mem_singleton.2 ⟨trivial, List.forall_mem_singleton.2 (.inr rfl)⟩
    refine ⟨by decide +kernel, ?_, fun _ _ _ => ?_⟩
    · exact List.forall_mem_singleton.2 (price 3 (by decide))
    exact ⟨by decide +kernel, trivial, fun _ _ _ => ⟨by decide +kernel, trivial, fun _ _ _ =>
      ⟨by decide +kernel, trivial, fun _ _ _ => trivial⟩⟩⟩

end StoreCall

end CalcFields
