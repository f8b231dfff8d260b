import CalcFields.Proofs.Store.Files
import CalcFields.Proofs.Store.Lines
import CalcFields.Store.RecordStore

/-!
A keeping shelf gives back the records that it saves. A store in memory gives back the very records,
and a line store gives them back without signs at their zeros, as far as numbers read back from
their texts.
-/

namespace CalcFields

/-- A shelf can save a collection, whatever the records are. -/
def RecordShelf.Writable {σ : Type} [RecordShelf σ] (store : σ) (collection : String) : Prop :=
  ∀ records, ∃ saved, RecordShelf.save store collection records = .ok saved

namespace RecordShelf

variable {σ : Type} [RecordShelf σ] {store next : σ} {collection id : String}
  {records : List Record} {record updates : Record}

/-- A record is read by its id when no record in front of it has the id. -/
theorem readOne_eq {before after : List Record}
    (loaded : load store collection = .ok (before ++ record :: after))
    (others : ∀ r ∈ before, r.hasId id = false) (has : record.hasId id = true) :
    readOne store collection id none = .ok (some record) := by
  -- The records in front have other ids.
  have passed : before.find? (·.hasId id) = none :=
    List.find?_eq_none.2 fun r member => Bool.eq_false_iff.1 (others r member)
  have found : (before ++ record :: after).find? (·.hasId id) = some record := by
    rw [List.find?_append, passed, Option.none_or]
    exact List.find?_cons_of_pos has
  rw [readOne, loaded, Except.map, found]
  rfl

/-- A put loads the records of a collection and saves them with the record. -/
theorem put_eq (loaded : load store collection = .ok records) :
    put store collection record =
      (save store collection (Record.putInto records record).2).map
        fun next => ((Record.putInto records record).1, next) := by
  rw [put, loaded]
  rfl

/-- An update of an id that no record has finds none. -/
theorem updateOne_eq_none (loaded : load store collection = .ok records)
    (lacking : Record.updateFirst? records id updates = none) :
    updateOne store collection id updates = .ok (false, store) := by
  rw [updateOne, loaded]
  simp only [bind, Except.bind, lacking]
  rfl

/-- An update of the id of a record saves the updated records. -/
theorem updateOne_eq_some {updated : List Record} (loaded : load store collection = .ok records)
    (found : Record.updateFirst? records id updates = some updated) :
    updateOne store collection id updates =
      (save store collection updated).map fun next => (true, next) := by
  rw [updateOne, loaded]
  simp only [bind, Except.bind, found]
  rfl

/-- A put that succeeds has loaded the records and saved them with the record. -/
theorem exists_of_put (done : put store collection record = .ok (id, next)) :
    ∃ records, load store collection = .ok records ∧ (Record.putInto records record).1 = id ∧
      save store collection (Record.putInto records record).2 = .ok next := by
  -- A put loads, changes what it has loaded, and saves it.
  obtain ⟨records, loaded, -⟩ := bind_eq_ok_iff.1 done
  rw [put_eq loaded] at done
  obtain ⟨_, saved, given⟩ := map_eq_ok_iff.1 done
  cases given
  exact ⟨records, loaded, rfl, saved⟩

/-- An update that succeeds has loaded the records, and saved the updated ones if it found one. -/
theorem exists_of_updateOne {found : Bool}
    (done : updateOne store collection id updates = .ok (found, next)) :
    ∃ records, load store collection = .ok records ∧
      (next = store ∨ ∃ updated, Record.updateFirst? records id updates = some updated ∧
        save store collection updated = .ok next) := by
  -- An update saves only if some record has the id.
  obtain ⟨records, loaded, -⟩ := bind_eq_ok_iff.1 done
  cases here : Record.updateFirst? records id updates with
  | none =>
    rw [updateOne_eq_none loaded here] at done
    cases done
    exact ⟨records, loaded, .inl rfl⟩
  | some updated =>
    rw [updateOne_eq_some loaded here] at done
    obtain ⟨_, saved, given⟩ := map_eq_ok_iff.1 done
    cases given
    exact ⟨records, loaded, .inr ⟨updated, here, saved⟩⟩

end RecordShelf

/-- A shelf gives back the records that it saves. -/
class KeepingShelf (σ : Type) [RecordShelf σ] where
  /-- A number is given back as it was saved. -/
  Restores : Float → Prop
  /-- The shape of a value is one that can be saved. -/
  Shaped : Value → Prop
  /-- A value as it is given back. -/
  kept : Value → Value
  shaped_of_isScalar {v : Value} : v.isScalar = true → Shaped v
  shaped_storable {v : Value} : Shaped v → Shaped v.storable
  shaped_kept {v : Value} : Shaped v → Shaped (kept v)
  shaped_of_load {store : σ} {collection : String} {records : List Record} :
    RecordShelf.load store collection = .ok records →
      ∀ record ∈ records, ∀ e ∈ record.entries, Shaped e.2
  /-- What was given back once is given back as it is from then on. -/
  restores_kept {v : Value} : (∀ x ∈ v.numbers, Restores x ∨ x = -0.0) →
    ∀ x ∈ (kept v).numbers, Restores x
  kept_eq_self {v : Value} : (∀ x ∈ v.numbers, Restores x) → kept v = v
  equivalent_kept (v : Value) : (kept v.storable).equivalent v.storable = true
  load_save {store saved : σ} {collection : String} {records : List Record} :
    RecordShelf.save store collection records = .ok saved →
      (∀ record ∈ records, ∀ e ∈ record.entries,
        Shaped e.2 ∧ ∀ x ∈ e.2.numbers, Restores x ∨ x = -0.0) →
      RecordShelf.load saved collection = .ok (records.map (·.mapValues fun _ v => kept v))
  load_save_of_ne {store saved : σ} {collection other : String} {records : List Record} :
    RecordShelf.save store collection records = .ok saved → other ≠ collection →
      RecordShelf.load saved other = RecordShelf.load store other
  writable_save {store saved : σ} {collection : String} {records : List Record} :
    RecordShelf.save store collection records = .ok saved → RecordShelf.Writable saved collection

/-- A store in memory gives back the very records. -/
instance : KeepingShelf MemoryStore where
  Restores _ := True
  Shaped _ := True
  kept v := v
  shaped_of_isScalar _ := trivial
  shaped_storable _ := trivial
  shaped_kept _ := trivial
  shaped_of_load _ _ _ _ _ := trivial
  restores_kept _ _ _ := trivial
  kept_eq_self _ := rfl
  equivalent_kept := Value.equivalent_storable_self
  load_save saved _ := by
    cases saved
    rename_i records
    have same : ∀ record : Record, (record.mapValues fun _ v => v) = record :=
      fun record => FieldMap.mapValues_eq_self fun _ _ => rfl
    simp [RecordShelf.load, MemoryStore.records, same]
  load_save_of_ne saved differ := by
    cases saved
    simp [RecordShelf.load, MemoryStore.records, differ]
  writable_save _ _ := ⟨_, rfl⟩

namespace LineStore

/-- The text of a number reads back as the number. -/
def Restores (x : Float) : Prop :=
  ReadsBackAs x x

/-- A number reads back as one number only. -/
theorem readsBackAs_unique {x y z : Float} (first : ReadsBackAs x y) (second : ReadsBackAs x z) :
    y = z := by
  -- One text reads as one number.
  obtain ⟨document, read, value⟩ := first
  obtain ⟨other, readToo, valueToo⟩ := second
  cases read.symm.trans readToo
  exact Value.number.inj (value.symm.trans valueToo)

/-- A number that is written as zero reads back as zero. -/
theorem readsBackAs_zero {x : Float} (text : (Json.ofFloat x).write = "0") :
    ReadsBackAs x 0.0 := by
  -- Zero is written as an integer.
  refine ⟨.integer 0, ?_, congrArg Value.number (by decide +kernel)⟩
  rw [text]
  rfl

/-- Zero reads back. -/
theorem restores_zero : Restores 0.0 :=
  readsBackAs_zero (by decide +kernel)

/-- Minus zero is written as zero, and does not read back as it is. -/
theorem not_restores_negativeZero : ¬ Restores (-0.0) := by
  -- It is written as a zero, and reads as one without a sign.
  intro restores
  have zero : ReadsBackAs (-0.0) 0.0 := readsBackAs_zero (by decide +kernel)
  have signs : (0.0 : Float) ≠ -0.0 := by decide +kernel
  exact signs (readsBackAs_unique zero restores)

/-- A number that reads back has no sign at a zero. -/
theorem Restores.unsignedFloat_eq {x : Float} (restores : Restores x) : unsignedFloat x = x := by
  -- Minus zero is the one number whose sign would go, and it does not come back.
  refine if_neg ?_
  rintro rfl
  exact not_restores_negativeZero restores

/-- Minus zero loses its sign. -/
theorem unsignedFloat_negativeZero : unsignedFloat (-0.0) = 0.0 := by
  decide +kernel

/-- A number that reads back or is minus zero reads back but for the sign. -/
theorem rereads_of_restores {x : Float} (restores : Restores x ∨ x = -0.0) : Rereads x := by
  -- Only the sign of a zero may be lost.
  obtain restores | rfl := restores
  · rwa [Rereads, restores.unsignedFloat_eq]
  · rw [Rereads, unsignedFloat_negativeZero]
    exact readsBackAs_zero (by decide +kernel)

/-- A number that reads back or is minus zero reads back from then on. -/
theorem restores_unsignedFloat {x : Float} (restores : Restores x ∨ x = -0.0) :
    Restores (unsignedFloat x) := by
  -- Without its sign a zero is restored as well.
  obtain restores | rfl := restores
  · rwa [restores.unsignedFloat_eq]
  · rw [unsignedFloat_negativeZero]
    exact restores_zero

variable {store saved : LineStore} {collection other : String} {records : List Record}

/-- Records are saved when their collection has a file, and its items are written. -/
theorem saveAll_eq_ok_iff :
    store.saveAll collection records = .ok saved ↔
      isName collection = true ∧ ∃ files,
        LineFile.writeItems ⟨store.directory, collection⟩ store.files records = .ok files ∧
          { store with files := files } = saved := by
  simp only [saveAll, file, bind_eq_ok_iff, pure, Except.pure, Except.ok.injEq]
  cases isName collection <;> simp

/-- A collection with a file holds what the file does. -/
theorem records_eq (named : isName collection = true) :
    store.records collection = LineFile.readItems ⟨store.directory, collection⟩ store.files := by
  simp [records, file, named, bind, Except.bind]

/-- A collection whose name is no name for a file is not loaded. -/
theorem records_of_not_isName (unnamed : isName collection = false) :
    store.records collection = .error (.invalidName collection) := by
  simp [records, file, unnamed, bind, Except.bind]

end LineStore

/-- A line store gives back records without signs at their zeros. -/
instance : KeepingShelf LineStore where
  Restores := LineStore.Restores
  Shaped v := v.Nests (Json.depthLimit - 1)
  kept := Value.unsigned
  shaped_of_isScalar := Value.nests_of_isScalar
  shaped_storable := Value.nests_storable _
  shaped_kept := Value.nests_unsigned _
  shaped_of_load {store collection records} loaded := by
    have named : LineStore.isName collection = true := by
      cases named : LineStore.isName collection with
      | false =>
        cases (LineStore.records_of_not_isName named).symm.trans loaded
      | true => rfl
    exact LineFile.nests_of_readItems ((LineStore.records_eq named).symm.trans loaded)
  restores_kept {v} restores := by
    rw [Value.numbers_unsigned, List.forall_mem_map]
    exact fun x member => LineStore.restores_unsignedFloat (restores x member)
  kept_eq_self {v} restores := v.unsigned_eq_self fun x member =>
    (restores x member).unsignedFloat_eq
  equivalent_kept := Value.equivalent_unsigned_storable
  load_save {store saved collection records} done fit := by
    obtain ⟨named, files, written, rfl⟩ := LineStore.saveAll_eq_ok_iff.1 done
    have fits : ∀ record ∈ records, record.FitsLine := fun record member =>
      ⟨fun e inside => (fit record member e inside).1,
        fun e inside x number =>
          LineStore.rereads_of_restores ((fit record member e inside).2 x number)⟩
    show LineStore.records _ _ = _
    rw [LineStore.records_eq named, LineFile.readItems_of_writeItems written,
      LineFile.itemsOf_textOf _ 1 fun record member => (fits record member).readsBack]
    rfl
  load_save_of_ne {store saved collection other records} done differ := by
    obtain ⟨_, files, written, rfl⟩ := LineStore.saveAll_eq_ok_iff.1 done
    show LineStore.records _ _ = LineStore.records _ _
    cases named : LineStore.isName other with
    | false => rw [LineStore.records_of_not_isName named, LineStore.records_of_not_isName named]
    | true =>
      rw [LineStore.records_eq named, LineStore.records_eq named]
      exact LineFile.readItems_of_writeItems_of_ne written rfl differ
  writable_save {store saved collection records} done others := by
    obtain ⟨named, files, written, rfl⟩ := LineStore.saveAll_eq_ok_iff.1 done
    obtain ⟨again, writtenAgain⟩ := LineFile.exists_writeItems_after written written rfl others
    exact ⟨_, LineStore.saveAll_eq_ok_iff.2 ⟨named, again, writtenAgain, rfl⟩⟩

/-- A line store that saves a collection once can save it whatever the records are. -/
theorem LineStore.writable_of_saveAll {store saved : LineStore} {collection : String}
    {records : List Record} (done : store.saveAll collection records = .ok saved) :
    RecordShelf.Writable store collection := by
  -- What was written once can be written again.
  intro others
  obtain ⟨named, files, written, rfl⟩ := saveAll_eq_ok_iff.1 done
  obtain ⟨again, writtenAgain⟩ := LineFile.exists_writeItems written others
  exact ⟨_, saveAll_eq_ok_iff.2 ⟨named, again, writtenAgain, rfl⟩⟩

/-- A line store that saves a collection can still save all that it could. -/
theorem LineStore.writable_after {store saved : LineStore} {collection other : String}
    {records : List Record} (done : store.saveAll collection records = .ok saved)
    (writable : RecordShelf.Writable store other) : RecordShelf.Writable saved other := by
  -- Saving one collection leaves the place of another as it was.
  intro others
  obtain ⟨_, files, written, rfl⟩ := saveAll_eq_ok_iff.1 done
  obtain ⟨_, able⟩ := writable []
  obtain ⟨named, _, writtenToo, rfl⟩ := saveAll_eq_ok_iff.1 able
  obtain ⟨again, writtenAgain⟩ := LineFile.exists_writeItems_after written writtenToo rfl others
  exact ⟨_, saveAll_eq_ok_iff.2 ⟨named, again, writtenAgain, rfl⟩⟩

end CalcFields
