import CalcFields.Proofs.Batch.Shelf
import CalcFields.Proofs.Store.Unsigned
import CalcFields.Proofs.Value.Whole

/-!
Puts, and updates that leave the id alone, keep the ids of a collection distinct. The id that a
collection assigns is new while the greatest id stays below two to the fifty-third and no array is
an id with the same text.
-/

namespace CalcFields

/-- A shelf gives back ids as they were saved, and the ids that it assigns. -/
class KeepsIds (σ : Type) [RecordShelf σ] [KeepingShelf σ] : Prop where
  text_kept (v : Value) : (KeepingShelf.kept σ v).text = v.text
  isNull_kept (v : Value) : (KeepingShelf.kept σ v).isNull = v.isNull
  shaped_number (x : Float) : KeepingShelf.Shaped σ (.number x)
  restores_ofInt {n : Int} : n.natAbs ≤ 9007199254740992 → KeepingShelf.Restores σ (.ofInt n)

instance : KeepsIds MemoryStore where
  text_kept _ := rfl
  isNull_kept _ := rfl
  shaped_number _ := trivial
  restores_ofInt _ := trivial

instance : KeepsIds LineStore where
  text_kept := Value.text_unsigned
  isNull_kept := Value.isNull_unsigned
  shaped_number _ := trivial
  restores_ofInt := LineStore.restores_ofInt

namespace Record

variable {record updates : Record} {records updated : List Record} {id : String}

/-- The id of a record is the text of its field, unless that is null. -/
theorem id?_of_get? {v : Value} (found : record.get? idField = some v) :
    record.id? = if v.isNull then none else some v.text := by
  rw [id?, found]
  cases v <;> rfl

/-- A record with an id has a value for it. -/
theorem exists_get?_of_id? (named : record.id? = some id) : ∃ v, record.get? idField = some v := by
  -- An id is read from its field.
  cases found : record.get? idField with
  | none =>
    rw [id?, found] at named
    cases named
  | some v => exact ⟨v, rfl⟩

/-- A record with the next id of a collection. -/
def assigned (records : List Record) (record : Record) : Record :=
  record.insert idField (.ofInt (nextId records))

/-- The id that comes next is a whole number of few bits, and no id is an array with its text. -/
structure Assignable (records : List Record) : Prop where
  few : nextId records ≤ 9007199254740992
  single : ∀ r ∈ records, ∀ items, r.get? idField = some (.array items) →
    (Value.array items).text ≠ toString (nextId records)

/-- The greatest id is not below zero, and not below any id that is a number. -/
theorem atLeast_greatestId (records : List Record) :
    AtLeast (greatestId records) 0 ∧ ∀ r ∈ records, ∀ x d, (r.field idField).toNumber? = some x →
      Dyadic.ofFloat? x = some d → AtLeast (greatestId records) d.units := by
  -- The greatest id is folded from zero over the ids that are numbers.
  have zero : Dyadic.ofFloat? 0 = some ⟨false, 0, -1074⟩ := by decide +kernel
  obtain ⟨least, each⟩ := AtLeast.foldl_greatest (x := 0) (.inr ⟨_, zero, Int.le_refl 0⟩)
  exact ⟨least, fun r member x d read => each x (List.mem_filterMap.2 ⟨r, member, read⟩) d⟩

/-- Ids are assigned from one on. -/
theorem nextId_pos (records : List Record) : 0 < nextId records := by
  -- The greatest id is at least zero, and the next one is above it.
  have least : AtLeast (greatestId records) ((0 * Dyadic.one : Nat) : Int) := by
    rw [Nat.zero_mul]
    exact (atLeast_greatestId records).1
  have := least.le_saturated64_floorFloat (by omega)
  rw [nextId]
  omega

/-- The next id is that of no record. -/
theorem Assignable.lacks (assignable : Assignable records) :
    ∀ r ∈ records, r.hasId (toString (nextId records)) = false := by
  intro r member
  rw [Bool.eq_false_iff]
  intro has
  -- The next id is positive, and few enough to be exact.
  obtain ⟨n, next⟩ := Int.eq_ofNat_of_zero_le (nextId_pos records).le
  have positive : 0 < n := by
    have := nextId_pos records
    omega
  have few : n ≤ 9007199254740992 := by
    have := assignable.few
    omega
  have text : toString (nextId records) = toString n := by
    rw [next]
    rfl
  rw [hasId_iff] at has
  obtain ⟨v, found⟩ := exists_get?_of_id? has
  rw [id?_of_get? found, Option.ite_none_left_eq_some] at has
  have same : v.text = toString (nextId records) := Option.some.inj has.2
  have single : ∀ items, v ≠ .array items := by
    rintro items rfl
    exact assignable.single r member items found same
  -- Such a value reads as the next id, which is above all ids that are numbers.
  obtain ⟨x, d, read, decoded, sign, size⟩ :=
    Value.toNumber?_of_text positive few single (same.trans text)
  have units : d.units = ((n * Dyadic.one : Nat) : Int) := by
    rw [Dyadic.units, sign, size]
    rfl
  have field : r.field idField = v := by rw [Record.field, found, Option.getD_some]
  have atLeast := (atLeast_greatestId records).2 r member x d (by rwa [field]) decoded
  rw [units] at atLeast
  have := atLeast.le_saturated64_floorFloat few
  rw [nextId] at next
  omega

/-- A record to which the next id is assigned has its digits as id. -/
theorem id?_assigned (few : nextId records ≤ 9007199254740992) (record : Record) :
    (assigned records record).id? = some (toString (nextId records)) := by
  -- The number is exact, so its text is that of the id.
  have inserted : (assigned records record).get? idField = some (.ofInt (nextId records)) := by
    rw [assigned, FieldMap.get?_insert, if_pos rfl]
  have positive := nextId_pos records
  obtain ⟨n, next⟩ := Int.eq_ofNat_of_zero_le positive.le
  rw [id?_of_get? inserted, next]
  exact congrArg some (numberText_ofNat (by omega) (by omega))

/-- A record without an id is added with the next one. -/
theorem putInto_of_unnamed (unnamed : record.id? = none) :
    putInto records record =
      (toString (nextId records), records ++ [assigned records record]) := by
  rw [putInto, unnamed]
  rfl

/-- A record that is extended by one with an id gets this id. -/
theorem id?_extend_of_named (named : updates.id? = some id) (record : Record) :
    Record.id? (record.extend updates) = some id := by
  -- The updates have the last word on the field of the id.
  obtain ⟨v, found⟩ := exists_get?_of_id? named
  have extended : (record.extend updates).get? idField = some v := by
    rw [FieldMap.get?_extend, found, Option.some_or]
  rw [id?_of_get? extended, ← id?_of_get? found, named]

/-- A record that is extended without a new id keeps its own. -/
theorem id?_extend_of_none (without : updates.get? idField = none) (record : Record) :
    Record.id? (record.extend updates) = record.id? := by
  rw [id?, id?, FieldMap.get?_extend, without, Option.none_or]

/-- A collection keeps its ids when the record that is extended does. -/
theorem IsExtended.map_id? (isExtended : IsExtended id updates records updated)
    (kept : ∀ held : Record, held.hasId id = true →
      Record.id? (held.extend updates) = held.id?) :
    updated.map Record.id? = records.map Record.id? := by
  obtain ⟨before, held, after, _, has⟩ := isExtended
  rw [List.map_append, List.map_append, List.map_cons, List.map_cons, kept held has]

/-- All records have ids, which are distinct. -/
structure Identified (records : List Record) : Prop where
  distinct : DistinctIds records
  named : ∀ r ∈ records, r.id?.isSome = true

namespace Identified

/-- Whether records are identified depends on their ids only. -/
theorem of_map_id? (identified : Identified records)
    (same : updated.map Record.id? = records.map Record.id?) : Identified updated := by
  -- Ids in order are what is left of all of them without the missing ones.
  have ids (list : List Record) : list.filterMap id? = (list.map id?).filterMap fun i => i := by
    rw [List.filterMap_map]
    rfl
  refine ⟨?_, ?_⟩
  · have distinct := identified.distinct
    rw [DistinctIds, ids] at distinct ⊢
    rwa [same]
  · intro r member
    have among : r.id? ∈ records.map Record.id? := same ▸ List.mem_map_of_mem member
    obtain ⟨held, heldIn, agree⟩ := List.mem_map.1 among
    rw [← agree]
    exact identified.named held heldIn

/-- A record with a new id can be added to identified ones. -/
theorem append (identified : Identified records) (named : record.id? = some id)
    (lacks : ∀ r ∈ records, r.hasId id = false) : Identified (records ++ [record]) := by
  refine ⟨?_, ?_⟩
  · -- The new id is none of the old ones.
    have single : [record].filterMap Record.id? = [id] := List.filterMap_cons_some named
    rw [DistinctIds, List.filterMap_append, single, List.nodup_append]
    refine ⟨identified.distinct, List.nodup_singleton id, fun other listed new fresh => ?_⟩
    obtain ⟨r, member, has⟩ := List.mem_filterMap.1 listed
    rintro rfl
    rw [List.mem_singleton] at fresh
    exact hasId_eq_false_iff.1 (lacks r member) (fresh ▸ has)
  · rw [List.forall_mem_append, List.forall_mem_singleton, named]
    exact ⟨identified.named, rfl⟩

/-- A put keeps records identified. -/
theorem putInto (identified : Identified records)
    (assignable : record.id? = none → Assignable records) :
    Identified (Record.putInto records record).2 := by
  -- The record extends another one, or comes with an id that is new or assigned.
  generalize done : Record.putInto records record = put
  have isPut := isPut_putInto records record
  rw [done] at isPut
  cases isPut with
  | extended named extends_first =>
    refine identified.of_map_id? (extends_first.map_id? fun held has => ?_)
    rw [id?_extend_of_named named, hasId_iff.1 has]
  | added named others => exact identified.append named others
  | assigned unnamed =>
    have assignable := assignable unnamed
    exact identified.append (id?_assigned assignable.few record) assignable.lacks

end Identified

end Record

variable {σ : Type} [RecordShelf σ] [KeepingShelf σ]

/-- What a shelf holds after puts into a collection that was empty at first, and updates in it: the
records of the collection, all with ids, and with values that are given back as they are. -/
structure Filled (store : σ) (collection : String) (records : List Record) : Prop where
  loaded : RecordShelf.load store collection = .ok records
  identified : Record.Identified records
  writable : RecordShelf.Writable store collection
  given : ∀ record ∈ records, ∀ e ∈ record.entries, GivenBack σ e.2

namespace Filled

variable {store : σ} {collection : String} {records changed : List Record} {record updates : Record}

/-- A shelf that holds nothing is filled. -/
theorem of_blank (blank : RecordShelf.load store collection = .ok [])
    (writable : RecordShelf.Writable store collection) : Filled store collection [] :=
  ⟨blank, ⟨List.nodup_nil, List.forall_mem_nil _⟩, writable, List.forall_mem_nil _⟩

/-- Every value that a shelf holds can be saved. -/
theorem saved (filled : Filled store collection records) :
    ∀ record ∈ records, ∀ e ∈ record.entries, Saved σ e.2 :=
  fun r member e inside => (filled.given r member e inside).saved

end Filled

variable [KeepsIds σ]

/-- A record is given back with its id. -/
theorem Record.id?_kept (record : Record) : (record.kept σ).id? = record.id? := by
  -- Neither the text of the id nor its being null changes.
  cases found : record.get? idField with
  | none =>
    rw [Record.id?, Record.id?, Record.kept, FieldMap.get?_mapValues, found]
    rfl
  | some v =>
    have given : (record.kept σ).get? idField = some (KeepingShelf.kept σ v) := by
      rw [Record.kept, FieldMap.get?_mapValues, found, Option.map_some]
    rw [Record.id?_of_get? given, Record.id?_of_get? found, KeepsIds.isNull_kept,
      KeepsIds.text_kept]

namespace Filled

variable {store : σ} {collection : String} {records changed : List Record} {record updates : Record}

/-- Identified records whose values survive are saved and are what the collection holds then. -/
theorem exists_save (filled : Filled store collection records)
    (identified : Record.Identified changed)
    (saved : ∀ record ∈ changed, ∀ e ∈ record.entries, Saved σ e.2) :
    ∃ next, RecordShelf.save store collection changed = .ok next ∧
      Filled next collection (changed.map (Record.kept σ)) := by
  obtain ⟨next, done⟩ := filled.writable changed
  refine ⟨next, done, ?_, ?_, KeepingShelf.writable_save done, ?_⟩
  · exact KeepingShelf.load_save done fun r member e inside =>
      ⟨(saved r member e inside).shaped, (saved r member e inside).restores⟩
  · -- What survives keeps its id.
    refine identified.of_map_id? ?_
    rw [List.map_map]
    exact List.map_congr_left fun r _ => r.id?_kept
  · -- What was given back would be given back again.
    rw [List.forall_mem_map]
    intro r member e inside
    obtain ⟨held, heldIn, rfl⟩ := List.mem_map.1 inside
    exact (saved r member held heldIn).givenBack

/-- A put succeeds, and the collection holds what it did with the record in it. -/
theorem exists_put (filled : Filled store collection records)
    (fresh : ∀ e ∈ record.entries, Saved σ e.2)
    (assignable : record.id? = none → Record.Assignable records) :
    ∃ next, RecordShelf.put store collection record =
        .ok ((Record.putInto records record).1, next) ∧
      Filled next collection ((Record.putInto records record).2.map (Record.kept σ)) := by
  -- An id that is assigned is a whole number that survives.
  have assigned (unnamed : record.id? = none) : Saved σ (.ofInt (Record.nextId records)) := by
    have positive := Record.nextId_pos records
    have few := (assignable unnamed).few
    exact ⟨KeepsIds.shaped_number _,
      List.forall_mem_singleton.2 (.inl (KeepsIds.restores_ofInt (by omega)))⟩
  obtain ⟨next, done, held⟩ := filled.exists_save (filled.identified.putInto assignable)
    ((Record.isPut_putInto records record).forall_entries filled.saved fresh assigned)
  refine ⟨next, ?_, held⟩
  rw [RecordShelf.put_eq filled.loaded, done]
  rfl

/-- An update that leaves the id alone succeeds, whether it finds a record or not. -/
theorem exists_updateOne (filled : Filled store collection records) (fit : FitUpdates σ updates)
    (id : String) :
    ∃ found next later, RecordShelf.updateOne store collection id updates = .ok (found, next) ∧
      Filled next collection later := by
  -- Without a record of the id nothing is written.
  cases here : Record.updateFirst? records id updates with
  | none =>
    exact ⟨false, store, records, RecordShelf.updateOne_eq_none filled.loaded here, filled⟩
  | some updated =>
    have isExtended := Record.isExtended_of_updateFirst? here
    have identified := filled.identified.of_map_id?
      (isExtended.map_id? fun held _ => Record.id?_extend_of_none fit.noId held)
    obtain ⟨next, done, held⟩ := filled.exists_save identified
      (isExtended.forall_entries filled.saved fit.saved)
    refine ⟨true, next, _, ?_, held⟩
    rw [RecordShelf.updateOne_eq_some filled.loaded here, done]
    rfl

/-- A put of a record without an id adds it with an id that no other record has, and the record is
read by that id. -/
theorem exists_put_of_unnamed (filled : Filled store collection records)
    (unnamed : record.id? = none) (fresh : ∀ e ∈ record.entries, Saved σ e.2)
    (assignable : Record.Assignable records) :
    ∃ id next, RecordStore.put store collection record = .ok (id, next) ∧
      (∀ r ∈ records, r.id? ≠ some id) ∧
      RecordShelf.load next collection =
        .ok (records ++ [(Record.assigned records record).kept σ]) ∧
      RecordStore.readOne next collection id none =
        .ok (some ((Record.assigned records record).kept σ)) := by
  -- The record is put at the end, with the id that it was assigned.
  obtain ⟨next, done, held⟩ := filled.exists_put fresh fun _ => assignable
  rw [Record.putInto_of_unnamed unnamed] at done held
  have loaded := held.loaded
  rw [List.map_append, Record.map_kept_eq_self filled.given, List.map_singleton] at loaded
  have named : ((Record.assigned records record).kept σ).id? =
      some (toString (Record.nextId records)) :=
    (Record.id?_kept _).trans (Record.id?_assigned assignable.few record)
  exact ⟨_, next, done, fun r member => Record.hasId_eq_false_iff.1 (assignable.lacks r member),
    loaded, RecordShelf.readOne_eq loaded assignable.lacks (Record.hasId_iff.2 named)⟩

end Filled

/-- Stores to which puts into a collection lead, and updates in it. The values of a call survive, an
update leaves the id alone, and a record without an id is put where the next id is free. -/
inductive Reached (initial : σ) (collection : String) : σ → Prop where
  | initial : Reached initial collection initial
  | put {store next : σ} {record : Record} {id : String}
      (earlier : Reached initial collection store)
      (fresh : ∀ e ∈ record.entries, Saved σ e.2)
      (assignable : record.id? = none → ∀ records,
        RecordShelf.load store collection = .ok records → Record.Assignable records)
      (done : RecordStore.put store collection record = .ok (id, next)) :
      Reached initial collection next
  | updateOne {store next : σ} {updates : Record} {id : String} {found : Bool}
      (earlier : Reached initial collection store) (fit : FitUpdates σ updates)
      (done : RecordStore.updateOne store collection id updates = .ok (found, next)) :
      Reached initial collection next

namespace Reached

variable {initial store : σ} {collection : String}

/-- A store that is reached from one that holds nothing is filled. -/
theorem exists_filled (blank : RecordShelf.load initial collection = .ok [])
    (writable : RecordShelf.Writable initial collection)
    (reached : Reached initial collection store) :
    ∃ records, Filled store collection records := by
  -- Induction on the calls that led to the store.
  induction reached with
  | initial => exact ⟨[], .of_blank blank writable⟩
  | put earlier fresh assignable done ih =>
    obtain ⟨records, filled⟩ := ih
    obtain ⟨next, again, held⟩ :=
      filled.exists_put fresh fun unnamed => assignable unnamed records filled.loaded
    -- A call has one answer, so the store it led to is the one that it is known to lead to.
    cases again.symm.trans done
    exact ⟨_, held⟩
  -- An update goes the same way.
  | updateOne earlier fit done ih =>
    obtain ⟨records, filled⟩ := ih
    obtain ⟨_, _, later, again, held⟩ := filled.exists_updateOne fit _
    cases again.symm.trans done
    exact ⟨later, held⟩

/-- In a store that is reached from an empty collection, all records have ids, which are distinct.
While the next id is free, a put of a record without an id adds it under a new id at the end, leaves
the other records, and the record is read by its id. -/
theorem ids_distinct (blank : RecordShelf.load initial collection = .ok [])
    (writable : RecordShelf.Writable initial collection)
    (reached : Reached initial collection store) :
    ∃ records, RecordShelf.load store collection = .ok records ∧ DistinctIds records ∧
      (∀ r ∈ records, r.id?.isSome = true) ∧
      ∀ record : Record, record.id? = none → (∀ e ∈ record.entries, Saved σ e.2) →
        Record.Assignable records →
        ∃ id next, RecordStore.put store collection record = .ok (id, next) ∧
          (∀ r ∈ records, r.id? ≠ some id) ∧
          RecordShelf.load next collection =
            .ok (records ++ [(Record.assigned records record).kept σ]) ∧
          RecordStore.readOne next collection id none =
            .ok (some ((Record.assigned records record).kept σ)) := by
  -- From the blank store on every collection stays filled with records of distinct ids.
  obtain ⟨records, filled⟩ := exists_filled blank writable reached
  exact ⟨records, filled.loaded, filled.identified.distinct, filled.identified.named,
    fun _ unnamed fresh assignable => filled.exists_put_of_unnamed unnamed fresh assignable⟩

end Reached

/-- A put into a store in memory succeeds. -/
theorem MemoryStore.put_eq (memory : MemoryStore) (collection : String) (record : Record) :
    RecordStore.put memory collection record =
      .ok ((Record.putInto (memory.records collection) record).1,
        ⟨memory.collections.insert collection
          (Record.putInto (memory.records collection) record).2⟩) :=
  RecordShelf.put_eq rfl

namespace Reached

/-- An order with a quantity and without an id. -/
def unnamedOrder (quantity : Int) : Record :=
  .ofList [("quantity", .ofInt quantity)]

/-- A store in memory with the order that was put first. -/
def orderShelf : MemoryStore :=
  ⟨.ofList [("orders", [Record.assigned [] (unnamedOrder 5)])]⟩

/-- The first order gets the id one, and the second one the id two. -/
theorem ids_distinct_orders :
    ∃ next, RecordStore.put orderShelf "orders" (unnamedOrder 7) = .ok ("2", next) ∧
      ∃ order, RecordStore.readOne next "orders" "2" none = .ok (some order) := by
  have saved (quantity : Int) : ∀ e ∈ (unnamedOrder quantity).entries, Saved MemoryStore e.2 :=
    fun _ _ => ⟨trivial, fun _ _ => .inl trivial⟩
  -- The first order was put into the empty store.
  have reached : Reached MemoryStore.empty "orders" orderShelf := by
    refine .put .initial (saved 5) (fun _ records loaded => ?_) (MemoryStore.put_eq _ _ _)
    cases loaded
    exact ⟨by decide +kernel, List.forall_mem_nil _⟩
  obtain ⟨records, loaded, _, _, puts⟩ := ids_distinct rfl (fun _ => ⟨_, rfl⟩) reached
  cases loaded
  have assignable : Record.Assignable (orderShelf.records "orders") := by
    refine ⟨by decide +kernel, List.forall_mem_singleton.2 fun items array => ?_⟩
    cases array
  obtain ⟨id, next, put, _, _, read⟩ := puts (unnamedOrder 7) rfl (saved 7) assignable
  have second : toString (Record.nextId (orderShelf.records "orders")) = "2" := by decide +kernel
  rw [MemoryStore.put_eq, Record.putInto_of_unnamed rfl, second] at put
  cases put
  exact ⟨_, by rw [MemoryStore.put_eq, Record.putInto_of_unnamed rfl, second], _, read⟩

end Reached

/-- An order whose id is two to the fifty-third. -/
def greatOrder : Record :=
  .ofList [("id", .ofInt 9007199254740992)]

/-- After the id two to the fifty-third, the next one is rounded to the same number: the text that
a put gives is the id of no record, and two records have one id. -/
theorem MemoryStore.put_after_greatOrder : ∃ first second : MemoryStore,
    RecordStore.put MemoryStore.empty "orders" greatOrder = .ok ("9007199254740992", first) ∧
      RecordStore.put first "orders" (.ofList [("x", .ofInt 1)]) =
        .ok ("9007199254740993", second) ∧
      (second.records "orders").map Record.id? =
        [some "9007199254740992", some "9007199254740992"] := by
  have named : greatOrder.id? = some "9007199254740992" := by decide +kernel
  have alone : Record.putInto [] greatOrder = ("9007199254740992", [greatOrder]) := by
    rw [Record.putInto, named]
    rfl
  have next : Record.nextId [greatOrder] = 9007199254740993 := by decide +kernel
  let added := Record.assigned [greatOrder] (.ofList [("x", .ofInt 1)])
  have after : Record.putInto [greatOrder] (.ofList [("x", .ofInt 1)]) =
      ("9007199254740993", [greatOrder, added]) := by
    rw [Record.putInto_of_unnamed rfl, next]
    rfl
  -- The number that is assigned is the id before it again.
  have rounded : added.id? = some "9007199254740992" := by
    show Record.id? (.insert _ idField (.ofInt (Record.nextId [greatOrder]))) = _
    rw [next]
    decide +kernel
  refine ⟨⟨.ofList [("orders", [greatOrder])]⟩, ⟨.ofList [("orders", [greatOrder, added])]⟩,
    ?_, ?_, ?_⟩
  · have held : MemoryStore.empty.records "orders" = [] := rfl
    rw [MemoryStore.put_eq, held, alone]
    rfl
  · have held : MemoryStore.records ⟨.ofList [("orders", [greatOrder])]⟩ "orders" = [greatOrder] :=
      rfl
    rw [MemoryStore.put_eq, held, after]
    rfl
  · show [greatOrder, added].map Record.id? = _
    rw [List.map_cons, List.map_singleton, named, rounded]

end CalcFields
