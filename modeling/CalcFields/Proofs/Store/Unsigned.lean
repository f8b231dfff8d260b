import CalcFields.Proofs.Json.RoundTrip
import CalcFields.Proofs.Value.Unsigned
import CalcFields.Store.Query

/-!
Records answer by the same ids, the same filters and the same next id when their zeros lose their
signs, so that a collection without the signs stands for the collection with them.
-/

namespace CalcFields

/-- Greatest numbers agree but for the sign of a zero when the numbers do. -/
theorem unsignedFloat_foldl_greatest (numbers : List Float) (least : Float) :
    unsignedFloat (numbers.foldl (fun greatest x => if greatest < x then x else greatest) least) =
      (numbers.map unsignedFloat).foldl (fun greatest x => if greatest < x then x else greatest)
        (unsignedFloat least) := by
  -- Induction on the numbers, with the greatest so far.
  induction numbers generalizing least with
  | nil => rfl
  | cons x rest ih =>
    -- The number that stays is the same one on both sides, because the order is.
    have stays : unsignedFloat (if least < x then x else least) =
        if unsignedFloat least < unsignedFloat x then unsignedFloat x else unsignedFloat least := by
      rw [apply_ite unsignedFloat]
      simp only [unsignedFloat_lt_iff]
    rw [List.foldl_cons, List.map_cons, List.foldl_cons, ih, stays]

/-- The sign of a zero is lost on the way to a whole number. -/
theorem saturated64_floorFloat_unsignedFloat (x : Float) :
    saturated64 (floorFloat (unsignedFloat x)) = saturated64 (floorFloat x) := by
  -- Both zeros have the same floor, and no other number changes.
  by_cases zero : x = -0.0
  · have same : saturated64 (floorFloat 0.0) = saturated64 (floorFloat (-0.0)) := by
      decide +kernel
    have plain : unsignedFloat x = 0.0 := by rw [unsignedFloat, if_pos zero]
    rw [plain, zero, same]
  · have plain : unsignedFloat x = x := by rw [unsignedFloat, if_neg zero]
    rw [plain]

namespace Record

variable (record updates : Record) (records : List Record)

/-- A field of a record without signs at its zeros has no such sign. -/
@[simp] theorem get?_unsigned (name : String) :
    record.unsigned.get? name = (record.get? name).map Value.unsigned :=
  FieldMap.get?_mapValues record _ name

/-- A field of a record without signs at its zeros is null where the field was. -/
@[simp] theorem field_unsigned (name : String) :
    record.unsigned.field name = (record.field name).unsigned := by
  rw [field, field, get?_unsigned]
  cases record.get? name <;> rfl

/-- Signs that are taken off the zeros of a record are not there a second time. -/
@[simp] theorem unsigned_idem : record.unsigned.unsigned = record.unsigned := by
  refine FieldMap.ext_get? fun name => ?_
  simp only [get?_unsigned, Option.map_map, Function.comp_def, Value.unsigned_idem]

/-- An extended record loses the signs that were left in it. -/
theorem unsigned_extend :
    Record.unsigned (record.unsigned.extend updates) = Record.unsigned (record.extend updates) := by
  -- A field comes from the updates or loses its sign twice.
  refine FieldMap.ext_get? fun name => ?_
  rw [get?_unsigned, get?_unsigned, FieldMap.get?_extend, FieldMap.get?_extend, get?_unsigned]
  cases updates.get? name with
  | some v => rfl
  | none =>
    cases record.get? name with
    | none => rfl
    | some v => exact congrArg some v.unsigned_idem

/-- A record keeps its id without signs at its zeros. -/
@[simp] theorem id?_unsigned : record.unsigned.id? = record.id? := by
  -- The text of a value does not show the sign of a zero.
  rw [id?, id?, get?_unsigned]
  cases record.get? idField with
  | none => rfl
  | some v =>
    have text := v.text_unsigned
    cases v with
    | null => rfl
    | _ => exact congrArg some text

/-- A record has the same ids without signs at its zeros. -/
@[simp] theorem hasId_unsigned (id : String) : record.unsigned.hasId id = record.hasId id := by
  rw [hasId, hasId, id?_unsigned]

/-- A record meets the same filters without signs at its zeros. -/
@[simp] theorem meets_unsigned (filter : Record) :
    record.unsigned.meets filter = record.meets filter := by
  rw [meets, meets]
  simp only [field_unsigned, Value.equivalent_unsigned]

/-- Cutting a record down and taking the signs off its zeros go in any order. -/
theorem cutTo_unsigned (fields : Option (List String)) :
    record.unsigned.cutTo fields = (record.cutTo fields).unsigned := by
  cases fields with
  | none => rfl
  | some fields =>
    refine FieldMap.ext_get? fun name => ?_
    rw [get?_unsigned, cutTo, cutTo, FieldMap.get?_filter, FieldMap.get?_filter, get?_unsigned]
    -- Whether a field is kept does not depend on its value.
    cases record.get? name with
    | none => rfl
    | some v =>
      rw [Option.map_some, Option.filter_some, Option.filter_some]
      split <;> rfl

/-- A query reads the same records without signs at their zeros. -/
theorem select_unsigned (query : RecordQuery) :
    query.select (records.map unsigned) = (query.select records).map unsigned := by
  -- No filter sees the sign of a zero.
  have accepted : query.accepts ∘ unsigned = query.accepts := by
    funext record
    simp only [Function.comp_apply, RecordQuery.accepts, id?_unsigned, meets_unsigned]
  -- The pages cut the same records off, whether the signs are dropped before or after.
  have paged : query.page (records.map unsigned) = (query.page records).map unsigned := by
    rw [RecordQuery.page, RecordQuery.page, List.filter_map, accepted, ← List.map_drop]
    cases query.limit with
    | none => rfl
    | some limit => exact (List.map_take).symm
  rw [RecordQuery.select, RecordQuery.select, paged, List.map_map, List.map_map]
  exact List.map_congr_left fun record _ => record.cutTo_unsigned query.fields

/-- As many records meet a filter without signs at their zeros. -/
theorem countP_meets_unsigned (filter : Record) :
    (records.map unsigned).countP (·.meets filter) = records.countP (·.meets filter) := by
  -- A filter cannot tell the two records apart.
  rw [List.countP_map]
  exact congrArg (records.countP ·) (funext fun record => record.meets_unsigned filter)

/-- The first record of an id is the same one without signs at its zeros. -/
theorem find?_hasId_unsigned (id : String) :
    (records.map unsigned).find? (·.hasId id) = (records.find? (·.hasId id)).map unsigned := by
  -- The id of a record shows no sign of a zero.
  rw [List.find?_map]
  refine congrArg (fun found => Option.map unsigned found) ?_
  exact congrArg (records.find? ·) (funext fun record => record.hasId_unsigned id)

/-- An update of an id finds its record and extends it, and loses the signs that were left. -/
theorem updateFirst?_unsigned (id : String) :
    (updateFirst? (records.map unsigned) id updates).map (List.map unsigned) =
      (updateFirst? records id updates).map (List.map unsigned) := by
  -- Induction on the records; ids are the same with signs and without.
  induction records with
  | nil => rfl
  | cons record rest ih =>
    rw [List.map_cons, updateFirst?, updateFirst?, hasId_unsigned]
    split
    · rw [Option.map_some, Option.map_some, List.map_cons, List.map_cons, List.map_map,
        unsigned_extend]
      simp only [Function.comp_def, unsigned_idem]
    · rw [Option.map_map, Option.map_map]
      -- The first record stays in front of the updated rest.
      have front (first : Record) (updated : Option (List Record)) :
          updated.map (List.map unsigned ∘ (first :: ·)) =
            (updated.map (List.map unsigned)).map (first.unsigned :: ·) := by
        rw [Option.map_map]
        rfl
      rw [front, front, ih, unsigned_idem]

/-- The next id is the same one without signs at the zeros of a collection. -/
theorem nextId_unsigned : nextId (records.map unsigned) = nextId records := by
  -- Only the sign of a zero can differ among the numbers, and the greatest one is found up to it.
  have numbers : ((records.map unsigned).filterMap fun r => (r.field idField).toNumber?).map
        unsignedFloat =
      (records.filterMap fun r => (r.field idField).toNumber?).map unsignedFloat := by
    rw [List.filterMap_map, List.map_filterMap, List.map_filterMap]
    refine List.filterMap_congr fun record _ => ?_
    rw [Function.comp_apply, field_unsigned, Value.toNumber?_unsigned]
  rw [nextId, nextId, ← saturated64_floorFloat_unsignedFloat (greatestId records),
    ← saturated64_floorFloat_unsignedFloat, greatestId, greatestId, unsignedFloat_foldl_greatest,
    unsignedFloat_foldl_greatest, numbers]

/-- Putting a record gives the same id and the same collection but for signs of zeros. -/
theorem putInto_unsigned :
    (putInto (records.map unsigned) record).1 = (putInto records record).1 ∧
      (putInto (records.map unsigned) record).2.map unsigned =
        (putInto records record).2.map unsigned := by
  -- Taking signs off twice is taking them off once.
  have again : (records.map unsigned).map unsigned = records.map unsigned := by
    rw [List.map_map]
    exact List.map_congr_left fun r _ => r.unsigned_idem
  rw [putInto, putInto]
  cases record.id? with
  | none => simp only [nextId_unsigned, List.map_append, again, and_self]
  | some id =>
    have updated := updateFirst?_unsigned record records id
    -- Both collections have a record of the id, or none of them has.
    cases here : updateFirst? records id record with
    | none =>
      rw [here, Option.map_none, Option.map_eq_none_iff] at updated
      simp only [updated, here, List.map_append, again, and_self]
    | some extended =>
      rw [here, Option.map_some, Option.map_eq_some_iff] at updated
      obtain ⟨extendedToo, there, same⟩ := updated
      simp only [there, here, same, and_self]

end Record

end CalcFields
