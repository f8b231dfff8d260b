import CalcFields.Proofs.FieldMap
import CalcFields.Store.Query

/-!
Where the ids of records are distinct, an update changes the one record of its id, and a query by
the ids of some records reads exactly these records in their order.
-/

namespace CalcFields

/-- No two records have the same id. -/
def DistinctIds (records : List Record) : Prop :=
  (records.filterMap Record.id?).Nodup

namespace Record

variable {record : Record} {records part : List Record} {id : String}

/-- A record has an id exactly when the id is its own. -/
theorem hasId_iff : record.hasId id = true ↔ record.id? = some id :=
  beq_iff_eq

/-- A record lacks an id exactly when the id is not its own. -/
theorem hasId_eq_false_iff : record.hasId id = false ↔ record.id? ≠ some id :=
  beq_eq_false_iff_ne

/-- A record that is cut down keeps its id. -/
@[simp] theorem id?_cutTo (record : Record) (fields : Option (List String)) :
    (record.cutTo fields).id? = record.id? := by
  cases fields with
  | none => rfl
  | some fields =>
    -- The field of the id is kept whatever the fields are.
    have same : (record.filter fun name _ => name == idField || fields.contains name).get? idField =
        record.get? idField := by
      rw [FieldMap.get?_filter]
      cases record.get? idField <;> simp
    simp only [id?, cutTo, same]

/-- The first of records with distinct ids shares its id with no other. -/
theorem not_hasId_of_distinct (distinct : DistinctIds (record :: records))
    (has : record.hasId id = true) : ∀ other ∈ records, other.hasId id = false := by
  -- Another record with the id would make it occur twice.
  intro other member
  refine hasId_eq_false_iff.2 fun hasToo => ?_
  rw [DistinctIds, List.filterMap_cons_some (hasId_iff.1 has), List.nodup_cons] at distinct
  exact distinct.1 (List.mem_filterMap.2 ⟨other, member, hasToo⟩)

/-- Some of the records with distinct ids have distinct ids. -/
theorem distinct_sublist (distinct : DistinctIds records) (sublist : part.Sublist records) :
    DistinctIds part :=
  distinct.sublist (sublist.filterMap id?)

/-- Records that keep their ids keep them distinct. -/
theorem distinct_map (distinct : DistinctIds records) {change : Record → Record}
    (kept : ∀ r ∈ records, (change r).id? = r.id?) : DistinctIds (records.map change) := by
  rw [DistinctIds, List.filterMap_map, Function.comp_def, List.filterMap_congr kept]
  exact distinct

/-- Of records with distinct ids, the one of an id is determined. -/
theorem eq_of_hasId (distinct : DistinctIds records) {other : Record} (member : record ∈ records)
    (memberToo : other ∈ records) (has : record.hasId id = true) (hasToo : other.hasId id = true) :
    record = other := by
  -- Induction on the records.
  induction records with
  | nil => cases member
  | cons first rest ih =>
    rw [List.mem_cons] at member memberToo
    obtain rfl | later := member
    · obtain rfl | laterToo := memberToo
      · rfl
      · rw [not_hasId_of_distinct distinct has other laterToo] at hasToo
        cases hasToo
    · obtain rfl | laterToo := memberToo
      · rw [not_hasId_of_distinct distinct hasToo record later] at has
        cases has
      · exact ih (distinct_sublist distinct (List.sublist_cons_self _ _)) later laterToo

/-- The update of an id extends the record of the id and leaves the others. -/
theorem updateFirst?_of_distinct (distinct : DistinctIds records) (member : record ∈ records)
    (has : record.hasId id = true) (updates : Record) :
    updateFirst? records id updates =
      some (records.map fun r => if r.hasId id then r.extend updates else r) := by
  -- Induction on the records up to the one with the id.
  induction records with
  | nil => cases member
  | cons first rest ih =>
    rw [updateFirst?, List.map_cons]
    cases here : first.hasId id with
    | true =>
      -- None of the later records has the id as well.
      have others := not_hasId_of_distinct distinct here
      have same : rest.map (fun r => if r.hasId id then r.extend updates else r) = rest := by
        rw [List.map_congr_left fun r later => by rw [others r later], List.map_id'']
        simp
      simp [same]
    | false =>
      have later : record ∈ rest := by
        obtain rfl | later := List.mem_cons.1 member
        · rw [has] at here
          cases here
        · exact later
      simp [ih (distinct_sublist distinct (List.sublist_cons_self _ _)) later]

/-- Records after an update: the first record of the id is extended, and the others stay. -/
inductive IsExtended (id : String) (updates : Record) : List Record → List Record → Prop where
  | first (before : List Record) (held : Record) (after : List Record)
      (others : ∀ r ∈ before, r.hasId id = false) (has : held.hasId id = true) :
      IsExtended id updates (before ++ held :: after) (before ++ held.extend updates :: after)

/-- An update finds no record exactly when none has the id. -/
theorem updateFirst?_eq_none_iff {updates : Record} :
    updateFirst? records id updates = none ↔ ∀ r ∈ records, r.hasId id = false := by
  -- Induction on the records.
  induction records with
  | nil => simp [updateFirst?]
  | cons first rest ih =>
    rw [updateFirst?, List.forall_mem_cons]
    cases here : first.hasId id <;> simp [ih]

/-- An update extends the first record of the id. -/
theorem isExtended_of_updateFirst? {updates : Record} {updated : List Record}
    (done : updateFirst? records id updates = some updated) :
    IsExtended id updates records updated := by
  induction records generalizing updated with
  | nil => cases done
  | cons first rest ih =>
    rw [updateFirst?] at done
    split at done
    · rename_i has
      cases done
      exact .first [] first rest (List.forall_mem_nil _) has
    · rename_i lacks
      obtain ⟨later, found, rfl⟩ := Option.map_eq_some_iff.1 done
      -- The record that is extended lies in the rest, behind the first one.
      obtain ⟨before, held, after, others, has⟩ := ih found
      exact .first (first :: before) held after
        (List.forall_mem_cons.2 ⟨Bool.eq_false_iff.2 lacks, others⟩) has

/-- What a put does to the records of a collection, and the id that it gives. -/
inductive IsPut (record : Record) (records : List Record) : String × List Record → Prop where
  /-- The collection has a record of the id, which is extended. -/
  | extended {id : String} {updated : List Record} (named : record.id? = some id)
      (extends_first : IsExtended id record records updated) : IsPut record records (id, updated)
  /-- No record has the id, and the record is added. -/
  | added {id : String} (named : record.id? = some id)
      (others : ∀ r ∈ records, r.hasId id = false) : IsPut record records (id, records ++ [record])
  /-- The record has no id, and is added with the next one. -/
  | assigned (unnamed : record.id? = none) :
      IsPut record records
        (toString (nextId records), records ++ [record.insert idField (.ofInt (nextId records))])

/-- A put does one of these. -/
theorem isPut_putInto (records : List Record) (record : Record) :
    IsPut record records (putInto records record) := by
  -- Three cases: no id, an id that no record has, and one that some record has.
  unfold putInto
  cases named : record.id? with
  | none => exact .assigned named
  | some id =>
    simp only
    cases found : updateFirst? records id record with
    | none => exact .added named (updateFirst?_eq_none_iff.1 found)
    | some updated => exact .extended named (isExtended_of_updateFirst? found)

/-- What holds of the values of records and of updates holds of the updated records. -/
theorem IsExtended.forall_entries {P : Value → Prop} {updates : Record} {updated : List Record}
    (extended : IsExtended id updates records updated)
    (held : ∀ r ∈ records, ∀ e ∈ r.entries, P e.2) (fresh : ∀ e ∈ updates.entries, P e.2) :
    ∀ r ∈ updated, ∀ e ∈ r.entries, P e.2 := by
  -- The entries of the extended record are old or come with the updates.
  obtain ⟨before, first, after, _, _⟩ := extended
  rw [List.forall_mem_append, List.forall_mem_cons] at held ⊢
  refine ⟨held.1, fun e member => ?_, held.2.2⟩
  exact (FieldMap.mem_entries_extend member).elim (fresh e) (held.2.1 e)

/-- What holds of the values of records and of a record that is put, and of the id that it may get,
holds of the records after the put. -/
theorem IsPut.forall_entries {P : Value → Prop} {done : String × List Record}
    (isPut : IsPut record records done) (held : ∀ r ∈ records, ∀ e ∈ r.entries, P e.2)
    (fresh : ∀ e ∈ record.entries, P e.2)
    (assigned : record.id? = none → P (.ofInt (nextId records))) :
    ∀ r ∈ done.2, ∀ e ∈ r.entries, P e.2 := by
  cases isPut with
  | extended named extends_first => exact extends_first.forall_entries held fresh
  -- A record that is added brings its own entries.
  | added named others =>
    rw [List.forall_mem_append, List.forall_mem_singleton]
    exact ⟨held, fresh⟩
  | assigned unnamed =>
    rw [List.forall_mem_append, List.forall_mem_singleton]
    refine ⟨held, fun e member => ?_⟩
    -- The inserted id is the only entry that the record did not have.
    obtain rfl | member := FieldMap.mem_insertEntry member
    · exact assigned unnamed
    · exact fresh e member

end Record

namespace RecordQuery

variable {records part : List Record}

/-- The query for ids reads the records that have one of them. -/
theorem select_byIds (ids : List String) (records : List Record) :
    (byIds ids).select records = records.filter fun r => r.id?.any ids.contains := by
  -- Such a query asks for nothing but the ids.
  have accepts : (byIds ids).accepts = fun r => r.id?.any ids.contains := by
    funext r
    simp [byIds, all, RecordQuery.accepts, Record.meets, FieldMap.empty]
  rw [select, page, accepts]
  simp [byIds, all, Record.cutTo]

/-- The query for the ids of some of the records, which all have one, reads these records. -/
theorem select_byIds_of_sublist (distinct : DistinctIds records) (sublist : part.Sublist records)
    (named : ∀ r ∈ part, r.id?.isSome = true) :
    (byIds (part.filterMap Record.id?)).select records = part := by
  -- Induction on the part and the records that it is taken from.
  rw [select_byIds]
  induction sublist with
  | slnil => rfl
  | @cons part records first sublist ih =>
    -- A record beside the part has the id of none in the part.
    have beside : (first.id?.any (part.filterMap Record.id?).contains) = false := by
      rw [Bool.eq_false_iff, ne_eq, Option.any_eq_true]
      rintro ⟨id, has, listed⟩
      rw [List.contains_iff_mem, List.mem_filterMap] at listed
      obtain ⟨other, member, hasToo⟩ := listed
      exact Record.hasId_eq_false_iff.1 (Record.not_hasId_of_distinct distinct
        (Record.hasId_iff.2 has) other (sublist.subset member)) hasToo
    rw [List.filter_cons_of_neg (by rw [beside]; decide)]
    exact ih (Record.distinct_sublist distinct (List.sublist_cons_self _ _)) named
  | @cons_cons part records first sublist ih =>
    obtain ⟨id, has⟩ := Option.isSome_iff_exists.1 (named first List.mem_cons_self)
    have others := Record.not_hasId_of_distinct distinct (Record.hasId_iff.2 has)
    rw [List.filterMap_cons_some has, List.filter_cons_of_pos (by simp [has])]
    -- The id of the first record reads no other one.
    have apart : ∀ r ∈ records, (r.id?.any (id :: part.filterMap Record.id?).contains) =
        r.id?.any (part.filterMap Record.id?).contains := by
      intro r member
      cases hasToo : r.id? with
      | none => rfl
      | some other =>
        have differ : other ≠ id := by
          rintro rfl
          exact Record.hasId_eq_false_iff.1 (others r member) hasToo
        simp [differ]
    rw [List.filter_congr apart]
    -- The others are picked as before.
    have rest := ih (Record.distinct_sublist distinct (List.sublist_cons_self _ _))
      fun r member => named r (List.mem_cons_of_mem _ member)
    exact congrArg (first :: ·) rest

/-- The page of a query for ids without listed ones is a page of the records that meet the
filter. -/
theorem page_idPage (filter : Record) (offset limit : Nat) (records : List Record) :
    (idPage filter offset limit).page records =
      ((records.filter (·.meets filter)).drop offset).take limit := by
  -- A page of ids asks for the filter alone.
  have accepts : (idPage filter offset limit).accepts = fun r => r.meets filter := by
    funext r
    simp [idPage, RecordQuery.accepts]
  rw [page, accepts]
  rfl

/-- A query reads the ids of its page, whatever else it cuts off. -/
theorem filterMap_id?_select (query : RecordQuery) (records : List Record) :
    (query.select records).filterMap Record.id? = (query.page records).filterMap Record.id? := by
  rw [select, List.filterMap_map]
  exact List.filterMap_congr fun r _ => r.id?_cutTo query.fields

end RecordQuery

end CalcFields
