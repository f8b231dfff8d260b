import CalcFields.Proofs.Batch.Service

/-!
A batch reads the ids of all records that meet its filter, page by page, before it writes, and then
reads the records page by page. Where the pages are cut changes nothing.
-/

namespace CalcFields

/-- The pages of ids are the first page and the pages of the rest. -/
theorem pagesOf_of_ne_nil {size : Nat} {ids : List String} (filled : ids ≠ []) :
    pagesOf size ids = ids.take (max 1 size) :: pagesOf size (ids.drop (max 1 size)) := by
  rw [pagesOf, if_neg filled]

/-- Taking records that all have ids takes as many ids. -/
theorem filterMap_id?_take {records : List Record} (named : ∀ r ∈ records, r.id?.isSome = true)
    (size : Nat) :
    (records.take size).filterMap Record.id? = (records.filterMap Record.id?).take size ∧
      (records.drop size).filterMap Record.id? = (records.filterMap Record.id?).drop size := by
  -- Each of the records gives one id.
  have each (part : List Record) (within : part.Sublist records) :
      part.filterMap Record.id? = part.map fun r => r.id?.getD "" := by
    have given : ∀ r ∈ part, r.id? = some (r.id?.getD "") := fun r member => by
      obtain ⟨id, has⟩ := Option.isSome_iff_exists.1 (named r (within.subset member))
      rw [has, Option.getD_some]
    rw [List.filterMap_congr given, List.filterMap_eq_map']
  rw [each _ (List.take_sublist size records), each _ (List.drop_sublist size records),
    each records (List.Sublist.refl _), List.map_take, List.map_drop]
  exact ⟨rfl, rfl⟩

namespace BatchPlan

variable {σ : Type} [RecordStore σ] {plan : BatchPlan} {service : Service σ plan.collection}
  {records : List Record}

/-- The counts after some records are the counts before, with each record added. -/
theorem foldl_tally (todo : List Record) (count : BatchCount) :
    todo.foldl (plan.tally service) count =
      ⟨count.processed + todo.length, count.updated + todo.countP (plan.countsUpdate service),
        count.withErrors + todo.countP plan.hasErrors⟩ := by
  -- The count runs along with the records, so it stays free in the induction.
  induction todo generalizing count with
  | nil => rfl
  | cons record rest ih =>
    rw [List.foldl_cons, ih, tally, List.length_cons, List.countP_cons, List.countP_cons]
    simp only [BatchCount.mk.injEq]
    -- A record adds one or nothing to each part.
    omega

/-- Records whose ids come later are left alone. -/
theorem settledAmong_of_later {first later : List Record}
    (distinct : DistinctIds (first ++ later)) :
    ∀ r ∈ later, plan.settledAmong service (first.filterMap Record.id?) r = r := by
  -- A page settles the records whose ids it lists.
  intro r member
  rw [DistinctIds, List.filterMap_append] at distinct
  have apart := List.disjoint_of_nodup_append distinct
  -- Ids are distinct over both parts, so none of the later ones is among the first.
  have beside : (r.id?.any (first.filterMap Record.id?).contains) = false := by
    rw [Bool.eq_false_iff, ne_eq, Option.any_eq_true]
    rintro ⟨id, has, listed⟩
    exact apart (List.contains_iff_mem.1 listed) (List.mem_filterMap.2 ⟨r, member, has⟩)
  rw [settledAmong, beside]
  rfl

/-- Recomputing pages of ids recomputes the records of these ids one after the other. -/
theorem processPages_pagesOf (size : Nat) (state : BatchState σ) {todo : List Record}
    (holds : service.Holds state.store records) (sublist : todo.Sublist records)
    (named : ∀ r ∈ todo, r.id?.isSome = true)
    (accepts : ∀ r ∈ todo, plan.writes service r = true →
      service.Accepts (plan.outcome r).updates) :
    plan.processPages state (pagesOf size (todo.filterMap Record.id?)) =
      (todo.foldl plan.process state, none) := by
  -- A page takes at least one id off the list, so the induction is on how many are left.
  induction length : todo.length using Nat.strong_induction_on generalizing todo state records with
  | _ n ih =>
    by_cases empty : todo = []
    · subst empty
      rw [List.filterMap_nil, pagesOf, if_pos rfl]
      rfl
    · -- A record that is left has an id, so the list of ids is not empty either.
      have filled : todo.filterMap Record.id? ≠ [] := by
        obtain ⟨record, rest, rfl⟩ := List.exists_cons_of_ne_nil empty
        obtain ⟨id, has⟩ := Option.isSome_iff_exists.1 (named record List.mem_cons_self)
        simp [List.filterMap_cons_some has]
      obtain ⟨taken, dropped⟩ := filterMap_id?_take named (max 1 size)
      have split := List.take_append_drop (max 1 size) todo
      have firstSublist := List.take_sublist (max 1 size) todo
      have laterSublist := List.drop_sublist (max 1 size) todo
      have shorter : (todo.drop (max 1 size)).length < n := by
        have := List.length_pos_iff.2 empty
        rw [List.length_drop, ← length]
        omega
      have distinct := Record.distinct_sublist (service.distinct holds) sublist
      -- From here on the page and what follows it are two lists that make up the whole.
      generalize todo.take (max 1 size) = first at *
      generalize todo.drop (max 1 size) = later at *
      subst split
      -- The first page reads its records as they are, and leaves the later ones.
      have read := RecordQuery.select_byIds_of_sublist (service.distinct holds)
        (firstSublist.trans sublist) fun r member => named r (firstSublist.subset member)
      obtain ⟨next, processed, held, _⟩ := foldl_process state holds (firstSublist.trans sublist)
        (fun r member => named r (firstSublist.subset member))
        (fun r member => accepts r (firstSublist.subset member))
      -- What the first page settles leaves the later ones in the new store as they were in the old
      -- one.
      have onward := (laterSublist.trans sublist).map
        (plan.settledAmong service (first.filterMap Record.id?))
      rw [List.map_congr_left (settledAmong_of_later distinct), List.map_id'] at onward
      have rest := ih later.length shorter ⟨next, first.foldl (plan.tally service) state.count⟩
        held onward
        (fun r member => named r (laterSublist.subset member))
        (fun r member => accepts r (laterSublist.subset member)) rfl
      -- The page and the rest are put together as the loop runs them.
      rw [pagesOf_of_ne_nil filled, ← taken, ← dropped, processPages, service.read holds, read]
      simp only
      rw [processed, rest, List.foldl_append, processed]

/-- The ids of the records that meet a filter are read from any page on. -/
theorem matchingIds_served {store : σ} {collection : String} {service : Service σ collection}
    (holds : service.Holds store records)
    (filter : Record) {limit : Nat} (positive : 0 < limit) (offset : Nat) :
    matchingIds store collection filter limit offset =
      .ok (((records.filter (·.meets filter)).drop offset).filterMap Record.id?) := by
  -- Each full page moves the offset on, so the induction is on what lies behind the offset.
  induction left : (records.filter (·.meets filter)).length - offset using
    Nat.strong_induction_on generalizing offset with
  | _ n ih =>
    -- A page of ids is what the query selects, record by record.
    have served := service.read holds (.idPage filter offset limit)
    have ids := RecordQuery.filterMap_id?_select (.idPage filter offset limit) records
    have length : ((RecordQuery.idPage filter offset limit).select records).length =
        ((RecordQuery.idPage filter offset limit).page records).length := by
      rw [RecordQuery.select, List.length_map]
    rw [RecordQuery.page_idPage] at ids length
    generalize (RecordQuery.idPage filter offset limit).select records = page at served ids length
    generalize (records.filter (·.meets filter)) = matching at *
    rw [List.length_take, List.length_drop] at length
    have split := List.take_append_drop limit (matching.drop offset)
    rw [matchingIds]
    split
    · rename_i e refused
      cases served.symm.trans refused
    · rename_i found read
      cases served.symm.trans read
      simp only
      split
      · -- A short page is the last one, and has all the rest.
        rename_i short
        have whole : (matching.drop offset).length ≤ limit := by
          rw [List.length_drop]
          rcases short with short | empty
          · omega
          · rw [empty, List.length_nil] at length
            omega
        rw [ids, List.take_of_length_le whole]
      · rename_i full
        -- A full page holds at least one record, since an empty one would have ended the listing.
        have filled : 0 < page.length := by
          rcases page with _ | ⟨_, _⟩
          · exact absurd (.inr rfl) full
          · simp
        have next := ih _ (by omega) (offset + page.length) rfl
        have wholePage : page.length = limit := by
          have : ¬ page.length < limit := fun short => full (.inl short)
          omega
        -- The page and what the next offset gives are together what lies behind this one.
        rw [next, ids, Except.map, ← List.filterMap_append, ← List.drop_drop, wholePage, split]

end BatchPlan

end CalcFields
