import CalcFields.Store.RecordStore

/-! A refusing store stands in front of another one and fails in chosen places. -/

namespace CalcFields

/-- How a refusing store counts. -/
inductive CountRefusal where
  | passed
  /-- The store cannot tell. -/
  | unknown
  | failed
deriving DecidableEq, Repr

/-- What a refusing store refuses. -/
structure Refusal where
  /-- Updates of these ids fail. -/
  failedUpdates : List String
  /-- Updates of these ids find no record. -/
  missedUpdates : List String
  count : CountRefusal
  /-- Reads by query fail. -/
  queries : Bool
  /-- Reads by listed ids fail. -/
  listed : Bool

/-- The refusal of nothing. -/
def Refusal.none : Refusal := ⟨[], [], .passed, false, false⟩

/-- A store behind a refusal. -/
structure RefusingStore (σ : Type) where
  store : σ
  refusal : Refusal

namespace RefusingStore

variable {σ : Type} [RecordStore σ]

/-- A read with or without listed ids is refused. -/
def refusesRead (refusal : Refusal) (query : RecordQuery) : Bool :=
  if query.ids.isSome then refusal.listed else refusal.queries

/-- Reads unless the read is refused. -/
def readMany (front : RefusingStore σ) (collection : String) (query : RecordQuery) :
    Except StoreError (List Record) :=
  if refusesRead front.refusal query then .error (.refused "read refused")
  else RecordStore.readMany front.store collection query

/-- Counts unless counting is refused. -/
def count (front : RefusingStore σ) (collection : String) (filter : Record) :
    Except StoreError (Option Nat) :=
  match front.refusal.count with
  | .passed => RecordStore.count front.store collection filter
  | .unknown => .ok none
  | .failed => .error (.refused "count refused")

/-- Updates unless the id is refused, and leaves a missed record as it is. -/
def updateOne (front : RefusingStore σ) (collection id : String) (updates : Record) :
    Except StoreError (Bool × RefusingStore σ) :=
  if front.refusal.failedUpdates.contains id then .error (.refused "update refused")
  else if front.refusal.missedUpdates.contains id then .ok (false, front)
  else
    (RecordStore.updateOne front.store collection id updates).map fun (found, store) =>
      (found, { front with store := store })

/-- A page that is not empty ends within the store behind. -/
theorem readMany_le_bound (front : RefusingStore σ) (collection : String) (query : RecordQuery)
    (page : List Record) (read : front.readMany collection query = .ok page) (filled : page ≠ []) :
    query.offset + page.length ≤ RecordStore.bound front.store collection := by
  -- A page that is read is one of the store behind.
  unfold readMany at read
  split at read
  · cases read
  · exact RecordStore.page_le_bound front.store collection query page read filled

instance : RecordStore (RefusingStore σ) where
  readOne front := RecordStore.readOne front.store
  readMany := readMany
  count := count
  updateOne := updateOne
  put front collection record :=
    (RecordStore.put front.store collection record).map fun (id, store) =>
      (id, { front with store := store })
  bound front := RecordStore.bound front.store
  page_le_bound := readMany_le_bound

end RefusingStore

end CalcFields
