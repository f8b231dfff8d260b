import CalcFields.Proofs.FieldMap
import CalcFields.Proofs.Formula.Provenance
import CalcFields.Proofs.Value.Storable
import CalcFields.Value.Document

/-!
What matters of a value when it is written: the numbers in it, the signs of its zeros, the order of
its members and how deep it nests.
-/

namespace CalcFields

/-- A number without a sign at its zero. -/
def unsignedFloat (x : Float) : Float :=
  if x = -0.0 then 0.0 else x

namespace Value

mutual

/-- The numbers in a value. -/
def numbers : Value → List Float
  | number x => [x]
  | array items => numbersOfItems items
  | object members => numbersOfMembers members
  | _ => []

/-- The numbers in the items of an array. -/
def numbersOfItems : List Value → List Float
  | [] => []
  | item :: rest => item.numbers ++ numbersOfItems rest

/-- The numbers in the members of an object. -/
def numbersOfMembers : List (String × Value) → List Float
  | [] => []
  | (_, item) :: rest => item.numbers ++ numbersOfMembers rest

end

mutual

/-- A value whose zeros have no signs. -/
def unsigned : Value → Value
  | number x => number (unsignedFloat x)
  | array items => array (unsignedItems items)
  | object members => object (unsignedMembers members)
  | other => other

/-- The items of an array without signs at their zeros. -/
def unsignedItems : List Value → List Value
  | [] => []
  | item :: rest => item.unsigned :: unsignedItems rest

/-- The members of an object without signs at their zeros. -/
def unsignedMembers : List (String × Value) → List (String × Value)
  | [] => []
  | (name, item) :: rest => (name, item.unsigned) :: unsignedMembers rest

end

mutual

/-- A value nests no deeper than the budget, and the members of its objects are sorted. -/
def Nests (budget : Nat) : Value → Prop
  | array items => 0 < budget ∧ ItemsNest (budget - 1) items
  | object members =>
    0 < budget ∧ members.Pairwise (fun a b => a.1 < b.1) ∧ MembersNest (budget - 1) members
  | _ => True

/-- Every item of an array nests within the budget. -/
def ItemsNest (budget : Nat) : List Value → Prop
  | [] => True
  | item :: rest => item.Nests budget ∧ ItemsNest budget rest

/-- Every member of an object nests within the budget. -/
def MembersNest (budget : Nat) : List (String × Value) → Prop
  | [] => True
  | (_, item) :: rest => item.Nests budget ∧ MembersNest budget rest

end

/-- What holds of scalars, and of arrays and objects when it holds of their parts, holds of every
value. -/
@[elab_as_elim]
theorem parts_induction {motive : Value → Prop} (scalar : ∀ v, v.isScalar = true → motive v)
    (array : ∀ items, (∀ item ∈ items, motive item) → motive (array items))
    (object : ∀ members, (∀ entry ∈ members, motive entry.2) → motive (object members))
    (v : Value) :
    motive v := by
  -- Values nest through lists of items and of members, so the recursor takes a motive for each of
  -- the lists.
  refine @Value.rec motive (fun items => ∀ item ∈ items, motive item)
    (fun members => ∀ entry ∈ members, motive entry.2) (fun entry => motive entry.2)
    ?null ?bool ?number ?string array object ?noItem ?item ?noMember ?member ?entry v
  case null => exact scalar _ rfl
  case bool => exact fun _ => scalar _ rfl
  case number => exact fun _ => scalar _ rfl
  case string => exact fun _ => scalar _ rfl
  case noItem => exact List.forall_mem_nil _
  case item => exact fun _ _ first others => List.forall_mem_cons.2 ⟨first, others⟩
  case noMember => exact List.forall_mem_nil _
  case member => exact fun _ _ first others => List.forall_mem_cons.2 ⟨first, others⟩
  case entry => exact fun _ _ holds => holds

/-- The stored items are the items in their stored forms. -/
theorem storableItems_eq_map (items : List Value) : storableItems items = items.map storable := by
  induction items with
  | nil => rfl
  | cons item rest ih => rw [storableItems, ih, List.map_cons]

/-- The stored members are the members with values in their stored forms. -/
theorem storableMembers_eq_map (members : List (String × Value)) :
    storableMembers members = members.map fun entry => (entry.1, entry.2.storable) := by
  induction members with
  | nil => rfl
  | cons entry rest ih => rw [storableMembers, ih, List.map_cons]

/-- Taking the signs off the zeros of items takes them off each. -/
theorem unsignedItems_eq_map (items : List Value) : unsignedItems items = items.map unsigned := by
  induction items with
  | nil => rfl
  | cons item rest ih => rw [unsignedItems, ih, List.map_cons]

/-- Taking the signs off the zeros of members takes them off each. -/
theorem unsignedMembers_eq_map (members : List (String × Value)) :
    unsignedMembers members = members.map fun entry => (entry.1, entry.2.unsigned) := by
  induction members with
  | nil => rfl
  | cons entry rest ih => rw [unsignedMembers, ih, List.map_cons]

/-- The documents of items are those of each. -/
theorem itemsToJson_eq_map (items : List Value) : itemsToJson items = items.map toJson := by
  induction items with
  | nil => rfl
  | cons item rest ih => rw [itemsToJson, ih, List.map_cons]

/-- The documents of members are those of each. -/
theorem membersToJson_eq_map (members : List (String × Value)) :
    membersToJson members = members.map fun entry => (entry.1, entry.2.toJson) := by
  induction members with
  | nil => rfl
  | cons entry rest ih => rw [membersToJson, ih, List.map_cons]

/-- The numbers in items are those in each. -/
theorem numbersOfItems_eq_flatMap (items : List Value) :
    numbersOfItems items = items.flatMap numbers := by
  induction items with
  | nil => rfl
  | cons item rest ih => rw [numbersOfItems, ih, List.flatMap_cons]

/-- The numbers in members are those in each. -/
theorem numbersOfMembers_eq_flatMap (members : List (String × Value)) :
    numbersOfMembers members = members.flatMap fun entry => entry.2.numbers := by
  induction members with
  | nil => rfl
  | cons entry rest ih => rw [numbersOfMembers, ih, List.flatMap_cons]

/-- Items nest when each of them does. -/
theorem itemsNest_iff {budget : Nat} {items : List Value} :
    ItemsNest budget items ↔ ∀ item ∈ items, item.Nests budget := by
  induction items with
  | nil => simp [ItemsNest]
  | cons item rest ih => simp [ItemsNest, ih]

/-- Members nest when each of them does. -/
theorem membersNest_iff {budget : Nat} {members : List (String × Value)} :
    MembersNest budget members ↔ ∀ entry ∈ members, entry.2.Nests budget := by
  induction members with
  | nil => simp [MembersNest]
  | cons entry rest ih => simp [MembersNest, ih]

/-- A scalar nests within every budget. -/
theorem nests_of_isScalar {budget : Nat} {v : Value} (scalar : v.isScalar = true) :
    v.Nests budget := by
  -- A scalar has nothing inside.
  cases v with
  | array items => cases scalar
  | object members => cases scalar
  | _ => trivial

/-- A function on values that maps the parts of arrays and of objects, so that it is given by what
it makes of scalars. -/
structure MapsParts (f : Value → Value) : Prop where
  array (items : List Value) : f (.array items) = .array (items.map f)
  object (members : List (String × Value)) :
    f (.object members) = .object (members.map fun entry => (entry.1, f entry.2))

/-- Values are stored part by part. -/
theorem mapsParts_storable : MapsParts storable where
  array items := by rw [storable, storableItems_eq_map]
  object members := by rw [storable, storableMembers_eq_map]

/-- Signs are taken off zeros part by part. -/
theorem mapsParts_unsigned : MapsParts unsigned where
  array items := by rw [unsigned, unsignedItems_eq_map]
  object members := by rw [unsigned, unsignedMembers_eq_map]

namespace MapsParts

variable {f : Value → Value}

/-- What leaves scalars scalars nests values as they were nested. -/
theorem nests (maps : MapsParts f) (scalars : ∀ v, v.isScalar = true → (f v).isScalar = true)
    (v : Value) {budget : Nat} (nests : v.Nests budget) : (f v).Nests budget := by
  -- Induction on the value, one level of the budget for each nesting.
  induction v using parts_induction generalizing budget with
  | scalar v scalar => exact nests_of_isScalar (scalars v scalar)
  | array items ih =>
    obtain ⟨within, nest⟩ := nests
    rw [itemsNest_iff] at nest
    rw [maps.array, Nests, itemsNest_iff, List.forall_mem_map]
    exact ⟨within, fun item member => ih item member (nest item member)⟩
  | object members ih =>
    -- The names stay, and with them their order.
    obtain ⟨within, sorted, nest⟩ := nests
    rw [membersNest_iff] at nest
    rw [maps.object, Nests, membersNest_iff, List.forall_mem_map, List.pairwise_map]
    exact ⟨within, sorted, fun entry member => ih entry member (nest entry member)⟩

/-- What leaves scalars with certain numbers leaves values with such numbers. -/
theorem eq_self (maps : MapsParts f) {P : Float → Prop}
    (scalars : ∀ v, v.isScalar = true → (∀ x ∈ v.numbers, P x) → f v = v) (v : Value)
    (all : ∀ x ∈ v.numbers, P x) : f v = v := by
  -- Induction on the value; the numbers of a part are numbers of the whole.
  induction v using parts_induction with
  | scalar v scalar => exact scalars v scalar all
  | array items ih =>
    rw [numbers, numbersOfItems_eq_flatMap, List.forall_mem_flatMap] at all
    have each : ∀ item ∈ items, f item = item := fun item member =>
      ih item member (all item member)
    rw [maps.array, List.map_congr_left each, List.map_id']
  | object members ih =>
    rw [numbers, numbersOfMembers_eq_flatMap, List.forall_mem_flatMap] at all
    have each : ∀ entry ∈ members, (entry.1, f entry.2) = entry := fun entry member =>
      Prod.ext rfl (ih entry member (all entry member))
    rw [maps.object, List.map_congr_left each, List.map_id']

end MapsParts

/-- The stored form of a scalar is a scalar. -/
theorem isScalar_storable {v : Value} (scalar : v.isScalar = true) :
    v.storable.isScalar = true := by
  -- A number stays or becomes null.
  cases v with
  | array items => cases scalar
  | object members => cases scalar
  | number x =>
    rw [storable]
    split <;> rfl
  | _ => rfl

/-- A value nests in its stored form as it did. -/
theorem nests_storable (v : Value) {budget : Nat} (nests : v.Nests budget) :
    v.storable.Nests budget :=
  mapsParts_storable.nests (fun _ => isScalar_storable) v nests

/-- A scalar without signs at its zeros is a scalar. -/
theorem isScalar_unsigned {v : Value} (scalar : v.isScalar = true) :
    v.unsigned.isScalar = true := by
  -- A number stays a number.
  cases v with
  | array items => cases scalar
  | object members => cases scalar
  | _ => rfl

/-- A value nests without signs at its zeros as it did. -/
theorem nests_unsigned (v : Value) {budget : Nat} (nests : v.Nests budget) :
    v.unsigned.Nests budget :=
  mapsParts_unsigned.nests (fun _ => isScalar_unsigned) v nests

/-- A value has no sign at a zero when none of its numbers has. -/
theorem unsigned_eq_self (v : Value) (plain : ∀ x ∈ v.numbers, unsignedFloat x = x) :
    v.unsigned = v := by
  -- Only numbers change, and these do not.
  refine mapsParts_unsigned.eq_self (fun v scalar plain => ?_) v plain
  cases v with
  | array items => cases scalar
  | object members => cases scalar
  | number x => rw [unsigned, plain x List.mem_cons_self]
  | _ => rfl

/-- The numbers of a value without signs at its zeros are its numbers without those signs. -/
theorem numbers_unsigned (v : Value) : v.unsigned.numbers = v.numbers.map unsignedFloat := by
  -- Induction on the value.
  induction v using parts_induction with
  | scalar v scalar =>
    cases v with
    | array items => cases scalar
    | object members => cases scalar
    | _ => rfl
  | array items ih =>
    rw [mapsParts_unsigned.array, numbers, numbers, numbersOfItems_eq_flatMap,
      numbersOfItems_eq_flatMap, List.flatMap_map, List.map_flatMap]
    exact List.flatMap_congr ih
  | object members ih =>
    rw [mapsParts_unsigned.object, numbers, numbers, numbersOfMembers_eq_flatMap,
      numbersOfMembers_eq_flatMap, List.flatMap_map, List.map_flatMap]
    exact List.flatMap_congr ih

/-- Arrays are the same when each item is in both forms. -/
theorem sameItems_map {f g : Value → Value} {items : List Value}
    (each : ∀ item ∈ items, (f item).same (g item) = true) :
    sameItems (items.map f) (items.map g) = true := by
  -- Induction on the items.
  induction items with
  | nil => rfl
  | cons item rest ih =>
    obtain ⟨first, others⟩ := List.forall_mem_cons.1 each
    simp only [List.map_cons, sameItems, first, ih others, Bool.and_self]

/-- Objects are the same when each member is in both forms. -/
theorem sameMembers_map {f g : Value → Value} {members : List (String × Value)}
    (each : ∀ entry ∈ members, (f entry.2).same (g entry.2) = true) :
    sameMembers (members.map fun entry => (entry.1, f entry.2))
      (members.map fun entry => (entry.1, g entry.2)) = true := by
  -- Induction on the members; their names are not touched.
  induction members with
  | nil => rfl
  | cons entry rest ih =>
    obtain ⟨first, others⟩ := List.forall_mem_cons.1 each
    simp only [List.map_cons, sameMembers, first, ih others, beq_self_eq_true, Bool.and_self]

/-- A stored value is the same without signs at its zeros, because a zero equals minus zero. -/
theorem same_unsigned_storable (v : Value) : v.storable.unsigned.same v.storable = true := by
  induction v using parts_induction with
  | scalar v scalar =>
    cases v with
    | array items => cases scalar
    | object members => cases scalar
    | null => rfl
    | bool b => simp [storable, unsigned, same]
    | string s => simp [storable, unsigned, same]
    | number x =>
      by_cases finite : x.isFinite = true
      · simp only [storable, finite, if_true, unsigned, same, unsignedFloat]
        split
        · rename_i zero
          subst zero
          decide
        · exact beq_self_of_isFinite finite
      · -- What is no finite number is stored as null.
        simp only [storable, finite]
        rfl
  | array items ih =>
    rw [mapsParts_storable.array, mapsParts_unsigned.array, List.map_map]
    exact sameItems_map ih
  | object members ih =>
    rw [mapsParts_storable.object, mapsParts_unsigned.object, List.map_map]
    exact sameMembers_map (f := fun v => v.storable.unsigned) (g := storable) ih

/-- A stored value is no change of itself without signs at its zeros. -/
theorem equivalent_unsigned_storable (v : Value) :
    v.storable.unsigned.equivalent v.storable = true := by
  -- Values that are the same are equivalent without any decoding.
  have same : (v.storable.unsigned == v.storable) = true := same_unsigned_storable v
  simp [equivalent, same]

mutual

/-- The value of a readable document nests within the same budget. -/
theorem nests_ofJson {budget : Nat} : ∀ document : Json, document.isReadable budget = true →
    (ofJson document).Nests budget
  | .null, _ => trivial
  | .bool _, _ => trivial
  | .integer _, _ => trivial
  | .real _, _ => trivial
  | .string _, _ => trivial
  | .unreadable, _ => trivial
  | .array items, readable => by
    simp only [Json.isReadable, Bool.and_eq_true, decide_eq_true_eq] at readable
    exact ⟨readable.1, itemsNest_iff.2 (nests_ofItems items readable.2)⟩
  | .object members, readable => by
    simp only [Json.isReadable, Bool.and_eq_true, decide_eq_true_eq] at readable
    rw [ofJson, Nests, membersNest_iff]
    -- The entries of a map are sorted, and each comes from some member.
    refine ⟨readable.1, FieldMap.sorted _, fun entry member => ?_⟩
    exact nests_ofMembers members readable.2 entry (FieldMap.mem_of_mem_ofList member)

/-- The values of readable items nest within the same budget. -/
theorem nests_ofItems {budget : Nat} : ∀ items : List Json, Json.allReadable budget items = true →
    ∀ v ∈ ofItems items, v.Nests budget
  | [], _ => List.forall_mem_nil _
  | item :: rest, readable => by
    simp only [Json.allReadable, Bool.and_eq_true] at readable
    exact List.forall_mem_cons.2 ⟨nests_ofJson item readable.1, nests_ofItems rest readable.2⟩

/-- The values of readable members nest within the same budget. -/
theorem nests_ofMembers {budget : Nat} : ∀ members : List (String × Json),
    Json.allMembersReadable budget members = true →
      ∀ entry ∈ ofMembers members, entry.2.Nests budget
  | [], _ => List.forall_mem_nil _
  | (_, item) :: rest, readable => by
    simp only [Json.allMembersReadable, Bool.and_eq_true] at readable
    exact List.forall_mem_cons.2 ⟨nests_ofJson item readable.1, nests_ofMembers rest readable.2⟩

end

end Value

/-- The numbers in the fields of a record. -/
def Record.numbers (record : Record) : List Float :=
  record.entries.flatMap fun e => e.2.numbers

end CalcFields
