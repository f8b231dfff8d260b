import CalcFields.Proofs.Decimal.Whole
import CalcFields.Proofs.Value.Unsigned

/-!
What comes back of a value from its document is the stored form of the value: numbers without a
finite value are null, whole numbers take a way of their own and lose the sign of a zero, and all
else is as it was.
-/

namespace CalcFields

namespace Dyadic

variable {x : Float} {n : Int}

/-- A double that is a whole number decodes into so many ones. -/
theorem units_of_wholeNumber? (whole : wholeNumber? x = some n) :
    ∃ d, ofFloat? x = some d ∧ d.units = n * one := by
  -- A whole number decodes, with nothing behind the point.
  cases decoded : ofFloat? x with
  | none =>
    rw [wholeNumber?, decoded] at whole
    cases whole
  | some d =>
    refine ⟨d, rfl, ?_⟩
    have least := (isDouble_of_ofFloat? decoded).le_exponent
    rw [wholeNumber?, decoded] at whole
    simp only [Option.ite_none_right_eq_some, Option.some_inj] at whole
    obtain ⟨multiple, rfl⟩ := whole
    -- Nothing is cut off a multiple of one.
    have filled : ((d.size / one : Nat) : Int) * one = d.size := by
      exact_mod_cast Nat.div_mul_cancel ((isWhole_iff least).1 multiple)
    rw [truncated, shiftBy_eq least, units]
    split
    · rw [Int.neg_mul, filled]
    · exact filled.symm

/-- A double without units is a zero of one of the signs. -/
theorem eq_zero_of_units {d : Dyadic} (decoded : ofFloat? x = some d) (empty : d.units = 0) :
    x = 0.0 ∨ x = -0.0 := by
  have double := isDouble_of_ofFloat? decoded
  have both : ofFloat? 0.0 = some ⟨false, 0, -1074⟩ ∧ ofFloat? (-0.0) = some ⟨true, 0, -1074⟩ := by
    decide +kernel
  have size : d.size = 0 := by rw [← natAbs_units, empty]; rfl
  obtain ⟨negative, significand, exponent⟩ := d
  -- Without units there is no significand, and without its leading bit the exponent is the least
  -- one.
  have none : significand = 0 := (Nat.mul_eq_zero.1 size).resolve_right (Nat.two_pow_pos _).ne'
  have least : exponent = -1074 := double.leading.resolve_left (by simp only; omega)
  subst none least
  cases negative with
  | false => exact .inl (ofFloat?_injective decoded both.1)
  | true => exact .inr (ofFloat?_injective decoded both.2)

/-- The double of a whole number other than zero decodes into so many ones. -/
theorem units_ofInt (nonzero : n ≠ 0) (few : n.natAbs ≤ 9007199254740992) :
    ∃ d, ofFloat? (.ofInt n) = some d ∧ d.units = n * one := by
  -- The sign and the size are decoded apart.
  obtain ⟨d, decoded, sign, size⟩ := exists_ofFloat?_ofInt nonzero few
  refine ⟨d, decoded, ?_⟩
  rw [units, sign, size]
  by_cases below : n < 0
  · have signed : (n.natAbs : Int) = -n := by omega
    rw [decide_eq_true below, if_pos rfl, Nat.cast_mul, signed, Int.neg_mul, Int.neg_neg]
  · have signed : (n.natAbs : Int) = n := by omega
    rw [decide_eq_false below, Nat.cast_mul, signed]
    rfl

end Dyadic

/-- A double that is a whole number of few bits is the double of this number, but for the sign of a
zero. -/
theorem ofInt_of_wholeNumber? {x : Float} {n : Int} (whole : wholeNumber? x = some n)
    (few : n.natAbs ≤ maxWhole) : Float.ofInt n = unsignedFloat x := by
  have within : n.natAbs ≤ 9007199254740992 := few.trans (by decide)
  obtain ⟨d, decoded, units⟩ := Dyadic.units_of_wholeNumber? whole
  have both : Float.ofInt 0 = 0.0 ∧ unsignedFloat 0.0 = 0.0 ∧ unsignedFloat (-0.0) = 0.0 ∧
      wholeNumber? (-0.0) = some 0 := by
    decide +kernel
  by_cases zero : n = 0
  · rw [zero, Int.zero_mul] at units
    rw [zero, both.1]
    -- There are two zeros, and the document has one.
    obtain rfl | rfl := Dyadic.eq_zero_of_units decoded units
    · exact both.2.1.symm
    · exact both.2.2.1.symm
  · obtain ⟨e, decodedToo, unitsToo⟩ := Dyadic.units_ofInt zero within
    have nonzero : d.units ≠ 0 := by
      rw [units]
      exact mul_ne_zero zero (by exact_mod_cast Dyadic.one_pos.ne')
    -- Two doubles of the same number other than zero are one.
    have same : d = e := (Dyadic.isDouble_of_ofFloat? decoded).eq_of_units
      (Dyadic.isDouble_of_ofFloat? decodedToo) (units.trans unitsToo.symm) nonzero
    have plain : x ≠ -0.0 := by
      rintro rfl
      rw [both.2.2.2, Option.some_inj] at whole
      exact zero whole.symm
    rw [unsignedFloat, if_neg plain]
    exact Dyadic.ofFloat?_injective decodedToo (same ▸ decoded)

namespace Value

/-- A number comes back in its stored form. -/
theorem ofJson_ofFloat (x : Float) : ofJson (Json.ofFloat x) = (number x).storable.unsigned := by
  rw [Json.ofFloat, storable]
  by_cases finite : x.isFinite = true
  · -- Only zeros lose a sign, and they are small whole numbers.
    have plain (large : ∀ n, wholeNumber? x = some n → ¬ n.natAbs ≤ maxWhole) :
        unsignedFloat x = x := by
      refine if_neg fun zero => large 0 ?_ (by decide)
      rw [zero]
      decide +kernel
    simp only [finite, Bool.not_true, Bool.false_eq_true, if_false, if_true, unsigned]
    split
    · rename_i n whole
      split
      · rename_i few
        exact congrArg number (ofInt_of_wholeNumber? whole few)
      · rename_i many
        rw [ofJson, plain]
        rintro m same
        rw [whole, Option.some_inj] at same
        exact same ▸ many
    · rename_i fraction
      rw [ofJson, plain]
      rintro m same
      rw [fraction] at same
      cases same
  · -- What is no finite number is written as null.
    simp only [finite, Bool.not_false, if_true, Bool.false_eq_true, if_false]
    rfl

/-- The members of every object in a value are sorted, however deep the value nests. -/
def Sorted (v : Value) : Prop :=
  ∃ budget, v.Nests budget

/-- A scalar has no objects in it. -/
theorem sorted_of_isScalar {v : Value} (scalar : v.isScalar = true) : v.Sorted :=
  ⟨0, nests_of_isScalar scalar⟩

/-- A value that is sorted comes back in its stored form, without signs at its zeros. -/
theorem ofJson_toJson (v : Value) (sorted : v.Sorted) : ofJson v.toJson = v.storable.unsigned := by
  -- Induction on the value, with a budget for the parts.
  obtain ⟨budget, nests⟩ := sorted
  induction v using parts_induction generalizing budget with
  | scalar v scalar =>
    cases v with
    | array items => cases scalar
    | object members => cases scalar
    | number x => exact ofJson_ofFloat x
    | _ => rfl
  | array items ih =>
    have nest := itemsNest_iff.1 nests.2
    rw [toJson, ofJson, itemsToJson_eq_map, ofItems_eq_map, List.map_map, storable, unsigned,
      storableItems_eq_map, unsignedItems_eq_map, List.map_map]
    exact congrArg array (List.map_congr_left fun item member =>
      ih item member (budget - 1) (nest item member))
  | object members ih =>
    have nest := membersNest_iff.1 nests.2.2
    have each : ofMembers (membersToJson members) =
        unsignedMembers (storableMembers members) := by
      rw [membersToJson_eq_map, ofMembers_eq_map, storableMembers_eq_map, unsignedMembers_eq_map,
        List.map_map, List.map_map]
      exact List.map_congr_left fun entry member =>
        Prod.ext rfl (ih entry member (budget - 1) (nest entry member))
    -- Sorted members are the entries of a map, which the reader puts together again.
    have sorted : (unsignedMembers (storableMembers members)).Pairwise (fun a b => a.1 < b.1) := by
      rw [storableMembers_eq_map, unsignedMembers_eq_map, List.map_map, List.pairwise_map]
      exact nests.2.1
    have same := FieldMap.ofList_entries ⟨_, sorted⟩
    rw [toJson, ofJson, each, same, storable, unsigned]

/-- A number that is stored is finite. -/
theorem isFinite_of_mem_storable (v : Value) : ∀ x ∈ v.storable.numbers, x.isFinite = true := by
  -- Induction on the value; only finite numbers are stored.
  induction v using parts_induction with
  | scalar v scalar =>
    cases v with
    | array items => cases scalar
    | object members => cases scalar
    | number x =>
      rw [storable]
      split
      · rename_i finite
        exact List.forall_mem_singleton.2 finite
      · exact List.forall_mem_nil _
    | _ => exact List.forall_mem_nil _
  | array items ih =>
    rw [mapsParts_storable.array, numbers, numbersOfItems_eq_flatMap, List.forall_mem_flatMap,
      List.forall_mem_map]
    exact ih
  | object members ih =>
    rw [mapsParts_storable.object, numbers, numbersOfMembers_eq_flatMap, List.forall_mem_flatMap,
      List.forall_mem_map]
    exact ih

/-- A value whose numbers are finite is in its stored form. -/
theorem storable_eq_self (v : Value) (finite : ∀ x ∈ v.numbers, x.isFinite = true) :
    v.storable = v := by
  -- Only a number that is not finite would change.
  refine mapsParts_storable.eq_self (fun v scalar finite => ?_) v finite
  cases v with
  | array items => cases scalar
  | object members => cases scalar
  | number x => rw [storable, if_pos (finite x List.mem_cons_self)]
  | _ => rfl

/-- Storing a stored value changes nothing. -/
theorem storable_idem (v : Value) : v.storable.storable = v.storable :=
  storable_eq_self _ (isFinite_of_mem_storable v)

/-- What comes back of a value is its stored form without signs at its zeros, which equals the
stored form as numbers do. The stored form is stored as it is and holds finite numbers only. -/
structure Returns (v back : Value) : Prop where
  exact : back = v.storable.unsigned
  same : (back == v.storable) = true
  again : v.storable.storable = v.storable
  finite : ∀ x ∈ v.storable.numbers, x.isFinite = true

/-- What is the stored form without signs at its zeros comes back. -/
theorem returns_unsigned (v : Value) : v.Returns v.storable.unsigned :=
  ⟨rfl, same_unsigned_storable v, storable_idem v, isFinite_of_mem_storable v⟩

end Value

namespace Record

/-- The fields of a record that a line reads as are sorted. -/
theorem sorted_of_read? {line : String} {record : Record} (read : read? line = some record) :
    ∀ e ∈ record.entries, e.2.Sorted :=
  fun e member => ⟨_, nests_of_read? read e member⟩

/-- The fields of a record come back in their stored forms, without signs at their zeros. -/
theorem ofJson_toJson (record : Record) (sorted : ∀ e ∈ record.entries, e.2.Sorted) :
    ofJson record.toJson = record.mapValues fun _ v => v.storable.unsigned := by
  have each : Value.ofMembers (Value.membersToJson record.entries) =
      (record.mapValues fun _ v => v.storable.unsigned).entries := by
    rw [Value.membersToJson_eq_map, Value.ofMembers_eq_map, List.map_map]
    exact List.map_congr_left fun e member =>
      Prod.ext rfl (Value.ofJson_toJson e.2 (sorted e member))
  rw [toJson, ofJson, each, FieldMap.ofList_entries]

/-- A value comes back from its document in its stored form, and so does each field of a record. -/
theorem stored_forms_return :
    (∀ v : Value, v.Sorted → v.Returns (Value.ofJson v.toJson)) ∧
      ∀ record : Record, (∀ e ∈ record.entries, e.2.Sorted) →
        (ofJson record.toJson).keys = record.keys ∧
          ∀ name, (record.field name).Returns ((ofJson record.toJson).field name) := by
  refine ⟨fun v sorted => ?_, fun record sorted => ?_⟩
  · rw [Value.ofJson_toJson v sorted]
    exact Value.returns_unsigned v
  · rw [ofJson_toJson record sorted]
    refine ⟨List.map_map, fun name => ?_⟩
    -- A field that the record lacks is null before and after.
    have stored : field (record.mapValues fun _ v => v.storable.unsigned) name =
        (record.field name).storable.unsigned := by
      rw [field, FieldMap.get?_mapValues, field]
      cases record.get? name <;> rfl
    rw [stored]
    exact Value.returns_unsigned _

/-- What is no finite number comes back as null at any depth, and minus zero as zero. -/
theorem stored_forms_return_nested :
    Value.Sorted (.object [("a", .number (-0.0)), ("b", .array [.number (1.0 / 0.0)])]) ∧
      Value.ofJson (Value.toJson
        (.object [("a", .number (-0.0)), ("b", .array [.number (1.0 / 0.0)])])) =
        .object [("a", .number 0.0), ("b", .array [.null])] ∧
      (Record.field (ofJson (Record.toJson (FieldMap.empty.insert "c" (.number (0.0 / 0.0)))))
        "c" == .null) = true := by
  -- The value has two levels below it.
  have sorted : Value.Sorted
      (.object [("a", .number (-0.0)), ("b", .array [.number (1.0 / 0.0)])]) :=
    ⟨2, by decide, by decide, trivial, ⟨by decide, trivial, trivial⟩, trivial⟩
  have field : ∀ e ∈ (FieldMap.empty.insert "c" (Value.number (0.0 / 0.0))).entries, e.2.Sorted :=
    List.forall_mem_singleton.2 (Value.sorted_of_isScalar rfl)
  exact ⟨sorted, (stored_forms_return.1 _ sorted).exact.trans rfl,
    ((stored_forms_return.2 _ field).2 "c").same⟩

end Record

/-- A formula gives a sorted value when the fields that it sees are sorted. -/
theorem Formula.sorted_of_eval {env : Environment} (f : Formula)
    (fields : ∀ name, (env.reading name).Sorted) {v : Value} (evaluated : f.eval env = .ok v) :
    v.Sorted :=
  f.eval_good (fun _ => Value.sorted_of_isScalar) fields evaluated

end CalcFields
