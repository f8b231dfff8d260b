import CalcFields.Proofs.Json.Whole

/-!
What a text says when its numbers are taken exactly and the members of its objects in any order. A
text that is read and written again says the same when each of its numbers does.
-/

namespace CalcFields

/-- The number that is spelled, as an exact decimal. -/
def SpelledNumber.value (n : SpelledNumber) : ℚ :=
  (if n.negative then -1 else 1) * digitsValue (n.whole ++ n.fraction) *
    10 ^ (n.power.getD 0 - n.fraction.length : ℤ)

/-- A number survives when it spells the same number after it was read and written again. -/
def SpelledNumber.Survives (n : SpelledNumber) : Prop :=
  ∃ x m, Value.ofJson n.toJson = .number x ∧ WrittenAs x m ∧ m.value = n.value

namespace SpelledNumber

/-- What is written for a number that reads back survives. -/
theorem survives_of_writtenAs {x : Float} {n : SpelledNumber} (written : WrittenAs x n)
    (value : Value.ofJson n.toJson = .number x) : n.Survives :=
  ⟨x, n, value, written, rfl⟩

/-- The digits of a whole number spell it. -/
theorem value_ofInt (n : Int) : (ofInt n).value = n := by
  -- The sign is spelled apart from the digits, which give the size.
  have digits : digitsValue (Nat.toDigits 10 n.natAbs) = n.natAbs := digitsValue_toDigits _
  rw [value, ofInt, List.append_nil, digits]
  by_cases below : n < 0
  · have signed : ((n.natAbs : Int) : ℚ) = ((-n : Int) : ℚ) := by
      rw [Int.ofNat_natAbs_of_nonpos below.le]
    simp only [below, decide_true, if_true, Option.getD_none, List.length_nil]
    rw [← Int.cast_natCast, signed]
    simp
  · have signed : ((n.natAbs : Int) : ℚ) = (n : ℚ) := by
      rw [Int.natAbs_of_nonneg (Int.not_lt.1 below)]
    simp only [below, decide_false, Bool.false_eq_true, if_false, Option.getD_none,
      List.length_nil]
    rw [← Int.cast_natCast, signed]
    simp

/-- Two to the fifty-third, as it is spelled with a point. -/
def greatest (negative : Bool) : SpelledNumber :=
  ⟨negative, "9007199254740992".toList, "0".toList, none⟩

/-- A point with a zero behind it changes no number. -/
theorem value_greatest (negative : Bool) :
    (greatest negative).value = (if negative then -1 else 1) * 9007199254740992 := by
  -- The numeral has one digit behind the point, a zero.
  have digits : digitsValue ("9007199254740992".toList ++ "0".toList) = 90071992547409920 := rfl
  have places : ("0".toList.length : Int) = 1 := rfl
  rw [value, greatest, digits]
  simp only [Option.getD_none, places]
  norm_num

/-- A whole number of few bits survives. -/
theorem survives_ofInt {n : Int} (few : n.natAbs ≤ 9007199254740992) : (ofInt n).Survives := by
  have rounded : Value.ofJson (ofInt n).toJson = .number (.ofInt n) := by
    rw [toJson_ofInt (by omega) (by omega)]
    rfl
  by_cases less : n.natAbs ≤ maxWhole
  · -- The others are written without a point, digit by digit.
    refine survives_of_writtenAs ?_ rounded
    rw [WrittenAs, Json.ofFloat_ofInt less]
    exact Spelled.readNumber_toString n
  · -- The greatest of them is written with a point.
    rw [maxWhole] at less
    obtain rfl | rfl : n = 9007199254740992 ∨ n = -9007199254740992 := by omega
    · refine ⟨_, greatest false, rounded, ?_, ?_⟩
      · rw [WrittenAs, Json.write_two_pow.1]
        rfl
      · rw [value_greatest, value_ofInt]
        norm_num
    · refine ⟨_, greatest true, rounded, ?_, ?_⟩
      · rw [WrittenAs, Json.write_two_pow.2]
        rfl
      · rw [value_greatest, value_ofInt]
        norm_num

end SpelledNumber

/-- What a document says: its numbers are exact, and the members of its objects are sorted, where
the last one of a name stays. -/
inductive Exact where
  | null
  | bool (b : Bool)
  | number (q : ℚ)
  | string (s : String)
  | array (items : List Exact)
  | object (members : List (String × Exact))

/-- The number under a name. -/
def Exact.number? (name : String) : Exact → Option ℚ
  | object members =>
    match members.lookup name with
    | some (number q) => some q
    | _ => none
  | _ => none

namespace Spelled

mutual

/-- What a document says. -/
def exact : Spelled → Exact
  | null => .null
  | bool b => .bool b
  | number n => .number n.value
  | string s => .string s
  | array items => .array (exactItems items)
  | object members => .object (FieldMap.ofList (exactMembers members)).entries
  | unreadable => .null

/-- What items say. -/
def exactItems : List Spelled → List Exact
  | [] => []
  | item :: rest => item.exact :: exactItems rest

/-- What members say. -/
def exactMembers : List (String × Spelled) → List (String × Exact)
  | [] => []
  | (name, item) :: rest => (name, item.exact) :: exactMembers rest

end

mutual

/-- The numbers in a document. -/
def numbers : Spelled → List SpelledNumber
  | number n => [n]
  | array items => numbersOfItems items
  | object members => numbersOfMembers members
  | _ => []

/-- The numbers in items. -/
def numbersOfItems : List Spelled → List SpelledNumber
  | [] => []
  | item :: rest => item.numbers ++ numbersOfItems rest

/-- The numbers in members. -/
def numbersOfMembers : List (String × Spelled) → List SpelledNumber
  | [] => []
  | (_, item) :: rest => item.numbers ++ numbersOfMembers rest

end

/-- Members say what each of them does. -/
theorem exactMembers_eq_map (members : List (String × Spelled)) :
    exactMembers members = members.map fun entry => (entry.1, entry.2.exact) := by
  induction members with
  | nil => rfl
  | cons entry rest ih => rw [exactMembers, ih, List.map_cons]

/-- What the members of a map say is put together as the map is. -/
theorem ofList_exactMembers (map : Record) :
    FieldMap.ofList (exactMembers (ofMembers map.entries)) =
      map.mapValues fun _ v => (ofValue v).exact := by
  -- Members that are in order stay as they are.
  have entries : exactMembers (ofMembers map.entries) =
      (map.mapValues fun _ v => (ofValue v).exact).entries := by
    rw [ofMembers_eq_map, exactMembers_eq_map, List.map_map]
    rfl
  rw [entries, FieldMap.ofList_entries]

/-- A number in the map of some members is in one of them. -/
theorem numbers_of_ofList {members : List (String × Value)} {x : Float}
    (member : x ∈ Value.numbersOfMembers (FieldMap.ofList members).entries) :
    x ∈ Value.numbersOfMembers members := by
  -- Sorting members drops some of them and adds none.
  rw [Value.numbersOfMembers_eq_flatMap, List.mem_flatMap] at member ⊢
  obtain ⟨e, inside, number⟩ := member
  exact ⟨e, FieldMap.mem_of_mem_ofList inside, number⟩

mutual

/-- A document whose numbers survive says the same when it is written again as its value, and the
text of each number of the value spells one. -/
theorem exact_ofValue_ofJson : ∀ document : Spelled, (∀ n ∈ document.numbers, n.Survives) →
    (ofValue (Value.ofJson document.toJson)).exact = document.exact ∧
      ∀ x ∈ (Value.ofJson document.toJson).numbers, ∃ n, WrittenAs x n
  | null, _ => ⟨rfl, List.forall_mem_nil _⟩
  | bool _, _ => ⟨rfl, List.forall_mem_nil _⟩
  | string _, _ => ⟨rfl, List.forall_mem_nil _⟩
  | unreadable, _ => ⟨rfl, List.forall_mem_nil _⟩
  | number n, survive => by
    obtain ⟨x, m, value, written, same⟩ := survive n List.mem_cons_self
    have read : Value.ofJson (number n).toJson = .number x := value
    rw [read, ofValue, ofFloat_eq written]
    exact ⟨congrArg Exact.number same, List.forall_mem_singleton.2 ⟨m, written⟩⟩
  | array items, survive => by
    obtain ⟨same, written⟩ := exact_ofItems_ofJson items survive
    exact ⟨congrArg Exact.array same, written⟩
  | object members, survive => by
    -- An object keeps one member of each name, which is chosen alike before and after its numbers
    -- are rounded.
    obtain ⟨same, written⟩ := exact_ofMembers_ofJson members survive
    refine ⟨congrArg (fun map => Exact.object (FieldMap.entries map)) ?_, fun x member => ?_⟩
    · rw [ofList_exactMembers, FieldMap.mapValues_ofList, ← same, ofMembers_eq_map,
        exactMembers_eq_map, List.map_map]
      rfl
    · exact written x (numbers_of_ofList member)

/-- Items whose numbers survive say the same when they are written again. -/
theorem exact_ofItems_ofJson : ∀ items : List Spelled, (∀ n ∈ numbersOfItems items, n.Survives) →
    exactItems (ofItems (Value.ofItems (itemsToJson items))) = exactItems items ∧
      ∀ x ∈ Value.numbersOfItems (Value.ofItems (itemsToJson items)), ∃ n, WrittenAs x n
  | [], _ => ⟨rfl, List.forall_mem_nil _⟩
  -- The items are read one by one.
  | item :: rest, survive => by
    rw [numbersOfItems, List.forall_mem_append] at survive
    obtain ⟨first, firstWritten⟩ := exact_ofValue_ofJson item survive.1
    obtain ⟨others, othersWritten⟩ := exact_ofItems_ofJson rest survive.2
    exact ⟨congrArg₂ List.cons first others,
      List.forall_mem_append.2 ⟨firstWritten, othersWritten⟩⟩

/-- Members whose numbers survive say the same when they are written again. -/
theorem exact_ofMembers_ofJson : ∀ members : List (String × Spelled),
    (∀ n ∈ numbersOfMembers members, n.Survives) →
    exactMembers (ofMembers (Value.ofMembers (membersToJson members))) = exactMembers members ∧
      ∀ x ∈ Value.numbersOfMembers (Value.ofMembers (membersToJson members)), ∃ n, WrittenAs x n
  | [], _ => ⟨rfl, List.forall_mem_nil _⟩
  -- Names are not rounded.
  | (_, item) :: rest, survive => by
    rw [numbersOfMembers, List.forall_mem_append] at survive
    obtain ⟨first, firstWritten⟩ := exact_ofValue_ofJson item survive.1
    obtain ⟨others, othersWritten⟩ := exact_ofMembers_ofJson rest survive.2
    exact ⟨congrArg₂ List.cons (congrArg _ first) others,
      List.forall_mem_append.2 ⟨firstWritten, othersWritten⟩⟩

end

end Spelled

end CalcFields
