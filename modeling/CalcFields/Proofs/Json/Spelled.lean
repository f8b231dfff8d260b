import CalcFields.Proofs.Json.Number
import CalcFields.Value.Document

/-!
A text read with its numbers as they are spelled. Rounding each number gives the document that the
reader makes of the text, so that nothing is lost but digits of numbers.
-/

namespace CalcFields

/-- A number as a text spells it. -/
structure SpelledNumber where
  negative : Bool
  /-- The digits in front of the point. -/
  whole : List Char
  /-- The digits behind the point. -/
  fraction : List Char
  /-- The power of ten that is written. -/
  power : Option Int
deriving DecidableEq

/-- A document with its numbers as they are spelled. -/
inductive Spelled where
  | null
  | bool (b : Bool)
  | number (n : SpelledNumber)
  | string (s : String)
  | array (items : List Spelled)
  | object (members : List (String × Spelled))
  /-- A literal with half a character in it. -/
  | unreadable

/-- The number of a document. -/
def SpelledNumber.toJson (n : SpelledNumber) : Json :=
  .ofNumber n.negative n.whole n.fraction n.power

namespace Spelled

open Json (EndsNumber IsWhole readFraction readPower readString skipSpace takeMinus)

mutual

/-- The document with its numbers rounded. -/
def toJson : Spelled → Json
  | null => .null
  | bool b => .bool b
  | number n => n.toJson
  | string s => .string s
  | array items => .array (itemsToJson items)
  | object members => .object (membersToJson members)
  | unreadable => .unreadable

/-- Items with their numbers rounded. -/
def itemsToJson : List Spelled → List Json
  | [] => []
  | item :: rest => item.toJson :: itemsToJson rest

/-- Members with their numbers rounded. -/
def membersToJson : List (String × Spelled) → List (String × Json)
  | [] => []
  | (name, item) :: rest => (name, item.toJson) :: membersToJson rest

end

/-- A number with the parts that follow its digits in front of the point. -/
def readParts (negative : Bool) (whole afterWhole : List Char) :
    Option (SpelledNumber × List Char) :=
  match whole with
  | [] => none
  | '0' :: _ :: _ => none
  | _ => do
    let (fraction, afterFraction) ← readFraction afterWhole
    let (power, rest) ← readPower afterFraction
    return (⟨negative, whole, fraction, power⟩, rest)

/-- A number as it is spelled, and the text after it. -/
def readNumber (cs : List Char) : Option (SpelledNumber × List Char) :=
  readParts (takeMinus cs).1 (takeDigits (takeMinus cs).2).1 (takeDigits (takeMinus cs).2).2

/-- The document of a string literal. -/
def ofLiteral : Option String → Spelled
  | some s => string s
  | none => unreadable

mutual

/-- One document and the text after it; the fuel bounds the depth and the number of parts. -/
def readValue : Nat → List Char → Option (Spelled × List Char)
  | 0, _ => none
  | fuel + 1, cs =>
    match skipSpace cs with
    | 'n' :: 'u' :: 'l' :: 'l' :: rest => some (null, rest)
    | 't' :: 'r' :: 'u' :: 'e' :: rest => some (bool true, rest)
    | 'f' :: 'a' :: 'l' :: 's' :: 'e' :: rest => some (bool false, rest)
    | '"' :: rest => (readString true [] rest).map fun (s, after) => (ofLiteral s, after)
    | '[' :: rest =>
      match skipSpace rest with
      | ']' :: after => some (array [], after)
      | _ => (readItems fuel rest).map fun (items, after) => (array items, after)
    | '\x7b' :: rest =>
      match skipSpace rest with
      | '\x7d' :: after => some (object [], after)
      | _ => (readMembers fuel rest).map fun (members, after) => (object members, after)
    | other => (readNumber other).map fun (n, after) => (number n, after)

/-- The items of an array up to its closing bracket. -/
def readItems : Nat → List Char → Option (List Spelled × List Char)
  | 0, _ => none
  | fuel + 1, cs => do
    let (item, after) ← readValue fuel cs
    match skipSpace after with
    | ',' :: rest =>
      let (items, last) ← readItems fuel rest
      return (item :: items, last)
    | ']' :: rest => return ([item], rest)
    | _ => none

/-- The members of an object up to its closing brace. -/
def readMembers : Nat → List Char → Option (List (String × Spelled) × List Char)
  | 0, _ => none
  | fuel + 1, cs =>
    match skipSpace cs with
    | '"' :: rest => do
      let (key, afterKey) ← readString true [] rest
      let name ← key
      match skipSpace afterKey with
      | ':' :: valueText =>
        let (item, after) ← readValue fuel valueText
        match skipSpace after with
        | ',' :: more =>
          let (members, last) ← readMembers fuel more
          return ((name, item) :: members, last)
        | '\x7d' :: last => return ([(name, item)], last)
        | _ => none
      | _ => none
    | _ => none

end

/-- The document of a text. -/
def parse? (cs : List Char) : Option Spelled := do
  let (document, rest) ← readValue (2 * cs.length + 2) cs
  if (skipSpace rest).isEmpty then some document else none

/-- The parts of a number are read as they are spelled and then rounded. -/
theorem readParts_toJson (negative : Bool) (whole afterWhole : List Char) :
    Json.readParts negative whole afterWhole =
      (readParts negative whole afterWhole).map fun (n, rest) => (n.toJson, rest) := by
  -- The two readers differ only in what they make of the parts.
  unfold Json.readParts readParts
  split
  · rfl
  · rfl
  · cases readFraction afterWhole with
    | none => simp
    | some fraction =>
      cases power : readPower fraction.2 <;> simp [power, SpelledNumber.toJson]

/-- A number is read as it is spelled and then rounded. -/
theorem readNumber_toJson (cs : List Char) :
    Json.readNumber cs = (readNumber cs).map fun (n, rest) => (n.toJson, rest) :=
  readParts_toJson _ _ _

/-- A string literal is read alike. -/
theorem toJson_ofLiteral (literal : Option String) :
    (ofLiteral literal).toJson = Json.ofLiteral literal := by
  cases literal <;> rfl

/-- A number is read part by part. -/
theorem readNumber_eq_some_iff {cs after : List Char} {n : SpelledNumber} :
    readNumber cs = some (n, after) ↔
      ∃ afterFraction,
        (takeMinus cs).1 = n.negative ∧ (takeDigits (takeMinus cs).2).1 = n.whole ∧
        IsWhole n.whole ∧
        readFraction (takeDigits (takeMinus cs).2).2 = some (n.fraction, afterFraction) ∧
        readPower afterFraction = some (n.power, after) := by
  unfold readNumber readParts
  generalize (takeDigits (takeMinus cs).2).2 = afterWhole
  generalize (takeDigits (takeMinus cs).2).1 = whole
  generalize (takeMinus cs).1 = negative
  obtain ⟨negativeToo, wholeToo, fraction, power⟩ := n
  split
  · -- A number has a digit before its point.
    refine iff_of_false (by simp) ?_
    rintro ⟨_, _, rfl, isWhole, _⟩
    exact isWhole.1 rfl
  · -- A zero stands alone before the point.
    refine iff_of_false (by simp) ?_
    rintro ⟨_, _, rfl, isWhole, _⟩
    exact isWhole.2 _ _ rfl
  · rename_i filled unpadded
    -- Then come the fraction and the power, if any.
    have isWhole : IsWhole whole := ⟨filled, unpadded⟩
    simp only [Option.bind_eq_bind, Option.bind_eq_some_iff, Option.pure_def, Option.some.injEq,
      Prod.mk.injEq, SpelledNumber.mk.injEq, Prod.exists]
    constructor
    · rintro ⟨_, afterFraction, fractionRead, _, _, powerRead, ⟨rfl, rfl, rfl, rfl⟩, rfl⟩
      exact ⟨afterFraction, rfl, rfl, isWhole, fractionRead, powerRead⟩
    · rintro ⟨afterFraction, rfl, rfl, _, fractionRead, powerRead⟩
      exact ⟨_, afterFraction, fractionRead, _, _, powerRead, ⟨rfl, rfl, rfl, rfl⟩, rfl⟩

/-- A number is not read off an empty text. -/
theorem ne_nil_of_readNumber {cs after : List Char} {n : SpelledNumber}
    (read : readNumber cs = some (n, after)) : cs ≠ [] := by
  rintro rfl
  cases read

/-- A number is read alike when the text goes on with nothing that belongs to a number. -/
theorem readNumber_append {cs after rest : List Char} (ends : EndsNumber rest) {n : SpelledNumber}
    (read : readNumber cs = some (n, after)) :
    readNumber (cs ++ rest) = some (n, after ++ rest) := by
  -- What follows the number belongs to none of its parts.
  have filled := ne_nil_of_readNumber read
  rw [readNumber_eq_some_iff] at read ⊢
  obtain ⟨afterFraction, sign, digits, whole, fractionRead, powerRead⟩ := read
  rw [Json.takeMinus_append filled, Json.takeDigits_append_of_ends ends]
  exact ⟨afterFraction ++ rest, sign, digits, whole, Json.readFraction_append ends fractionRead,
    Json.readPower_append ends powerRead⟩

/-- A number is made of characters of numbers. -/
theorem takesNumberChars_readNumber {cs after : List Char} {n : SpelledNumber}
    (read : readNumber cs = some (n, after)) : Json.TakesNumberChars cs after := by
  obtain ⟨_, _, _, _, fraction, power⟩ := readNumber_eq_some_iff.1 read
  -- The sign, the whole part, the fraction and the power follow one another.
  exact (Json.takesNumberChars_takeMinus cs).trans ((Json.takesNumberChars_takeDigits _).trans
    ((Json.takesNumberChars_readFraction fraction).trans (Json.takesNumberChars_readPower power)))

/-- Both readers agree with so much fuel, but for the rounding of numbers. -/
structure Rounds (fuel : Nat) : Prop where
  value (cs : List Char) :
    Json.readValue fuel cs = (readValue fuel cs).map fun (e, rest) => (e.toJson, rest)
  items (cs : List Char) : Json.readItems fuel cs =
    (readItems fuel cs).map fun (items, rest) => (itemsToJson items, rest)
  members (cs : List Char) : Json.readMembers fuel cs =
    (readMembers fuel cs).map fun (members, rest) => (membersToJson members, rest)

namespace Rounds

variable {fuel : Nat}

/-- With fuel for the parts, both readers read the same document. -/
theorem value_succ (rounds : Rounds fuel) (cs : List Char) :
    Json.readValue (fuel + 1) cs =
      (readValue (fuel + 1) cs).map fun (e, rest) => (e.toJson, rest) := by
  rw [Json.readValue, readValue]
  -- Both go by the first character that is no blank, and the words are documents by themselves.
  generalize skipSpace cs = text
  split
  · rfl
  · rfl
  · rfl
  · simp only [Option.map_map, Function.comp_def, toJson_ofLiteral]
  · rename_i rest
    simp only [rounds.items]
    -- An array is empty or has its items read with the fuel that is left.
    generalize skipSpace rest = inside
    split
    · rfl
    · simp only [Option.map_map, Function.comp_def, toJson]
  · rename_i rest
    simp only [rounds.members]
    -- So is an object.
    generalize skipSpace rest = inside
    split
    · rfl
    · simp only [Option.map_map, Function.comp_def, toJson]
  · simp [*, toJson, Function.comp_def, readNumber_toJson]

/-- With fuel for the parts, both readers read the same items. -/
theorem items_succ (rounds : Rounds fuel) (cs : List Char) :
    Json.readItems (fuel + 1) cs =
      (readItems (fuel + 1) cs).map fun (items, rest) => (itemsToJson items, rest) := by
  -- Both readers read an item and then look for a comma.
  rw [Json.readItems, readItems, rounds.value]
  cases readValue fuel cs with
  | none => rfl
  | some read =>
    obtain ⟨item, after⟩ := read
    simp only [Option.map_some, bind, Option.bind, rounds.items]
    generalize skipSpace after = text
    split
    · rename_i more
      cases read : readItems fuel more <;> simp [*, itemsToJson]
    · rfl
    · simp [*]

/-- With fuel for the parts, both readers read the same members. -/
theorem members_succ (rounds : Rounds fuel) (cs : List Char) :
    Json.readMembers (fuel + 1) cs =
      (readMembers (fuel + 1) cs).map fun (members, rest) => (membersToJson members, rest) := by
  -- The readers branch on the same characters, and hand what is left of the fuel to the same parts.
  rw [Json.readMembers, readMembers]
  generalize skipSpace cs = text
  split
  · rename_i rest
    cases literal : readString true [] rest with
    | none => simp [*]
    | some key =>
      obtain ⟨_ | name, afterKey⟩ := key
      · -- A key with half a character in it is no key.
        simp [*]
      · simp only [*, bind, Option.bind, rounds.value, rounds.members]
        generalize skipSpace afterKey = text
        split
        · rename_i valueText
          cases value : readValue fuel valueText with
          | none => simp [*]
          | some read =>
            obtain ⟨item, after⟩ := read
            simp only [*, Option.map_some]
            generalize skipSpace after = text
            split
            · rename_i more
              cases further : readMembers fuel more <;> simp [*, membersToJson]
            · rfl
            · simp [*]
        · simp [*]
  · simp [*]

end Rounds

/-- Both readers agree, but for the rounding of numbers. -/
theorem rounds (fuel : Nat) : Rounds fuel := by
  -- Induction on the budget, for values, items and members together.
  induction fuel with
  | zero => exact ⟨fun _ => rfl, fun _ => rfl, fun _ => rfl⟩
  | succ fuel ih => exact ⟨ih.value_succ, ih.items_succ, ih.members_succ⟩

/-- A text has the document of its spelled one, with its numbers rounded. -/
theorem parse?_toJson (text : String) :
    Json.parse? text = (parse? text.toList).map toJson := by
  rw [Json.parse?, parse?]
  simp only [(rounds _).value]
  cases readValue (2 * text.toList.length + 2) text.toList with
  | none => rfl
  | some read =>
    obtain ⟨document, rest⟩ := read
    simp only [Option.map_some, bind, Option.bind]
    -- What is left must be blank, for either of them.
    split <;> rfl

end Spelled

end CalcFields
