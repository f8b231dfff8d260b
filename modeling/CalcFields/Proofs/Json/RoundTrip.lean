import CalcFields.Proofs.Json.Spelled
import CalcFields.Proofs.Json.Text
import CalcFields.Proofs.Value.Parts

/-!
The text of a value reads as the document of the value, with each number as its text spells it. So a
value reads back without signs at its zeros, when each number in it does. The fuel of the reader is
enough for every text, and what nests within the limit is readable.
-/

namespace CalcFields

open Json (EndsNumber isSpace skipSpace writeString)

/-- The text of a number reads back as a number. -/
def ReadsBackAs (x y : Float) : Prop :=
  ∃ document, Json.readNumber (Json.ofFloat x).write.toList = some (document, []) ∧
    Value.ofJson document = .number y

/-- The text of a number reads back as the number, but for the sign of a zero. -/
def Rereads (x : Float) : Prop :=
  ReadsBackAs x (unsignedFloat x)

/-- The text of a number spells a number. -/
def WrittenAs (x : Float) (n : SpelledNumber) : Prop :=
  Spelled.readNumber (Json.ofFloat x).write.toList = some (n, [])

/-- The text of a number that reads back spells a number that is rounded to it. -/
theorem ReadsBackAs.exists_writtenAs {x y : Float} (reads : ReadsBackAs x y) :
    ∃ n, WrittenAs x n ∧ Value.ofJson n.toJson = .number y := by
  -- Reading first spells the text and then rounds it.
  obtain ⟨document, read, value⟩ := reads
  rw [Spelled.readNumber_toJson, Option.map_eq_some_iff] at read
  obtain ⟨⟨n, rest⟩, spelled, rounded⟩ := read
  cases rounded
  exact ⟨n, spelled, value⟩

namespace Spelled

/-- The document of a number as its text spells it, null when the text is no number. -/
def ofFloat (x : Float) : Spelled :=
  match readNumber (Json.ofFloat x).write.toList with
  | some (n, _) => number n
  | none => null

/-- A number has the document that its text spells. -/
theorem ofFloat_eq {x : Float} {n : SpelledNumber} (spelled : WrittenAs x n) :
    ofFloat x = number n := by
  rw [ofFloat, spelled]

mutual

/-- The document of a value with each number as its text spells it. -/
def ofValue : Value → Spelled
  | .null => null
  | .bool b => bool b
  | .number x => ofFloat x
  | .string s => string s
  | .array items => array (ofItems items)
  | .object members => object (ofMembers members)

/-- The documents of items. -/
def ofItems : List Value → List Spelled
  | [] => []
  | item :: rest => ofValue item :: ofItems rest

/-- The documents of members. -/
def ofMembers : List (String × Value) → List (String × Spelled)
  | [] => []
  | (name, item) :: rest => (name, ofValue item) :: ofMembers rest

end

/-- The documents of items are those of each. -/
theorem ofItems_eq_map (items : List Value) : ofItems items = items.map ofValue := by
  induction items with
  | nil => rfl
  | cons item rest ih => rw [ofItems, ih, List.map_cons]

/-- The documents of members are those of each. -/
theorem ofMembers_eq_map (members : List (String × Value)) :
    ofMembers members = members.map fun entry => (entry.1, ofValue entry.2) := by
  induction members with
  | nil => rfl
  | cons entry rest ih => rw [ofMembers, ih, List.map_cons]

/-- A text reads as a document: it starts with no blank, and the document is read off the front of
every text that goes on with nothing that belongs to numbers. -/
structure ReadsAs (text : List Char) (document : Spelled) : Prop where
  starts : ∃ c rest, text = c :: rest ∧ isSpace c = false ∧ c ≠ ']'
  read : ∀ fuel rest, 2 * text.length ≤ fuel → EndsNumber rest →
    readValue fuel (text ++ rest) = some (document, rest)

/-- Nothing is skipped in front of a character that is no blank. -/
theorem skipSpace_cons {c : Char} (noSpace : isSpace c = false) (rest : List Char) :
    skipSpace (c :: rest) = c :: rest := by
  simp [skipSpace, noSpace]

/-- A text of numbers reads as the number that it spells. -/
theorem readsAs_number {text : List Char} {n : SpelledNumber}
    (spelled : readNumber text = some (n, [])) : ReadsAs text (number n) := by
  obtain ⟨part, whole, plain⟩ := takesNumberChars_readNumber spelled
  rw [List.append_nil] at whole
  rw [← whole] at plain
  obtain ⟨c, cs, rfl⟩ := List.exists_cons_of_ne_nil (ne_nil_of_readNumber spelled)
  have first := plain c List.mem_cons_self
  -- Numbers have characters of their own, and a blank is none of them.
  have noSpace : isSpace c = false := by
    rw [Bool.eq_false_iff]
    intro space
    obtain ((rfl | rfl) | rfl) | rfl : ((c = ' ' ∨ c = '\t') ∨ c = '\n') ∨ c = '\r' := by
      simpa [isSpace] using space
    all_goals cases first
  refine ⟨⟨c, cs, rfl, noSpace, ?_⟩, ?_⟩
  · rintro rfl
    cases first
  · intro fuel rest enough ends
    obtain ⟨fuel, rfl⟩ : ∃ less, fuel = less + 1 := ⟨fuel - 1, by simp at enough; omega⟩
    rw [List.cons_append, readValue, skipSpace_cons noSpace]
    have number := readNumber_append ends spelled
    rw [List.nil_append, List.cons_append] at number
    -- No other document starts with a character of numbers.
    split
    iterate 6
      rename_i same
      obtain ⟨rfl, _⟩ := List.cons.inj same
      cases first
    rw [number]
    rfl

/-- A word that starts with no blank reads as its document. -/
theorem readsAs_word (document : Spelled) {c : Char} {cs : List Char}
    (noSpace : isSpace c = false) (noClose : c ≠ ']')
    (read : ∀ fuel rest, readValue (fuel + 1) (c :: cs ++ rest) = some (document, rest)) :
    ReadsAs (c :: cs) document := by
  -- One step of the reader is enough for a word.
  refine ⟨⟨c, cs, rfl, noSpace, noClose⟩, ?_⟩
  intro fuel rest enough _
  obtain ⟨fuel, rfl⟩ : ∃ less, fuel = less + 1 := ⟨fuel - 1, by simp at enough; omega⟩
  exact read fuel rest

/-- A string literal reads as its string. -/
theorem readsAs_string (s : String) : ReadsAs (writeString s).toList (string s) := by
  -- The quote shows a string, which is read up to its own closing quote.
  rw [Json.toList_writeString]
  refine readsAs_word (string s) (by decide) (by decide) ?_
  intro fuel rest
  rw [List.cons_append, readValue, skipSpace_cons (by decide), List.append_assoc]
  simp [Json.readString_literal, ofLiteral]

/-- A mark behind a value belongs to no number. -/
theorem endsNumber_cons {c : Char} (mark : c = ',' ∨ c = ']' ∨ c = '\x7d') (rest : List Char) :
    EndsNumber (c :: rest) := by
  -- None of the three can go on a number.
  intro d first
  cases first
  obtain rfl | rfl | rfl := mark
  all_goals decide

end Spelled

namespace Json

/-- The text of a value. -/
def written (v : Value) : List Char :=
  v.toJson.write.toList

section Joined

variable {α : Type} (f : α → List Char)

/-- The text of a member with the text of its value. -/
def memberText (entry : String × α) : List Char :=
  (writeString entry.1).toList ++ ':' :: f entry.2

/-- The texts of some things with commas between them. -/
def joined (items : List α) : List Char :=
  [','].intercalate (items.map f)

/-- One text stands alone. -/
theorem joined_singleton (item : α) : joined f [item] = f item :=
  List.intercalate_singleton

/-- A comma follows every text but the last. -/
theorem joined_cons_cons (item next : α) (items : List α) :
    joined f (item :: next :: items) = f item ++ ',' :: joined f (next :: items) := by
  simp [joined, List.intercalate_cons_cons]

/-- Joined texts start as the first of them does. -/
theorem joined_cons (item : α) (items : List α) :
    ∃ after, joined f (item :: items) = f item ++ after := by
  -- The last item has nothing behind it, every other one a comma.
  cases items with
  | nil => exact ⟨[], by rw [joined_singleton, List.append_nil]⟩
  | cons next items => exact ⟨_, joined_cons_cons f item next items⟩

/-- Joined texts have a line feed only when one of them has. -/
theorem noLineFeed_joined {items : List α} (each : ∀ item ∈ items, '\n' ∉ f item) :
    '\n' ∉ joined f items := by
  -- Induction on the items, with commas between them.
  induction items with
  | nil => exact List.not_mem_nil
  | cons item rest ih =>
    obtain ⟨first, others⟩ := List.forall_mem_cons.1 each
    cases rest with
    | nil => rwa [joined_singleton]
    | cons next rest =>
      rw [joined_cons_cons]
      simp [first, ih others]

/-- An object has a line feed in its text only when one of its values has. -/
theorem noLineFeed_members {members : List (String × α)} (each : ∀ e ∈ members, '\n' ∉ f e.2) :
    '\n' ∉ '\x7b' :: (joined (memberText f) members ++ ['\x7d']) := by
  -- Names are escaped, as other text is.
  have inside : '\n' ∉ joined (memberText f) members := by
    refine noLineFeed_joined (memberText f) fun entry member => ?_
    simp [memberText, noLineFeed_writeString, each entry member]
  simp [inside]

end Joined

/-- The text of an object with its members. -/
theorem toList_write_object (members : List (String × Json)) :
    (object members).write.toList =
      '\x7b' :: (joined (memberText fun item => item.write.toList) members ++ ['\x7d']) := by
  -- Each member is written with its name.
  have texts : writeMembers members =
      members.map fun entry => writeString entry.1 ++ ":" ++ entry.2.write := by
    induction members with
    | nil => rfl
    | cons entry rest ih => rw [writeMembers, ih, List.map_cons]
  simp [joined, write, texts, Function.comp_def]
  rfl

/-- The text of an array. -/
theorem written_array (items : List Value) :
    written (.array items) = '[' :: (joined written items ++ [']']) := by
  -- Each item is written by itself.
  have texts : writeItems (Value.itemsToJson items) = items.map fun item => item.toJson.write := by
    induction items with
    | nil => rfl
    | cons item rest ih => rw [Value.itemsToJson, writeItems, ih, List.map_cons]
  simp [written, joined, Value.toJson, write, texts, Function.comp_def]
  rfl

/-- The text of an object. -/
theorem written_object (members : List (String × Value)) :
    written (.object members) = '\x7b' :: (joined (memberText written) members ++ ['\x7d']) := by
  -- The members keep their names on the way to the document.
  have each : Value.membersToJson members = members.map fun entry => (entry.1, entry.2.toJson) := by
    induction members with
    | nil => rfl
    | cons entry rest ih => rw [Value.membersToJson, ih, List.map_cons]
  rw [written, Value.toJson, each, toList_write_object, joined, joined, List.map_map]
  rfl

end Json

namespace Spelled

open Json (joined joined_cons joined_cons_cons joined_singleton memberText toList_writeString
  written)

/-- Items that read as their documents are read up to the closing bracket of their array. -/
theorem readItems_joined {item : Value} {items : List Value}
    (each : ∀ v ∈ item :: items, ReadsAs (written v) (ofValue v)) (fuel : Nat) (rest : List Char)
    (enough : 2 * (joined written (item :: items)).length + 1 ≤ fuel) :
    readItems fuel (joined written (item :: items) ++ ']' :: rest) =
      some (ofItems (item :: items), rest) := by
  -- Induction on the items that follow the first one, with steps to spare for each.
  induction items generalizing item fuel with
  | nil =>
    have read := (each item List.mem_cons_self).read
    rw [joined_singleton] at enough ⊢
    obtain ⟨fuel, rfl⟩ : ∃ less, fuel = less + 1 := ⟨fuel - 1, by omega⟩
    -- The closing bracket ends the last item.
    rw [readItems, read fuel _ (by omega) (endsNumber_cons (by simp) rest)]
    simp [skipSpace_cons (c := ']') (by decide), ofItems]
  | cons next items ih =>
    have read := (each item List.mem_cons_self).read
    have readOthers := ih fun v member => each v (List.mem_cons_of_mem _ member)
    rw [joined_cons_cons] at enough ⊢
    simp only [List.length_append, List.length_cons] at enough
    obtain ⟨fuel, rfl⟩ : ∃ less, fuel = less + 1 := ⟨fuel - 1, by omega⟩
    rw [readItems, List.append_assoc, List.cons_append,
      read fuel _ (by omega) (endsNumber_cons (by simp) _), ofItems]
    simp [skipSpace_cons (c := ',') (by decide), readOthers fuel (by omega)]

/-- The last member is read up to the closing brace. -/
theorem readMembers_last {fuel : Nat} {name : String} {cs last : List Char} {item : Spelled}
    (read : readValue fuel cs = some (item, '\x7d' :: last)) :
    readMembers (fuel + 1) ((writeString name).toList ++ ':' :: cs) =
      some ([(name, item)], last) := by
  rw [toList_writeString, List.cons_append, readMembers, skipSpace_cons (by decide)]
  simp [Json.readString_literal, skipSpace_cons (c := ':') (by decide), read,
    skipSpace_cons (c := '\x7d') (by decide)]

/-- A member in front of a comma is read in front of the others. -/
theorem readMembers_more {fuel : Nat} {name : String} {cs more last : List Char} {item : Spelled}
    {members : List (String × Spelled)} (read : readValue fuel cs = some (item, ',' :: more))
    (others : readMembers fuel more = some (members, last)) :
    readMembers (fuel + 1) ((writeString name).toList ++ ':' :: cs) =
      some ((name, item) :: members, last) := by
  rw [toList_writeString, List.cons_append, readMembers, skipSpace_cons (by decide)]
  simp [Json.readString_literal, skipSpace_cons (c := ':') (by decide), read,
    skipSpace_cons (c := ',') (by decide), others]

section Members

variable {α : Type} {text : α → List Char} {document : α → Spelled}

/-- Members whose values read as documents are read up to the closing brace of their object. -/
theorem readMembers_joined {entry : String × α} {entries : List (String × α)}
    (each : ∀ e ∈ entry :: entries, ReadsAs (text e.2) (document e.2)) (fuel : Nat)
    (rest : List Char)
    (enough : 2 * (joined (memberText text) (entry :: entries)).length + 1 ≤ fuel) :
    readMembers fuel (joined (memberText text) (entry :: entries) ++ '\x7d' :: rest) =
      some ((entry :: entries).map fun e => (e.1, document e.2), rest) := by
  -- Induction on the members that follow the first one.
  induction entries generalizing entry fuel with
  | nil =>
    have read := (each entry List.mem_cons_self).read
    rw [joined_singleton, memberText] at enough ⊢
    simp only [List.length_append, List.length_cons] at enough
    obtain ⟨fuel, rfl⟩ : ∃ less, fuel = less + 1 := ⟨fuel - 1, by omega⟩
    rw [List.append_assoc, List.cons_append]
    exact readMembers_last (read fuel _ (by omega) (endsNumber_cons (by simp) rest))
  | cons next entries ih =>
    have read := (each entry List.mem_cons_self).read
    have readOthers := ih fun e member => each e (List.mem_cons_of_mem _ member)
    rw [joined_cons_cons, memberText] at enough ⊢
    simp only [List.length_append, List.length_cons] at enough
    -- Every character is worth two steps, so the name in front leaves enough of them for the value.
    obtain ⟨fuel, rfl⟩ : ∃ less, fuel = less + 1 := ⟨fuel - 1, by omega⟩
    simp only [List.append_assoc, List.cons_append]
    exact readMembers_more (read fuel _ (by omega) (endsNumber_cons (by simp) _))
      (readOthers fuel (by omega))

/-- The text of members between braces reads as an object when that of each value reads as a
document. -/
theorem readsAs_members {members : List (String × α)}
    (each : ∀ e ∈ members, ReadsAs (text e.2) (document e.2)) :
    ReadsAs ('\x7b' :: (joined (memberText text) members ++ ['\x7d']))
      (object (members.map fun e => (e.1, document e.2))) := by
  refine ⟨⟨'\x7b', _, rfl, by decide, by decide⟩, fun fuel rest enough _ => ?_⟩
  cases members with
  -- An object without members closes at once.
  | nil =>
    obtain ⟨fuel, rfl⟩ : ∃ less, fuel = less + 1 := ⟨fuel - 1, by simp at enough; omega⟩
    rfl
  | cons entry entries =>
    simp only [List.length_append, List.length_cons, List.length_nil] at enough
    obtain ⟨fuel, rfl⟩ : ∃ less, fuel = less + 1 := ⟨fuel - 1, by omega⟩
    have inside := readMembers_joined each fuel rest (by omega)
    -- The first member starts with the quote of its name.
    obtain ⟨after, starts⟩ := joined_cons (memberText text) entry entries
    rw [starts, memberText, toList_writeString] at inside ⊢
    simp only [List.cons_append, List.append_assoc, List.nil_append] at inside ⊢
    rw [readValue, skipSpace_cons (by decide)]
    simp only [skipSpace_cons (c := '"') (by decide), inside]
    rfl

end Members

/-- An array reads as its document when each of its items does. -/
theorem readsAs_array {items : List Value}
    (each : ∀ v ∈ items, ReadsAs (written v) (ofValue v)) :
    ReadsAs (written (.array items)) (array (ofItems items)) := by
  rw [Json.written_array]
  refine ⟨⟨'[', _, rfl, by decide, by decide⟩, fun fuel rest enough _ => ?_⟩
  cases items with
  -- So does an array without items.
  | nil =>
    obtain ⟨fuel, rfl⟩ : ∃ less, fuel = less + 1 := ⟨fuel - 1, by simp at enough; omega⟩
    rfl
  | cons item items =>
    simp only [List.length_append, List.length_cons, List.length_nil] at enough
    obtain ⟨fuel, rfl⟩ : ∃ less, fuel = less + 1 := ⟨fuel - 1, by omega⟩
    have inside := readItems_joined each fuel rest (by omega)
    -- The first item starts with neither a blank nor the closing bracket.
    obtain ⟨c, cs, text, noSpace, noClose⟩ := (each item List.mem_cons_self).starts
    obtain ⟨after, starts⟩ := joined_cons written item items
    rw [starts, text] at inside ⊢
    simp only [List.cons_append, List.append_assoc, List.nil_append] at inside ⊢
    rw [readValue, skipSpace_cons (by decide)]
    simp only [skipSpace_cons noSpace, inside]
    split
    · rename_i same
      exact absurd (List.cons.inj same).1 noClose
    · rfl

/-- An object reads as its document when each of its members does. -/
theorem readsAs_object {members : List (String × Value)}
    (each : ∀ e ∈ members, ReadsAs (written e.2) (ofValue e.2)) :
    ReadsAs (written (.object members)) (object (ofMembers members)) := by
  rw [Json.written_object, ofMembers_eq_map]
  exact readsAs_members each

/-- A value reads as its document when the text of each of its numbers spells one. -/
theorem readsAs_written (v : Value) (numbers : ∀ x ∈ v.numbers, ∃ n, WrittenAs x n) :
    ReadsAs (written v) (ofValue v) := by
  -- Induction on the value and its parts.
  induction v using Value.parts_induction with
  | scalar v scalar =>
    cases v with
    | array items => cases scalar
    | object members => cases scalar
    | null => exact readsAs_word null (by decide) (by decide) fun _ _ => rfl
    | bool b =>
      cases b with
      | false => exact readsAs_word (bool false) (by decide) (by decide) fun _ _ => rfl
      | true => exact readsAs_word (bool true) (by decide) (by decide) fun _ _ => rfl
    | number x =>
      obtain ⟨n, spelled⟩ := numbers x List.mem_cons_self
      rw [ofValue, ofFloat_eq spelled]
      exact readsAs_number spelled
    | string s => exact readsAs_string s
  | array items ih =>
    rw [Value.numbers, Value.numbersOfItems_eq_flatMap, List.forall_mem_flatMap] at numbers
    exact readsAs_array fun v member => ih v member (numbers v member)
  | object members ih =>
    rw [Value.numbers, Value.numbersOfMembers_eq_flatMap, List.forall_mem_flatMap] at numbers
    exact readsAs_object fun e member => ih e member (numbers e member)

/-- A text that reads as a document is the text of the document. -/
theorem ReadsAs.parse?_eq {text : List Char} {document : Spelled} (reads : ReadsAs text document) :
    parse? text = some document := by
  -- The parser allows two steps for every character.
  have read := reads.read (2 * text.length + 2) [] (by omega) (fun c first => by cases first)
  rw [List.append_nil] at read
  rw [parse?, read]
  rfl

/-- The text of a value is the text of its document when the text of each number spells one. -/
theorem parse?_written {v : Value} (numbers : ∀ x ∈ v.numbers, ∃ n, WrittenAs x n) :
    parse? (written v) = some (ofValue v) :=
  (readsAs_written v numbers).parse?_eq

end Spelled

namespace Json

/-- A double is written on one line. -/
theorem noLineFeed_writeReal (x : Float) : '\n' ∉ (writeReal x).toList := by
  -- What is no finite number is written as a word; any other one has the characters of numbers.
  rw [writeReal]
  cases Dyadic.ofFloat? x with
  | none => decide
  | some d => exact fun member => absurd (isNumberChar_writeDyadic _ d _ member) (by decide)

/-- A whole number is written on one line. -/
theorem noLineFeed_integer (n : Int) : '\n' ∉ (Json.integer n).write.toList := by
  -- A sign and digits.
  have digits : '\n' ∉ Nat.toDigits 10 n.natAbs := fun member =>
    absurd (isNumberChar_toDigits _ _ member) (by decide)
  rw [write, toList_toString]
  split <;> simp [digits]

/-- The text of a number has no line feed in it. -/
theorem noLineFeed_ofFloat (x : Float) : '\n' ∉ (Json.ofFloat x).write.toList := by
  -- A number is written as a whole one, as a real one or as null.
  unfold Json.ofFloat
  split
  · decide
  · split
    · split
      · exact noLineFeed_integer _
      · exact noLineFeed_writeReal x
    · exact noLineFeed_writeReal x

/-- The text of a value is one line. -/
theorem noLineFeed_written (v : Value) : '\n' ∉ written v := by
  -- Induction on the value and its parts.
  induction v using Value.parts_induction with
  | scalar v scalar =>
    cases v with
    | array items => cases scalar
    | object members => cases scalar
    | null => decide
    | bool b => cases b <;> decide
    | number x => exact noLineFeed_ofFloat x
    | string s => exact noLineFeed_writeString s
  | array items ih =>
    rw [written_array]
    simp [noLineFeed_joined written ih]
  | object members ih =>
    rw [written_object]
    exact noLineFeed_members written ih

/-- Items are readable when each of them is. -/
theorem allReadable_iff {budget : Nat} {items : List Json} :
    allReadable budget items = true ↔ ∀ item ∈ items, item.isReadable budget = true := by
  induction items with
  | nil => simp [allReadable]
  | cons item rest ih => simp [allReadable, ih]

/-- Members are readable when each of them is. -/
theorem allMembersReadable_iff {budget : Nat} {members : List (String × Json)} :
    allMembersReadable budget members = true ↔
      ∀ entry ∈ members, entry.2.isReadable budget = true := by
  induction members with
  | nil => simp [allMembersReadable]
  | cons entry rest ih => simp [allMembersReadable, ih]

end Json

namespace Value

/-- The values of items are those of each. -/
theorem ofItems_eq_map (items : List Json) : ofItems items = items.map ofJson := by
  induction items with
  | nil => rfl
  | cons item rest ih => rw [ofItems, ih, List.map_cons]

/-- The values of members are those of each. -/
theorem ofMembers_eq_map (members : List (String × Json)) :
    ofMembers members = members.map fun entry => (entry.1, ofJson entry.2) := by
  induction members with
  | nil => rfl
  | cons entry rest ih => rw [ofMembers, ih, List.map_cons]

end Value

namespace Spelled

/-- The rounded items are each of them rounded. -/
theorem itemsToJson_eq_map (items : List Spelled) : itemsToJson items = items.map toJson := by
  induction items with
  | nil => rfl
  | cons item rest ih => rw [itemsToJson, ih, List.map_cons]

/-- The rounded members are each of them rounded. -/
theorem membersToJson_eq_map (members : List (String × Spelled)) :
    membersToJson members = members.map fun entry => (entry.1, entry.2.toJson) := by
  induction members with
  | nil => rfl
  | cons entry rest ih => rw [membersToJson, ih, List.map_cons]

/-- The members of the document of an object have the values of the object. -/
theorem ofMembers_toJson {members : List (String × Value)}
    (each : ∀ e ∈ members, Value.ofJson (ofValue e.2).toJson = e.2.unsigned) :
    Value.ofMembers (membersToJson (ofMembers members)) = Value.unsignedMembers members := by
  rw [ofMembers_eq_map, membersToJson_eq_map, Value.ofMembers_eq_map, Value.unsignedMembers_eq_map,
    List.map_map, List.map_map]
  exact List.map_congr_left fun e member => Prod.ext rfl (each e member)

/-- The document of a value is that of the value without signs at its zeros when each number reads
back, and it is readable within the depth of the value. -/
theorem ofJson_ofValue (v : Value) {budget : Nat} (nests : v.Nests budget)
    (numbers : ∀ x ∈ v.numbers, Rereads x) :
    Value.ofJson (ofValue v).toJson = v.unsigned ∧
      (ofValue v).toJson.isReadable budget = true := by
  -- Induction on the value, one level of the budget for each nesting.
  induction v using Value.parts_induction generalizing budget with
  | scalar v scalar =>
    cases v with
    | array items => cases scalar
    | object members => cases scalar
    | number x =>
      obtain ⟨n, written, value⟩ := (numbers x List.mem_cons_self).exists_writtenAs
      rw [ofValue, ofFloat_eq written]
      refine ⟨value, ?_⟩
      -- Only a number that is read has a value that is a number.
      show n.toJson.isReadable budget = true
      cases rounded : n.toJson with
      | integer n => rfl
      | real y => rfl
      | _ =>
        rw [rounded] at value
        cases value
    | _ => exact ⟨rfl, rfl⟩
  | array items ih =>
    rw [Value.numbers, Value.numbersOfItems_eq_flatMap, List.forall_mem_flatMap] at numbers
    obtain ⟨within, nest⟩ := nests
    rw [Value.itemsNest_iff] at nest
    -- Items are nested one level deeper than the array.
    have each (v : Value) (member : v ∈ items) := ih v member (nest v member) (numbers v member)
    have readable : ∀ e ∈ (items.map ofValue).map toJson, e.isReadable (budget - 1) = true := by
      rw [List.map_map, List.forall_mem_map]
      exact fun v member => (each v member).2
    refine ⟨?_, ?_⟩
    · rw [ofValue, toJson, Value.ofJson, ofItems_eq_map, itemsToJson_eq_map, Value.ofItems_eq_map,
        List.map_map, List.map_map, Value.unsigned, Value.unsignedItems_eq_map]
      exact congrArg Value.array (List.map_congr_left fun v member => (each v member).1)
    · rw [ofValue, toJson, Json.isReadable, ofItems_eq_map, itemsToJson_eq_map,
        Json.allReadable_iff.2 readable, decide_eq_true within]
      rfl
  | object members ih =>
    rw [Value.numbers, Value.numbersOfMembers_eq_flatMap, List.forall_mem_flatMap] at numbers
    obtain ⟨within, sorted, nest⟩ := nests
    rw [Value.membersNest_iff] at nest
    have each (e : String × Value) (member : e ∈ members) :=
      ih e member (nest e member) (numbers e member)
    -- Sorted members are the entries of a map, which the reader puts together again.
    have sortedToo : (Value.unsignedMembers members).Pairwise (fun a b => a.1 < b.1) := by
      rwa [Value.unsignedMembers_eq_map, List.pairwise_map]
    have same := FieldMap.ofList_entries ⟨_, sortedToo⟩
    have readable : ∀ e ∈ membersToJson (ofMembers members),
        e.2.isReadable (budget - 1) = true := by
      rw [ofMembers_eq_map, membersToJson_eq_map, List.map_map, List.forall_mem_map]
      exact fun e member => (each e member).2
    refine ⟨?_, ?_⟩
    · rw [ofValue, toJson, Value.ofJson, ofMembers_toJson fun e member => (each e member).1, same,
        Value.unsigned]
    · rw [ofValue, toJson, Json.isReadable, Json.allMembersReadable_iff.2 readable,
        decide_eq_true within]
      rfl

end Spelled

namespace Record

/-- A record whose zeros have no signs. -/
def unsigned (record : Record) : Record :=
  record.mapValues fun _ v => v.unsigned

variable {record : Record}

/-- The text of a record is the text of the object with its entries. -/
theorem toList_write_toJson (record : Record) :
    record.toJson.write.toList = Json.written (.object record.entries) :=
  rfl

/-- The line of a record starts with a brace. -/
theorem write_toJson_starts (record : Record) :
    ∃ rest, record.toJson.write.toList = '\x7b' :: rest := by
  -- A record is written as an object.
  rw [toList_write_toJson, Json.written_object]
  exact ⟨_, rfl⟩

/-- A record reads back from its line without signs at its zeros when each of its numbers does. -/
theorem read?_write (nests : ∀ e ∈ record.entries, e.2.Nests (Json.depthLimit - 1))
    (numbers : ∀ e ∈ record.entries, ∀ x ∈ e.2.numbers, Rereads x) :
    read? record.toJson.write = some record.unsigned := by
  have within : 0 < Json.depthLimit := by decide
  have flat : ∀ x ∈ (Value.object record.entries).numbers, Rereads x := by
    rw [Value.numbers, Value.numbersOfMembers_eq_flatMap, List.forall_mem_flatMap]
    exact numbers
  -- The line is spelled out first, and the spelling is read back.
  have parsed : Json.parse? record.toJson.write =
      some (Spelled.ofValue (.object record.entries)).toJson := by
    rw [Spelled.parse?_toJson, toList_write_toJson, Spelled.parse?_written]
    · rfl
    · exact fun x member => (flat x member).exists_writtenAs.imp fun _ spelled => spelled.1
  -- The record is one level of the depth that documents may have.
  have nest : (Value.object record.entries).Nests Json.depthLimit :=
    ⟨within, record.sorted, Value.membersNest_iff.2 nests⟩
  have accepted : Json.read? record.toJson.write =
      some (Spelled.ofValue (.object record.entries)).toJson := by
    rw [Json.read?, parsed, Option.filter_some, if_pos (Spelled.ofJson_ofValue _ nest flat).2]
  -- Each member comes back without the signs of its zeros.
  have value : Value.ofMembers (Spelled.membersToJson (Spelled.ofMembers record.entries)) =
      record.unsigned.entries := by
    refine (Spelled.ofMembers_toJson fun e member => ?_).trans (Value.unsignedMembers_eq_map _)
    exact (Spelled.ofJson_ofValue e.2 (nests e member) (numbers e member)).1
  rw [read?, accepted]
  show some (FieldMap.ofList (Value.ofMembers _)) = _
  rw [value, FieldMap.ofList_entries]

/-- The line of a record has no line feed in it. -/
theorem noLineFeed_write (record : Record) : '\n' ∉ record.toJson.write.toList := by
  rw [toList_write_toJson]
  exact Json.noLineFeed_written _

/-- The fields of a record that a line reads as nest within the limit of documents. -/
theorem nests_of_read? {line : String} (read : read? line = some record) :
    ∀ e ∈ record.entries, e.2.Nests (Json.depthLimit - 1) := by
  unfold read? at read
  split at read
  · rename_i members parsed
    cases read
    -- Documents that nest too deep are not read.
    obtain ⟨_, readable⟩ := Option.filter_eq_some_iff.1 parsed
    simp only [Json.isReadable, Bool.and_eq_true] at readable
    exact fun e member =>
      Value.nests_ofMembers members readable.2 e (FieldMap.mem_of_mem_ofList member)
  · cases read

end Record

end CalcFields
