import CalcFields.Json.Number

/-! Reading a JSON text takes exactly one document with blanks around it. -/

namespace CalcFields

namespace Json

/-- The blanks of JSON are the space, the tab and the two line ends. -/
def isSpace (c : Char) : Bool :=
  c == ' ' || c == '\t' || c == '\n' || c == '\r'

/-- Drops the blanks at the front. -/
def skipSpace (cs : List Char) : List Char :=
  cs.dropWhile isSpace

/-- The value of a hexadecimal digit. -/
def hexValue? (c : Char) : Option Nat :=
  if '0' ≤ c && c ≤ '9' then some (c.toNat - 48)
  else if 'a' ≤ c && c ≤ 'f' then some (c.toNat - 87)
  else if 'A' ≤ c && c ≤ 'F' then some (c.toNat - 55)
  else none

/-- The number that four hexadecimal digits spell. -/
def hexUnit? (a b c d : Char) : Option Nat := do
  let a ← hexValue? a
  let b ← hexValue? b
  let c ← hexValue? c
  let d ← hexValue? d
  return ((a * 16 + b) * 16 + c) * 16 + d

/-- The character of a one-letter escape. -/
def escaped? : Char → Option Char
  | '"' => some '"'
  | '\\' => some '\\'
  | '/' => some '/'
  | 'b' => some '\x08'
  | 'f' => some '\x0c'
  | 'n' => some '\n'
  | 'r' => some '\r'
  | 't' => some '\t'
  | _ => none

/-- The first half of a pair of units. -/
def isHighUnit (n : Nat) : Bool := 0xD800 ≤ n && n < 0xDC00

/-- The second half of a pair of units. -/
def isLowUnit (n : Nat) : Bool := 0xDC00 ≤ n && n < 0xE000

/--
The rest of a string literal: its characters in reverse, unless half a character stands alone, and
the text after the closing quote.
-/
def readString (whole : Bool) (done : List Char) : List Char → Option (Option String × List Char)
  | [] => none
  | '"' :: rest => some (if whole then some (String.ofList done.reverse) else none, rest)
  | '\\' :: 'u' :: a :: b :: c :: d :: '\\' :: 'u' :: e :: f :: g :: h :: rest =>
    match hexUnit? a b c d, hexUnit? e f g h with
    | some first, some second =>
      if isHighUnit first && isLowUnit second then
        let code := 0x10000 + (first - 0xD800) * 0x400 + (second - 0xDC00)
        readString whole (Char.ofNat code :: done) rest
      else
        let lone := isHighUnit first || isLowUnit first
        readString (whole && !lone) (Char.ofNat first :: done)
          ('\\' :: 'u' :: e :: f :: g :: h :: rest)
    | _, _ => none
  | '\\' :: 'u' :: a :: b :: c :: d :: rest =>
    match hexUnit? a b c d with
    | some unit =>
      let lone := isHighUnit unit || isLowUnit unit
      readString (whole && !lone) (Char.ofNat unit :: done) rest
    | none => none
  | '\\' :: c :: rest =>
    match escaped? c with
    | some plain => readString whole (plain :: done) rest
    | none => none
  | c :: rest => if c.toNat < 0x20 then none else readString whole (c :: done) rest

/-- The digits after a point, of which there is at least one. -/
def readFraction : List Char → Option (List Char × List Char)
  | '.' :: rest =>
    let (digits, after) := takeDigits rest
    if digits.isEmpty then none else some (digits, after)
  | cs => some ([], cs)

/-- The power after an exponent mark, when there is one. -/
def readPower : List Char → Option (Option Int × List Char)
  | [] => some (none, [])
  | mark :: rest =>
    if mark == 'e' || mark == 'E' then
      let (negative, unsigned) := takeSign rest
      let (digits, after) := takeDigits unsigned
      if digits.isEmpty then none
      else
        let size : Int := digitsValue digits
        some (some (if negative then -size else size), after)
    else some (none, mark :: rest)

/-- A number has no zero in front of another digit. -/
def readNumber (cs : List Char) : Option (Json × List Char) :=
  let (negative, unsigned) :=
    match cs with
    | '-' :: rest => (true, rest)
    | _ => (false, cs)
  let (whole, afterWhole) := takeDigits unsigned
  match whole with
  | [] => none
  | '0' :: _ :: _ => none
  | _ => do
    let (fraction, afterFraction) ← readFraction afterWhole
    let (power, rest) ← readPower afterFraction
    return (ofNumber negative whole fraction power, rest)

/-- The document of a string literal. -/
def ofLiteral : Option String → Json
  | some s => string s
  | none => unreadable

mutual

/-- One document and the text after it; the fuel bounds the depth and the number of parts. -/
def readValue : Nat → List Char → Option (Json × List Char)
  | 0, _ => none
  | fuel + 1, cs =>
    match skipSpace cs with
    | 'n' :: 'u' :: 'l' :: 'l' :: rest => some (null, rest)
    | 't' :: 'r' :: 'u' :: 'e' :: rest => some (bool true, rest)
    | 'f' :: 'a' :: 'l' :: 's' :: 'e' :: rest => some (bool false, rest)
    | '"' :: rest => (readString true [] rest).map fun (s, after) => (ofLiteral s, after)
    | '[' :: rest =>
      match skipSpace rest with
      | ']' :: after => some (array [], after)
      | _ => (readItems fuel rest).map fun (items, after) => (array items, after)
    | '{' :: rest =>
      match skipSpace rest with
      | '}' :: after => some (object [], after)
      | _ => (readMembers fuel rest).map fun (members, after) => (object members, after)
    | other => readNumber other

/-- The items of an array up to its closing bracket. -/
def readItems : Nat → List Char → Option (List Json × List Char)
  | 0, _ => none
  | fuel + 1, cs => do
    let (item, after) ← readValue fuel cs
    match skipSpace after with
    | ',' :: rest =>
      let (items, last) ← readItems fuel rest
      return (item :: items, last)
    | ']' :: rest => return ([item], rest)
    | _ => none

/-- The members of an object up to its closing brace. -/
def readMembers : Nat → List Char → Option (List (String × Json) × List Char)
  | 0, _ => none
  | fuel + 1, cs =>
    match skipSpace cs with
    | '"' :: rest => do
      let (key, afterKey) ← readString true [] rest
      let name ← key
      match skipSpace afterKey with
      | ':' :: valueText =>
        let (item, after) ← readValue fuel valueText
        match skipSpace after with
        | ',' :: more =>
          let (members, last) ← readMembers fuel more
          return ((name, item) :: members, last)
        | '}' :: last => return ([(name, item)], last)
        | _ => none
      | _ => none
    | _ => none

end

/-- A text is well formed when it is one document, whether or not every literal has a value. -/
def parse? (text : String) : Option Json := do
  let cs := text.toList
  let (document, rest) ← readValue (2 * cs.length + 2) cs
  if (skipSpace rest).isEmpty then some document else none

/-- A text reads as a document when it is well formed, every literal has a value and the nesting
stays within the limit. -/
def read? (text : String) : Option Json :=
  (parse? text).filter (isReadable depthLimit)

end Json

end CalcFields
