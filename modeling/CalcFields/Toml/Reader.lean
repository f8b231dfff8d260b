import CalcFields.Toml.Literal

/-!
Reading a settings document takes one pair or header a line, collects the pairs under each header
and puts the sections together. A name is given a value only once.
-/

namespace CalcFields

namespace Toml

/-- The text after a comment, which ends before the line end. -/
def skipComment : List Char → List Char
  | '#' :: rest => rest.dropWhile isPlain
  | cs => cs

/-- The text after the end of a line, with perhaps blanks and a comment before it. -/
def endLine? (cs : List Char) : Option (List Char) :=
  match skipComment (skipSpace cs) with
  | [] => some []
  | '\n' :: rest => some rest
  | '\r' :: '\n' :: rest => some rest
  | _ => none

/-- Drops blanks, comments and line ends; so many lines at most. -/
def skipLines : Nat → List Char → List Char
  | 0, cs => cs
  | fuel + 1, cs =>
    match skipComment (skipSpace cs) with
    | '\n' :: rest => skipLines fuel rest
    | '\r' :: '\n' :: rest => skipLines fuel rest
    | other => other

/-- A character of a name without quotes. -/
def isNameChar (c : Char) : Bool :=
  ('a' ≤ c && c ≤ 'z') || ('A' ≤ c && c ≤ 'Z') || c.isDigit || c == '_' || c == '-'

/-- One name, with quotes or without. -/
def readName (cs : List Char) : Option (String × List Char) :=
  match cs with
  | '"' :: rest => readBasic [] rest
  | '\'' :: rest => readLiteral [] rest
  | _ =>
    let name := cs.takeWhile isNameChar
    if name.isEmpty then none else some (String.ofList name, cs.dropWhile isNameChar)

/-- A dotted key: names with points between them; so many at most. -/
def readKey : Nat → List Char → Option (List String × List Char)
  | 0, _ => none
  | fuel + 1, cs => do
    let (name, after) ← readName (skipSpace cs)
    match skipSpace after with
    | '.' :: rest =>
      let (names, last) ← readKey fuel rest
      return (name :: names, last)
    | rest => return ([name], rest)

/-- A string literal, by its opening. -/
def readText (cs : List Char) : Option (String × List Char) :=
  match cs with
  | '"' :: '"' :: '"' :: rest => readLines false [] (skipLineEnd rest)
  | '"' :: rest => readBasic [] rest
  | '\'' :: '\'' :: '\'' :: rest => readRawLines [] (skipLineEnd rest)
  | '\'' :: rest => readLiteral [] rest
  | _ => none

mutual

/-- A value and the text after it; the fuel bounds the depth and the number of parts. -/
def readValue : Nat → List Char → Option (Toml × List Char)
  | 0, _ => none
  | fuel + 1, cs =>
    match cs with
    | 't' :: 'r' :: 'u' :: 'e' :: rest => some (bool true, rest)
    | 'f' :: 'a' :: 'l' :: 's' :: 'e' :: rest => some (bool false, rest)
    | '[' :: rest => (readItems fuel rest).map fun (items, after) => (array items, after)
    | '{' :: rest =>
      match skipSpace rest with
      | '}' :: after => some (table .inline [], after)
      | _ => do
        let (pairs, after) ← readPairs fuel rest
        return (table .inline (← TomlTable.addPairs pairs []), after)
    | '"' :: _ => (readText cs).map fun (s, after) => (string s, after)
    | '\'' :: _ => (readText cs).map fun (s, after) => (string s, after)
    | _ => readScalar cs

/-- The items of an array up to its closing bracket, perhaps after a last comma. -/
def readItems : Nat → List Char → Option (List Toml × List Char)
  | 0, _ => none
  | fuel + 1, cs =>
    match skipLines cs.length cs with
    | ']' :: rest => some ([], rest)
    | start => do
      let (item, after) ← readValue fuel start
      match skipLines after.length after with
      | ',' :: rest =>
        let (items, last) ← readItems fuel rest
        return (item :: items, last)
      | ']' :: rest => return ([item], rest)
      | _ => none

/-- The pairs of a table between braces, all on one line. -/
def readPairs : Nat → List Char → Option (List (List String × Toml) × List Char)
  | 0, _ => none
  | fuel + 1, cs => do
    let (names, afterKey) ← readKey cs.length cs
    let start ← dropChar? '=' afterKey
    let (item, after) ← readValue fuel (skipSpace start)
    match skipSpace after with
    | ',' :: rest =>
      let (pairs, last) ← readPairs fuel rest
      return ((names, item) :: pairs, last)
    | '}' :: rest => return ([(names, item)], rest)
    | _ => none

end

/-- A header: a key between brackets, or between double brackets when it repeats. -/
def readHeader (cs : List Char) : Option (TomlSection × List Char) :=
  match cs with
  | '[' :: '[' :: rest => do
    let (names, after) ← readKey rest.length rest
    match after with
    | ']' :: ']' :: last => return (⟨true, names, []⟩, ← endLine? last)
    | _ => none
  | '[' :: rest => do
    let (names, after) ← readKey rest.length rest
    match after with
    | ']' :: last => return (⟨false, names, []⟩, ← endLine? last)
    | _ => none
  | _ => none

/-- A pair on a line of its own. -/
def readPair (cs : List Char) : Option ((List String × Toml) × List Char) := do
  let (names, afterKey) ← readKey cs.length cs
  let start ← dropChar? '=' afterKey
  let (item, after) ← readValue (2 * start.length + 2) (skipSpace start)
  return ((names, item), ← endLine? after)

/-- The sections of a text after the one being read; so many lines at most. -/
def readSections : Nat → TomlSection → List Char → Option (List TomlSection)
  | 0, _, _ => none
  | fuel + 1, current, cs =>
    match skipLines cs.length cs with
    | [] => some [current]
    | '[' :: rest => do
      let (next, after) ← readHeader ('[' :: rest)
      return current :: (← readSections fuel next after)
    | start => do
      let (pair, after) ← readPair start
      readSections fuel { current with pairs := current.pairs ++ [pair] } after

/-- A text reads as a document when its sections fit together; a byte order mark may come first. -/
def read? (text : String) : Option TomlTable := do
  let cs :=
    match text.toList with
    | '\uFEFF' :: rest => rest
    | other => other
  let sections ← readSections (cs.length + 1) ⟨false, [], []⟩ cs
  sections.foldlM (fun document part => part.addTo document) []

end Toml

end CalcFields
