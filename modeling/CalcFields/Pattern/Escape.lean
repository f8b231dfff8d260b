import CalcFields.Pattern.Flags
import CalcFields.Text.Property

/-! Escapes of a pattern stand for a character, for a set of characters or for an assertion. -/

namespace CalcFields

/-- What a backslash and the characters after it stand for. -/
inductive Escape where
  | character (c : Char)
  | set (characters : CodeSet)
  | assertion (a : Assertion)

/-- Marks that mean something in patterns, which an escape takes away. -/
def isPatternMark (c : Char) : Bool :=
  "\\.+*?()|[]\x7b\x7d^$#&-~".toList.contains c

/-- Characters of the first 128 that may be escaped without need: all but letters, digits and the
two angle brackets. -/
def isEscapable (c : Char) : Bool :=
  isPatternMark c || (c.toNat < 128 && !c.isAlphanum && c != '<' && c != '>')

/-- The character of a code point, which is not half of a pair. -/
def charOfCode? (code : Nat) : Option Char :=
  if code.isValidChar then some (Char.ofNat code) else none

/-- So many hexadecimal digits as a number. -/
def takeHex? (flags : PatternFlags) : Nat → Nat → List Char → Option (Nat × List Char)
  | 0, n, cs => some (n, cs)
  | count + 1, n, cs =>
    match flags.skip cs with
    | c :: rest => do takeHex? flags count (16 * n + (← Json.hexValue? c)) rest
    | [] => none

/-- Hexadecimal digits up to a closing brace, of which there is at least one. -/
def takeBracedHex? (flags : PatternFlags) (n : Nat) (started : Bool) :
    List Char → Option (Nat × List Char)
  | [] => none
  | '}' :: rest => if started then some (n, rest) else none
  | c :: rest =>
    if flags.verbose && isBlank c then takeBracedHex? flags n started rest
    else
      match Json.hexValue? c with
      | some digit => takeBracedHex? flags (16 * n + digit) true rest
      | none => none

/-- The character of a numeric escape with so many digits, or with any number in braces. -/
def readNumericEscape? (flags : PatternFlags) (digits : Nat) (cs : List Char) :
    Option (Char × List Char) := do
  let (code, rest) ← match flags.skip cs with
    | '{' :: inside => takeBracedHex? flags 0 false inside
    | other => takeHex? flags digits 0 other
  return (← charOfCode? code, flags.skip rest)

/-- The set of a class letter: digits, blanks or word characters. -/
def classOfLetter (wide : Bool) (letter : Char) : CodeSet :=
  match letter, wide with
  | 'd', true => (categorySet? "nd".toList).getD []
  | 'd', false => [⟨0x30, 0x39⟩]
  | 's', true =>
    [⟨9, 13⟩, ⟨0x20, 0x20⟩, ⟨0x85, 0x85⟩, ⟨0xA0, 0xA0⟩, ⟨0x1680, 0x1680⟩, ⟨0x2000, 0x200A⟩,
      ⟨0x2028, 0x2029⟩, ⟨0x202F, 0x202F⟩, ⟨0x205F, 0x205F⟩, ⟨0x3000, 0x3000⟩]
  | 's', false => [⟨9, 13⟩, ⟨0x20, 0x20⟩]
  | _, true => wordRanges.toList
  | _, false => [⟨0x30, 0x39⟩, ⟨0x41, 0x5A⟩, ⟨0x5F, 0x5F⟩, ⟨0x61, 0x7A⟩]

/-- Splits a list at the first place where a mark stands. -/
def splitAtMark (mark : List Char) : List Char → Option (List Char × List Char)
  | [] => none
  | c :: rest =>
    if mark.isPrefixOf (c :: rest) then some ([], (c :: rest).drop mark.length)
    else (splitAtMark mark rest).map fun (before, after) => (c :: before, after)

/-- The set of the words in the braces of a property escape, and whether they negate it. -/
def propertyOf? (words : List Char) : Option (Bool × CodeSet) :=
  match splitAtMark ['!', '='] words with
  | some (name, value) => (valuedSet? name value).map (true, ·)
  | none =>
    match splitAtMark [':'] words <|> splitAtMark ['='] words with
    | some (name, value) => (valuedSet? name value).map (false, ·)
    | none => (namedSet? words).map (false, ·)

/-- The set of a property escape, which names a property by one letter or in braces. -/
def readProperty? (flags : PatternFlags) (negated : Bool) (cs : List Char) :
    Option (CodeSet × List Char) := do
  let (words, rest) ← match flags.skip cs with
    | '{' :: inside =>
      let (words, rest) := inside.span (· != '}')
      match rest with
      | _ :: after => some (words.filter fun c => !(flags.verbose && isBlank c), after)
      | [] => none
    | '\\' :: _ => none
    | c :: after => some ([c], flags.skip after)
    | [] => none
  if !flags.wide then none
  else
    let (inverted, characters) ← propertyOf? words
    return (← flags.negate? (negated != inverted) (flags.fold characters), rest)

/-- The kinds of word boundary that a name in braces selects. -/
def boundaryOfName? (name : List Char) : Option Assertion :=
  match String.ofList name with
  | "start" => some .wordStart
  | "end" => some .wordEnd
  | "start-half" => some .wordStartHalf
  | "end-half" => some .wordEndHalf
  | _ => none

/-- A word boundary, whose kind may follow in braces; other braces are left for a repetition. -/
def readBoundary? (flags : PatternFlags) (cs : List Char) : Option (Assertion × List Char) :=
  let isNamePart (c : Char) : Bool := c.isAlpha || c == '-'
  match cs with
  | '{' :: inside =>
    match flags.skip inside with
    | [] => none
    | c :: _ =>
      if !isNamePart c then some (.wordBoundary, cs)
      else
        let (words, rest) :=
          inside.span fun c => isNamePart c || (flags.verbose && isBlank c)
        match rest with
        | '}' :: after => (boundaryOfName? (words.filter isNamePart)).map (·, after)
        | _ => none
  | _ => some (.wordBoundary, cs)

/-- The escape of the characters after a backslash. -/
def readEscape? (flags : PatternFlags) : List Char → Option (Escape × List Char)
  | [] => none
  | c :: rest =>
    if isEscapable c then some (.character c, rest)
    else
      match c with
      | 'x' => (readNumericEscape? flags 2 rest).map fun (c, after) => (.character c, after)
      | 'u' => (readNumericEscape? flags 4 rest).map fun (c, after) => (.character c, after)
      | 'U' => (readNumericEscape? flags 8 rest).map fun (c, after) => (.character c, after)
      | 'p' => (readProperty? flags false rest).map fun (s, after) => (.set s, after)
      | 'P' => (readProperty? flags true rest).map fun (s, after) => (.set s, after)
      | 'd' | 's' | 'w' => some (.set (classOfLetter flags.wide c), rest)
      | 'D' | 'S' | 'W' =>
        (flags.negate? true (classOfLetter flags.wide c.toLower)).map (.set ·, rest)
      | 'a' => some (.character '\x07', rest)
      | 'f' => some (.character '\x0c', rest)
      | 't' => some (.character '\t', rest)
      | 'n' => some (.character '\n', rest)
      | 'r' => some (.character '\r', rest)
      | 'v' => some (.character '\x0b', rest)
      | 'A' => some (.assertion .textStart, rest)
      | 'z' => some (.assertion .textEnd, rest)
      | 'b' => (readBoundary? flags rest).map fun (a, after) => (.assertion a, after)
      | 'B' => some (.assertion .noWordBoundary, rest)
      | '<' => some (.assertion .wordStart, rest)
      | '>' => some (.assertion .wordEnd, rest)
      | _ => none

end CalcFields
