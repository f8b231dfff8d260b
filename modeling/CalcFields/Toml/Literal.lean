import CalcFields.Calendar.Reader
import CalcFields.Json.Reader
import CalcFields.Toml.Basic

/-! Literals of settings documents: strings on one line or several, numbers and moments. -/

namespace CalcFields

namespace Toml

/-- The blanks within a line. -/
def isSpace (c : Char) : Bool :=
  c == ' ' || c == '\t'

/-- Drops the blanks at the front. -/
def skipSpace (cs : List Char) : List Char :=
  cs.dropWhile isSpace

/-- A character that strings and comments hold as it is: no control character but the tab. -/
def isPlain (c : Char) : Bool :=
  c == '\t' || (0x20 ≤ c.toNat && c.toNat != 0x7F)

/-- The character of a one-letter escape. -/
def escaped? : Char → Option Char
  | '"' => some '"'
  | '\\' => some '\\'
  | 'b' => some '\x08'
  | 'f' => some '\x0c'
  | 'n' => some '\n'
  | 'r' => some '\r'
  | 't' => some '\t'
  | _ => none

/-- The character of a code that is no half of a pair. -/
def scalar? (code : Nat) : Option Char :=
  if code.isValidChar then some (Char.ofNat code) else none

/-- The character that four hexadecimal digits spell. -/
def shortEscape? (a b c d : Char) : Option Char :=
  (Json.hexUnit? a b c d).bind scalar?

/-- The character that twice four hexadecimal digits spell. -/
def longEscape? (high low : Option Nat) : Option Char := do
  scalar? ((← high) * 0x10000 + (← low))

/-- The rest of a string between quotation marks, and the text after it. -/
def readBasic (done : List Char) : List Char → Option (String × List Char)
  | [] => none
  | '"' :: rest => some (String.ofList done.reverse, rest)
  | '\\' :: 'u' :: a :: b :: c :: d :: rest =>
    match shortEscape? a b c d with
    | some plain => readBasic (plain :: done) rest
    | none => none
  | '\\' :: 'U' :: a :: b :: c :: d :: e :: f :: g :: h :: rest =>
    match longEscape? (Json.hexUnit? a b c d) (Json.hexUnit? e f g h) with
    | some plain => readBasic (plain :: done) rest
    | none => none
  | '\\' :: c :: rest =>
    match escaped? c with
    | some plain => readBasic (plain :: done) rest
    | none => none
  | c :: rest => if isPlain c then readBasic (c :: done) rest else none

/-- The rest of a string between apostrophes, where nothing is escaped. -/
def readLiteral (done : List Char) : List Char → Option (String × List Char)
  | [] => none
  | c :: rest =>
    if c == '\'' then some (String.ofList done.reverse, rest)
    else if isPlain c then readLiteral (c :: done) rest
    else none

/-- Nothing but blanks comes before the end of the line. -/
def endsLine (cs : List Char) : Bool :=
  match skipSpace cs with
  | '\n' :: _ => true
  | '\r' :: '\n' :: _ => true
  | _ => false

/-- The rest of a string over several lines. After a backslash at the end of a line, blanks and line
ends are passed over. -/
def readLines (joining : Bool) (done : List Char) : List Char → Option (String × List Char)
  | [] => none
  | '"' :: '"' :: '"' :: '"' :: '"' :: rest =>
    some (String.ofList ('"' :: '"' :: done).reverse, rest)
  | '"' :: '"' :: '"' :: '"' :: rest => some (String.ofList ('"' :: done).reverse, rest)
  | '"' :: '"' :: '"' :: rest => some (String.ofList done.reverse, rest)
  | '\\' :: 'u' :: a :: b :: c :: d :: rest =>
    match shortEscape? a b c d with
    | some plain => readLines false (plain :: done) rest
    | none => none
  | '\\' :: 'U' :: a :: b :: c :: d :: e :: f :: g :: h :: rest =>
    match longEscape? (Json.hexUnit? a b c d) (Json.hexUnit? e f g h) with
    | some plain => readLines false (plain :: done) rest
    | none => none
  | '\\' :: c :: rest =>
    match escaped? c with
    | some plain => readLines false (plain :: done) rest
    | none => if endsLine (c :: rest) then readLines true done (c :: rest) else none
  | '\r' :: '\n' :: rest => readLines joining (if joining then done else '\n' :: done) rest
  | c :: rest =>
    if joining && (isSpace c || c == '\n') then readLines true done rest
    else if isPlain c || c == '\n' then readLines false (c :: done) rest
    else none

/-- The rest of a string over several lines between apostrophes. -/
def readRawLines (done : List Char) : List Char → Option (String × List Char)
  | [] => none
  | '\'' :: '\'' :: '\'' :: '\'' :: '\'' :: rest =>
    some (String.ofList ('\'' :: '\'' :: done).reverse, rest)
  | '\'' :: '\'' :: '\'' :: '\'' :: rest => some (String.ofList ('\'' :: done).reverse, rest)
  | '\'' :: '\'' :: '\'' :: rest => some (String.ofList done.reverse, rest)
  | '\r' :: '\n' :: rest => readRawLines ('\n' :: done) rest
  | c :: rest => if isPlain c || c == '\n' then readRawLines (c :: done) rest else none

/-- Drops a line end right after the opening of a string over several lines. -/
def skipLineEnd : List Char → List Char
  | '\n' :: rest => rest
  | '\r' :: '\n' :: rest => rest
  | cs => cs

/-- Further digits of a run, where a low line may stand between two digits. -/
def moreDigits (accepts : Char → Bool) : List Char → List Char × List Char
  | [] => ([], [])
  | '_' :: c :: rest =>
    if accepts c then
      let (more, after) := moreDigits accepts rest
      (c :: more, after)
    else ([], '_' :: c :: rest)
  | c :: rest =>
    if accepts c then
      let (more, after) := moreDigits accepts rest
      (c :: more, after)
    else ([], c :: rest)

/-- A run of at least one digit. -/
def takeRun? (accepts : Char → Bool) : List Char → Option (List Char × List Char)
  | [] => none
  | c :: rest =>
    if accepts c then
      let (more, after) := moreDigits accepts rest
      some (c :: more, after)
    else none

/-- A whole number of 64 bits. -/
def integer? (n : Int) : Option Toml :=
  if minInt64 ≤ n && n ≤ maxInt64 then some (.integer n) else none

/-- The number that hexadecimal, octal or binary digits spell. -/
def inBase (base : Nat) (digits : List Char) : Nat :=
  digits.foldl (fun n c => base * n + (Json.hexValue? c).getD 0) 0

/-- A digit of a base. -/
def isDigitOf (base : Nat) (c : Char) : Bool :=
  (Json.hexValue? c).any (· < base)

/-- A whole number in a base other than ten. -/
def readInBase (base : Nat) (cs : List Char) : Option (Toml × List Char) := do
  let (digits, rest) ← takeRun? (isDigitOf base) cs
  return (← integer? (inBase base digits), rest)

/-- The text after the power of a number, if there is one. -/
def skipPower : List Char → Option (List Char)
  | [] => some []
  | mark :: rest =>
    if mark == 'e' || mark == 'E' then
      (takeRun? Char.isDigit (takeSign rest).2).map Prod.snd
    else some (mark :: rest)

/-- A number in base ten, which a fraction or a power makes real. -/
def readDecimal (negative : Bool) (cs : List Char) : Option (Toml × List Char) := do
  let (digits, rest) ← takeRun? Char.isDigit cs
  if digits.head? == some '0' && 1 < digits.length then none
  else
    match rest with
    | '.' :: fraction => do
      let (_, after) ← takeRun? Char.isDigit fraction
      return (.real, ← skipPower after)
    | _ => do
      let after ← skipPower rest
      if after.length < rest.length then return (.real, after)
      else
        let size : Int := digitsValue digits
        return (← integer? (if negative then -size else size), rest)

/-- A number behind its sign. -/
def readSigned (negative : Bool) (cs : List Char) : Option (Toml × List Char) :=
  match cs with
  | 'i' :: 'n' :: 'f' :: rest => some (.real, rest)
  | 'n' :: 'a' :: 'n' :: rest => some (.real, rest)
  | _ => readDecimal negative cs

/-- A number. -/
def readNumber (cs : List Char) : Option (Toml × List Char) :=
  match cs with
  | '0' :: 'x' :: rest => readInBase 16 rest
  | '0' :: 'o' :: rest => readInBase 8 rest
  | '0' :: 'b' :: rest => readInBase 2 rest
  | _ =>
    let (negative, unsigned) := takeSign cs
    readSigned negative unsigned

/-- The text after a time of day. -/
def skipTime? (cs : List Char) : Option (List Char) := do
  let (hour, afterHour) ← takeNumber? 2 2 cs
  let (minute, afterMinute) ← takeNumber? 2 2 (← dropChar? ':' afterHour)
  let (second, afterSecond) ← takeNumber? 2 2 (← dropChar? ':' afterMinute)
  let _ ← timeOfDay? hour minute second 0
  let (_, rest) ← takeFraction? afterSecond
  return rest

/-- The text after a date. -/
def skipDate? (cs : List Char) : Option (List Char) := do
  let (year, afterYear) ← takeNumber? 4 4 cs
  let (month, afterMonth) ← takeNumber? 2 2 (← dropChar? '-' afterYear)
  let (day, rest) ← takeNumber? 2 2 (← dropChar? '-' afterMonth)
  let _ ← Date.exists? year month day
  return rest

/-- The text after a moment: a date, a time of day, or both with perhaps an offset. -/
def skipMoment? (cs : List Char) : Option (List Char) :=
  match skipDate? cs with
  | none => skipTime? cs
  | some afterDate =>
    match (dropTimeMark? afterDate).bind skipTime? with
    | none => some afterDate
    | some afterTime => ((takeOffset? afterTime).map Prod.snd).getD afterTime

/-- A moment or a number. -/
def readScalar (cs : List Char) : Option (Toml × List Char) :=
  match skipMoment? cs with
  | some rest => some (.moment, rest)
  | none => readNumber cs

end Toml

end CalcFields
