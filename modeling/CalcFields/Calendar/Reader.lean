import CalcFields.Calendar.Instant
import CalcFields.Decimal.Numeral
import CalcFields.Text.Blank

/-!
Instants are read from internet timestamps with an offset, and from dates with or without a time,
which count as universal time.
-/

namespace CalcFields

/-- A run of at least and at most so many digits, as a number. -/
def takeNumber? (least greatest : Nat) (cs : List Char) : Option (Nat × List Char) :=
  let digits := (cs.take greatest).takeWhile Char.isDigit
  if digits.length < least then none else some (digitsValue digits, cs.drop digits.length)

/-- The text after an expected character. -/
def dropChar? (expected : Char) : List Char → Option (List Char)
  | c :: rest => if c == expected then some rest else none
  | [] => none

/-- A fraction after its point: nine digits count as nanoseconds, and more are passed over. -/
def takeFraction? : List Char → Option (Nat × List Char)
  | '.' :: rest => do
    let (n, after) ← takeNumber? 1 9 rest
    let scale := Nat.pow 10 (9 - (rest.length - after.length))
    return (n * scale, after.dropWhile Char.isDigit)
  | cs => some (0, cs)

/-- A time of day, where the sixtieth second is the fifty-ninth with a second more of fraction. -/
def timeOfDay? (hour minute second nano : Nat) : Option (Nat × Nat) :=
  if 24 ≤ hour || 60 ≤ minute || 60 < second then none
  else if second == 60 then some (hour * 3600 + minute * 60 + 59, nano + nanosPerSecond)
  else some (hour * 3600 + minute * 60 + second, nano)

/-- An instant of a date and a time of day. -/
def instantAt? (date : Date) (second nano : Nat) : Option Instant :=
  if valid : second < 86400 ∧ nano < 2000000000 then
    some ⟨date.toDay, second, nano, valid.1, valid.2⟩
  else none

/-- An offset in seconds: the letter Z, or a sign with hours and minutes. -/
def takeOffset? : List Char → Option (Int × List Char)
  | [] => none
  | sign :: rest =>
    if sign == 'Z' || sign == 'z' then some (0, rest)
    else if sign == '+' || sign == '-' || sign == '\u2212' then do
      let (hours, afterHours) ← takeNumber? 2 2 rest
      let minuteText ← dropChar? ':' afterHours
      let (minutes, after) ← takeNumber? 2 2 minuteText
      if 24 ≤ hours || 60 ≤ minutes then none
      else
        let size : Int := hours * 3600 + minutes * 60
        return (if sign == '+' then size else -size, after)
    else none

/-- The mark between date and time of an internet timestamp. -/
def dropTimeMark? : List Char → Option (List Char)
  | c :: rest => if c == 'T' || c == 't' || c == ' ' then some rest else none
  | [] => none

/-- An internet timestamp: all parts at full width, a fraction if wanted, and an offset. -/
def readTimestamp? (cs : List Char) : Option Instant := do
  let (year, cs) ← takeNumber? 4 4 cs
  let (month, cs) ← takeNumber? 2 2 (← dropChar? '-' cs)
  let (day, cs) ← takeNumber? 2 2 (← dropChar? '-' cs)
  let (hour, cs) ← takeNumber? 2 2 (← dropTimeMark? cs)
  let (minute, cs) ← takeNumber? 2 2 (← dropChar? ':' cs)
  let (second, cs) ← takeNumber? 2 2 (← dropChar? ':' cs)
  let (nano, cs) ← takeFraction? cs
  let (offset, cs) ← takeOffset? cs
  if !cs.isEmpty then none
  else
    let date ← Date.exists? year month day
    let (inDay, fraction) ← timeOfDay? hour minute second nano
    let here ← instantAt? date inDay fraction
    return here.shiftSeconds (-offset)

/-- A number of at most so many digits, with blanks before it passed over. -/
def takeLoose? (greatest : Nat) (cs : List Char) : Option (Nat × List Char) :=
  takeNumber? 1 greatest (trimFront cs)

/-- A year of up to four digits, or of any number of them after a sign. -/
def takeYear? (cs : List Char) : Option (Int × List Char) :=
  match trimFront cs with
  | '-' :: rest => (takeNumber? 1 rest.length rest).map fun (n, after) => (-(n : Int), after)
  | '+' :: rest => (takeNumber? 1 rest.length rest).map fun (n, after) => ((n : Int), after)
  | other => (takeNumber? 1 4 other).map fun (n, after) => ((n : Int), after)

/-- A date whose parts may lack their zeros. -/
def takeDate? (cs : List Char) : Option (Date × List Char) := do
  let (year, cs) ← takeYear? cs
  let (month, cs) ← takeLoose? 2 (← dropChar? '-' cs)
  let (day, cs) ← takeLoose? 2 (← dropChar? '-' cs)
  let date ← Date.exists? year month day
  return (date, cs)

/-- A time of hours and minutes, and of seconds with a fraction when they are wanted. -/
def readTime? (withSeconds : Bool) (cs : List Char) : Option (Nat × Nat) := do
  let (hour, cs) ← takeLoose? 2 cs
  let (minute, cs) ← takeLoose? 2 (← dropChar? ':' cs)
  if withSeconds then
    let (second, cs) ← takeLoose? 2 (← dropChar? ':' cs)
    let (nano, cs) ← takeFraction? cs
    if cs.isEmpty then timeOfDay? hour minute second nano else none
  else if cs.isEmpty then timeOfDay? hour minute 0 0
  else none

/-- A date and a time with the letter T or blanks between them. -/
def readDateTime? (marked withSeconds : Bool) (cs : List Char) : Option Instant := do
  let (date, rest) ← takeDate? cs
  let timeText ← if marked then dropChar? 'T' rest else some (trimFront rest)
  let (inDay, fraction) ← readTime? withSeconds timeText
  instantAt? date inDay fraction

/-- A date alone is its midnight. -/
def readDate? (cs : List Char) : Option Instant := do
  let (date, rest) ← takeDate? cs
  if rest.isEmpty then some (Instant.midnight date.toDay) else none

/-- A text is read as a timestamp, else as a date with a time, else as a date. -/
def readInstant? (text : String) : Option Instant :=
  let cs := trimChars text.toList
  if cs.isEmpty then none
  else
    readTimestamp? cs <|> readDateTime? true true cs <|> readDateTime? false true cs <|>
      readDateTime? true false cs <|> readDateTime? false false cs <|> readDate? cs

end CalcFields
