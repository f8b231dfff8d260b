import CalcFields.Pattern.Syntax
import CalcFields.Text.Blank
import CalcFields.Text.Fold
import CalcFields.Text.Property.Word

/-! Flags change how the rest of a group of a pattern is read. -/

namespace CalcFields

/-- The flags in force at a point of a pattern. -/
structure PatternFlags where
  ignoreCase : Bool
  /-- Line bounds match inside the text. -/
  multiLine : Bool
  /-- The dot matches line ends too. -/
  dotAll : Bool
  /-- Repetitions are lazy unless marked. -/
  swapGreed : Bool
  /-- Classes reach beyond the first 128 characters. -/
  wide : Bool
  /-- Blanks and comments between the parts are passed over. -/
  verbose : Bool
  /-- A carriage return before a line feed belongs to the line end. -/
  paired : Bool
deriving DecidableEq, Repr

namespace PatternFlags

/-- The flags at the start of a pattern. -/
def initial : PatternFlags := ⟨false, false, false, false, true, false, false⟩

/-- Sets the flag of a letter. -/
def set? (flags : PatternFlags) (letter : Char) (on : Bool) : Option PatternFlags :=
  match letter with
  | 'i' => some { flags with ignoreCase := on }
  | 'm' => some { flags with multiLine := on }
  | 's' => some { flags with dotAll := on }
  | 'U' => some { flags with swapGreed := on }
  | 'u' => some { flags with wide := on }
  | 'x' => some { flags with verbose := on }
  | 'R' => some { flags with paired := on }
  | _ => none

/-- Drops blanks and comments, which end with their line. -/
def dropRemarks (inComment : Bool) : List Char → List Char
  | [] => []
  | c :: rest =>
    if inComment then dropRemarks (c != '\n') rest
    else if isBlank c then dropRemarks false rest
    else if c == '#' then dropRemarks true rest
    else c :: rest

/-- The next characters that count under the flags. -/
def skip (flags : PatternFlags) (cs : List Char) : List Char :=
  if flags.verbose then dropRemarks false cs else cs

/-- The letters of a set in both cases, for the first 128 characters. -/
def foldNarrow (characters : CodeSet) : CodeSet :=
  let letters := "abcdefghijklmnopqrstuvwxyz".toList
  let holds (c : Char) : Bool := characters.any (·.holds c.toNat)
  let both := letters.filter fun c => holds c || holds c.toUpper
  CodeSet.ofRanges
    (characters ++ both.flatMap fun c => CodeSet.single c ++ CodeSet.single c.toUpper)

/-- A set with the other letter cases of its characters when the flags ignore case. -/
def fold (flags : PatternFlags) (characters : CodeSet) : CodeSet :=
  if !flags.ignoreCase then characters
  else if flags.wide then characters.foldClosure
  else foldNarrow characters

/-- A set or its complement; without the wide flag a complement would hold half characters. -/
def negate? (flags : PatternFlags) (negated : Bool) (characters : CodeSet) : Option CodeSet :=
  if !negated then some characters
  else if flags.wide then some characters.complement
  else none

/-- The set of the dot: everything but line ends. -/
def dotSet? (flags : PatternFlags) : Option CodeSet :=
  if !flags.wide then none
  else if flags.dotAll then some CodeSet.full
  else if flags.paired then some (CodeSet.complement [⟨10, 10⟩, ⟨13, 13⟩])
  else some (CodeSet.complement [⟨10, 10⟩])

/-- The assertion of the start mark. -/
def startAssertion (flags : PatternFlags) : Assertion :=
  if !flags.multiLine then .textStart else if flags.paired then .pairedLineStart else .lineStart

/-- The assertion of the end mark. -/
def endAssertion (flags : PatternFlags) : Assertion :=
  if !flags.multiLine then .textEnd else if flags.paired then .pairedLineEnd else .lineEnd

end PatternFlags

end CalcFields
