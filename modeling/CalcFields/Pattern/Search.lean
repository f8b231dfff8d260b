import CalcFields.Pattern.Program
import CalcFields.Pattern.Reader

/-!
A search tries the starts of a text from left to right and the branches of a program in their order
of preference. A branch that fails at one address and position fails there always, so that each pair
is tried once.
-/

namespace CalcFields

/-- The bounds of a match and of its groups: slot `2 * i` holds where group `i` starts and the next
slot where it ends. -/
abbrev Slots : Type := Array (Option Nat)

/-- A branch of a search: where it goes on, and the slots that it has filled. -/
structure Branch where
  address : Nat
  position : Nat
  slots : Slots

/-- A word character, or one of the first 128 when the view is narrow. -/
def isWordAt (narrow : Bool) : Option Char → Bool
  | some c => if narrow then c.isAlphanum || c == '_' else isWordChar c
  | none => false

namespace Assertion

/-- An assertion about a position looks at the characters on both sides of it. -/
def holds (a : Assertion) (narrow : Bool) (before after : Option Char) : Bool :=
  let wordBefore := isWordAt narrow before
  let wordAfter := isWordAt narrow after
  match a with
  | textStart => before.isNone
  | textEnd => after.isNone
  | lineStart => before.all (· == '\n')
  | lineEnd => after.all (· == '\n')
  | pairedLineStart => before.all fun c => c == '\n' || (c == '\r' && after != some '\n')
  | pairedLineEnd => after.all fun c => c == '\r' || (c == '\n' && before != some '\r')
  | wordBoundary => wordBefore != wordAfter
  | noWordBoundary => wordBefore == wordAfter
  | wordStart => !wordBefore && wordAfter
  | wordEnd => wordBefore && !wordAfter
  | wordStartHalf => !wordBefore
  | wordEndHalf => !wordAfter

end Assertion

/-- A compiled pattern. -/
structure Matcher where
  pattern : GroupedPattern
  program : Program
  start : Nat

namespace Matcher

/-- The matcher of a text that spells a pattern. -/
def read? (text : String) : Option Matcher :=
  (GroupedPattern.read? text).map fun pattern =>
    let (program, start) := pattern.program
    ⟨pattern, program, start⟩

/-- The character before a position. -/
def charBefore (text : Array Char) (position : Nat) : Option Char :=
  if position == 0 then none else text[position - 1]?

/-- The branches that an instruction leads to, in order of preference; none of it when it fails. -/
def follow (text : Array Char) (branch : Branch) : Instruction → List Branch
  | .consume characters next =>
    match text[branch.position]? with
    | some c =>
      if inRanges characters c then
        [{ branch with address := next, position := branch.position + 1 }]
      else []
    | none => []
  | .require a narrow next =>
    if a.holds narrow (charBefore text branch.position) text[branch.position]? then
      [{ branch with address := next }]
    else []
  | .fork first second => [{ branch with address := first }, { branch with address := second }]
  | .save slot next =>
    [{ branch with
        address := next
        slots := branch.slots.setIfInBounds slot (some branch.position) }]
  | .accept => []

/-- Runs branches in order until one accepts; the marks tell which pairs of address and position
were tried, and the fuel bounds the number of branches. -/
def run (m : Matcher) (text : Array Char) :
    Nat → Array Bool → List Branch → Option Slots × Array Bool
  | 0, tried, _ => (none, tried)
  | _, tried, [] => (none, tried)
  | fuel + 1, tried, branch :: others =>
    let mark := branch.position * m.program.size + branch.address
    if tried.getD mark true then run m text fuel tried others
    else
      let marked := tried.setIfInBounds mark true
      match m.program.getD branch.address .accept with
      | .accept => (some branch.slots, marked)
      | instruction => run m text fuel marked (follow text branch instruction ++ others)

/-- Tries so many starts one after the other. -/
def searchFrom (m : Matcher) (text : Array Char) : Nat → Nat → Array Bool → Option Slots
  | 0, _, _ => none
  | count + 1, position, tried =>
    let slots : Slots := Array.replicate (2 * m.pattern.groups + 2) none
    let fuel := 2 * m.program.size * (text.size + 1) + 2
    match run m text fuel tried [⟨m.start, position, slots⟩] with
    | (some found, _) => some found
    | (none, marked) => searchFrom m text count (position + 1) marked

/-- The first match that starts at a position or after it. -/
def search? (m : Matcher) (text : Array Char) (position : Nat) : Option Slots :=
  let marks := Array.replicate (m.program.size * (text.size + 1)) false
  searchFrom m text (text.size + 1 - position) position marks

/-- The bounds of a group of a match. -/
def bounds? (slots : Slots) (index : Nat) : Option (Nat × Nat) :=
  match slots.getD (2 * index) none, slots.getD (2 * index + 1) none with
  | some first, some last => some (first, last)
  | _, _ => none

/-- The text of a group of a match. -/
def groupText? (text : Array Char) (slots : Slots) (index : Nat) : Option String :=
  (bounds? slots index).map fun (first, last) => String.ofList (text.extract first last).toList

end Matcher

end CalcFields
