import CalcFields.Text.CodeSet

/-!
Patterns are the regular expressions of the text functions: sets of characters, assertions about a
position, sequences, ordered choices, repetitions and numbered groups.
-/

namespace CalcFields

/-- What a position between two characters is asked to be. -/
inductive Assertion where
  | textStart
  | textEnd
  | lineStart
  | lineEnd
  /-- Line bounds where a carriage return before a line feed belongs to the line end. -/
  | pairedLineStart
  | pairedLineEnd
  | wordBoundary
  | noWordBoundary
  | wordStart
  | wordEnd
  /-- No word character before the position. -/
  | wordStartHalf
  /-- No word character after the position. -/
  | wordEndHalf
deriving DecidableEq, Repr

/-- A regular expression. -/
inductive Pattern where
  | empty
  | set (characters : CodeSet)
  /-- An assertion whose word characters are those of the first 128 characters when it is narrow. -/
  | assertion (a : Assertion) (narrow : Bool)
  | sequence (first second : Pattern)
  /-- The first alternative is preferred. -/
  | choice (first second : Pattern)
  | group (index : Nat) (body : Pattern)
  | repeated (body : Pattern) (least : Nat) (greatest : Option Nat) (greedy : Bool)
deriving Inhabited

namespace Pattern

/-- A pattern is nullable when it can match the empty text. -/
def isNullable : Pattern → Bool
  | empty => true
  | set _ => false
  | assertion _ _ => true
  | sequence first second => first.isNullable && second.isNullable
  | choice first second => first.isNullable || second.isNullable
  | group _ body => body.isNullable
  | repeated body least _ _ => least == 0 || body.isNullable

/-- The size of one instruction. -/
def instructionSize : Nat := 32

/-- The size of the instructions for a set grows with its ranges. -/
def setSize (characters : CodeSet) : Nat :=
  if characters.all fun range => range.last < 128 then instructionSize + 8 * characters.length
  else 2 * instructionSize + 40 * characters.length

/-- The size of the instructions for a pattern. -/
def size : Pattern → Nat
  | empty => instructionSize
  | set characters => setSize characters
  | assertion _ _ => instructionSize
  | sequence first second => first.size + second.size
  | choice first second => first.size + second.size + 2 * instructionSize
  | group _ body => body.size + 2 * instructionSize
  | repeated body least greatest _ =>
    max least (greatest.getD (least + 1)) * (body.size + instructionSize) + instructionSize

/-- Patterns of a greater size are refused. -/
def sizeLimit : Nat := 10 * Nat.pow 2 20

end Pattern

/-- A pattern with its groups: their number, without the whole, and the names of the named ones. -/
structure GroupedPattern where
  body : Pattern
  groups : Nat
  names : List (String × Nat)

end CalcFields
