import CalcFields.Pattern.Syntax

/-!
A program is the list of instructions that a pattern compiles to. Each part is emitted in front of
the address that follows it, so that a matcher needs no more than an address and a position.
-/

namespace CalcFields

/-- An instruction, with the addresses to go on at. -/
inductive Instruction where
  /-- One character of a set is consumed. -/
  | consume (characters : Array CodeRange) (next : Nat)
  | require (a : Assertion) (narrow : Bool) (next : Nat)
  /-- Both addresses are tried, the first one first. -/
  | fork (first second : Nat)
  /-- The position is kept in a slot. -/
  | save (slot next : Nat)
  | accept
deriving Inhabited

/-- Instructions by their addresses. -/
abbrev Program : Type := Array Instruction

namespace Program

/-- The address of an instruction after it is added. -/
def add (program : Program) (instruction : Instruction) : Program × Nat :=
  let address := program.size
  (program.push instruction, address)

/-- A fork that prefers to go on when it is greedy, and else to stop. -/
def forkTo (greedy : Bool) (more stop : Nat) : Instruction :=
  if greedy then .fork more stop else .fork stop more

/-- Applies a step that emits code so many times, each time in front of the last address. -/
def times (step : Program → Nat → Program × Nat) : Nat → Program → Nat → Program × Nat
  | 0, program, next => (program, next)
  | count + 1, program, next =>
    let (grown, start) := step program next
    times step count grown start

/-- One more round may follow each round: the address after a round, and the start of a round. -/
def loop (step : Program → Nat → Program × Nat) (greedy : Bool) (program : Program) (next : Nat) :
    Program × Nat × Nat :=
  let (reserved, again) := program.add .accept
  let (grown, start) := step reserved again
  (grown.setIfInBounds again (forkTo greedy start next), again, start)

end Program

namespace Pattern

open Program

/-- Emits a repetition of a part whose code a step emits. -/
def emitRepeated (step : Program → Nat → Program × Nat) (nullable : Bool) (least : Nat)
    (greatest : Option Nat) (greedy : Bool) (program : Program) (next : Nat) : Program × Nat :=
  match greatest with
  | some greatest =>
    -- Each optional round is skipped to the end of the repetition.
    let optionalRound (program : Program) (after : Nat) : Program × Nat :=
      let (grown, start) := step program after
      grown.add (forkTo greedy start next)
    let (grown, start) := times optionalRound (greatest - least) program next
    times step least grown start
  | none =>
    let (grown, again, start) := loop step greedy program next
    if 0 < least then times step (least - 1) grown start
    else if nullable then
      -- A round that may match nothing is entered by a fork of its own.
      grown.add (forkTo greedy start next)
    else (grown, again)

/-- Emits the code of a pattern in front of an address; the result has the address of its start. -/
def emit : Pattern → Program → Nat → Program × Nat
  | empty, program, next => (program, next)
  | set characters, program, next => program.add (.consume characters.toArray next)
  | assertion a narrow, program, next => program.add (.require a narrow next)
  | sequence first second, program, next =>
    let (grown, start) := second.emit program next
    first.emit grown start
  | choice first second, program, next =>
    let (afterSecond, startSecond) := second.emit program next
    let (afterFirst, startFirst) := first.emit afterSecond next
    afterFirst.add (.fork startFirst startSecond)
  | group index body, program, next =>
    let (closed, closing) := program.add (.save (2 * index + 1) next)
    let (grown, start) := body.emit closed closing
    grown.add (.save (2 * index) start)
  | repeated body least greatest greedy, program, next =>
    emitRepeated body.emit body.isNullable least greatest greedy program next

end Pattern

/-- The program of a whole pattern with the address of its start. -/
def GroupedPattern.program (pattern : GroupedPattern) : Program × Nat :=
  let (grown, start) := pattern.body.emit #[.save 1 1, .accept] 0
  grown.add (.save 0 start)

end CalcFields
