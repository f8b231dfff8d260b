import CalcFields.Pattern.Class

/-!
Reading a pattern: alternatives between bars, parts one after another, repetition marks behind a
part, and groups in parentheses. A text that is no pattern, or one too large, has no reading.
-/

namespace CalcFields

/-- The state of reading: what is left, the flags in force and the groups met so far. -/
structure PatternState where
  rest : List Char
  flags : PatternFlags
  groups : Nat
  names : List (String × Nat)

namespace Pattern

/-- Parts one after another, from the last to the first; a change of flags is no part. -/
def ofParts (parts : List (Option Pattern)) : Pattern :=
  match parts.reduceOption with
  | [] => empty
  | last :: others => others.foldl (fun tail part => sequence part tail) last

/-- Alternatives from the last to the first. -/
def ofAlternatives (last : Pattern) (others : List Pattern) : Pattern :=
  others.foldl (fun tail part => choice part tail) last

/-- The set of a literal character under the flags. -/
def ofChar (flags : PatternFlags) (c : Char) : Pattern :=
  set (flags.fold (CodeSet.single c))

/-- The pattern of an escape under the flags. -/
def ofEscape (flags : PatternFlags) : Escape → Pattern
  | .character c => ofChar flags c
  | .set characters => set characters
  | .assertion a => assertion a !flags.wide

end Pattern

/-- The greatest bound of a repetition. -/
def maxRepetition : Nat := Nat.pow 2 32 - 1

/-- A bound of a repetition with blanks around it; without digits there is none. -/
def takeBound? (flags : PatternFlags) (cs : List Char) : Option (Option Nat × List Char) :=
  let isBoundPart (c : Char) : Bool := c.isDigit || (flags.verbose && isBlank c)
  let (spelled, rest) := (trimFront cs).span isBoundPart
  let digits := spelled.filter Char.isDigit
  let bound := digitsValue digits
  if digits.isEmpty then some (none, trimFront rest)
  else if bound ≤ maxRepetition then some (some bound, trimFront rest)
  else none

/-- The bounds of a repetition in braces, the lower one always written. -/
def readBounds? (flags : PatternFlags) (cs : List Char) :
    Option (Nat × Option Nat × List Char) := do
  let (least, rest) ← takeBound? flags cs
  let least ← least
  match rest with
  | '}' :: after => return (least, some least, after)
  | ',' :: more =>
    match flags.skip more with
    | '}' :: after => return (least, none, after)
    | other =>
      let (greatest, last) ← takeBound? flags other
      let greatest ← greatest
      match last with
      | '}' :: after => if greatest < least then none else some (least, some greatest, after)
      | _ => none
  | _ => none

/-- A question mark after a repetition makes it lazy, and the flags may swap the two. -/
def readGreed (flags : PatternFlags) : List Char → Bool × List Char
  | '?' :: rest => (flags.swapGreed, rest)
  | other => (!flags.swapGreed, other)

/-- The last part becomes a repetition of itself; without one, nothing is repeated. -/
def repeatLast? (least : Nat) (greatest : Option Nat) (greedy : Bool) :
    List (Option Pattern) → Option (List (Option Pattern))
  | some part :: others => some (some (.repeated part least greatest greedy) :: others)
  | _ => none

/-- The characters that start a group name. -/
def startsGroupName (c : Char) : Bool :=
  c == '_' || inRanges (flagRanges "Alphabetic") c

/-- The characters of a group name. -/
def isGroupNameChar (c : Char) : Bool :=
  startsGroupName c || ['.', '[', ']'].contains c ||
    ((categorySet? "n".toList).getD []).any (·.holds c.toNat)

/-- A group name up to its closing angle bracket. -/
def readGroupName? (cs : List Char) : Option (String × List Char) :=
  match cs.span (· != '>') with
  | (first :: others, _ :: rest) =>
    if startsGroupName first && others.all isGroupNameChar then
      some (String.ofList (first :: others), rest)
    else none
  | _ => none

/-- The start of a group after its parenthesis. -/
inductive GroupHead where
  | capturing (name : Option String)
  | plain (flags : PatternFlags)
  /-- A change of flags for the rest of the group around. -/
  | flagsOnly (flags : PatternFlags)

/-- Flag letters up to a colon or a parenthesis, each at most once and off after a dash. -/
def readFlags? (flags : PatternFlags) (seen : List Char) :
    List Char → Option (GroupHead × List Char)
  | [] => none
  | ':' :: rest => if seen.head? == some '-' then none else some (.plain flags, rest)
  | ')' :: rest =>
    if seen.isEmpty || seen.head? == some '-' then none else some (.flagsOnly flags, rest)
  | letter :: rest =>
    if seen.contains letter then none
    else if letter == '-' then readFlags? flags ('-' :: seen) rest
    else
      match flags.set? letter (!seen.contains '-') with
      | some changed => readFlags? changed (letter :: seen) rest
      | none => none

/-- The head of a group; one that looks around is refused. -/
def readGroupHead? (flags : PatternFlags) : List Char → Option (GroupHead × List Char)
  | '?' :: '=' :: _ => none
  | '?' :: '!' :: _ => none
  | '?' :: '<' :: '=' :: _ => none
  | '?' :: '<' :: '!' :: _ => none
  | '?' :: 'P' :: '<' :: rest =>
    (readGroupName? rest).map fun (name, after) => (.capturing (some name), after)
  | '?' :: '<' :: rest =>
    (readGroupName? rest).map fun (name, after) => (.capturing (some name), after)
  | '?' :: rest => readFlags? flags [] rest
  | other => some (.capturing none, other)

namespace PatternState

/-- Opens a group of a number of its own; a name may be given once only. -/
def openGroup? (state : PatternState) (name : Option String) : Option PatternState :=
  let index := state.groups + 1
  match name with
  | none => some { state with groups := index }
  | some name =>
    if state.names.any (·.1 == name) then none
    else some { state with groups := index, names := (name, index) :: state.names }

/-- Leaves a group through its closing parenthesis, back under the flags around it. -/
def leaveGroup? (inside : PatternState) (around : PatternFlags) : Option PatternState :=
  match inside.rest with
  | ')' :: rest => some { inside with rest := rest, flags := around }
  | _ => none

end PatternState

mutual

/-- Alternatives up to a closing parenthesis or the end: those before and the parts of the last one
are given from the last to the first. -/
def readAlternatives? :
    Nat → List Pattern → List (Option Pattern) → PatternState → Option (Pattern × PatternState)
  | 0, _, _, _ => none
  | fuel + 1, others, parts, state =>
    let flags := state.flags
    let after (rest : List Char) : PatternState := { state with rest := rest }
    let repetition (least : Nat) (greatest : Option Nat) (rest : List Char) :
        Option (Pattern × PatternState) := do
      let (greedy, rest) := readGreed flags rest
      let parts ← repeatLast? least greatest greedy parts
      readAlternatives? fuel others parts (after rest)
    match flags.skip state.rest with
    | [] => some (.ofAlternatives (.ofParts parts) others, after [])
    | ')' :: rest => some (.ofAlternatives (.ofParts parts) others, after (')' :: rest))
    | '|' :: rest => readAlternatives? fuel (.ofParts parts :: others) [] (after rest)
    | '?' :: rest => repetition 0 (some 1) rest
    | '*' :: rest => repetition 0 none rest
    | '+' :: rest => repetition 1 none rest
    | '{' :: rest => do
      let (least, greatest, rest) ← readBounds? flags rest
      repetition least greatest (flags.skip rest)
    | '(' :: rest => do
      let (part, state) ← readGroup? fuel (after (flags.skip rest))
      readAlternatives? fuel others (part :: parts) state
    | '[' :: rest => do
      let (characters, rest) ← readClass? flags fuel rest
      readAlternatives? fuel others (some (.set characters) :: parts) (after rest)
    | '\\' :: rest => do
      let (escape, rest) ← readEscape? flags rest
      readAlternatives? fuel others (some (.ofEscape flags escape) :: parts) (after rest)
    | '.' :: rest => do
      let characters ← flags.dotSet?
      readAlternatives? fuel others (some (.set characters) :: parts) (after rest)
    | '^' :: rest =>
      readAlternatives? fuel others (some (.assertion flags.startAssertion false) :: parts)
        (after rest)
    | '$' :: rest =>
      readAlternatives? fuel others (some (.assertion flags.endAssertion false) :: parts)
        (after rest)
    | c :: rest => readAlternatives? fuel others (some (.ofChar flags c) :: parts) (after rest)

/-- A group after its opening parenthesis, or a change of flags, which is no part. -/
def readGroup? : Nat → PatternState → Option (Option Pattern × PatternState)
  | 0, _ => none
  | fuel + 1, state => do
    let (head, rest) ← readGroupHead? state.flags state.rest
    let state := { state with rest := rest }
    match head with
    | .flagsOnly flags => return (none, { state with flags := flags })
    | .plain flags =>
      let (body, inside) ← readAlternatives? fuel [] [] { state with flags := flags }
      return (some body, ← inside.leaveGroup? state.flags)
    | .capturing name =>
      let opened ← state.openGroup? name
      let (body, inside) ← readAlternatives? fuel [] [] opened
      return (some (.group opened.groups body), ← inside.leaveGroup? state.flags)

end

/-- The pattern that a text spells. -/
def GroupedPattern.read? (text : String) : Option GroupedPattern := do
  let cs := text.toList
  let start : PatternState := ⟨cs, .initial, 0, []⟩
  let (body, stop) ← readAlternatives? (2 * cs.length + 2) [] [] start
  if stop.rest.isEmpty && body.size ≤ Pattern.sizeLimit then
    some ⟨body, stop.groups, stop.names⟩
  else none

end CalcFields
