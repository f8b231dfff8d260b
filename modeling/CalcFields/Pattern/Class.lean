import CalcFields.Pattern.Escape

/-!
A class in brackets is a union of characters, ranges, escapes and further classes. Unions may be
combined by intersection, difference and symmetric difference, from left to right.
-/

namespace CalcFields

/-- The operators between the unions of a class. -/
inductive ClassOperator where
  | intersection
  | difference
  | symmetricDifference

namespace ClassOperator

/-- The set of an operator between two sets. -/
def apply : ClassOperator → CodeSet → CodeSet → CodeSet
  | intersection, a, b => a.inter b
  | difference, a, b => a.diff b
  | symmetricDifference, a, b => a.symmDiff b

/-- A doubled mark is an operator. -/
def ofMarks? : Char → Char → Option ClassOperator
  | '&', '&' => some intersection
  | '-', '-' => some difference
  | '~', '~' => some symmetricDifference
  | _, _ => none

end ClassOperator

/-- The named classes of the first 128 characters. -/
def narrowClasses : List (String × CodeSet) := [
  ("alnum", [⟨0x30, 0x39⟩, ⟨0x41, 0x5A⟩, ⟨0x61, 0x7A⟩]),
  ("alpha", [⟨0x41, 0x5A⟩, ⟨0x61, 0x7A⟩]),
  ("ascii", [⟨0, 0x7F⟩]),
  ("blank", [⟨9, 9⟩, ⟨0x20, 0x20⟩]),
  ("cntrl", [⟨0, 0x1F⟩, ⟨0x7F, 0x7F⟩]),
  ("digit", [⟨0x30, 0x39⟩]),
  ("graph", [⟨0x21, 0x7E⟩]),
  ("lower", [⟨0x61, 0x7A⟩]),
  ("print", [⟨0x20, 0x7E⟩]),
  ("punct", [⟨0x21, 0x2F⟩, ⟨0x3A, 0x40⟩, ⟨0x5B, 0x60⟩, ⟨0x7B, 0x7E⟩]),
  ("space", [⟨9, 13⟩, ⟨0x20, 0x20⟩]),
  ("upper", [⟨0x41, 0x5A⟩]),
  ("word", [⟨0x30, 0x39⟩, ⟨0x41, 0x5A⟩, ⟨0x5F, 0x5F⟩, ⟨0x61, 0x7A⟩]),
  ("xdigit", [⟨0x30, 0x39⟩, ⟨0x41, 0x46⟩, ⟨0x61, 0x66⟩])]

/-- A named class in colons after an opening bracket, perhaps negated, with its closing bracket. -/
def readNarrowClass? (cs : List Char) : Option (Bool × CodeSet × List Char) :=
  match cs with
  | ':' :: inside =>
    let (negated, named) :=
      match inside with
      | '^' :: rest => (true, rest)
      | _ => (false, inside)
    match named.span (· != ':') with
    | (name, ':' :: ']' :: rest) =>
      (narrowClasses.lookup (String.ofList name)).map fun characters => (negated, characters, rest)
    | _ => none
  | _ => none

/-- One member of a class: a character, which may start or end a range, or a set. -/
def readMember? (flags : PatternFlags) : List Char → Option ((Char ⊕ CodeSet) × List Char)
  | [] => none
  | '\\' :: rest =>
    match readEscape? flags rest with
    | some (.character c, after) => some (.inl c, after)
    | some (.set characters, after) => some (.inr characters, after)
    | _ => none
  | c :: rest => some (.inl c, rest)

/-- A single character of a class; without the wide flag it is one of the first 128. -/
def memberSet? (flags : PatternFlags) (c : Char) : Option CodeSet :=
  if flags.wide || c.toNat < 128 then some (CodeSet.single c) else none

/-- A dash starts the second half of a range unless a bracket or another dash follows it. -/
def rangeAfter? (flags : PatternFlags) : List Char → Option (List Char)
  | '-' :: rest =>
    match flags.skip rest with
    | ']' :: _ => none
    | '-' :: _ => none
    | other => some other
  | _ => none

/-- A member of a class or a range of characters. -/
def readRangeOrMember? (flags : PatternFlags) (cs : List Char) :
    Option (CodeSet × List Char) := do
  let (first, rest) ← readMember? flags cs
  let next := flags.skip rest
  match rangeAfter? flags next, first with
  | none, .inl c => return (← memberSet? flags c, next)
  | none, .inr characters => return (characters, next)
  | some afterDash, .inl low =>
    match ← readMember? flags afterDash with
    | (.inl high, after) =>
      if high < low || !(flags.wide || high.toNat < 128) then none
      else some ([⟨low.toNat, high.toNat⟩], after)
    | _ => none
  | some _, .inr _ => none

/-- A part that is still open: the sets to its left with their operator, and its members. -/
structure ClassPart where
  left : Option (ClassOperator × CodeSet)
  members : CodeSet

/-- The set of a part with what stands to its left; sides of an operator are folded first. -/
def ClassPart.close (flags : PatternFlags) (part : ClassPart) : CodeSet :=
  let members := CodeSet.ofRanges part.members
  match part.left with
  | none => members
  | some (op, left) => op.apply (flags.fold left) (flags.fold members)

/-- Dashes at the start of a class stand for themselves, and so does a bracket in first place. -/
def readFirstMembers (flags : PatternFlags) (cs : List Char) : CodeSet × List Char :=
  match cs.span (· == '-') with
  | ([], ']' :: rest) => ([⟨0x5D, 0x5D⟩], flags.skip rest)
  | ([], other) => ([], other)
  | (_, other) => ([⟨0x2D, 0x2D⟩], flags.skip other)

mutual

/-- A class after its opening bracket, up to its closing one. -/
def readClass? (flags : PatternFlags) : Nat → List Char → Option (CodeSet × List Char)
  | 0, _ => none
  | fuel + 1, cs => do
    let (negated, inside) := match flags.skip cs with
      | '^' :: rest => (true, flags.skip rest)
      | other => (false, other)
    let (members, rest) := readFirstMembers flags inside
    let (characters, after) ← readClassParts? flags fuel ⟨none, members⟩ rest
    return (← flags.negate? negated (flags.fold characters), after)

/-- The rest of a class: members are gathered until the closing bracket or an operator. -/
def readClassParts? (flags : PatternFlags) :
    Nat → ClassPart → List Char → Option (CodeSet × List Char)
  | 0, _, _ => none
  | fuel + 1, part, cs =>
    let grown (more : CodeSet) : ClassPart := { part with members := part.members ++ more }
    match flags.skip cs with
    | [] => none
    | ']' :: rest => some (part.close flags, rest)
    | '[' :: rest =>
      match readNarrowClass? rest with
      | some (negated, characters, after) => do
        readClassParts? flags fuel (grown (← flags.negate? negated characters)) after
      | none => do
        let (characters, after) ← readClass? flags fuel rest
        readClassParts? flags fuel (grown characters) after
    | c :: rest =>
      match ClassOperator.ofMarks? c (rest.headD ' ') with
      | some op => readClassParts? flags fuel ⟨some (op, part.close flags), []⟩ (rest.drop 1)
      | none => do
        let (characters, after) ← readRangeOrMember? flags (c :: rest)
        readClassParts? flags fuel (grown characters) after

end

end CalcFields
