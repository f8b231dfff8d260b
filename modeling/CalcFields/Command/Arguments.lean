import CalcFields.Decimal.Numeral

/-!
The arguments of a command are words and options. An option is a name after two hyphens or a letter
after one, and its value stands behind an equals sign or comes next; after two hyphens alone there
are only words.
-/

namespace CalcFields

/-- How often an option may be given, and what it takes. -/
inductive OptionForm where
  /-- No value, once at most. -/
  | flag
  /-- One value, once at most. -/
  | single
  /-- Values between commas, any number of times. -/
  | list
deriving DecidableEq, Repr

/-- An option that a command knows. -/
structure OptionShape where
  name : String
  letter : Option Char
  form : OptionForm
  /-- The values that are allowed. -/
  accepts : String → Bool

namespace OptionShape

/-- An option without a value. -/
def flag (name : String) (letter : Option Char) : OptionShape :=
  ⟨name, letter, .flag, fun _ => false⟩

/-- An option with one value of any kind. -/
def single (name : String) : OptionShape := ⟨name, none, .single, fun _ => true⟩

/-- An option with values between commas. -/
def list (name : String) : OptionShape := ⟨name, none, .list, fun _ => true⟩

end OptionShape

/-- The words and the values of options read so far. -/
structure Arguments where
  words : List String
  /-- Every time that an option was given, with its values. -/
  given : List (String × List String)

namespace Arguments

/-- Nothing read so far. -/
def empty : Arguments := ⟨[], []⟩

/-- An option was given. -/
def has (arguments : Arguments) (name : String) : Bool :=
  (arguments.given.lookup name).isSome

/-- The values of all times that an option was given, none when it was not. -/
def values? (arguments : Arguments) (name : String) : Option (List String) :=
  if arguments.has name then
    some ((arguments.given.filter (·.1 = name)).flatMap Prod.snd)
  else none

/-- The value of an option. -/
def value? (arguments : Arguments) (name : String) : Option String :=
  (arguments.values? name).bind List.head?

/-- Adds a flag, unless it was given before. -/
def addFlag? (arguments : Arguments) (shape : OptionShape) : Option Arguments :=
  if arguments.has shape.name then none
  else some { arguments with given := arguments.given ++ [(shape.name, [])] }

/-- Adds the value of an option, unless it is not allowed or the option cannot be given again. -/
def addValue? (arguments : Arguments) (shape : OptionShape) (text : String) : Option Arguments :=
  let values := if shape.form = .list then text.splitOn "," else [text]
  if !shape.accepts text || (shape.form = .single && arguments.has shape.name) then none
  else some { arguments with given := arguments.given ++ [(shape.name, values)] }

/-- An argument looks like an option when more than nothing follows a hyphen. -/
def isOption (argument : String) : Bool :=
  argument.startsWith "-" && argument != "-"

/-- Cuts a text at the first equals sign, if there is one. -/
def cutAtEquals (cs : List Char) : String × Option String :=
  let name := String.ofList (cs.takeWhile (· ≠ '='))
  match cs.dropWhile (· ≠ '=') with
  | [] => (name, none)
  | _ :: rest => (name, some (String.ofList rest))

/-- Reads an option by its name; an option that still needs its value is left over. -/
def readNamed (shapes : List OptionShape) (done : Arguments) (cs : List Char) :
    Option (Arguments × Option OptionShape) := do
  let (name, attached) := cutAtEquals cs
  let shape ← shapes.find? (·.name = name)
  match attached, shape.form with
  | none, .flag => return (← done.addFlag? shape, none)
  | some _, .flag => none
  | none, _ => return (done, some shape)
  | some text, _ => return (← done.addValue? shape text, none)

/-- Reads options by their letters: flags, and perhaps one with a value at the end. -/
def readLetters (shapes : List OptionShape) (done : Arguments) :
    List Char → Option (Arguments × Option OptionShape)
  | [] => some (done, none)
  | letter :: rest => do
    let shape ← shapes.find? (·.letter = some letter)
    match shape.form, rest with
    | .flag, _ => readLetters shapes (← done.addFlag? shape) rest
    | _, [] => return (done, some shape)
    | _, '=' :: text => return (← done.addValue? shape (String.ofList text), none)
    | _, text => return (← done.addValue? shape (String.ofList text), none)

/-- Reads an argument that looks like an option. -/
def readOption (shapes : List OptionShape) (done : Arguments) (argument : String) :
    Option (Arguments × Option OptionShape) :=
  match argument.toList with
  | '-' :: '-' :: name => readNamed shapes done name
  | _ :: letters => readLetters shapes done letters
  | [] => none

/-- Reads options and words, after an option that still needs its value if there is one. For a group
of commands it stops at the first word, which chooses one of them, and gives what is left over. -/
def readFrom (shapes : List OptionShape) (group : Bool) :
    Arguments → Option OptionShape → List String → Option (Arguments × List String)
  | done, none, [] => some (done, [])
  | _, some _, [] => none
  | done, some shape, text :: rest =>
    if isOption text then none
    else
      match done.addValue? shape text with
      | none => none
      | some next => readFrom shapes group next none rest
  | done, none, argument :: rest =>
    if argument = "--" then
      if group then none else some ({ done with words := done.words ++ rest }, [])
    else if isOption argument then
      match readOption shapes done argument with
      | none => none
      | some (next, pending) => readFrom shapes group next pending rest
    else if group then some (done, argument :: rest)
    else readFrom shapes group { done with words := done.words ++ [argument] } none rest

end Arguments

/-- A whole number of 64 bits with a sign. -/
def wholeArgument? (text : String) : Option Int :=
  let (negative, digits) := takeSign text.toList
  if digits.isEmpty || !digits.all Char.isDigit then none
  else
    let size : Int := digitsValue digits
    let n := if negative then -size else size
    if minInt64 ≤ n && n ≤ maxInt64 then some n else none

/-- A natural number of 64 bits. -/
def naturalArgument? (text : String) : Option Nat :=
  let (negative, digits) := takeSign text.toList
  if negative || digits.isEmpty || !digits.all Char.isDigit then none
  else
    let n := digitsValue digits
    if n < Nat.pow 2 64 then some n else none

end CalcFields
