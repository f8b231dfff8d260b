import CalcFields.Command.Arguments
import CalcFields.Project.Settings

/-! A command line names a command and gives its words and options. -/

namespace CalcFields

/-- A command. -/
inductive Command where
  | init (path : String)
  | addFormula (collection field formula status : String) (sort : Option Int)
      (description : Option String)
  | listFormulas (collection : Option String)
  | removeFormula (collection field : String)
  | testFormula (formula data : String)
  | analyze (collection : Option String) (graph : Bool)
  | compute (collection data : String) (changed fields : Option (List String))
  | putRecord (collection data : String)
  | getRecord (collection id : String)
  /-- A batch over one collection, or over every one that has formulas. -/
  | batch (collection : Option String) (fields : List String) (filter : Option String)
      (pageSize : Option Nat) (dryRun : Bool)
  | reload
  | watch
deriving DecidableEq, Repr

/-- A command with the form of its output, when one is asked for. -/
structure CommandLine where
  format : Option OutputFormat
  command : Command
deriving DecidableEq, Repr

namespace CommandLine

/-- The options that every command takes. -/
def commonOptions : List OptionShape :=
  [⟨"format", some 'f', .single, fun word => (OutputFormat.ofWord? word).isSome⟩,
    .flag "verbose" (some 'v')]

/-- The form of output asked for. -/
def formatOf (arguments : Arguments) : Option OutputFormat :=
  (arguments.value? "format").bind OutputFormat.ofWord?

/-- Reads the arguments of a group of commands up to the word that chooses one. -/
def readGroup (arguments : List String) : Option (Arguments × List String) :=
  Arguments.readFrom commonOptions true .empty none arguments

/-- Reads the arguments of a command that takes so many words. -/
def readLeaf (options : List OptionShape) (least greatest : Nat) (arguments : List String) :
    Option Arguments := do
  let (read, _) ← Arguments.readFrom (commonOptions ++ options) false .empty none arguments
  if least ≤ read.words.length && read.words.length ≤ greatest then some read else none

/-- The command that a leaf gives, with the innermost form of output that was asked for. -/
def ofLeaf (outer : Option OutputFormat) (read : Arguments) (command : Command) : CommandLine :=
  ⟨(formatOf read).or outer, command⟩

/-- Reads a command on formulas. -/
def readFormula? (outer : Option OutputFormat) : List String → Option CommandLine
  | "add" :: rest => do
    let sort : OptionShape := ⟨"sort", none, .single, fun text => (wholeArgument? text).isSome⟩
    let read ← readLeaf [.single "status", sort, .single "description"] 3 3 rest
    match read.words with
    | [collection, field, formula] =>
      let command := Command.addFormula collection field formula
        ((read.value? "status").getD "published") ((read.value? "sort").bind wholeArgument?)
        (read.value? "description")
      return ofLeaf outer read command
    | _ => none
  | "list" :: rest => do
    let read ← readLeaf [] 0 1 rest
    return ofLeaf outer read (.listFormulas read.words.head?)
  | "remove" :: rest => do
    let read ← readLeaf [] 2 2 rest
    match read.words with
    | [collection, field] => return ofLeaf outer read (.removeFormula collection field)
    | _ => none
  | "test" :: rest => do
    let read ← readLeaf [.single "data"] 1 1 rest
    let formula ← read.words.head?
    return ofLeaf outer read (.testFormula formula ((read.value? "data").getD "\x7b\x7d"))
  | _ => none

/-- Reads a command on records. -/
def readRecord? (outer : Option OutputFormat) : List String → Option CommandLine
  | "put" :: rest => do
    let read ← readLeaf [.single "data"] 1 1 rest
    let collection ← read.words.head?
    return ofLeaf outer read (.putRecord collection (← read.value? "data"))
  | "get" :: rest => do
    let read ← readLeaf [] 2 2 rest
    match read.words with
    | [collection, id] => return ofLeaf outer read (.getRecord collection id)
    | _ => none
  | _ => none

/-- Reads a batch, which is over one named collection or over all. -/
def readBatch? (outer : Option OutputFormat) (arguments : List String) : Option CommandLine := do
  let size : OptionShape :=
    ⟨"batch-size", none, .single, fun text => (naturalArgument? text).isSome⟩
  let options : List OptionShape := [.flag "all" none, .list "fields", .single "filter", size,
    .flag "dry-run" none]
  let read ← readLeaf options 0 1 arguments
  if read.has "all" = read.words.isEmpty then
    let command := Command.batch read.words.head? ((read.values? "fields").getD [])
      (read.value? "filter") ((read.value? "batch-size").bind naturalArgument?)
      (read.has "dry-run")
    return ofLeaf outer read command
  else none

/-- Reads a command by its first word. -/
def readCommand? (outer : Option OutputFormat) : List String → Option CommandLine
  | "init" :: rest => do
    let read ← readLeaf [] 0 1 rest
    return ofLeaf outer read (.init (read.words.head?.getD "."))
  | "formula" :: rest => do
    let (read, chosen) ← readGroup rest
    readFormula? ((formatOf read).or outer) chosen
  | "analyze" :: rest => do
    let read ← readLeaf [.flag "graph" none] 0 1 rest
    return ofLeaf outer read (.analyze read.words.head? (read.has "graph"))
  | "compute" :: rest => do
    let read ← readLeaf [.single "data", .list "changed", .list "fields"] 1 1 rest
    let collection ← read.words.head?
    let data ← read.value? "data"
    return ofLeaf outer read
      (.compute collection data (read.values? "changed") (read.values? "fields"))
  | "record" :: rest => do
    let (read, chosen) ← readGroup rest
    readRecord? ((formatOf read).or outer) chosen
  | "run" :: rest => readBatch? outer rest
  | "reload" :: rest => do
    let read ← readLeaf [] 0 0 rest
    return ofLeaf outer read .reload
  | "watch" :: rest => do
    let read ← readLeaf [] 0 0 rest
    return ofLeaf outer read .watch
  | _ => none

/-- Reads a command line; none when the arguments name no command or do not fit it. -/
def read? (arguments : List String) : Option CommandLine := do
  let (read, chosen) ← readGroup arguments
  readCommand? (formatOf read) chosen

end CommandLine

end CalcFields
