import CalcFields.Command.Line
import CalcFields.Command.Report
import CalcFields.Project.Basic

/-!
A command runs on a workspace: it changes the file tree, prints, and ends well or with an error that
leaves in place what was written and printed before it.
-/

namespace CalcFields

/-- Why a command ends with an error. -/
inductive CommandError where
  | project (cause : ProjectError)
  | store (cause : StoreError)
  | definitionsUnread (cause : StoreError)
  | definitionUnsaved (d : Definition) (cause : StoreError)
  | unknownStatus (word : String)
  | uncompiled (cause : CompileError)
  | incompleteDefinition
  | noDefinition (collection field : String)
  | noRecord (collection id : String)
  | recordVanished (collection id : String)
  | noFormulas (collection : String)
  | malformedData (text : String)
  | noObject (text : String)
  | invalidFormula (validation : Validation)
  | batch (cause : BatchError)
  /-- None of the requested fields is calculated in any collection. -/
  | noMatchingFields (requested : List String)
  | reload (cause : ReloadError)

/-- The message of a command error. -/
def CommandError.message : CommandError → String
  | project cause => cause.message
  | store cause => cause.message
  | definitionsUnread cause => "Failed to load formula definitions: " ++ cause.message
  | definitionUnsaved d cause =>
    "Failed to save formula for " ++ d.collection ++ "." ++ d.field ++ ": " ++ cause.message
  | unknownStatus word => Status.unknownMessage word
  | uncompiled cause => cause.message
  | incompleteDefinition => "Collection, field and formula must not be empty"
  | noDefinition collection field => "No formula for " ++ collection ++ "." ++ field
  | noRecord collection id => "No record " ++ id ++ " in " ++ collection
  | recordVanished collection id =>
    "Record " ++ id ++ " vanished from " ++ collection ++ " after write"
  | noFormulas collection => "No local formulas for collection " ++ collection
  | malformedData text => "Invalid JSON: " ++ text
  | noObject text => "Expected a JSON object, got: " ++ text
  | invalidFormula validation => validation.message
  | batch cause => cause.message
  | noMatchingFields requested =>
    "None of the requested fields (" ++ ", ".intercalate requested ++
      ") match local formulas in any collection."
  | reload cause => cause.message

/-- What a command works on. -/
structure Workspace where
  files : Files
  /-- The trees that the reads of a reload find after the first one; the last one stays. -/
  later : List Files
  /-- Where the command is given. -/
  directory : Path
  /-- The user's own settings. -/
  user : Option String
  now : Instant
  /-- What has been printed. -/
  printed : String

/-- A part of a command. -/
abbrev CommandStep (α : Type) : Type := ExceptT CommandError (StateM Workspace) α

namespace CommandStep

/-- Prints a text. -/
def print (text : String) : CommandStep Unit :=
  modify fun workspace => { workspace with printed := workspace.printed ++ text }

/-- Prints a line. -/
def printLine (line : String) : CommandStep Unit := print (line ++ "\n")

/-- Prints a document on a line. -/
def printJson (document : Json) : CommandStep Unit := printLine document.write

/-- Prints that a command has done its work. -/
def printSuccess (format : OutputFormat) (message : String) : CommandStep Unit :=
  match format with
  | .text => printLine message
  | .json => printJson (.object [("message", .string message), ("success", .bool true)])

/-- Goes on with a result, or ends with its error. -/
def orEnd {ε α : Type} (wrap : ε → CommandError) : Except ε α → CommandStep α
  | .ok found => pure found
  | .error e => throw (wrap e)

/-- Puts a changed tree into the workspace. -/
def setFiles (files : Files) : CommandStep Unit :=
  modify fun workspace => { workspace with files := files }

/-- Opens the project that the command is given in. -/
def project : CommandStep Project := do
  let workspace ← get
  orEnd .project (Project.openFrom workspace.files workspace.user workspace.directory)

/-- The definitions of a project. -/
def definitions (project : Project) : CommandStep DefinitionStore :=
  return project.definitions (← get).files

/-- The records of a project. -/
def records (project : Project) : CommandStep LineStore :=
  return project.records (← get).files

/-- The snapshot of a project's definitions in one read. -/
def snapshot (project : Project) : CommandStep Snapshot := do
  let found ← orEnd .definitionsUnread (← definitions project).all
  return (Snapshot.build found .empty).1

/-- The record that an argument spells. -/
def recordOf (text : String) : CommandStep Record :=
  match Json.read? text with
  | none => throw (.malformedData text)
  | some (.object members) => return Record.ofJson (.object members)
  | some _ => throw (.noObject text)

/-- Prints the values that a pass gave and the fields that failed, each line after a margin. -/
def printOutcome (margin : String) (outcome : Outcome) : CommandStep Unit := do
  for (field, v) in outcome.updates.entries do
    printLine (margin ++ field ++ " = " ++ v.display)
  for e in outcome.errors do
    printLine (margin ++ e.field ++ ": error: " ++ e.error.message)

end CommandStep

namespace Command

open CommandStep

/-- Makes a project. -/
def runInit (format : OutputFormat) (path : String) : CommandStep Unit := do
  let workspace ← get
  let root := workspace.directory.given path
  let files ← orEnd .project (Project.create workspace.files root)
  setFiles files
  let made ← orEnd .project (Project.openAt files workspace.user root)
  printSuccess format ("Initialized recalc project at " ++ made.root.text)

/-- Adds a definition or replaces the one of its key. -/
def runAddFormula (format : OutputFormat) (d : Definition) (status : String) :
    CommandStep Unit := do
  let project ← project
  let status ← orEnd .unknownStatus (Status.read status)
  let _ ← orEnd .uncompiled (Formula.compile d.formula)
  let d := { d with status := status }
  if !d.isComplete then throw .incompleteDefinition
  let (replaced, store) ← orEnd (.definitionUnsaved d) ((← definitions project).upsert d)
  setFiles store.files
  let usable := isLocal d.formula
  match format with
  | .json =>
    printJson (.object [("collection", .string d.collection), ("field", .string d.field),
      ("is_local", .bool usable), ("replaced", .bool replaced),
      ("status", .string d.status.word)])
  | .text =>
    let verb := if replaced then "Updated" else "Added"
    printLine (verb ++ " formula for " ++ d.collection ++ "." ++ d.field)
    if !usable then
      printLine "Note: formula uses relations or aggregations and will not be computed locally"

/-- A text filled up with blanks to a width. -/
def padTo (width : Nat) (text : String) : String :=
  text ++ String.ofList (List.replicate (width - text.length) ' ')

/-- A row of the list of definitions. -/
def definitionRow (collection field status formula : String) : String :=
  padTo 16 collection ++ " " ++ padTo 20 field ++ " " ++ status ++ " " ++ formula

/-- Lists definitions in their order. -/
def runListFormulas (format : OutputFormat) (collection : Option String) : CommandStep Unit := do
  let store ← definitions (← project)
  let found ← orEnd .store <|
    match collection with
    | some name => store.ofCollection name
    | none => store.all
  let sorted := Definition.sorted found
  match format with
  | .json => printJson (.array (sorted.map Definition.toJson))
  | .text =>
    if sorted.isEmpty then printLine "No formulas defined"
    else
      printLine (definitionRow "COLLECTION" "FIELD" (padTo 10 "STATUS") "FORMULA")
      printLine (String.ofList (List.replicate 70 '-'))
      for d in sorted do
        printLine (definitionRow d.collection d.field d.status.word d.formula)

/-- Removes the definition of a key. -/
def runRemoveFormula (format : OutputFormat) (collection field : String) : CommandStep Unit := do
  let store ← definitions (← project)
  let (removed, left) ← orEnd .store (store.remove (collection, field))
  setFiles left.files
  if !removed then throw (.noDefinition collection field)
  printSuccess format ("Removed formula for " ++ collection ++ "." ++ field)

/-- Tries a formula on a sample. -/
def runTestFormula (format : OutputFormat) (formula data : String) : CommandStep Unit := do
  let sample ← recordOf data
  let validation := Validation.ofFormula formula sample (← get).now
  match format, validation.outcome with
  | .json, _ => printJson validation.toJson
  | .text, .ok _ =>
    printLine validation.message
    if !validation.fields.isEmpty then
      printLine ("Fields: " ++ ", ".intercalate validation.fields)
  | .text, .error _ => pure ()
  match validation.outcome with
  | .ok _ => pure ()
  | .error _ => throw (.invalidFormula validation)

/-- Prints the analysis of a collection. -/
def printAnalysis (graph : Bool) (formulas : CollectionFormulas) : CommandStep Unit := do
  let analysis := formulas.analysis
  printLine (formulas.name ++ " (" ++ toString formulas.size ++ " formula(s))")
  printLine ("  order:  " ++ " → ".intercalate analysis.order)
  let levels := analysis.order.map fun field =>
    field ++ "=" ++ toString ((analysis.levels.get? field).getD 0)
  printLine ("  levels: " ++ ", ".intercalate levels)
  if analysis.hasCycles then
    for warning in analysis.cycleWarnings do
      printLine ("  cycle:  " ++ warning)
  else printLine "  cycles: none"
  if graph then
    printLine ""
    print formulas.graph.describe
  printLine ""

/-- The document of a collection, with the description of its graph when it is asked for. -/
def analysisToJson (graph : Bool) (formulas : CollectionFormulas) : Json :=
  match formulas.toJson with
  | .object members =>
    .object (members ++ if graph then [("graph", .string formulas.graph.describe)] else [])
  | other => other

/-- Prints omissions, each on a line. -/
def printOmissions (verb : String) (omissions : List Omission) : CommandStep Unit := do
  for o in omissions do
    printLine (verb ++ " " ++ o.collection ++ "." ++ o.field ++ ": " ++ o.reason)

/-- Analyzes one collection or all. -/
def runAnalyze (format : OutputFormat) (collection : Option String) (graph : Bool) :
    CommandStep Unit := do
  let snapshot ← snapshot (← project)
  let chosen ← match collection with
    | none => pure snapshot.collections.values
    | some name =>
      match snapshot.collection? name with
      | some formulas => pure [formulas]
      | none => throw (.noFormulas name)
  match format with
  | .json =>
    let document := Json.object [("collections", .array (chosen.map (analysisToJson graph))),
      ("report", snapshot.report.toJson)]
    printJson document.sorted
  | .text =>
    if chosen.isEmpty then printLine "No local formulas defined"
    for formulas in chosen do
      printAnalysis graph formulas
    printOmissions "Skipped" snapshot.report.nonLocal
    printOmissions "Failed" snapshot.report.failed

/-- Computes the updates of a record and stores nothing. -/
def runCompute (format : OutputFormat) (collection data : String)
    (changed fields : Option (List String)) : CommandStep Unit := do
  let snapshot ← snapshot (← project)
  let record ← recordOf data
  let outcome := snapshot.recompute collection record changed fields (← get).now
  match format with
  | .json => printJson outcome.toJson
  | .text =>
    if !outcome.hasChanges then printLine "No changes"
    printOutcome "" outcome

/-- Puts a record and then stores the updates that its fields cause. -/
def runPutRecord (format : OutputFormat) (collection data : String) : CommandStep Unit := do
  let project ← project
  let snapshot ← snapshot project
  let payload ← recordOf data
  let changed := payload.keys.filter (· ≠ idField)
  let (id, stored) ← orEnd .store (RecordStore.put (← records project) collection payload)
  setFiles stored.files
  let some record ← orEnd .store (RecordStore.readOne stored collection id none)
    | throw (.recordVanished collection id)
  let outcome := snapshot.recompute collection record (some changed) none (← get).now
  if outcome.hasChanges then
    let (_, updated) ← orEnd .store (RecordStore.updateOne stored collection id outcome.updates)
    setFiles updated.files
  match format with
  | .json =>
    let document := Json.object [("id", .string id), ("updates", outcome.updates.toJson),
      ("errors", .array (outcome.errors.map FieldError.toJson))]
    printJson document.sorted
  | .text =>
    printLine ("Stored " ++ collection ++ " record " ++ id)
    printOutcome "  " outcome

/-- Shows a record. -/
def runGetRecord (format : OutputFormat) (collection id : String) : CommandStep Unit := do
  let store ← records (← project)
  let some record ← orEnd .store (RecordStore.readOne store collection id none)
    | throw (.noRecord collection id)
  match format with
  | .json => printJson record.toJson
  | .text =>
    for (field, v) in record.entries do
      printLine (field ++ "\t" ++ v.text)

/-- Runs a batch over one collection and prints its line; over all collections, one without any of
the requested fields is skipped and gives no report. -/
def runOneBatch (format : OutputFormat) (project : Project) (snapshot : Snapshot) (all : Bool)
    (request : BatchRequest) : CommandStep (Option BatchReport) := do
  let store ← records project
  let (result, left) := snapshot.runBatch request (← get).now store
  setFiles left.files
  match result with
  | .ok report =>
    if format = .text then printLine (report.collection ++ ": " ++ report.message)
    return some report
  | .error (.noMatchingFields collection requested) =>
    if !all then throw (.batch (.noMatchingFields collection requested))
    if format = .text then
      printLine (collection ++ ": skipped, no requested field is a local formula")
    return none
  | .error e => throw (.batch e)

/-- Runs a batch over one collection or all. -/
def runBatch (format : OutputFormat) (collection : Option String) (fields : List String)
    (filter : Option String) (pageSize : Option Nat) (dryRun : Bool) : CommandStep Unit := do
  let project ← project
  let snapshot ← snapshot project
  let filter ← match filter with
    | some text => recordOf text
    | none => pure .empty
  let names := match collection with
    | some name => [name]
    | none => snapshot.collections.keys
  let results ← names.mapM fun name =>
    runOneBatch format project snapshot collection.isNone
      ⟨name, fields, filter, pageSize.getD project.settings.pageSize, dryRun⟩
  let reports := results.filterMap id
  if reports.isEmpty && !results.isEmpty then throw (.noMatchingFields fields)
  match format, collection with
  | .json, none => printJson (.array (reports.map BatchReport.toJson))
  | .json, some _ => reports.head?.forM fun report => printJson report.toJson
  | .text, _ => if reports.isEmpty then printLine "No local formulas defined"

/-- The definitions that a read of a reload finds. -/
def readDefinitions (project : Project) (workspace : Workspace) (attempt : Nat) : DefinitionRead :=
  let trees := workspace.files :: workspace.later
  let files := (trees[attempt - 1]?).getD ((trees.getLast?).getD workspace.files)
  (project.definitions files).all.mapError StoreError.message

/-- Reads the definitions until they settle and reports on them. -/
def runReload (format : OutputFormat) : CommandStep Unit := do
  let project ← project
  let read := readDefinitions project (← get)
  let (report, _) ← orEnd .reload (Registry.blank.reload read project.settings.attempts)
  match format with
  | .json => printJson report.toJson
  | .text =>
    let attempts := toString report.attempts ++ " attempt(s)"
    let state :=
      if report.stabilized then "stabilized after " ++ attempts
      else "not stable after " ++ attempts ++ ", using last load"
    printLine ("Formulas reloaded (" ++ state ++ ")")
    printLine report.message
    if 0 < report.nonLocal then
      printLine ("Skipped " ++ toString report.nonLocal ++ " non-local formula(s)")
    if 0 < report.failed then
      printLine (toString report.failed ++ " formula(s) failed to compile")

/-- Runs a command; watching starts with a reload. -/
def run (format : OutputFormat) : Command → CommandStep Unit
  | init path => runInit format path
  | addFormula collection field formula status sort description =>
    runAddFormula format ⟨collection, field, formula, .published, sort, description⟩ status
  | listFormulas collection => runListFormulas format collection
  | removeFormula collection field => runRemoveFormula format collection field
  | testFormula formula data => runTestFormula format formula data
  | analyze collection graph => runAnalyze format collection graph
  | compute collection data changed fields => runCompute format collection data changed fields
  | putRecord collection data => runPutRecord format collection data
  | getRecord collection id => runGetRecord format collection id
  | batch collection fields filter pageSize dryRun =>
    runBatch format collection fields filter pageSize dryRun
  | reload => runReload format
  | watch => runReload format

end Command

namespace CommandLine

/-- The form of output in effect: the one asked for, or else the user's usual one, which is looked
up along with the settings of the project around. -/
def chooseFormat (line : CommandLine) : CommandStep OutputFormat := do
  match line.format with
  | some format => return format
  | none =>
    let workspace ← get
    let format ← CommandStep.orEnd .project (Project.userFormat workspace.user)
    match Project.find? workspace.files workspace.directory with
    | none => return format
    | some root =>
      let _ ← CommandStep.orEnd .project (Project.loadSettings workspace.files root)
      return format

/-- Runs a command line: its result, and the workspace as it leaves it. -/
def perform (line : CommandLine) (workspace : Workspace) : Except CommandError Unit × Workspace :=
  let action : CommandStep Unit := do
    let format ← line.chooseFormat
    line.command.run format
  (action.run workspace : Except CommandError Unit × Workspace)

end CommandLine

end CalcFields
