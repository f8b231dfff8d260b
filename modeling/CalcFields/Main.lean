import CalcFields.Command.Run
import Std.Time.DateTime

/-!
The program reads the files that a command may need into a tree, runs the command on the tree, and
writes back the places that changed.
-/

namespace CalcFields

/-- What stands at a place on disk; the code 21 says that it is a directory. -/
def nodeOnDisk? (path : Path) : IO (Option FileNode) := do
  match ← (IO.FS.readFile path.text).toBaseIO with
  | .ok content => return some (.text content)
  | .error (.inappropriateType _ 21 _) => return some .directory
  | .error (.userError message) => throw (.userError message)
  | .error _ => return none

/-- Adds what stands at a place on disk to a tree. -/
def loadPlace (files : Files) (path : Path) : IO Files := do
  match ← nodeOnDisk? path with
  | some node => return files.place path.names node
  | none => return files.remove path.names

/-- Adds what stands at several places on disk to a tree. -/
def loadPlaces (files : Files) (paths : List Path) : IO Files :=
  paths.foldlM loadPlace files

/-- The directories from the top down to a place. -/
def directoriesTo (names : List String) : List Path :=
  (List.range (names.length + 1)).map fun depth => .ofNames (names.take depth)

/-- The places of a project apart from its records. -/
def fixedPlaces (root : Path) : List Path :=
  let file := Project.definitionFile root
  [Project.directoryOf root, Project.settingsFile root, file.path, file.draft,
    Project.recordDirectory root]

/-- The places of the records of a collection. -/
def recordPlaces (root : Path) (collection : String) : List Path :=
  if LineStore.isName collection then
    let file : LineFile := ⟨Project.recordDirectory root, collection⟩
    [file.path, file.draft]
  else []

/-- The directory that a command names. -/
def Command.directory? : Command → Option String
  | .init path => some path
  | _ => none

/-- The collections that a command names. -/
def Command.collections : Command → List String
  | .putRecord collection _ => [collection]
  | .getRecord collection _ => [collection]
  | .batch collection _ _ _ _ => collection.toList
  | _ => []

/-- The collections of the definitions that can be read. -/
def definedCollections (files : Files) (root : Path) : List String :=
  match (⟨files, Project.definitionFile root⟩ : DefinitionStore).all with
  | .ok definitions => (definitions.map (·.collection)).eraseDups
  | .error _ => []

/-- Loads what a command given in a directory may need. -/
def loadFiles (directory : Path) (command : Command) : IO Files := do
  let target := (command.directory?.map directory.given).getD directory
  let roots := directoriesTo directory.names ++ directoriesTo target.names
  let files ← loadPlaces .empty (roots ++ roots.flatMap fixedPlaces)
  match Project.find? files directory with
  | none => return files
  | some root =>
    let collections := command.collections ++ definedCollections files root
    loadPlaces files (collections.flatMap (recordPlaces root))

/-- Writes a node to disk, a text through a draft that takes its place. -/
def storeNode (names : List String) (node : FileNode) : IO Unit := do
  let path := Path.ofNames names
  match node with
  | .directory => IO.FS.createDirAll path.text
  | .text content =>
    let draft := path.text ++ ".new"
    IO.FS.writeFile draft content
    IO.FS.rename draft path.text

/-- Writes back what changed between two trees. -/
def storeFiles (before after : Files) : IO Unit := do
  for (names, node) in after.entries.reverse do
    if before.node? names != some node then storeNode names node
  for (names, _) in before.entries do
    if (after.node? names).isNone then IO.FS.removeFile (Path.ofNames names).text

/-- The text of the user's own settings, if there are any. -/
def userSettings : IO (Option String) := do
  let home := ((← IO.getEnv "HOME").getD "") ++ "/.config"
  let base := match ← IO.getEnv "XDG_CONFIG_HOME" with
    | some base => if base.startsWith "/" then base else home
    | none => home
  match ← nodeOnDisk? ⟨base ++ "/recalc/config.toml", []⟩ with
  | some (.text content) => return some content
  | _ => return none

/-- The instant of the clock. -/
def clock : IO Instant := do
  let millis := (← Std.Time.Timestamp.now).toMillisecondsSinceUnixEpoch.toInt
  return (Instant.ofMillis? millis).getD (.midnight 0)

/-- Reads the definitions again, after pauses, until they settle or the attempts are used up. -/
def readAgain (project : Project) : Nat → Workspace → IO Workspace
  | 0, workspace => return workspace
  | left + 1, workspace => do
    let read := Command.readDefinitions project workspace
    match settle read (workspace.later.length + 1) with
    | .ok ⟨_, _, false⟩ =>
      IO.sleep (.ofNat project.settings.settleDelay)
      let last := (workspace.later.getLast?).getD workspace.files
      let next ← loadPlace last (Project.definitionFile project.root).path
      readAgain project left { workspace with later := workspace.later ++ [next] }
    | _ => return workspace

/-- Makes the reads of a reload, if the command is one and its project opens. -/
def prepare (command : Command) (workspace : Workspace) : IO Workspace := do
  if command = .reload || command = .watch then
    match Project.openFrom workspace.files workspace.user workspace.directory with
    | .ok project => readAgain project (project.settings.attempts - 1) workspace
    | .error _ => return workspace
  else return workspace

/-- Runs a command line, prints its output and gives its exit code. -/
def execute (line : CommandLine) : IO UInt32 := do
  let directory := Path.ofNames (placeFrom [] (toString (← IO.currentDir)))
  let files ← loadFiles directory line.command
  let workspace : Workspace := ⟨files, [], directory, ← userSettings, ← clock, ""⟩
  let (result, left) := line.perform (← prepare line.command workspace)
  storeFiles files left.files
  IO.print left.printed
  (← IO.getStdout).flush
  match result with
  | .ok _ => return 0
  | .error e =>
    IO.eprintln ("Error: " ++ e.message)
    return 1

/-- The text of the definitions around a directory, to see whether they were edited. -/
def definitionText (directory : Path) : IO (Option FileNode) := do
  let files ← loadFiles directory .reload
  return (Project.find? files directory).bind fun root =>
    files.node? (Project.definitionFile root).path.names

/-- Runs a command line again and again, each time after an edit of the definitions. -/
partial def watch (line : CommandLine) (directory : Path) (seen : Option FileNode) : IO UInt32 := do
  IO.sleep 1000
  let now ← definitionText directory
  if now == seen then watch line directory seen
  else
    let _ ← execute line
    watch line directory now

/-- Runs the command that arguments name, and gives its exit code. -/
def runProgram (arguments : List String) : IO UInt32 := do
  match CommandLine.read? arguments with
  | none =>
    IO.eprintln "error: the arguments name no command or do not fit it"
    return 2
  | some line =>
    let code ← execute line
    if line.command = .watch && code = 0 then
      let directory := Path.ofNames (placeFrom [] (toString (← IO.currentDir)))
      watch line directory (← definitionText directory)
    else return code

end CalcFields

/-- The program. -/
def main (arguments : List String) : IO UInt32 :=
  CalcFields.runProgram arguments
