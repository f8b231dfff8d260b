import CalcFields.Project.Settings
import CalcFields.Store.DefinitionStore
import CalcFields.Store.RecordStore

/-!
A project is a directory that holds its settings, definitions and records in a directory of a fixed
name. A command finds the project that it is given in by going up from there.
-/

namespace CalcFields

/-- A project with its settings. -/
structure Project where
  root : Path
  settings : Settings

/-- Why a project is not found, opened or saved. -/
inductive ProjectError where
  | notInProject
  /-- The user's own settings are malformed. -/
  | malformedUser
  | unreadable (file : Path) (fault : FileFault)
  | malformed
  /-- The settings allow no read at all. -/
  | noAttempts (file : Path)
  | noDirectory (directory : Path) (fault : FileFault)
  | noSettings (file : Path) (fault : FileFault)
  | noDefinitions (file : Path) (fault : FileFault)
  | unsaved (file : Path) (fault : FileFault)
  /-- A number is too great for a settings document. -/
  | unwritable
deriving DecidableEq, Repr

/-- The message of a project error. -/
def ProjectError.message : ProjectError → String
  | notInProject => "Not in a recalc project. Run 'recalc init' first."
  | malformedUser => "Failed to parse global config: Failed to parse configuration"
  | unreadable file fault => "Failed to read project config: " ++ file.text ++ ": " ++ fault.message
  | malformed => "Failed to parse project config: Failed to parse configuration"
  | noAttempts file =>
    "Invalid project config: " ++ file.text ++
      ": Invalid configuration: reload.attempts must be at least 1"
  | noDirectory directory fault =>
    "Failed to create data directory: " ++ directory.text ++ ": " ++ fault.message
  | noSettings file fault => "Failed to write config: " ++ file.text ++ ": " ++ fault.message
  | noDefinitions file fault =>
    "Failed to create formula store: " ++ file.text ++ ": " ++ fault.message
  | unsaved file fault =>
    "Failed to write project config: " ++ file.text ++ ": " ++ fault.message
  | unwritable => "Failed to serialize project config: out-of-range value for u64 type"

namespace Project

/-- The name of the directory in which a project keeps its files. -/
def directoryName : String := ".recalc"

/-- The directory in which a project keeps its files. -/
def directoryOf (root : Path) : Path := root.child directoryName

/-- The settings file of a project. -/
def settingsFile (root : Path) : Path := (directoryOf root).child "config.toml"

/-- The line file of a project's definitions. -/
def definitionFile (root : Path) : LineFile := ⟨directoryOf root, "formulas"⟩

/-- The directory of a project's records. -/
def recordDirectory (root : Path) : Path := (directoryOf root).child "data"

/-- A directory is the root of a project when it holds the project's directory. -/
def isRoot (files : Files) (path : Path) : Bool :=
  files.isDirectory (directoryOf path)

/-- The nearest root at a path or above. -/
def find? (files : Files) (path : Path) : Option Path :=
  if isRoot files path then some path
  else
    match _above : path.parent? with
    | none => none
    | some directory => find? files directory
termination_by path.names.length
decreasing_by exact Path.length_of_parent? _above

/-- The usual form of output in a user's own settings, if there are any. -/
def userFormat (user : Option String) : Except ProjectError OutputFormat :=
  match user with
  | none => .ok .text
  | some text =>
    match OutputFormat.read? text with
    | some format => .ok format
    | none => .error .malformedUser

/-- The settings of the project at a root. -/
def loadSettings (files : Files) (root : Path) : Except ProjectError Settings :=
  let file := settingsFile root
  if files.contains file then
    match files.read file with
    | .error fault => .error (.unreadable file fault)
    | .ok text =>
      match Settings.read? text with
      | none => .error .malformed
      | some settings =>
        if settings.attempts = 0 then .error (.noAttempts file) else .ok settings
  else .ok .default

/-- Writes the settings of the project at a root. -/
def saveSettings (files : Files) (root : Path) (settings : Settings) :
    Except ProjectError Files :=
  let file := settingsFile root
  if !settings.isWritable then .error .unwritable
  else (files.write file settings.write).mapError (.unsaved file)

/-- Opens the project at a root. -/
def openAt (files : Files) (user : Option String) (root : Path) : Except ProjectError Project := do
  if !isRoot files root then throw .notInProject
  let _ ← userFormat user
  return ⟨root, ← loadSettings files root⟩

/-- Opens the project that a directory belongs to. -/
def openFrom (files : Files) (user : Option String) (directory : Path) :
    Except ProjectError Project :=
  match find? files directory with
  | none => .error .notInProject
  | some root => openAt files user root

/-- Writes a text unless something stands at its place. -/
def writeNew (files : Files) (path : Path) (content : String)
    (wrap : Path → FileFault → ProjectError) : Except ProjectError Files :=
  if files.contains path then .ok files
  else (files.write path content).mapError (wrap path)

/-- Makes the files of a project at a root, except those that are there. -/
def create (files : Files) (root : Path) : Except ProjectError Files := do
  let records := recordDirectory root
  let ready ← (files.makeDirectories records).mapError (.noDirectory records)
  let configured ← writeNew ready (settingsFile root) Settings.starter .noSettings
  writeNew configured (definitionFile root).path "" .noDefinitions

/-- The definitions of a project in a tree. -/
def definitions (project : Project) (files : Files) : DefinitionStore :=
  ⟨files, definitionFile project.root⟩

/-- The records of a project in a tree. -/
def records (project : Project) (files : Files) : LineStore :=
  ⟨files, recordDirectory project.root⟩

end Project

end CalcFields
