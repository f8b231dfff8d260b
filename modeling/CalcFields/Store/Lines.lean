import CalcFields.Definition
import CalcFields.Store.Files
import CalcFields.Value.Document

/-!
A line file keeps one item a line. Blank lines count in line numbers and hold nothing; a file that
does not exist holds nothing.
-/

namespace CalcFields

/-- What the lines of a file hold. -/
inductive LineKind where
  | record
  | formula
deriving DecidableEq, Repr

/-- The word for what a line holds. -/
def LineKind.word : LineKind → String
  | record => "record"
  | formula => "formula"

/-- Why a store does not answer. -/
inductive StoreError where
  /-- The name of a collection is no name for a file. -/
  | invalidName (collection : String)
  | malformedLine (kind : LineKind) (line : Nat) (file : Path)
  | unreadableLine (line : Nat) (fault : FileFault)
  | noDirectory (directory : Path) (fault : FileFault)
  | noDraft (draft : Path) (fault : FileFault)
  | refused (reason : String)
deriving DecidableEq, Repr

/-- The message of a store error. -/
def StoreError.message : StoreError → String
  | invalidName collection =>
    "Invalid collection name '" ++ collection ++ "': use letters, digits, '_' or '-'"
  | malformedLine kind line file =>
    "Failed to parse " ++ kind.word ++ " at line " ++ toString line ++ " of " ++ file.text
  | unreadableLine line fault =>
    "Failed to read line " ++ toString line ++ ": " ++ fault.message
  | noDirectory directory fault =>
    "Failed to create directory: " ++ directory.text ++ ": " ++ fault.message
  | noDraft draft fault =>
    "Failed to create temp file: " ++ draft.text ++ ": " ++ fault.message
  | refused reason => reason

/-- An item that has a line of its own. -/
class LineItem (α : Type) where
  kind : LineKind
  toLine : α → String
  ofLine? : String → Option α

instance : LineItem Record := ⟨.record, fun record => record.toJson.write, Record.read?⟩

instance : LineItem Definition := ⟨.formula, fun d => d.toJson.write, Definition.read?⟩

/-- The lines of a text, each without its line feed. -/
def linesOf : List Char → List (List Char)
  | [] => []
  | c :: rest =>
    if c = '\n' then [] :: linesOf rest
    else
      match linesOf rest with
      | [] => [[c]]
      | line :: lines => (c :: line) :: lines

/-- A line file of a directory, and the draft in which its new contents are written. -/
structure LineFile where
  directory : Path
  name : String

namespace LineFile

variable {α : Type} [LineItem α]

/-- The path of the file. -/
def path (file : LineFile) : Path := file.directory.child (file.name ++ ".jsonl")

/-- The path of the draft. -/
def draft (file : LineFile) : Path := file.directory.child (file.name ++ ".jsonl.tmp")

/-- The items of lines, whose numbers go on from those before. -/
def itemsOf (file : LineFile) (number : Nat) : List (List Char) → Except StoreError (List α)
  | [] => .ok []
  | line :: lines =>
    if line.all isBlank then itemsOf file (number + 1) lines
    else
      match LineItem.ofLine? (String.ofList line) with
      | none => .error (.malformedLine (LineItem.kind α) number file.path)
      | some item => (itemsOf file (number + 1) lines).map (item :: ·)

/-- The items of the file in a tree. -/
def readItems (file : LineFile) (files : Files) : Except StoreError (List α) :=
  if files.contains file.path then
    match files.read file.path with
    | .error fault => .error (.unreadableLine 1 fault)
    | .ok content => file.itemsOf 1 (linesOf content.toList)
  else .ok []

/-- The text that holds items, each on its line. -/
def textOf (items : List α) : String :=
  String.join (items.map fun item => LineItem.toLine item ++ "\n")

/-- Replaces the file: the items go to the draft, which then takes the place of the file. -/
def writeItems (file : LineFile) (files : Files) (items : List α) : Except StoreError Files :=
  match files.makeDirectories file.directory with
  | .error fault => .error (.noDirectory file.directory fault)
  | .ok ready =>
    match ready.write file.draft (textOf items) with
    | .error fault => .error (.noDraft file.draft fault)
    | .ok written => .ok (written.move file.draft file.path)

end LineFile

end CalcFields
