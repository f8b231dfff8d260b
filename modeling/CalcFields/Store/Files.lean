import CalcFields.Store.Path

/-! A file tree holds texts in directories, and what it refuses is a fault with a fixed wording. -/

namespace CalcFields

/-- What stands at a place of a file tree. -/
inductive FileNode where
  | text (content : String)
  | directory
deriving DecidableEq, Repr

/-- Why a file tree refuses an operation. -/
inductive FileFault where
  | missing
  | occupied
  | notDirectory
  | isDirectory
deriving DecidableEq, Repr

/-- The wording of a fault, with its number. -/
def FileFault.message : FileFault → String
  | missing => "No such file or directory (os error 2)"
  | occupied => "File exists (os error 17)"
  | notDirectory => "Not a directory (os error 20)"
  | isDirectory => "Is a directory (os error 21)"

/-- A file tree lists its places; the top is always a directory. -/
structure Files where
  entries : List (List String × FileNode)

namespace Files

/-- The tree that holds nothing below its top. -/
def empty : Files := ⟨[]⟩

/-- What stands at a place. -/
def node? (files : Files) (names : List String) : Option FileNode :=
  if names = [] then some .directory else files.entries.lookup names

/-- Leaves nothing at a place. -/
def remove (files : Files) (names : List String) : Files :=
  ⟨files.entries.filter fun entry => entry.1 ≠ names⟩

/-- Puts a node at a place, over what stands there. -/
def place (files : Files) (names : List String) (node : FileNode) : Files :=
  ⟨(names, node) :: (files.remove names).entries⟩

/-- Something stands at the place of a path. -/
def contains (files : Files) (path : Path) : Bool :=
  (files.node? path.names).isSome

/-- A directory stands at the place of a path. -/
def isDirectory (files : Files) (path : Path) : Bool :=
  files.node? path.names == some .directory

/-- A text stands somewhere on the way to a place. -/
def isBlocked (files : Files) (names : List String) : Bool :=
  (List.range names.length).any fun depth =>
    match files.node? (names.take depth) with
    | some (.text _) => true
    | _ => false

/-- The text at the place of a path. -/
def read (files : Files) (path : Path) : Except FileFault String :=
  match files.node? path.names with
  | some (.text content) => .ok content
  | some .directory => .error .isDirectory
  | none => .error (if files.isBlocked path.names then .notDirectory else .missing)

/-- Writes a text in a directory that exists, over a text at the same place. -/
def write (files : Files) (path : Path) (content : String) : Except FileFault Files :=
  if files.isDirectory path then .error .isDirectory
  else if files.isBlocked path.names then .error .notDirectory
  else if files.node? path.names.dropLast == some .directory then
    .ok (files.place path.names (.text content))
  else .error .missing

/-- Puts a directory where nothing stands. -/
def grow (files : Files) (names : List String) : Files :=
  if (files.node? names).isSome then files else files.place names .directory

/-- Makes a directory, and those on the way to it. -/
def makeDirectories (files : Files) (path : Path) : Except FileFault Files :=
  match files.node? path.names with
  | some .directory => .ok files
  | some (.text _) => .error .occupied
  | none =>
    if files.isBlocked path.names then .error .notDirectory
    else .ok ((List.range path.names.length).foldl (fun grown depth =>
      grown.grow (path.names.take (depth + 1))) files)

/-- Moves a text over whatever stands at its new place. -/
def move (files : Files) (source target : Path) : Files :=
  match files.node? source.names with
  | some node => (files.remove source.names).place target.names node
  | none => files

end Files

end CalcFields
