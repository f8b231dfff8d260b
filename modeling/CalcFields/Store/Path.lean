/-! A path keeps the wording it was given in beside the place that it leads to. -/

namespace CalcFields

/-- A path: its wording, and the names from the top of the tree down to its place. -/
structure Path where
  text : String
  names : List String
deriving DecidableEq, Repr

/-- One step of a walk: a name leads down, two points lead up, one point or nothing stays. -/
def walk (names : List String) (step : String) : List String :=
  if step = "" ∨ step = "." then names
  else if step = ".." then names.dropLast
  else names ++ [step]

/-- The place that a wording leads to from a directory, or from the top after a leading slash. -/
def placeFrom (directory : List String) (text : String) : List String :=
  (text.splitOn "/").foldl walk (if text.startsWith "/" then [] else directory)

namespace Path

/-- The place of names under the top, in its plain wording. -/
def ofNames (names : List String) : Path :=
  ⟨"/" ++ "/".intercalate names, names⟩

/-- A wording as it is given to someone who stands in a directory. -/
def given (directory : Path) (text : String) : Path :=
  ⟨text, placeFrom directory.names text⟩

/-- A wording joined to another, by a slash unless there is one. -/
def joinText (front back : String) : String :=
  if front.isEmpty || front.endsWith "/" then front ++ back else front ++ "/" ++ back

/-- The place of a name in a directory. -/
def child (directory : Path) (name : String) : Path :=
  ⟨joinText directory.text name, directory.names ++ [name]⟩

/-- The place that a wording leads to from a directory, worded from the directory on. -/
def under (directory : Path) (text : String) : Path :=
  if text.startsWith "/" then directory.given text
  else ⟨joinText directory.text text, placeFrom directory.names text⟩

/-- The wording of the directory that holds a worded place. -/
def parentText (text : String) : String :=
  "/".intercalate (text.splitOn "/").dropLast

/-- The directory that holds a place, unless the place is the top. -/
def parent? (path : Path) : Option Path :=
  if path.names.isEmpty then none else some ⟨parentText path.text, path.names.dropLast⟩

/-- The directory that holds a place is nearer to the top. -/
theorem length_of_parent? {path directory : Path} (found : path.parent? = some directory) :
    directory.names.length < path.names.length := by
  simp only [parent?] at found
  split at found
  · simp at found
  · rename_i inside
    cases found
    have : path.names ≠ [] := by simpa using inside
    have := List.length_pos_iff.2 this
    simp only [List.length_dropLast]
    omega

end Path

end CalcFields
