import CalcFields.Toml.Reader

/-!
Settings say how often definitions are read until they settle, and how many records make a page.
What a settings document leaves out keeps its default, and what it does not know it passes over.
-/

namespace CalcFields

/-- The settings of a project. -/
structure Settings where
  /-- The greatest number of reads of a reload. -/
  attempts : Nat
  /-- The milliseconds between two reads. -/
  settleDelay : Nat
  /-- The milliseconds without an edit before edits are taken up. -/
  debounce : Nat
  /-- The number of records on a page. -/
  pageSize : Nat
deriving DecidableEq, Repr

namespace Settings

/-- The settings of an empty document. -/
def default : Settings := ⟨3, 700, 5000, 100⟩

/-- The item of a part of a document, by its name in a table or its place in an array; none at all
when the part is something else. -/
def item? (document : TomlTable) (part name : String) (place : Nat) : Option (Option Toml) :=
  match document.lookup part with
  | none => some none
  | some (.table _ members) => some (members.lookup name)
  | some (.array items) => some items[place]?
  | some (.tables items) => some ((items[place]?).map (.table .header))
  | some _ => none

/-- A whole number below a bound, or a default when it is left out. -/
def natural? (bound fallback : Nat) : Option Toml → Option Nat
  | none => some fallback
  | some (.integer n) => if 0 ≤ n && n < bound then some n.toNat else none
  | some _ => none

/-- The settings of a document, unless one of them has no number in its range. -/
def ofToml? (document : TomlTable) : Option Settings := do
  let item := item? document
  return {
    attempts := ← natural? (Nat.pow 2 32) default.attempts (← item "reload" "attempts" 0)
    settleDelay :=
      ← natural? (Nat.pow 2 64) default.settleDelay (← item "reload" "settle_delay_ms" 1)
    debounce := ← natural? (Nat.pow 2 64) default.debounce (← item "reload" "debounce_ms" 2)
    pageSize := ← natural? (Nat.pow 2 64) default.pageSize (← item "batch" "batch_size" 0) }

/-- A text reads as settings when it is a document of that shape. -/
def read? (text : String) : Option Settings :=
  (Toml.read? text).bind ofToml?

/-- Numbers beyond 64 bits with a sign cannot be written. -/
def isWritable (settings : Settings) : Bool :=
  [settings.settleDelay, settings.debounce, settings.pageSize].all fun n => n < Nat.pow 2 63

/-- The document of settings. -/
def write (settings : Settings) : String :=
  "[reload]\n" ++
  "attempts = " ++ toString settings.attempts ++ "\n" ++
  "settle_delay_ms = " ++ toString settings.settleDelay ++ "\n" ++
  "debounce_ms = " ++ toString settings.debounce ++ "\n" ++
  "\n" ++
  "[batch]\n" ++
  "batch_size = " ++ toString settings.pageSize ++ "\n"

/-- The document that a new project starts with, which holds the defaults. -/
def starter : String :=
  "# recalc configuration\n" ++
  "\n" ++
  "[reload]\n" ++
  "# Reads of formulas.jsonl before the last one is taken as is\n" ++
  "attempts = 3\n" ++
  "# Pause between two reads\n" ++
  "settle_delay_ms = 700\n" ++
  "# Quiet period before `recalc watch` reloads after an edit\n" ++
  "debounce_ms = 5000\n" ++
  "\n" ++
  "[batch]\n" ++
  "# Records per page for `recalc run` (1 to 500)\n" ++
  "batch_size = 100\n"

end Settings

/-- The form in which commands print. -/
inductive OutputFormat where
  | text
  | json
deriving DecidableEq, Repr

namespace OutputFormat

/-- The word for a form. -/
def word : OutputFormat → String
  | text => "text"
  | json => "json"

/-- The form that a word names. -/
def ofWord? (word : String) : Option OutputFormat :=
  [text, json].find? (·.word == word)

/-- A form is named by a string, or by the one name in a table, with an empty table under it. -/
def ofItem? : Toml → Option OutputFormat
  | .string word => ofWord? word
  | .table _ [(word, .table _ [])] => ofWord? word
  | _ => none

/-- A user's own settings give the usual form, which is text when they do not say. -/
def read? (text : String) : Option OutputFormat := do
  match (← Toml.read? text).lookup "default_format" with
  | none => return .text
  | some item => ofItem? item

end OutputFormat

end CalcFields
