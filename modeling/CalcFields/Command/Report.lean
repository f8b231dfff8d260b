import CalcFields.Engine.Batch
import CalcFields.Engine.Reload
import CalcFields.Formula.Compiled
import CalcFields.Json.Basic

/-! Reports leave as documents, with their members in a fixed order. -/

namespace CalcFields

namespace Json

/-- A list of texts. -/
def strings (items : List String) : Json := array (items.map string)

/-- A count. -/
def count (n : Nat) : Json := integer n

end Json

/-- The document of an omission. -/
def Omission.toJson (o : Omission) : Json :=
  .object [("collection", .string o.collection), ("field", .string o.field),
    ("reason", .string o.reason)]

/-- The document of a load report. -/
def LoadReport.toJson (report : LoadReport) : Json :=
  .object [("loaded", .count report.loaded), ("inactive", .count report.inactive),
    ("incomplete", .count report.incomplete),
    ("skipped_non_local", .array (report.nonLocal.map Omission.toJson)),
    ("failed", .array (report.failed.map Omission.toJson))]

/-- The document of levels. -/
def levelsToJson (levels : FieldMap Nat) : Json :=
  .object (levels.entries.map fun (field, level) => (field, .count level))

/-- The document that sums up the formulas of a collection. -/
def CollectionFormulas.toJson (formulas : CollectionFormulas) : Json :=
  let analysis := formulas.analysis
  .object [("collection", .string formulas.name), ("formula_count", .count formulas.size),
    ("fields", .strings analysis.order), ("has_cycles", .bool analysis.hasCycles),
    ("order", .strings analysis.order), ("levels", levelsToJson analysis.levels),
    ("cycles", .array (analysis.cycles.map Json.strings))]

/-- The document of a failed field. -/
def FieldError.toJson (e : FieldError) : Json :=
  .object [("field", .string e.field), ("error", .string e.error.message)]

/-- The document of an outcome. -/
def Outcome.toJson (outcome : Outcome) : Json :=
  .object [("updates", outcome.updates.toJson), ("evaluated", .strings outcome.evaluated),
    ("errors", .array (outcome.errors.map FieldError.toJson)),
    ("has_changes", .bool outcome.hasChanges)]

/-- The document of a batch report. -/
def BatchReport.toJson (report : BatchReport) : Json :=
  .object [("success", .bool true), ("collection", .string report.collection),
    ("processed", .count report.count.processed), ("updated", .count report.count.updated),
    ("total", .count report.total), ("dry_run", .bool report.dryRun),
    ("fields", .strings report.fields),
    ("records_with_errors", .count report.count.withErrors),
    ("message", .string report.message)]

/-- The document of a reload report. -/
def ReloadReport.toJson (report : ReloadReport) : Json :=
  .object [("attempts_used", .count report.attempts), ("stabilized", .bool report.stabilized),
    ("collections", .count report.collections), ("formulas", .count report.formulas),
    ("signature", .string report.signature), ("skipped_non_local", .count report.nonLocal),
    ("failed", .count report.failed)]

/-- The document of a validation, with the result or the error. -/
def Validation.toJson (validation : Validation) : Json :=
  let outcome :=
    match validation.outcome with
    | .ok v => [("valid", Json.bool true), ("result", v.storable.toJson)]
    | .error e => [("valid", .bool false), ("error", .string e)]
  .object (outcome ++ [("fields", .strings validation.fields),
    ("is_local", .bool validation.isLocal), ("message", .string validation.message)])

end CalcFields
