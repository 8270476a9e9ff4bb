import PatchTriage.Change.Json
import PatchTriage.Report.Recommendation
import PatchTriage.Risk.Json

/-!
# Reports

The report on one patch: what was found, or why nothing was. Its JSON form has the same fields in
either case, those without content being null or empty.
-/

namespace PatchTriage

/-- A file that was classified or assessed only in part; what is not known of it is null. -/
structure DegradedFile where
  stage : Json
  path : Json
  error : Json
deriving Repr

namespace DegradedFile

/-- The file that a captured fault degrades. -/
def ofFault (c : CapturedFault) : DegradedFile where
  stage := c.stage
  path := c.filePath
  error := .text c.fault.summary

/-- The degraded file in JSON. -/
def toJson (d : DegradedFile) : Json :=
  .object [("stage", d.stage), ("file_path", d.path), ("error", d.error)]

end DegradedFile

/-- What was found about a patch. -/
structure Findings where
  summary : Summary
  files : List ClassifiedFile
  risk : RiskAssessment
  recommendations : List Recommendation
  degraded : List DegradedFile

/-- The outcome of an analysis. -/
inductive Outcome where
  | success (f : Findings)
  /-- Nothing was found, and why, if that is told. -/
  | failure (error : Option String)

/-- The report on a patch. -/
structure Report where
  /-- The short digest of the text that was analysed. -/
  digest : String
  outcome : Outcome

namespace Report

/-- Whether the analysis succeeded. -/
def succeeded (r : Report) : Bool :=
  match r.outcome with
  | .success _ => true
  | .failure _ => false

/-- The report in JSON. -/
def toJson (r : Report) : Json :=
  match r.outcome with
  | .success f =>
    .object [("success", .bool true), ("error", .null), ("diff_digest", .text r.digest),
      ("summary", f.summary.toJson),
      ("files", .array (f.files.map fun file => .object file.toFields)),
      ("risk", f.risk.toJson), ("change_types", Summary.changeTypesJson f.summary.changeTypes),
      ("recommendations", .array (f.recommendations.map Recommendation.toJson)),
      ("errors", .array (f.degraded.map DegradedFile.toJson))]
  | .failure error =>
    .object [("success", .bool false), ("error", .ofText? error), ("diff_digest", .text r.digest),
      ("summary", .null), ("files", .array []), ("risk", .null), ("change_types", .object []),
      ("recommendations", .array []), ("errors", .array [])]

end Report

end PatchTriage
