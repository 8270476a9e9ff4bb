import PatchTriage.Change.Candidate
import PatchTriage.Risk.Rules
import PatchTriage.Telemetry.Event

/-!
# Assessing risks

Each file is scored on its own, and the risk of the patch is the mean of the scores. A file whose
factors are out of bounds, which odd rules can cause, and a file that is missing get the score
zero and no factors, with a captured fault.
-/

namespace PatchTriage

namespace RiskRules

/-- The name of the assessor's log. -/
def logger : String := "diffagent.analysis.risk_assessor"

/-- The stage that a fault of the assessor hits. -/
def stage : String := "assess"

/-- The path under which a file is assessed. -/
def assessedPath (f : FileChange) : String := if f.path = "" then unknownPath else f.path

/-- The factors of a file's risk. -/
def factors (r : RiskRules) (f : FileChange) (c : Classification) : RiskFactors where
  fileType := r.fileTypeRisk (assessedPath f)
  changeType := r.changeTypeRisk c.changeType c.confidence
  size := r.sizeRisk f.additions f.deletions

/-- The log entry on a file that could not be assessed. -/
def failureEntry (path : String) (fault : Fault) : Log.Record where
  level := .warning
  logger := logger
  message := "Risk assessment failed for file, scoring as zero"
  fields := [("file_path", .text path), ("error", .text fault.message)]

/-- Gives up on a file. -/
def giveUp (path : String) (fault : Fault) : Traced FileRisk := do
  Traced.log (failureEntry path fault)
  Traced.capture fault [("stage", .text stage), ("file_path", .text path)]
  return { path, score := 0 }

/-- Assesses one file. -/
def assessFile (r : RiskRules) (c : Candidate) : Traced FileRisk :=
  match c.file with
  | none => giveUp unknownPath (.missingAttribute "path")
  | some f =>
    let path := assessedPath f
    match (r.factors f (c.classification.getD .unknown)).checked with
    | .ok factors => pure { path, score := factors.mean, factors := some factors }
    | .error fault => giveUp path fault

/-- The number of decimal places of a risk in the log. -/
def loggedPlaces : Nat := 4

/-- The log entry on an assessment. -/
def doneEntry (a : RiskAssessment) : Log.Record where
  level := .info
  logger := logger
  message := "Risk assessment completed"
  fields := [("risk_score", .real (a.score.roundTo loggedPlaces)),
    ("risk_level", .text a.level.name), ("total_files", .nat a.details.total)]

/-- The mean of scores, of which there is at least one. -/
def meanScore (files : List FileRisk) : Binary64 :=
  (Binary64.sum (files.map (·.score)) / .ofInt files.length).clamp

/-- The assessment that scored files add up to. -/
def aggregate (r : RiskRules) (files : List FileRisk) : RiskAssessment :=
  let score := meanScore files
  { score, level := r.level score, details := { files, total := files.length } }

/-- The assessment of nothing. -/
def nothing : RiskAssessment := { score := 0, level := .low }

/-- Assesses files. -/
def assess (r : RiskRules) (candidates : List Candidate) : Traced RiskAssessment :=
  if candidates.isEmpty then pure nothing
  else do
    let assessment := r.aggregate (← Traced.each r.assessFile candidates)
    Traced.log (doneEntry assessment)
    return assessment

end RiskRules

end PatchTriage
