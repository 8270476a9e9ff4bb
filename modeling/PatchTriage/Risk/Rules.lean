import PatchTriage.Path
import PatchTriage.Risk.Basic
import PatchTriage.Text.Case

/-!
# Rules of risk

How risky a change is by the extension of its file, by its type and by its size, and where the
bands of risk begin.
-/

namespace PatchTriage

/-- The standard risk of each change type, by name. -/
def standardChangeTypeRisks : Table String Binary64 :=
  [("bug_fix", 0.3), ("feature", 0.7), ("refactor", 0.6), ("security", 0.9), ("security_fix", 0.9),
    ("performance", 0.8), ("performance_optimization", 0.8), ("dependency", 0.7),
    ("documentation", 0.1), ("test", 0.2), ("other", 0.4), ("unknown", 0.5)]

/-- The risk of changes of up to a number of lines. -/
structure SizeStep where
  /-- The greatest number of changed lines that the step takes in. -/
  bound : Int
  risk : Binary64
deriving DecidableEq, Repr

/-- The standard steps. -/
def standardSizeSteps : List SizeStep := [⟨0, 0.1⟩, ⟨10, 0.3⟩, ⟨50, 0.6⟩, ⟨100, 0.8⟩]

/-- The rules by which risks are assessed. -/
structure RiskRules where
  highExtensions : List String := ["js", "ts", "jsx", "tsx", "py", "java", "go", "rs"]
  mediumExtensions : List String := ["json", "yml", "yaml", "xml", "html", "css"]
  lowExtensions : List String := ["md", "txt", "gitignore", "dockerfile"]
  highFileRisk : Binary64 := 0.8
  mediumFileRisk : Binary64 := 0.5
  lowFileRisk : Binary64 := 0.2
  defaultFileRisk : Binary64 := 0.3
  missingPathRisk : Binary64 := 0.1
  changeTypeRisks : Table String Binary64 := standardChangeTypeRisks
  defaultChangeTypeRisk : Binary64 := 0.5
  /-- The steps, the first that takes a change in deciding. -/
  sizeSteps : List SizeStep := standardSizeSteps
  /-- The risk of changes that no step takes in. -/
  maxSizeRisk : Binary64 := 0.9
  highThreshold : Binary64 := 0.7
  mediumThreshold : Binary64 := 0.4

/-- The path that stands for a missing one. -/
def unknownPath : String := "unknown"

namespace RiskRules

/-- The extension by which the risk of a file is looked up: what follows the last dot of its name,
or the whole name, in small letters. -/
def extension (path : String) : String :=
  String.ofList (Path.afterLastDot (Text.lower (Path.name path.toList)))

/-- The risk of an extension. -/
def extensionRisk (r : RiskRules) (extension : String) : Binary64 :=
  if r.highExtensions.contains extension then r.highFileRisk
  else if r.mediumExtensions.contains extension then r.mediumFileRisk
  else if r.lowExtensions.contains extension then r.lowFileRisk
  else r.defaultFileRisk

/-- The risk of a file by its path. -/
def fileTypeRisk (r : RiskRules) (path : String) : Binary64 :=
  if path = "" ∨ path = unknownPath then r.missingPathRisk else r.extensionRisk (extension path)

/-- The risk of a change type, pulled towards its half when the confidence is low. -/
def changeTypeRisk (r : RiskRules) (changeType : ChangeType) (confidence : Binary64) : Binary64 :=
  let base := (Table.get? r.changeTypeRisks changeType.name).getD r.defaultChangeTypeRisk
  (base * (0.5 + confidence * 0.5)).clamp

/-- The risk of a number of changed lines. -/
def linesRisk (r : RiskRules) (changed : Int) : Binary64 :=
  match r.sizeSteps.find? fun step => changed ≤ step.bound with
  | some step => step.risk
  | none => r.maxSizeRisk

/-- The risk of a size; a count that is left out is zero. -/
def sizeRisk (r : RiskRules) (additions deletions : Option Int) : Binary64 :=
  r.linesRisk (additions.getD 0 + deletions.getD 0)

/-- The band of a risk; a risk on a threshold is in the band above it. -/
def level (r : RiskRules) (risk : Binary64) : RiskLevel :=
  if r.highThreshold ≤ risk then .high
  else if r.mediumThreshold ≤ risk then .medium
  else .low

end RiskRules

end PatchTriage
