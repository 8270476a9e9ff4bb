import PatchTriage.Binary64.Text
import PatchTriage.Risk.Basic

/-!
# Explaining risks

An assessment in words: the band and the risk of the patch, and a line for each file.
-/

namespace PatchTriage

/-- The line on a file. -/
def FileRisk.explain (f : FileRisk) : String :=
  match f.factors with
  | none => s!"- {f.path}: {f.score.twoPlaces} (not assessed)"
  | some factors =>
    s!"- {f.path}: {f.score.twoPlaces} (file type {factors.fileType.twoPlaces}, " ++
      s!"change type {factors.changeType.twoPlaces}, size {factors.size.twoPlaces})"

/-- The assessment in words. -/
def RiskAssessment.explain (a : RiskAssessment) : String :=
  "\n".intercalate
    ([s!"Overall Risk: {a.level.title} ({a.score.twoPlaces})", "", "Per-file breakdown:"] ++
      a.details.files.map FileRisk.explain)

end PatchTriage
