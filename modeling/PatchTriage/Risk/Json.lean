import PatchTriage.Risk.Basic
import PatchTriage.Schema.Convert

/-!
# Risks in JSON

Reading checks that every score lies between zero and one; writing names every part.
-/

namespace PatchTriage

namespace RiskFactors

/-- Reads the factors of a risk. -/
def ofJson : Json → Checked RiskFactors :=
  Convert.record recordName fun fields =>
    RiskFactors.mk <$> Convert.field fields "file_type" Convert.score
      <*> Convert.field fields "change_type" Convert.score
      <*> Convert.field fields "size" Convert.score

/-- The factors in JSON. -/
def toJson (f : RiskFactors) : Json :=
  .object [("file_type", .real f.fileType), ("change_type", .real f.changeType),
    ("size", .real f.size)]

end RiskFactors

namespace FileRisk

/-- The name of the record. -/
def recordName : String := "FileRisk"

/-- Reads the risk of a file. -/
def ofJson : Json → Checked FileRisk :=
  Convert.record recordName fun fields =>
    FileRisk.mk <$> Convert.field fields "file_path" Convert.text
      <*> Convert.field fields "risk_score" Convert.score
      <*> Convert.fieldOr fields "risk_factors" none (Convert.orNull RiskFactors.ofJson)

/-- The risk in JSON. -/
def toJson (f : FileRisk) : Json :=
  .object [("file_path", .text f.path), ("risk_score", .real f.score),
    ("risk_factors", f.factors.elim .null RiskFactors.toJson)]

end FileRisk

namespace RiskDetails

/-- The name of the record. -/
def recordName : String := "RiskDetails"

/-- Reads the risks of files. -/
def ofJson : Json → Checked RiskDetails :=
  Convert.record recordName fun fields =>
    RiskDetails.mk <$> Convert.fieldOr fields "file_risks" [] (Convert.list FileRisk.ofJson)
      <*> Convert.fieldOr fields "total_files" 0 Convert.count

/-- The risks in JSON. -/
def toJson (d : RiskDetails) : Json :=
  .object [("file_risks", .array (d.files.map FileRisk.toJson)), ("total_files", .nat d.total)]

end RiskDetails

namespace RiskAssessment

/-- The name of the record. -/
def recordName : String := "RiskAssessment"

/-- Reads the risk of a patch. -/
def ofJson : Json → Checked RiskAssessment :=
  Convert.record recordName fun fields =>
    RiskAssessment.mk <$> Convert.field fields "risk_score" Convert.score
      <*> Convert.field fields "risk_level" (Convert.member RiskLevel.all RiskLevel.name)
      <*> Convert.fieldOr fields "details" {} RiskDetails.ofJson

/-- The risk in JSON. -/
def toJson (a : RiskAssessment) : Json :=
  .object [("risk_score", .real a.score), ("risk_level", .text a.level.name),
    ("details", a.details.toJson)]

end RiskAssessment

end PatchTriage
