import PatchTriage.Patch.Totals
import PatchTriage.Risk.Basic

/-!
# Summaries

What classified files add up to: their totals, how many there are of each change type, and the
type that most of them have.
-/

namespace PatchTriage

/-- How many files there are of each change type, in the order in which the types first occur. -/
def changeTypeCounts (files : List ClassifiedFile) : Table ChangeType Nat :=
  Table.counts (files.map (·.changeType))

/-- The type that most files have; without files there is nothing to tell. -/
def primaryType (counts : Table ChangeType Nat) : ChangeType :=
  (Table.greatest? counts).elim .other (·.1)

/-- The summary of classified files. -/
structure Summary where
  totals : Totals
  primary : ChangeType
  changeTypes : Table ChangeType Nat
  /-- The band of the risk, if it was assessed. -/
  riskLevel : Option RiskLevel

namespace Summary

/-- Sums up classified files. -/
def of (files : List ClassifiedFile) (risk : Option RiskAssessment) : Summary :=
  let changeTypes := changeTypeCounts files
  { totals := .ofFiles (files.map (·.file)), primary := primaryType changeTypes, changeTypes
    riskLevel := risk.map (·.level) }

/-- The counts of change types in JSON. -/
def changeTypesJson (t : Table ChangeType Nat) : Json :=
  .object (t.map fun e => (e.1.name, .nat e.2))

/-- The summary in JSON. -/
def toJson (s : Summary) : Json :=
  .object [("total_files", .nat s.totals.files), ("total_additions", .int s.totals.additions),
    ("total_deletions", .int s.totals.deletions), ("primary_change_type", .text s.primary.name),
    ("change_types", changeTypesJson s.changeTypes),
    ("risk_level", .text (s.riskLevel.elim "unknown" RiskLevel.name))]

end Summary

end PatchTriage
