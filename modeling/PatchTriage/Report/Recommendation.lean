import PatchTriage.Language
import PatchTriage.Report.Summary
import PatchTriage.Telemetry.Event

/-!
# Recommendations

What a reviewer should do about a patch. Five change types have a recommendation of their own,
which lists their files; further ones go with the risk, with the number of files, and with source
code that changes without tests. They are ordered by priority, and within a priority by the order
of the rules.
-/

namespace PatchTriage

/-- How urgent a recommendation is. -/
inductive Priority where
  | high
  | medium
  | low
deriving DecidableEq, Repr

namespace Priority

/-- The place of a priority among the priorities, the most urgent one first. -/
def rank : Priority → Nat
  | high => 0
  | medium => 1
  | low => 2

/-- The name of a priority. -/
def name : Priority → String
  | high => "high"
  | medium => "medium"
  | low => "low"

/-- The name of a priority in capitals. -/
def title : Priority → String
  | high => "HIGH"
  | medium => "MEDIUM"
  | low => "LOW"

end Priority

/-- What kind of remark a recommendation is. -/
inductive RemarkKind where
  | review
  | warning
  | info
deriving DecidableEq, Repr

/-- The name of a kind. -/
def RemarkKind.name : RemarkKind → String
  | review => "review"
  | warning => "warning"
  | info => "info"

/-- What a recommendation is concerned with. -/
inductive Concern where
  | testing
  | security
  | documentation
  | performance
  | risk
  | process
deriving DecidableEq, Repr

/-- The name of a concern. -/
def Concern.name : Concern → String
  | testing => "testing"
  | security => "security"
  | documentation => "documentation"
  | performance => "performance"
  | risk => "risk"
  | process => "process"

/-- A suggestion for the review of a patch. -/
structure Recommendation where
  kind : RemarkKind
  priority : Priority
  message : String
  concern : Concern
  files : List String := []
deriving DecidableEq, Repr

/-- The recommendation in JSON. -/
def Recommendation.toJson (r : Recommendation) : Json :=
  .object [("type", .text r.kind.name), ("priority", .text r.priority.name),
    ("message", .text r.message), ("category", .text r.concern.name), ("files", .texts r.files)]

namespace Recommendation

/-- The recommendation for a change type that has one, for the files of that type. -/
def forType (type : ChangeType) (files : List String) : Option Recommendation :=
  match type with
  | .bugFix => some
    { kind := .review, priority := .high, concern := .testing, files
      message := "Bug fix detected. Ensure proper test coverage for the fixed issue." }
  | .securityFix => some
    { kind := .review, priority := .high, concern := .security, files
      message := "Security-related change detected. Request a security-focused review." }
  | .feature => some
    { kind := .review, priority := .medium, concern := .documentation, files
      message := "New feature added. Verify documentation and error handling." }
  | .refactor => some
    { kind := .review, priority := .medium, concern := .testing, files
      message := "Code refactoring detected. Ensure no functional changes were introduced." }
  | .performance => some
    { kind := .review, priority := .medium, concern := .performance, files
      message := "Performance change detected. Benchmark before and after merging." }
  | _ => none

/-- The types with a recommendation, in the order of the rules. -/
def typesInOrder : List ChangeType := [.bugFix, .securityFix, .feature, .refactor, .performance]

/-- The paths of files by change type, each list in the order of the files. -/
def pathsByType (files : List ClassifiedFile) : Table ChangeType (List String) :=
  Table.gather [] (fun paths path => paths ++ [path]) (files.map fun f => (f.changeType, f.path))

/-- The recommendation for the files of a type, if there are any. -/
def ofType (files : List ClassifiedFile) (type : ChangeType) : Option Recommendation :=
  (Table.get? (pathsByType files) type).bind (forType type)

/-- The recommendation that goes with a risk. -/
def ofRisk (risk : RiskAssessment) : Option Recommendation :=
  match risk.level with
  | .high => some
    { kind := .warning, priority := .high, concern := .risk
      message := s!"High risk score ({risk.score.percentText}). Requires thorough review." }
  | .medium => some
    { kind := .info, priority := .medium, concern := .risk
      message := s!"Medium risk score ({risk.score.percentText}). Standard review recommended." }
  | .low => none

/-- The recommendation that goes with more than `limit` files. The limit is written however long its
numeral is; settings ask for one of at least one, which is no longer than the number of files. -/
def ofCount (limit : Int) (count : Nat) : Option Recommendation :=
  if limit < count then some
    { kind := .info, priority := .low, concern := .process
      message := s!"Large diff detected (>{limit} files). Consider breaking into smaller PRs." }
  else none

/-- The recommendation that goes with source code without tests. -/
def ofPaths (paths : List String) : Option Recommendation :=
  match paths.filter isSourcePath with
  | [] => none
  | files =>
    if paths.any isTestPath then none
    else some
      { kind := .review, priority := .medium, concern := .testing, files
        message := "Source code changed without test changes. Consider adding tests." }

/-- All recommendations in the order of the rules. -/
def byRule (limit : Int) (files : List ClassifiedFile) (risk : Option RiskAssessment) :
    List Recommendation :=
  typesInOrder.filterMap (ofType files) ++ (risk.bind ofRisk).toList ++
    (ofCount limit files.length).toList ++ (ofPaths (files.map (·.path))).toList

/-- The recommendations ordered by priority, those of one priority in the order of the list. -/
def byPriority (l : List Recommendation) : List Recommendation :=
  l.mergeSort fun r r' => r.priority.rank ≤ r'.priority.rank

/-- The recommendations for classified files. -/
def all (limit : Int) (files : List ClassifiedFile) (risk : Option RiskAssessment) :
    List Recommendation :=
  byPriority (byRule limit files risk)

/-- The log entry on recommendations. -/
def doneEntry (l : List Recommendation) : Log.Record where
  level := .debug
  logger := "diffagent.report.recommendations"
  message := "Generated recommendations"
  fields := [("recommendation_count", .nat l.length)]

/-- The recommendations, with a log entry on them. -/
def generate (limit : Int) (files : List ClassifiedFile) (risk : Option RiskAssessment) :
    Traced (List Recommendation) := do
  let l := all limit files risk
  Traced.log (doneEntry l)
  return l

end Recommendation

end PatchTriage
