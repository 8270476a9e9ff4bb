import PatchTriage.Change.Rules
import PatchTriage.Risk.Rules
import PatchTriage.Schema.Convert
import PatchTriage.Telemetry.Event
import PatchTriage.Text.Case

/-!
# Settings

The ten settings of an analysis with their defaults, their conversions and their bounds. Fields
are checked one by one in their order; that the medium band of risk does not begin above the high
one is checked last, and only when every field is valid.
-/

namespace PatchTriage

/-- The form of log lines. -/
inductive LogFormat where
  | json
  | text
deriving DecidableEq, Repr

/-- The name of a form. -/
def LogFormat.name : LogFormat → String
  | json => "json"
  | text => "text"

/-- The settings of an analysis. -/
structure Settings where
  environment : String := "development"
  /-- The greatest size of a diff in bytes. -/
  maxDiffBytes : Int := 1048576
  languageStrategies : Bool := true
  highThreshold : Binary64 := 0.7
  mediumThreshold : Binary64 := 0.4
  /-- The number of files above which a patch counts as large. -/
  largeDiffFiles : Int := 5
  logLevel : Level := .info
  logFormat : LogFormat := .text
  metrics : Bool := true
  errorTracking : Bool := true
deriving DecidableEq, Repr

namespace Settings

/-- The level with a name in letters of either case. -/
def logLevel? (s : String) : Option Level :=
  Level.ofName? (String.ofList (s.toList.map Text.asciiCapital))

/-- Why a name is no level. -/
def logLevelReason : String :=
  let names := ", ".intercalate (Level.all.map fun level => Text.quote level.name)
  s!"LOG_LEVEL must be one of [{names}]"

/-- The form with a name in letters of either case. -/
def logFormat? (s : String) : Option LogFormat :=
  [LogFormat.json, .text].find? fun format =>
    format.name == String.ofList (Text.lower s.toList)

/-- Why a name is no form. -/
def logFormatReason : String := "LOG_FORMAT must be 'json' or 'text'"

/-- A text that a further reading refuses for a reason. -/
def named {α : Type} (read? : String → Option α) (reason : String) (v : Json) : Checked α :=
  (Convert.text v).andThen fun s =>
    match read? s with
    | some a => .valid a
    | none => .refuse (.refused reason)

/-- Why the thresholds are refused. -/
def thresholdReason : String := "RISK_MEDIUM_THRESHOLD must not exceed RISK_HIGH_THRESHOLD"

/-- The settings, unless the thresholds are in the wrong order. -/
def ordered (s : Settings) : Checked Settings :=
  if s.highThreshold < s.mediumThreshold then .refuse (.refused thresholdReason) else .valid s

/-- Converts and checks the fields that are given, the others having their defaults. -/
def ofFields (fields : Fields) : Checked Settings :=
  let standard : Settings := {}
  let checked := Settings.mk
    <$> Convert.fieldOr fields "ENVIRONMENT" standard.environment Convert.text
    <*> Convert.fieldOr fields "MAX_DIFF_SIZE_BYTES" standard.maxDiffBytes (Convert.above 0)
    <*> Convert.fieldOr fields "ENABLE_LANGUAGE_STRATEGIES" standard.languageStrategies
        Convert.boolean
    <*> Convert.fieldOr fields "RISK_HIGH_THRESHOLD" standard.highThreshold Convert.score
    <*> Convert.fieldOr fields "RISK_MEDIUM_THRESHOLD" standard.mediumThreshold Convert.score
    <*> Convert.fieldOr fields "LARGE_DIFF_FILE_COUNT" standard.largeDiffFiles (Convert.atLeast 1)
    <*> Convert.fieldOr fields "LOG_LEVEL" standard.logLevel (named logLevel? logLevelReason)
    <*> Convert.fieldOr fields "LOG_FORMAT" standard.logFormat (named logFormat? logFormatReason)
    <*> Convert.fieldOr fields "ENABLE_METRICS" standard.metrics Convert.boolean
    <*> Convert.fieldOr fields "ERROR_TRACKING_ENABLED" standard.errorTracking Convert.boolean
  checked.andThen ordered

/-- The settings as fields, each in its place. -/
def toFields (s : Settings) : Fields :=
  [("ENVIRONMENT", .text s.environment), ("MAX_DIFF_SIZE_BYTES", .int s.maxDiffBytes),
    ("ENABLE_LANGUAGE_STRATEGIES", .bool s.languageStrategies),
    ("RISK_HIGH_THRESHOLD", .real s.highThreshold),
    ("RISK_MEDIUM_THRESHOLD", .real s.mediumThreshold),
    ("LARGE_DIFF_FILE_COUNT", .int s.largeDiffFiles), ("LOG_LEVEL", .text s.logLevel.name),
    ("LOG_FORMAT", .text s.logFormat.name), ("ENABLE_METRICS", .bool s.metrics),
    ("ERROR_TRACKING_ENABLED", .bool s.errorTracking)]

/-- The rules of the classifier under these settings. -/
def classifierRules (s : Settings) : ClassifierRules :=
  { languageStrategies := s.languageStrategies }

/-- The rules of risk under these settings. -/
def riskRules (s : Settings) : RiskRules :=
  { highThreshold := s.highThreshold, mediumThreshold := s.mediumThreshold }

/-- What is kept of the trace of an analysis. -/
def keeping (s : Settings) : Keeping := { metrics := s.metrics, faults := s.errorTracking }

end Settings

end PatchTriage
