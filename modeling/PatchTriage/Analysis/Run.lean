import PatchTriage.Analysis.Measures
import PatchTriage.Analysis.Pipeline
import PatchTriage.Digest
import PatchTriage.Report.Basic
import PatchTriage.Risk.Assess

/-!
# Analysing a diff

A run reads the text, classifies every file, assesses the risks and draws up the report. A text
that is too large is refused; a text that cannot be read makes the report a failure; a file that
cannot be classified or assessed degrades that file alone. The run leaves a trace of log entries,
metrics and captured faults, which does not bear on the report except that captured faults are
listed in it when they are kept.
-/

namespace PatchTriage

/-- A text that is too large. -/
structure TooLarge where
  size : Nat
  limit : Int
deriving DecidableEq, Repr

/-- The text that reports it. -/
def TooLarge.message (e : TooLarge) : String :=
  s!"Diff is {e.size} bytes, limit is {e.limit} bytes. Raise MAX_DIFF_SIZE_BYTES to analyze it."

/-- Why a run finds nothing. -/
inductive RunError where
  | refused (e : TooLarge)
  | failed (f : Fault)

namespace RunError

/-- The error that a report shows. -/
def message : RunError → String
  | refused e => e.message
  | failed f => s!"Analysis failed: {f.message}"

end RunError

namespace Analysis

/-- The name of the log of runs. -/
def logger : String := "diffagent.agents.diff_agent"

/-- A log entry of a run. -/
def entry (level : Level) (message : String) (fields : Fields) (failure : Option Log.Failure) :
    Log.Record :=
  { level, logger, message, fields, failure }

/-- Refuses a text that is too large. -/
def checkSize (s : Settings) (text : String) : Except TooLarge Unit :=
  let size := text.utf8ByteSize
  if s.maxDiffBytes < size then .error { size, limit := s.maxDiffBytes } else .ok ()

/-- The files that captured faults degrade, as far as faults are kept. -/
def degraded (s : Settings) (events : List Event) : List DegradedFile :=
  (s.keeping.tracker events).faults.map DegradedFile.ofFault

/-- Classifies and assesses the files of a patch and draws up the findings. -/
def examine (s : Settings) (classifier : Classifier) (patch : Patch) : Traced Findings := do
  Traced.gauge MetricName.parsedFiles patch.files.length
  let (files, whileClassifying) ←
    (Traced.timed MetricName.classifyDuration (classifier.classifyFiles patch)).listen
  Traced.gauge MetricName.classifiedFiles files.length
  let (risk, whileAssessing) ←
    (Traced.timed MetricName.assessDuration
      (s.riskRules.assess (files.map ClassifiedFile.toCandidate))).listen
  Traced.measure
    { name := MetricName.riskScore, kind := .gauge, value := .real (.ofGrid risk.score) }
  let degraded := degraded s (whileClassifying ++ whileAssessing)
  Traced.gauge MetricName.degradedFiles degraded.length
  let recommendations ← Recommendation.generate s.largeDiffFiles files (some risk)
  return { summary := .of files (some risk), files, risk, recommendations, degraded }

/-- The findings on a text, or why there are none. -/
def find (s : Settings) (p : Pipeline) (text : String) : Traced (Except RunError Findings) :=
  match checkSize s text with
  | .error e => pure (.error (.refused e))
  | .ok _ => do
    match ← Traced.timed MetricName.parseDuration (p.read text) with
    | .error f => return .error (.failed f)
    | .ok patch =>
      let findings ← examine s p.classifier patch
      return .ok findings

/-- The log entry on a complete run. -/
def completeEntry (f : Findings) : Log.Record :=
  entry .info "Analysis complete"
    [("total_files", .nat f.summary.totals.files), ("risk_level", .text f.risk.level.name),
      ("degraded_files", .nat f.degraded.length)] none

/-- The outcome of a run. -/
def conclude : Except RunError Findings → Traced Outcome
  | .ok f => do
    Traced.count MetricName.completed
    Traced.log (completeEntry f)
    return .success f
  | .error (.refused e) => do
    Traced.log (entry .warning s!"Diff refused: {e.message}" [] none)
    Traced.count MetricName.rejected
    return .failure (some (RunError.refused e).message)
  | .error (.failed f) => do
    let message := (RunError.failed f).message
    Traced.log (entry .error message [] (some (.fault f)))
    return .failure (some message)

/-- The outcome of analysing a text. -/
def outcome (s : Settings) (p : Pipeline) (text : String) : Traced Outcome := do
  Traced.count MetricName.started
  Traced.log (entry .info "Starting analysis" [("diff_bytes", .nat text.length)] none)
  let found ← Traced.timed MetricName.duration (find s p text)
  conclude found

/-- Analyses a text, inside a block that adds its digest to the context of log entries. -/
def run (s : Settings) (p : Pipeline) (text : String) : Traced Report := do
  let digest := Digest.short text
  let reached ← Traced.within [("diff_digest", .text digest)] (outcome s p text)
  return { digest, outcome := reached }

/-- The summary of the metrics of a run. -/
def metrics (s : Settings) (r : Traced Report) : MetricSummary :=
  (s.keeping.collector r.events).summary

/-- The log of a run that begins outside of all blocks. -/
def log (s : Settings) (clock : Log.Clock) (r : Traced Report) : List Log.Entry :=
  s.keeping.log clock [] r.events

end Analysis

end PatchTriage
