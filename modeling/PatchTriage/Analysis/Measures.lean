import PatchTriage.Telemetry.Event

/-!
# What a run measures

The names of the metrics of a run, and the steps that record them.
-/

namespace PatchTriage

namespace MetricName

/-- Runs that began. -/
def started : String := "analysis.started"

/-- Runs that came to an end. -/
def completed : String := "analysis.completed"

/-- Texts that were refused. -/
def rejected : String := "analysis.rejected"

/-- The duration of a run. -/
def duration : String := "analysis.duration_ms"

/-- Files that were classified or assessed only in part. -/
def degradedFiles : String := "analysis.degraded_files"

/-- The duration of reading. -/
def parseDuration : String := "parse.duration_ms"

/-- Files that were read. -/
def parsedFiles : String := "parse.files"

/-- The duration of classifying. -/
def classifyDuration : String := "classify.duration_ms"

/-- Files that were classified. -/
def classifiedFiles : String := "classify.files"

/-- The duration of assessing. -/
def assessDuration : String := "assess.duration_ms"

/-- The risk of a patch. -/
def riskScore : String := "assess.risk_score"

end MetricName

namespace Traced

/-- Counts an occurrence. -/
def count (name : String) : Traced Unit :=
  measure { name, kind := .counter, value := .real 1 }

/-- Records a number of things. -/
def gauge (name : String) (n : Nat) : Traced Unit :=
  measure { name, kind := .gauge, value := .whole n }

/-- Records that something took its time. No answer depends on how long that was, so it is zero. -/
def time (name : String) : Traced Unit :=
  measure { name, kind := .timer, value := .real 0 }

/-- Does a piece of work and records that it took its time, whatever came of it. -/
def timed {α : Type} (name : String) (work : Traced α) : Traced α := do
  let result ← work
  time name
  return result

/-- To take the time of work does not change its result. -/
@[simp] theorem value_timed {α : Type} (name : String) (x : Traced α) :
    (timed name x).value = x.value := rfl

/-- Work that is timed records its duration behind everything else. -/
@[simp] theorem events_timed {α : Type} (name : String) (x : Traced α) :
    (timed name x).events =
      x.events ++ [.measured { name, kind := .timer, value := .real 0 }] := rfl

end Traced

end PatchTriage
