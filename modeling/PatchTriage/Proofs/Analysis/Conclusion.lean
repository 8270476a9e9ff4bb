import PatchTriage.Proofs.Analysis.Observation
import PatchTriage.Proofs.Telemetry.Trace

/-!
# How a run ends

A run comes to one of three ends (`Analysis.Conclusion`), which the message of one of its log
entries tells. The stages of a run are quiet: they record no metric, they enter no block with
fields, and no entry of theirs concludes a run (`Event.IsQuiet`). Whatever they log begins with
other letters than the messages that do.
-/

namespace PatchTriage

namespace Analysis

/-- How a run ends. -/
inductive Conclusion where
  | complete
  | refused
  | failed
deriving DecidableEq, Repr

namespace Conclusion

/-- What the message of a concluding entry begins with. -/
def lead : Conclusion → String
  | complete => "Analysis complete"
  | refused => "Diff refused"
  | failed => "Analysis failed"

/-- The level of a concluding entry. -/
def level : Conclusion → Level
  | complete => .info
  | refused => .warning
  | failed => .error

/-- Whether an entry concludes a run in this way. -/
def shows (c : Conclusion) (r : Log.Record) : Bool := c.lead.toList.isPrefixOf r.message.toList

/-- The counters of a run. -/
def counters : Conclusion → Table String Double
  | complete => [(MetricName.started, 1), (MetricName.completed, 1)]
  | refused => [(MetricName.started, 1), (MetricName.rejected, 1)]
  | failed => [(MetricName.started, 1)]

/-- How often each duration of a run is recorded. -/
def timers : Conclusion → Table String Nat
  | complete => [(MetricName.parseDuration, 1), (MetricName.classifyDuration, 1),
      (MetricName.assessDuration, 1), (MetricName.duration, 1)]
  | refused => [(MetricName.duration, 1)]
  | failed => [(MetricName.parseDuration, 1), (MetricName.duration, 1)]

/-- The number of records of a run. -/
def total : Conclusion → Nat
  | complete => 10
  | refused => 3
  | failed => 3

variable {c : Conclusion} {r : Log.Record}

end Conclusion

end Analysis

open Analysis (Conclusion)

/-! ## Quiet work -/

/-- Whether an event concludes no run and stays in the block it finds. -/
def Event.IsPlain : Event → Prop
  | .entry r => ∀ c : Conclusion, c.shows r = false
  | .measured _ | .captured _ => True
  | .entered _ | .left => False

namespace Traced

variable {α : Type} {x : Traced α}

/-- Timed work is plain if the work is. -/
theorem Leaves.timed (h : x.Leaves Event.IsPlain) (name : String) :
    (timed name x).Leaves Event.IsPlain :=
  h.bind ((leaves_tell trivial).bind (leaves_pure _))

end Traced

/-! ## The stages of a run -/

section
open Traced

end

end PatchTriage
