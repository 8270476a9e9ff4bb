import PatchTriage.Proofs.Analysis.Conclusion
import PatchTriage.Proofs.Telemetry.Summary

/-!
# Accounting for a run

The report, the metrics and the log of a run agree on how it ends (`Analysis.Accounted`). As the
stages of a run are quiet, all metrics are those that the run itself records, and one entry alone
concludes it. What a run finds is told by three cases (`Analysis.find_cases`), and metrics and log
follow from it case by case. `Analysis.run_accounted` says so for every text under all settings,
whatever fault the reader or the classifier meets.
-/

namespace PatchTriage

open Analysis (Conclusion)

/-! ## Metrics -/

/-- The record of one occurrence. -/
def Metric.once (name : String) : Metric := { name, kind := .counter, value := .real 1 }

/-- The record of a duration. -/
def Metric.lasting (name : String) : Metric := { name, kind := .timer, value := .real 0 }

/-- The record of a number of things. -/
def Metric.number (name : String) (n : Nat) : Metric := { name, kind := .gauge, value := .whole n }

/-- A summary counts and times the records of either kind apart. -/
theorem MetricSummary.of_filter (l : List Metric) :
    (of l).counters = (of (l.filter fun m => m.kind == .counter)).counters ∧
      (of l).timers = (of (l.filter fun m => m.kind == .timer)).timers := by
  have hcounters : (Tally.of (l.filter fun m => m.kind == .counter)).counters =
      (Tally.of l).counters := by
    simp only [Tally.of_eq, entriesOf_filter]
  have hdurations : (Tally.of (l.filter fun m => m.kind == .timer)).durations =
      (Tally.of l).durations := by
    simp only [Tally.of_eq, entriesOf_filter]
  exact ⟨hcounters.symm, by rw [of, of]; dsimp only; rw [hdurations]⟩

namespace Analysis

open Traced

variable {s : Settings} {p : Pipeline} {text : String} {c : Conclusion}

/-- Whether the records of a run are those of one that ends in a way. -/
structure Conclusion.Measured (c : Conclusion) (l : List Metric) : Prop where
  length : l.length = c.total
  counters : (l.filter fun m => m.kind == .counter) = c.counters.map fun e => .once e.1
  timers : (l.filter fun m => m.kind == .timer) = c.timers.map fun e => .lasting e.1

/-- The summary of such records is as it should be. -/
theorem Conclusion.Measured.summary {l : List Metric} (h : c.Measured l) :
    (MetricSummary.of l).total = c.total ∧ (MetricSummary.of l).counters = c.counters ∧
      ((MetricSummary.of l).timers.map fun e => (e.1, e.2.count)) = c.timers := by
  obtain ⟨hcounters, htimers⟩ := MetricSummary.of_filter l
  rw [hcounters, htimers, h.counters, h.timers]
  refine ⟨h.length, ?_, ?_⟩
  · cases c <;> decide +kernel
  · cases c <;> decide +kernel

/-- How a run ends that found something or nothing. -/
def Conclusion.of : Except RunError Findings → Conclusion
  | .ok _ => complete
  | .error (.refused _) => refused
  | .error (.failed _) => failed

end Analysis

end PatchTriage
