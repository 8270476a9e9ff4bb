import PatchTriage.Binary64.Double
import PatchTriage.Json.Printer

/-!
# Metrics

A collector keeps what a run measures, in order: increments of counters, gauges and durations. Its
summary goes through the records once, adds up the counters and lists the durations name by name,
and then describes the durations under each name. A collector that is switched off takes every
record and keeps none.
-/

namespace PatchTriage

/-- What a metric measures. -/
inductive MetricKind where
  | counter
  | gauge
  | timer
deriving DecidableEq, Repr

namespace MetricKind

/-- The name of a kind. -/
def name : MetricKind → String
  | counter => "counter"
  | gauge => "gauge"
  | timer => "timer"

/-- The kind with a name. -/
def ofName? (s : String) : Option MetricKind :=
  [counter, gauge, timer].find? fun kind => kind.name == s

end MetricKind

/-- A measured value: a count, or any number. -/
inductive Reading where
  | whole (n : Int)
  | real (x : Double)
deriving DecidableEq, Repr

/-- A number in JSON; one that is not finite has no numeral, so that its word stands for it. -/
def Double.toJson : Double → Json
  | finite x _ => .real x
  | x => .text (String.ofList x.word)

namespace Reading

/-- The value as a number. -/
def toDouble : Reading → Double
  | whole n => .ofGrid (.ofInt n)
  | real x => x

/-- The value in JSON. -/
def toJson : Reading → Json
  | whole n => .int n
  | real x => x.toJson

/-- The value in a line for people. -/
def text : Reading → List Char
  | whole n => Json.intText n
  | real x => x.text

end Reading

/-- One record of a metric. -/
structure Metric where
  name : String
  kind : MetricKind
  value : Reading
  tags : Fields := []

namespace Metric

/-- The value as a number. -/
def amount (m : Metric) : Double := m.value.toDouble

/-- The record in JSON. -/
def toJson (m : Metric) : Json :=
  .object [("name", .text m.name), ("type", .text m.kind.name), ("value", m.value.toJson),
    ("tags", .object m.tags)]

/-- The log message on a record. Durations differ from run to run, so what stands for one is up to
the caller. -/
def message (elapsed : String) (m : Metric) : String :=
  let value := match m.kind with
    | .timer => elapsed
    | _ => String.ofList m.value.text
  let tags := if m.tags.isEmpty then "" else String.ofList (Json.object m.tags).display
  s!"{m.kind.name} recorded: {m.name}={value} {tags}"

end Metric

/-- The records of a run, in order. -/
structure Collector where
  enabled : Bool := true
  metrics : List Metric := []

namespace Collector

/-- Takes a record. -/
def record (c : Collector) (m : Metric) : Collector :=
  if c.enabled then { c with metrics := c.metrics ++ [m] } else c

/-- Takes records one after another. -/
def recordAll (c : Collector) (l : List Metric) : Collector :=
  if c.enabled then { c with metrics := c.metrics ++ l } else c

/-- Forgets every record. -/
def clear (c : Collector) : Collector := { c with metrics := [] }

/-- The records with a name and of a kind, as far as these are given. -/
def select (c : Collector) (name : Option String) (kind : Option MetricKind) : List Metric :=
  c.metrics.filter fun m => name.all (· == m.name) && kind.all (· == m.kind)

end Collector

/-- What is known of the durations under one name. -/
structure TimerStats where
  count : Nat
  total : Double
  average : Double
  greatest : Double
deriving DecidableEq, Repr

namespace TimerStats

/-- Describes durations; of none there is no average and no greatest. -/
def of? : List Double → Option TimerStats
  | [] => none
  | first :: rest =>
    let total := Double.sum (first :: rest)
    let count := rest.length + 1
    some { count, total, average := total.dividedBy (.ofInt count),
           greatest := rest.foldl Double.max first }

/-- The durations in JSON. -/
def toJson (s : TimerStats) : Json :=
  .object [("count", .nat s.count), ("total_ms", s.total.toJson), ("avg_ms", s.average.toJson),
    ("max_ms", s.greatest.toJson)]

end TimerStats

/-- What records come to, name by name: the sums of counters, and durations in their order. -/
structure Tally where
  counters : Table String Double := []
  durations : Table String (List Double) := []

namespace Tally

/-- Takes in a record: a counter is added to the sum under its name, and a duration goes to the end
of those under its name. -/
def add (t : Tally) (m : Metric) : Tally :=
  match m.kind with
  | .counter => { t with counters := Table.alter t.counters m.name 0 (· + m.amount) }
  | .timer => { t with durations := Table.alter t.durations m.name [] (· ++ [m.amount]) }
  | .gauge => t

/-- Takes in records in one pass. -/
def of (l : List Metric) : Tally := l.foldl add {}

end Tally

/-- The summary of a collector. -/
structure MetricSummary where
  total : Nat
  counters : Table String Double
  timers : Table String TimerStats

namespace MetricSummary

/-- Sums up records. -/
def of (l : List Metric) : MetricSummary :=
  let tally := Tally.of l
  { total := l.length
    counters := tally.counters
    timers := tally.durations.filterMap fun e => (TimerStats.of? e.2).map fun s => (e.1, s) }

/-- The summary in JSON. -/
def toJson (s : MetricSummary) : Json :=
  .object [("total_metrics", .nat s.total),
    ("counters", .object (s.counters.map fun e => (e.1, e.2.toJson))),
    ("timer_stats", .object (s.timers.map fun e => (e.1, e.2.toJson)))]

/-- The description of the durations under a name with one field a line. -/
def timerPage (elapsed : String) (s : TimerStats) : List Char :=
  Json.objectAt 2 [("count", digitsOf s.count), ("total_ms", elapsed.toList),
    ("avg_ms", elapsed.toList), ("max_ms", elapsed.toList)]

/-- The summary with one field a line. What stands for a duration is up to the caller. -/
def page (elapsed : String) (s : MetricSummary) : List Char :=
  Json.objectAt 0
    [("total_metrics", digitsOf s.total),
      ("counters", Json.objectAt 1 (s.counters.map fun e => (e.1, e.2.word))),
      ("timer_stats", Json.objectAt 1 (s.timers.map fun e => (e.1, timerPage elapsed e.2)))]

end MetricSummary

/-- The summary of the records that a collector holds. -/
def Collector.summary (c : Collector) : MetricSummary := .of c.metrics

end PatchTriage
