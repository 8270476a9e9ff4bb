import PatchTriage.Telemetry.Captured
import PatchTriage.Telemetry.Context
import PatchTriage.Telemetry.Line
import PatchTriage.Telemetry.Metrics

/-!
# Events

Work leaves events behind besides its result: log entries, measured metrics and captured faults, and
the blocks with fields for log entries that it enters and leaves. A traced value is a value with the
events on the way to it, in their order. Which of them are kept and logged, and in which context, is
decided only when a finished trace is read, so no result can depend on it.
-/

namespace PatchTriage

/-- Something that happened on the way to a result. -/
inductive Event where
  | entry (r : Log.Record)
  | measured (m : Metric)
  | captured (c : CapturedFault)
  /-- A block with fields for log entries begins. -/
  | entered (fields : Fields)
  /-- The innermost of these blocks ends. -/
  | left

/-- A value with the events on the way to it. -/
structure Traced (α : Type) where
  value : α
  events : List Event := []

namespace Traced

variable {α β : Type}

instance : Monad Traced where
  pure value := { value }
  bind x f :=
    let y := f x.value
    { value := y.value, events := x.events ++ y.events }

/-- A step whose only effect is an event. -/
def tell (e : Event) : Traced Unit := ⟨(), [e]⟩

/-- A step that writes a log entry. -/
def log (r : Log.Record) : Traced Unit := tell (.entry r)

/-- A step that records a metric. -/
def measure (m : Metric) : Traced Unit := tell (.measured m)

/-- A step that captures a fault as a warning. -/
def capture (fault : Fault) (context : Fields) : Traced Unit :=
  tell (.captured { severity := .warning, fault, context })

/-- Work inside a block with fields for log entries. -/
def within (fields : Fields) (work : Traced α) : Traced α := do
  tell (.entered fields)
  let result ← work
  tell .left
  return result

/-- Works through a list from left to right. -/
def each (f : α → Traced β) (l : List α) : Traced (List β) :=
  let all := l.map f
  { value := all.map (·.value), events := all.flatMap (·.events) }

/-- The same work with its events beside the value. -/
def listen (x : Traced α) : Traced (α × List Event) :=
  { value := (x.value, x.events), events := x.events }

/-- A value alone is its own result. -/
@[simp] theorem value_pure (a : α) : (pure a : Traced α).value = a := rfl

/-- A value alone leaves no events. -/
@[simp] theorem events_pure (a : α) : (pure a : Traced α).events = [] := rfl

/-- The result of work in two steps is that of the second one. -/
@[simp] theorem value_bind (x : Traced α) (f : α → Traced β) :
    (x >>= f).value = (f x.value).value := rfl

/-- The events of work in two steps are those of the first one and then those of the second one. -/
@[simp] theorem events_bind (x : Traced α) (f : α → Traced β) :
    (x >>= f).events = x.events ++ (f x.value).events := rfl

/-- The results of work on a list are those for its elements. -/
@[simp] theorem value_each (f : α → Traced β) (l : List α) :
    (each f l).value = l.map fun a => (f a).value := by
  simp [each]

/-- The events of work on a list are those for its elements, one after another. -/
@[simp] theorem events_each (f : α → Traced β) (l : List α) :
    (each f l).events = l.flatMap fun a => (f a).events := by
  simp [each, List.flatMap_map]

/-- An event that is told is the only one. -/
@[simp] theorem events_tell (e : Event) : (tell e).events = [e] := rfl

/-- A log entry is the only event of writing it. -/
@[simp] theorem events_log (r : Log.Record) : (log r).events = [.entry r] := rfl

/-- A metric is the only event of recording it. -/
@[simp] theorem events_measure (m : Metric) : (measure m).events = [.measured m] := rfl

/-- A fault is the only event of capturing it. -/
@[simp] theorem events_capture (fault : Fault) (context : Fields) :
    (capture fault context).events = [.captured { severity := .warning, fault, context }] := rfl

/-- A block with fields has the result of the work inside. -/
@[simp] theorem value_within (fields : Fields) (x : Traced α) :
    (within fields x).value = x.value := rfl

/-- To listen to work is to have its result and its events. -/
@[simp] theorem value_listen (x : Traced α) : x.listen.value = (x.value, x.events) := rfl

/-- To listen to work adds no events. -/
@[simp] theorem events_listen (x : Traced α) : x.listen.events = x.events := rfl

end Traced

namespace Event

/-- The metric that an event records. -/
@[simp]
def metric? : Event → Option Metric
  | measured m => some m
  | _ => none

/-- The fault that an event captures. -/
@[simp]
def fault? : Event → Option CapturedFault
  | captured c => some c
  | _ => none

/-- The contexts in force behind an event. -/
@[simp]
def contexts (c : Log.Contexts) : Event → Log.Contexts
  | entered fields => c.enter fields
  | left => c.leave
  | _ => c

end Event

/-- The metrics that a trace records. -/
def metricsOf (events : List Event) : List Metric := events.filterMap Event.metric?

/-- The faults that a trace captures. -/
def faultsOf (events : List Event) : List CapturedFault := events.filterMap Event.fault?

/-- Where nothing happens, no metric is recorded. -/
@[simp] theorem metricsOf_nil : metricsOf [] = [] := rfl

/-- The metric that the first event records stands first. -/
@[simp] theorem metricsOf_cons (e : Event) (events : List Event) :
    metricsOf (e :: events) = e.metric?.toList ++ metricsOf events := by
  rw [metricsOf, List.filterMap_cons]
  cases e.metric? <;> rfl

/-- The metrics of two parts of a trace. -/
@[simp] theorem metricsOf_append (e e' : List Event) :
    metricsOf (e ++ e') = metricsOf e ++ metricsOf e' := List.filterMap_append

/-- Where nothing happens, no fault is captured. -/
@[simp] theorem faultsOf_nil : faultsOf [] = [] := rfl

/-- The fault that the first event captures stands first. -/
@[simp] theorem faultsOf_cons (e : Event) (events : List Event) :
    faultsOf (e :: events) = e.fault?.toList ++ faultsOf events := by
  rw [faultsOf, List.filterMap_cons]
  cases e.fault? <;> rfl

/-- The faults of two parts of a trace. -/
@[simp] theorem faultsOf_append (e e' : List Event) :
    faultsOf (e ++ e') = faultsOf e ++ faultsOf e' := List.filterMap_append

/-- What is kept of a trace. -/
structure Keeping where
  metrics : Bool
  faults : Bool
deriving DecidableEq, Repr

namespace Keeping

/-- The collector that has seen a trace. -/
def collector (k : Keeping) (events : List Event) : Collector :=
  ({ enabled := k.metrics } : Collector).recordAll (metricsOf events)

/-- The tracker that has seen a trace. -/
def tracker (k : Keeping) (events : List Event) : Tracker :=
  ({ enabled := k.faults } : Tracker).captureAll (faultsOf events)

/-- The name of the log that tells of metrics. -/
def metricsLogger : String := "diffagent.observability.metrics"

/-- The name of the log that tells of captured faults. -/
def faultsLogger : String := "diffagent.observability.errors"

/-- The identity of a captured fault differs from run to run; this stands for it. -/
def faultId : String := "<id>"

/-- The log entry on a recorded metric. -/
def metricEntry (clock : Log.Clock) (m : Metric) : Log.Record where
  level := .debug
  logger := metricsLogger
  message := m.message clock.elapsed

/-- The log entry on a captured fault. -/
def faultEntry (c : CapturedFault) : Log.Record where
  level := c.severity
  logger := faultsLogger
  message := s!"Error captured: {c.fault.summary}"
  fields := [("error_id", .text faultId), ("error_context", .object c.context)]

/-- The log entry that an event gives rise to: a metric or a fault that is not kept gives none. -/
def entry? (k : Keeping) (clock : Log.Clock) : Event → Option Log.Record
  | .entry r => some r
  | .measured m => if k.metrics then some (metricEntry clock m) else none
  | .captured c => if k.faults then some (faultEntry c) else none
  | .entered _ | .left => none

/-- The log entries that a trace gives rise to. -/
def entries (k : Keeping) (clock : Log.Clock) (events : List Event) : List Log.Record :=
  events.filterMap (k.entry? clock)

/-- The log of a trace: its entries, each with the context in force, which is at first that of
`contexts`. -/
def log (k : Keeping) (clock : Log.Clock) (contexts : Log.Contexts) : List Event → List Log.Entry
  | [] => []
  | e :: events =>
    (k.entry? clock e).toList.map (fun record => { record, context := contexts.current }) ++
      k.log clock (e.contexts contexts) events

end Keeping

end PatchTriage
