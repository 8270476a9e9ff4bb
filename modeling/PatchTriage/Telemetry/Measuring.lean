import PatchTriage.Fault
import PatchTriage.Telemetry.Metrics

/-!
# Measured work

Work calls on a collector to record a metric or to forget all records. It may raise faults, which
leave blocks until something handles them. A timed block records its duration when it is left,
whether a fault is raised in it or not; how long it takes is up to the clock, and so a part of the
work.

Counters and durations are declared as numbers of the interchange format, and only a gauge may also
be a whole number. A record is kept before it is logged: a call whose log message cannot be written
is the call followed by work that has ended with the fault of writing.
-/

namespace PatchTriage

/-- A call on a collector. -/
inductive CollectorCall where
  | counter (name : String) (amount : Double) (tags : Fields)
  | gauge (name : String) (value : Reading) (tags : Fields)
  | timer (name : String) (elapsed : Double) (tags : Fields)
  | clear

/-- The record that a call asks for, if it asks for one. -/
def CollectorCall.metric? : CollectorCall → Option Metric
  | counter name amount tags => some { name, kind := .counter, value := .real amount, tags }
  | gauge name value tags => some { name, kind := .gauge, value, tags }
  | timer name elapsed tags => some { name, kind := .timer, value := .real elapsed, tags }
  | clear => none

/-- Answers a call. -/
def Collector.answer (c : Collector) (call : CollectorCall) : Collector :=
  match call.metric? with
  | some m => c.record m
  | none => c.clear

/-- Work that calls on a collector. -/
inductive MeasuredWork where
  /-- Nothing more to do, unless a fault is raised. -/
  | ended (raised : Option Fault)
  | call (c : CollectorCall)
  | andThen (first second : MeasuredWork)
  | timed (name : String) (elapsed : Double) (tags : Fields) (body : MeasuredWork)
  /-- Handles the fault that the body raises. -/
  | rescue (body : MeasuredWork) (handler : Fault → MeasuredWork)

/-- Does the work: the collector afterwards, and the fault that is raised if nothing handles it. -/
def MeasuredWork.run : MeasuredWork → Collector → Collector × Option Fault
  | ended raised, c => (c, raised)
  | call k, c => (c.answer k, none)
  | andThen first second, c =>
    match first.run c with
    | (c, none) => second.run c
    | (c, some f) => (c, some f)
  | timed name elapsed tags body, c =>
    let (c, raised) := body.run c
    (c.answer (.timer name elapsed tags), raised)
  | rescue body handler, c =>
    match body.run c with
    | (c, none) => (c, none)
    | (c, some f) => (handler f).run c

end PatchTriage
