import PatchTriage.Fault
import PatchTriage.Json.Printer
import PatchTriage.Telemetry.Level

/-!
# Captured faults

A fault that degrades one file does not end a run: it is captured with the stage and the file it
hit. A tracker keeps the captured faults of one scope; scopes nest, and a fault goes to the
innermost scope alone. A tracker that is switched off keeps nothing and hides those around it.
-/

namespace PatchTriage

/-- A captured fault. -/
structure CapturedFault where
  severity : Level
  fault : Fault
  /-- What is known of where it arose, such as the stage and the file. -/
  context : Fields

namespace CapturedFault

/-- A field of the context; null if it is absent. -/
def field (r : CapturedFault) (name : String) : Json := (Table.get? r.context name).getD .null

/-- The stage that the fault hit. -/
def stage (r : CapturedFault) : Json := r.field "stage"

/-- The file that the fault hit. -/
def filePath (r : CapturedFault) : Json := r.field "file_path"

/-- The stage by which the fault is counted; one that is absent or blank is unknown. -/
def countedStage (r : CapturedFault) : Json := if r.stage.isBlank then .text "unknown" else r.stage

/-- The record in JSON. Of the trace it has the last line alone, which tells the fault: the lines
above it, on where the fault was raised, are left out. -/
def toJson (r : CapturedFault) : Json :=
  .object [("severity", .text r.severity.severity), ("exception_type", .text r.fault.label),
    ("exception_message", .text r.fault.message), ("traceback", .text (r.fault.traceLine ++ "\n")),
    ("context", .object r.context)]

end CapturedFault

/-- The captured faults of one scope, in order. -/
structure Tracker where
  enabled : Bool := true
  faults : List CapturedFault := []

/-- The counts of captured faults. -/
structure FaultCounts where
  total : Nat
  byStage : Table Json Nat
  byLabel : Table String Nat
deriving Repr

namespace Tracker

/-- Takes a fault. -/
def capture (t : Tracker) (r : CapturedFault) : Tracker :=
  if t.enabled then { t with faults := t.faults ++ [r] } else t

/-- Takes faults one after another. -/
def captureAll (t : Tracker) (l : List CapturedFault) : Tracker :=
  if t.enabled then { t with faults := t.faults ++ l } else t

/-- The faults of a severity and a stage, as far as these are given; a blank stage is not given. -/
def select (t : Tracker) (severity : Option Level) (stage : Json) : List CapturedFault :=
  t.faults.filter fun r => severity.all (· == r.severity) && (stage.isBlank || r.stage == stage)

/-- Counts the faults by stage and by label. A stage that is a list or an object cannot be counted
by, and the first of these is the fault. -/
def counts (t : Tracker) : Except Fault FaultCounts := do
  let stages := t.faults.map (·.countedStage)
  if let some stage := stages.find? (·.isCompound) then
    throw { label := "TypeError", message := s!"unhashable type: '{stage.kindName}'" }
  return {
    total := t.faults.length
    byStage := Table.counts stages
    byLabel := Table.counts (t.faults.map (·.fault.label)) }

/-- Forgets every fault. -/
def clear (t : Tracker) : Tracker := { t with faults := [] }

end Tracker

/-- The name under which a stage stands in JSON. -/
def stageName (stage : Json) : String :=
  match stage with
  | .text s => s
  | v => String.ofList v.compact

/-- A table of counts in JSON. -/
def countsJson (t : Table String Nat) : Json := .object (t.map fun e => (e.1, .nat e.2))

/-- The counts in JSON. -/
def FaultCounts.toJson (c : FaultCounts) : Json :=
  .object [("total_errors", .nat c.total),
    ("stage_counts", countsJson (c.byStage.map fun e => (stageName e.1, e.2))),
    ("type_counts", countsJson c.byLabel)]

/-- The scopes that are open, innermost first. -/
abbrev Scopes := List Tracker

namespace Scopes

/-- Opens a scope. -/
def enter (s : Scopes) (enabled : Bool) : Scopes := { enabled } :: s

/-- Leaves the innermost scope. -/
def leave (s : Scopes) : Scopes := s.tail

/-- Captures a fault in the innermost scope; without an open scope it is kept nowhere. -/
def capture (s : Scopes) (r : CapturedFault) : Scopes :=
  match s with
  | [] => []
  | t :: outer => t.capture r :: outer

/-- Whether a fault captured now is kept. -/
def keeps (s : Scopes) : Bool := s.head?.any (·.enabled)

/-- The text that reports the lack of a scope. -/
def noneOpen : String := "No error tracker active. Use error_tracking() first."

end Scopes

end PatchTriage
