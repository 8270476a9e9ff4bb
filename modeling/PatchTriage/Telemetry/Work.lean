import PatchTriage.Telemetry.Context
import PatchTriage.Telemetry.Event

/-!
# Work in blocks

Work captures faults and raises them, inside blocks that open a scope for captured faults or add
fields to the log context. A block is left when its body ends, whether it raised a fault or not; a
raised fault leaves blocks until something handles it. A run goes point by point: what is left to do
stands in a stack of frames, and each block that is open has a frame of its own.
-/

namespace PatchTriage

/-- A block around work: a scope for captured faults, or fields for log records. -/
inductive Block where
  | tracking (enabled : Bool)
  | context (fields : Fields)

/-- Work inside blocks. -/
inductive Work where
  /-- Nothing more to do, unless a fault is raised. -/
  | ended (raised : Option Fault)
  | capture (fault : CapturedFault)
  | andThen (first second : Work)
  | within (block : Block) (body : Work)
  /-- Handles the fault that the body raises. -/
  | rescue (body : Work) (handler : Fault → Work)

/-- A scope of a run, told by its number among those that were entered. -/
structure Scope where
  number : Nat
  enabled : Bool
deriving DecidableEq, Repr

/-- A block that is open. -/
inductive OpenBlock where
  | tracking (scope : Scope)
  | context (fields : Fields)

/-- What is to be done when the work at hand has ended. -/
inductive Frame where
  | next (second : Work)
  | leaving (block : OpenBlock)
  | handling (handler : Fault → Work)

/-- The scopes that are open in frames, innermost first. -/
def openScopes (frames : List Frame) : List Scope :=
  frames.filterMap fun
    | .leaving (.tracking scope) => some scope
    | _ => none

/-- The fields of the context blocks that are open in frames, innermost first. -/
def openFields (frames : List Frame) : List Fields :=
  frames.filterMap fun
    | .leaving (.context fields) => some fields
    | _ => none

/-- A capture on the way. -/
structure Capture where
  /-- The innermost scope that was open. -/
  scope : Option Scope
  fault : CapturedFault
  /-- The identity that it answers with, empty if the fault is not kept. -/
  id : String

/-- A point of a run. -/
structure Point where
  work : Work
  frames : List Frame := []
  scopes : Scopes := []
  contexts : Log.Contexts := []
  /-- The number of scopes entered so far. -/
  entered : Nat := 0
  /-- The captures so far. -/
  captures : List Capture := []
  /-- The scopes left so far, each with what its tracker had kept by then. -/
  left : List (Scope × Tracker) := []

namespace Point

/-- What follows, in a frame, on work that has ended. -/
def resume (p : Point) (raised : Option Fault) (frames : List Frame) : Frame → Point
  | .next second => { p with work := raised.elim second fun _ => .ended raised, frames }
  | .leaving (.tracking scope) => { p with
      frames
      scopes := p.scopes.leave
      left := p.left ++ p.scopes.head?.toList.map (scope, ·) }
  | .leaving (.context _) => { p with frames, contexts := p.contexts.leave }
  | .handling handler => { p with work := raised.elim (.ended none) handler, frames }

/-- The next point, unless everything is done. -/
def step? (p : Point) : Option Point :=
  match p.work with
  | .ended raised =>
    match p.frames with
    | [] => none
    | frame :: frames => some (p.resume raised frames frame)
  | .capture fault => some { p with
      work := .ended none
      scopes := p.scopes.capture fault
      captures := p.captures ++ [{
        scope := (openScopes p.frames).head?
        fault
        id := if p.scopes.keeps then Keeping.faultId else "" }] }
  | .andThen first second => some { p with work := first, frames := .next second :: p.frames }
  | .within (.tracking enabled) body => some { p with
      work := body
      frames := .leaving (.tracking ⟨p.entered, enabled⟩) :: p.frames
      scopes := p.scopes.enter enabled
      entered := p.entered + 1 }
  | .within (.context fields) body => some { p with
      work := body
      frames := .leaving (.context fields) :: p.frames
      contexts := p.contexts.enter fields }
  | .rescue body handler => some { p with work := body, frames := .handling handler :: p.frames }

end Point

end PatchTriage
