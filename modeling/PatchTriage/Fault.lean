import PatchTriage.Text.Quoted

/-!
# Faults

A fault is a failure that a stage of the analysis meets: the label of its kind and a message. A
record that degrades a file and a report that fails both show it.
-/

namespace PatchTriage

/-- A failure, as reports show it. -/
structure Fault where
  /-- The kind of the failure. -/
  label : String
  message : String
deriving DecidableEq, Repr

namespace Fault

/-- The kind of a look-up that found nothing; its message is the key in quotes. -/
def keyLabel : String := "KeyError"

/-- A fault of a kind with what it was given to say; without that the message is empty. -/
def ofDetail (label : String) (detail : Option String) : Fault where
  label := label
  message :=
    match detail with
    | some d => if label == keyLabel then Text.quote d else d
    | none => ""

/-- The fault in one line, the message always behind the label. -/
def summary (f : Fault) : String := s!"{f.label}: {f.message}"

/-- The fault as the last line of a trace: a label without a message stands alone. -/
def traceLine (f : Fault) : String := if f.message.isEmpty then f.label else f.summary

end Fault

end PatchTriage
