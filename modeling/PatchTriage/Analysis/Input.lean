import PatchTriage.Fault
import PatchTriage.Json.Basic

/-!
# Inputs

What is handed in for a text. A value that counts as absent stands for the empty text, and any
other value that is no text is a fault.
-/

namespace PatchTriage.Analysis

/-- The fault of encoding a value that is no text. -/
def notText (v : Json) : Fault :=
  let kind := v.kindName
  { label := "AttributeError", message := s!"'{kind}' object has no attribute 'encode'" }

/-- The text of a value that has to be one. -/
def text : Json → Except Fault String
  | .text s => .ok s
  | v => .error (notText v)

/-- The text that a value stands for: every value that counts as absent is the empty text. -/
def textOrEmpty (v : Json) : Except Fault String := if v.isBlank then .ok "" else text v

end PatchTriage.Analysis
