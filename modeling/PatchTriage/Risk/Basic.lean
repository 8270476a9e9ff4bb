import PatchTriage.Change.Basic
import PatchTriage.Schema.Violation

/-!
# Risks

The risk of a file is a number between zero and one that is drawn from three factors; the risk of
a patch is that of its files taken together, and lies in one of three bands.
-/

namespace PatchTriage

/-- The band of a risk. -/
inductive RiskLevel where
  | low
  | medium
  | high
deriving DecidableEq, Repr

namespace RiskLevel

/-- All bands from below. -/
def all : List RiskLevel := [low, medium, high]

/-- The name of a band. -/
def name : RiskLevel → String
  | low => "low"
  | medium => "medium"
  | high => "high"

/-- The name of a band in capitals. -/
def title : RiskLevel → String
  | low => "LOW"
  | medium => "MEDIUM"
  | high => "HIGH"

/-- The rank of a band, least for `low`. -/
def rank : RiskLevel → Nat
  | low => 0
  | medium => 1
  | high => 2

instance : LE RiskLevel := ⟨fun a b => a.rank ≤ b.rank⟩

instance (a b : RiskLevel) : Decidable (a ≤ b) := inferInstanceAs (Decidable (a.rank ≤ b.rank))

end RiskLevel

/-- The factors of a file's risk. -/
structure RiskFactors where
  fileType : Binary64
  changeType : Binary64
  size : Binary64
deriving DecidableEq, Repr

namespace RiskFactors

/-- The name of the record. -/
def recordName : String := "RiskFactors"

/-- The factors that are out of bounds. -/
def outOfBounds (f : RiskFactors) : List OutOfBounds :=
  [("file_type", f.fileType), ("change_type", f.changeType), ("size", f.size)].filterMap
    fun (name, x) => OutOfBounds.score? name x

/-- The factors, unless one of them is out of bounds. -/
def checked (f : RiskFactors) : Except Fault RiskFactors :=
  match f.outOfBounds with
  | [] => .ok f
  | l => .error (OutOfBounds.fault recordName l)

/-- The mean of the factors. -/
def mean (f : RiskFactors) : Binary64 :=
  ((f.fileType + f.changeType + f.size) / 3).clamp

end RiskFactors

/-- The risk of one file. -/
structure FileRisk where
  path : String
  score : Binary64
  /-- What the score is drawn from, unless it could not be computed. -/
  factors : Option RiskFactors := none
deriving DecidableEq, Repr

/-- The risks of the files of a patch. -/
structure RiskDetails where
  files : List FileRisk := []
  total : Nat := 0
deriving DecidableEq, Repr

/-- The risk of a patch. -/
structure RiskAssessment where
  score : Binary64
  level : RiskLevel
  details : RiskDetails := {}
deriving DecidableEq, Repr

/-- The files whose own risk is at least `threshold`. -/
def RiskAssessment.filesFrom (a : RiskAssessment) (threshold : Binary64) : List FileRisk :=
  a.details.files.filter fun f => threshold ≤ f.score

end PatchTriage
