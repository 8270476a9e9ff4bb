import PatchTriage.Change.Basic
import PatchTriage.Fault
import PatchTriage.Patch.Totals

/-!
# Candidates

Files that come from elsewhere may lack parts: the file, its classification, its hunks or a count.
What sums up or lists such a part stops with a fault; everything else gets by without it.
-/

namespace PatchTriage

/-- A file with its classification, either of which may be missing. -/
structure Candidate where
  file : Option FileChange
  classification : Option Classification

/-- The candidate that lacks nothing. -/
def ClassifiedFile.toCandidate (f : ClassifiedFile) : Candidate :=
  { file := some f.file, classification := some f.classification }

namespace Fault

/-- The fault of asking nothing for an attribute. -/
def missingAttribute (name : String) : Fault where
  label := "AttributeError"
  message := s!"'NoneType' object has no attribute '{name}'"

/-- The fault of adding up a count that is left out. -/
def missingCount : Fault where
  label := "TypeError"
  message := "unsupported operand type(s) for +: 'int' and 'NoneType'"

/-- The fault of going through a list that is left out. -/
def missingList : Fault where
  label := "TypeError"
  message := "'NoneType' object is not iterable"

end Fault

/-- The value that is there, or a fault. -/
def orFault {α : Type} (fault : Fault) : Option α → Except Fault α
  | some a => .ok a
  | none => .error fault

/-- The counts of one name of all files. -/
def countsOf (name : String) (count : FileChange → Option Int) (files : List (Option FileChange)) :
    Except Fault (List Int) :=
  files.mapM fun f => do
    let f ← orFault (.missingAttribute name) f
    orFault .missingCount (count f)

/-- The totals of files, each of which has to be there with its counts. -/
def Totals.ofParts (files : List (Option FileChange)) : Except Fault Totals := do
  let additions ← countsOf "additions" FileChange.additions files
  let deletions ← countsOf "deletions" FileChange.deletions files
  return { files := files.length, additions := sumInts additions, deletions := sumInts deletions }

/-- The hunks of a file, which have to be there. -/
def FileChange.hunksOrFault (f : FileChange) : Except Fault (List Hunk) :=
  orFault .missingList f.hunks

/-- The classified files that candidates stand for, if none lacks a part that a report sums up. -/
def Candidate.complete (l : List Candidate) : Except Fault (List ClassifiedFile) := do
  let classifications ← l.mapM fun c => orFault (.missingAttribute "change_type") c.classification
  let _ ← Totals.ofParts (l.map (·.file))
  return (l.filterMap (·.file)).zipWith ClassifiedFile.mk classifications

end PatchTriage
