import PatchTriage.Json.Basic
import PatchTriage.Patch.Basic

/-!
# Classifications

The semantic type that a file change is given, how strong the evidence for it is, and what it was
computed from.
-/

namespace PatchTriage

/-- What a change is about. -/
inductive ChangeType where
  | bugFix
  | feature
  | refactor
  | documentation
  | test
  | securityFix
  | performance
  | other
  | noChange
  | unknown
deriving DecidableEq, Repr

namespace ChangeType

/-- All change types. -/
def all : List ChangeType :=
  [bugFix, feature, refactor, documentation, test, securityFix, performance, other, noChange,
    unknown]

/-- The name of a change type. -/
def name : ChangeType → String
  | bugFix => "bug_fix"
  | feature => "feature"
  | refactor => "refactor"
  | documentation => "documentation"
  | test => "test"
  | securityFix => "security_fix"
  | performance => "performance_optimization"
  | other => "other"
  | noChange => "no-change"
  | unknown => "unknown"

/-- The change type with a name. -/
def ofName? (s : String) : Option ChangeType := all.find? fun type => type.name == s

/-- Whether the type says that there was nothing to classify. -/
def isTerminal : ChangeType → Bool
  | noChange | unknown => true
  | _ => false

/-- The list of all change types misses none. -/
@[simp]
theorem mem_all (t : ChangeType) : t ∈ all := by cases t <;> decide

end ChangeType

/-- What a classification was computed from. -/
structure ChangeDetails where
  added : Nat := 0
  removed : Nat := 0
  total : Nat := 0
  /-- The bodies of the changed lines, joined by line feeds. -/
  content : String := ""
  /-- How many patterns of each category occur in the content. -/
  scores : Table String Int := []
deriving DecidableEq, Repr

/-- The type given to one file change. -/
structure Classification where
  changeType : ChangeType
  /-- The strength of the evidence. -/
  confidence : Binary64
  details : ChangeDetails := {}
  /-- The language whose own rules were applied. -/
  language : Option String := none
  /-- What was observed of that language. -/
  signals : Fields := []

/-- The classification of a file that cannot be classified. -/
def Classification.unknown : Classification := { changeType := .unknown, confidence := 0 }

/-- A file change with its classification. -/
structure ClassifiedFile where
  file : FileChange
  classification : Classification

/-- The path of the file. -/
def ClassifiedFile.path (f : ClassifiedFile) : String := f.file.path

/-- The change type of the file. -/
def ClassifiedFile.changeType (f : ClassifiedFile) : ChangeType := f.classification.changeType

end PatchTriage
