import PatchTriage.Change.Generic
import PatchTriage.Change.Go
import PatchTriage.Telemetry.Event

/-!
# The classifier

Every file gets a classification. The strategy follows from the language of its path and refines
what the patterns say; a file without hunks and a file whose classification fails are unknown, the
latter with a captured fault.
-/

namespace PatchTriage

/-- How a file is classified. -/
inductive Strategy where
  | generic
  | typescript
  | go
deriving DecidableEq, Repr

/-- The strategy of a language. -/
def Strategy.ofLanguage : Language → Strategy
  | .typescript => typescript
  | .go => go
  | _ => generic

/-- A classifier: its rules, and the classification that every strategy starts from. -/
structure Classifier where
  rules : ClassifierRules
  generic : FileChange → Except Fault Classification

namespace Classifier

/-- The classifier that starts from patterns and idioms. -/
def ofRules (rules : ClassifierRules) : Classifier := { rules, generic := rules.generic }

/-- The name of the classifier's log. -/
def logger : String := "diffagent.analysis.classifier"

/-- The name of the log of the rules of languages. -/
def languageLogger : String := "diffagent.analysis.languages"

/-- The log entry on a rule for Go that decided. -/
def ruleEntry (path : String) (rule : Go.Rule) : Log.Record where
  level := .debug
  logger := languageLogger
  message := "Go rule applied"
  fields := [("file_path", .text path), ("rule", .text rule.name)]

/-- The log entry on a file that could not be classified. -/
def failureEntry (path : String) (fault : Fault) : Log.Record where
  level := .warning
  logger := logger
  message := "Classification failed, marking file as unknown"
  fields := [("file_path", .text path), ("error", .text fault.message)]

/-- The strategy for a file. -/
def strategy (c : Classifier) (f : FileChange) : Strategy :=
  if c.rules.languageStrategies then .ofLanguage (.ofPath f.path) else .generic

/-- Refines a classification of a file by a strategy. -/
def refine (c : Classifier) (f : FileChange) (g : Classification) : Strategy → Traced Classification
  | .generic => pure g
  | .typescript => pure (TypeScript.refine c.rules g)
  | .go => do
    let (refined, rule) := Go.refine c.rules g
    if let some rule := rule then Traced.log (ruleEntry f.path rule)
    return refined

/-- The stage that a fault of the classifier hits. -/
def stage : String := "classify"

/-- Gives up on a file. -/
def giveUp (f : FileChange) (fault : Fault) : Traced Classification := do
  Traced.log (failureEntry f.path fault)
  Traced.capture fault [("stage", .text stage), ("file_path", .text f.path)]
  return .unknown

/-- Classifies a file. -/
def classifyFile (c : Classifier) (f : FileChange) : Traced Classification :=
  match f.hunks with
  | none => pure .unknown
  | some _ =>
    match c.generic f with
    | .ok g => c.refine f g (c.strategy f)
    | .error fault => giveUp f fault

/-- Classifies a file that may be missing. -/
def classifyFile? (c : Classifier) : Option FileChange → Traced Classification
  | some f => c.classifyFile f
  | none => pure .unknown

/-- Classifies every file of a patch. -/
def classify (c : Classifier) (p : Patch) : Traced (List Classification) :=
  Traced.each c.classifyFile p.files

/-- A file with its classification. -/
def pair (c : Classifier) (f : FileChange) : Traced ClassifiedFile := do
  let classification ← c.classifyFile f
  return { file := f, classification }

/-- The log entry on a patch whose files are classified. -/
def doneEntry (files : List ClassifiedFile) : Log.Record where
  level := .info
  logger := logger
  message := "Classified files"
  fields := [("files_classified", .nat files.length)]

/-- Pairs every file of a patch with its classification. -/
def classifyFiles (c : Classifier) (p : Patch) : Traced (List ClassifiedFile) := do
  let files ← Traced.each c.pair p.files
  Traced.log (doneEntry files)
  return files

end Classifier

end PatchTriage
