import PatchTriage.Change.Classifier
import PatchTriage.Patch.Parser
import PatchTriage.Patch.Totals
import PatchTriage.Settings.Basic

/-!
# Pipelines

The parts of a run that may be replaced: how a text is read, and how its files are classified. The
standard reader takes the empty text for a patch without files and fails only on a numeral that is
too long. A reader fails with a fault; that a text is too large is found before it is read, so a
reader that would refuse texts for their size is not among those that can be put in its place.
-/

namespace PatchTriage

/-- The parts of a run that may be replaced. -/
structure Pipeline where
  /-- Reads a text, which is not too large. Whatever the reader fails with is a fault of the run and
  no refusal of the text. -/
  read : String → Traced (Except Fault Patch)
  classifier : Classifier

namespace Reader

/-- The name of the reader's log. -/
def logger : String := "diffagent.analysis.diff_parser"

/-- The log entry on a text with nothing to read. -/
def emptyEntry : Log.Record where
  level := .debug
  logger := logger
  message := "Empty or non-text diff provided"

/-- The log entry on a patch. -/
def doneEntry (p : Patch) : Log.Record :=
  let totals := Totals.ofFiles p.files
  { level := .info, logger := logger, message := "Parsed diff"
    fields := [("total_files", .nat totals.files), ("total_additions", .int totals.additions),
      ("total_deletions", .int totals.deletions)] }

/-- The fault of a numeral that is too long. -/
def fault (e : NumeralTooLong) : Fault := { label := "ValueError", message := e.message }

/-- Reads a text. -/
def read (text : String) : Traced (Except Fault Patch) :=
  if text.isEmpty then do
    Traced.log emptyEntry
    return .ok {}
  else
    match Patch.parse text with
    | .ok p => do
      Traced.log (doneEntry p)
      return .ok p
    | .error e => pure (.error (fault e))

end Reader

/-- The pipeline under settings. -/
def Pipeline.standard (s : Settings) : Pipeline :=
  { read := Reader.read, classifier := .ofRules s.classifierRules }

end PatchTriage
