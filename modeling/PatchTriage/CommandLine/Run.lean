import PatchTriage.Analysis.Run
import PatchTriage.CommandLine.Request
import PatchTriage.Report.Markdown
import PatchTriage.Telemetry.Handler
import PatchTriage.Text.Utf8

/-!
# The command line

`analyze [OPTIONS] [DIFF_FILE]` analyses a file, or the standard input where the file is left out
or a dash, and writes the report as JSON or Markdown. Log lines and metrics go to the standard
error. The exit code is 0 after a success, 1 after a failure and 2 when the arguments make no
sense.
-/

namespace PatchTriage.CommandLine

/-- What the program leaves behind. -/
structure Output where
  exitCode : Nat
  stdout : String := ""
  stderr : String := ""
deriving DecidableEq, Repr

/-- The text that tells the version. -/
def versionText : String := "diffagent, version 1.0.0\n"

/-- The settings of a run: those given, with the level that is asked for. -/
def Request.settings (r : Request) (s : Settings) : Settings :=
  { s with logLevel := r.level.getD s.logLevel }

/-- The text of a report. -/
def ReportFormat.text (f : ReportFormat) (r : Report) : String :=
  match f with
  | json => String.ofList r.toJson.indented
  | markdown => r.markdown

/-- What is written when a text is analysed. -/
def Request.answer (r : Request) (s : Settings) (clock : Log.Clock) (room : Nat) (text : String) :
    Output :=
  let s := r.settings s
  let run := Analysis.run s (.standard s) text
  let lines := (Analysis.log s clock run).map fun e => s.handler.shown clock room e.context e.record
  let metrics :=
    if r.showMetrics then String.ofList ((Analysis.metrics s run).page clock.elapsed) ++ "\n"
    else ""
  { exitCode := if run.value.succeeded then 0 else 1
    stdout := r.format.text run.value ++ "\n"
    stderr := s.announcement clock room [] ++ String.join lines ++ metrics }

/-- What is written when the arguments make no sense. -/
def UsageError.output (e : UsageError) : Output :=
  { exitCode := 2, stderr := s!"Error: {e.message}" }

/-- What the program finds around it. -/
structure Surroundings where
  settings : Settings
  clock : Log.Clock
  /-- How many lists and objects may be entered, one in another, where a log line is written. -/
  room : Nat := 900
  /-- The bytes of the standard input. -/
  input : List UInt8
  /-- The bytes of the file at a path. -/
  bytesAt : String → Except OpenError (List UInt8)

/-- The bytes of a source. -/
def Surroundings.bytes (around : Surroundings) : Source → Except UsageError (List UInt8)
  | .standardInput => .ok around.input
  | .file path => (around.bytesAt path).mapError (.unopened path)

/-- The text that tells how the program is used. -/
def helpText : String := "Usage: diffagent analyze [OPTIONS] [DIFF_FILE]\n"

/-- Runs the program. -/
def run (around : Surroundings) (args : List String) : Output :=
  match Command.read args with
  | .error e => e.output
  | .ok .version => { exitCode := 0, stdout := versionText }
  | .ok .help => { exitCode := 0, stdout := helpText }
  | .ok (.analyze r) =>
    match around.bytes r.source, r.extra with
    | .error e, _ => e.output
    | .ok _, _ :: _ => (UsageError.extraArguments r.extra).output
    | .ok bytes, [] => r.answer around.settings around.clock around.room (Text.ofBytes bytes)

end PatchTriage.CommandLine
