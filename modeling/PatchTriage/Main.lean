import PatchTriage.CommandLine.Run
import PatchTriage.Settings.Sources

/-!
# The program

Takes the settings from the environment and the file `.env`, reads the diff, and writes what the
command line answers.
-/

namespace PatchTriage

/-- The name of the file of settings. -/
def settingsFile : String := ".env"

/-- Why a file could not be opened. -/
def openError : IO.Error → CommandLine.OpenError
  | .noFileOrDirectory .. => .notFound
  | .inappropriateType _ 20 _ => .notFolder
  | .inappropriateType .. => .isFolder
  | e => .refused e.toString

/-- The bytes of the file at a path. -/
def fileBytes (path : String) : IO (Except CommandLine.OpenError (List UInt8)) := do
  match ← (IO.FS.readBinFile path).toBaseIO with
  | .ok bytes => return .ok bytes.toList
  | .error e => return .error (openError e)

/-- The text of the file of settings, or nothing where there is none. -/
def settingsText : IO String := do
  match ← fileBytes settingsFile with
  | .ok bytes => return Text.ofBytes bytes
  | .error _ => return ""

/-- The sources of settings around the program. -/
def surroundingSources : IO Sources := do
  let content ← settingsText
  let names := Settings.names ++ SettingsFile.references content
  let environment ← names.filterMapM fun name => do
    return (← IO.getEnv name).map fun value => (name, value)
  return { environment, file := SettingsFile.entries environment content }

/-- What the arguments ask to be read: the standard input and the file. -/
def requested (args : List String) :
    IO (List UInt8 × Except CommandLine.OpenError (List UInt8)) := do
  match CommandLine.Command.read args with
  | .ok (.analyze r) =>
    match r.source with
    | .standardInput => return ((← (← IO.getStdin).readBinToEnd).toList, .ok [])
    | .file path => return ([], ← fileBytes path)
  | _ => return ([], .ok [])

end PatchTriage

open PatchTriage in
/-- Runs the program on its arguments. -/
def main (args : List String) : IO UInt32 := do
  match (← surroundingSources).resolve with
  | .error l =>
    IO.eprintln (Violation.lines l)
    return 1
  | .ok settings =>
    let (input, file) ← requested args
    let now ← IO.monoMsNow
    let out := CommandLine.run
      { settings, input, clock := { time := toString now, elapsed := "0.0" }
        bytesAt := fun _ => file } args
    IO.print out.stdout
    IO.eprint out.stderr
    return out.exitCode.toUInt32
