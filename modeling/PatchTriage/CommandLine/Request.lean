import PatchTriage.CommandLine.Arguments
import PatchTriage.Table
import PatchTriage.Telemetry.Level

/-!
# Requests

What the arguments ask for: the version, or the analysis of a diff in some form.
-/

namespace PatchTriage.CommandLine

/-- The form of a report. -/
inductive ReportFormat where
  | json
  | markdown
deriving DecidableEq, Repr

/-- The name of a form. -/
def ReportFormat.name : ReportFormat → String
  | json => "json"
  | markdown => "markdown"

/-- All forms. -/
def ReportFormat.all : List ReportFormat := [json, markdown]

/-- What is to be analysed. -/
inductive Source where
  | standardInput
  | file (path : String)
deriving DecidableEq, Repr

/-- The source that an argument names. -/
def Source.ofArgument (path : String) : Source := if path = "-" then standardInput else file path

/-- A request to analyse a diff. -/
structure Request where
  source : Source := .standardInput
  format : ReportFormat := .json
  /-- The level of log lines, where it is not that of the settings. -/
  level : Option Level := none
  showMetrics : Bool := false
  /-- The arguments behind the file. -/
  extra : List String := []

namespace Request

/-- The level with a name in letters of either case. -/
def level? (value : String) : Option Level :=
  let folded := String.ofList (value.toList.map Char.toUpper)
  Level.ofName? folded

/-- Takes in an option; of several of one kind the last counts. -/
def withOption (r : Request) (g : Given) : Except UsageError Request :=
  match g.flag with
  | .format =>
    match ReportFormat.all.find? fun format => format.name == g.value with
    | some format => .ok { r with format }
    | none =>
      .error (.notOneOf "'--format' / '-f'" g.value (ReportFormat.all.map ReportFormat.name))
  | .logLevel =>
    match level? g.value with
    | some level => .ok { r with level := some level }
    | none => .error (.notOneOf "'--log-level'" g.value (Level.all.map Level.severity))
  | .showMetrics => .ok { r with showMetrics := true }
  | .help => .ok r

/-- Keeps the last of several options of one kind, in the order of their first. -/
def lastOfEach (l : List Given) : List Given :=
  let table : Table Flag String := Table.putAll [] (l.map fun g => (g.flag, g.value))
  table.map fun e => ⟨e.1, e.2⟩

/-- The request that arguments make. -/
def ofArguments (a : Arguments) : Except UsageError Request := do
  let r ← (lastOfEach a.options).foldlM withOption {}
  match a.positional with
  | [] => return r
  | path :: extra => return { r with source := .ofArgument path, extra }

end Request

/-- What is asked for. -/
inductive Command where
  | version
  | help
  | analyze (r : Request)

namespace Command

/-- The name of the command. -/
def commandName : String := "analyze"

/-- The request that the arguments of the command make. Help comes before anything else. -/
def ofArguments (a : Arguments) : Except UsageError Command :=
  if a.options.any fun g => g.flag = .help then .ok help
  else (Request.ofArguments a).map analyze

/-- The options in front of the command, each of which is a request of its own. -/
def early : Table String Command := [("--version", version), ("--help", help)]

/-- What stands in front of the command, and the rest. -/
structure Front where
  /-- The first request that is made by an option. -/
  request : Option Command := none
  rest : List String

/-- Reads the options in front of the command to their end. -/
def front : List String → Except UsageError Front
  | [] => .ok { rest := [] }
  | arg :: rest =>
    match Word.of arg with
    | .endOfOptions => .ok { rest }
    | .positional _ => .ok { rest := arg :: rest }
    | .long name value =>
      match Table.get? early name with
      | none => .error (.noSuchOption name (Text.similarTo name (Table.keys early)))
      | some command =>
        if value.isSome then .error (.unwantedValue name)
        else (front rest).map fun f => { f with request := some command }
    | .short letter _ => .error (.noSuchOption (String.ofList ['-', letter]) [])

/-- Reads the arguments of the program. What stands in the place of the command and is none may
still be an option. -/
def read (args : List String) : Except UsageError Command := do
  let f ← front args
  match f.request, f.rest with
  | some command, _ => return command
  | none, [] => throw .missingCommand
  | none, name :: args =>
    if name = commandName then ofArguments (← readArguments args)
    else
      match (← front (name :: args)).request with
      | some command => return command
      | none => throw (.noSuchCommand name (Text.similarTo name [commandName]))

end Command

end PatchTriage.CommandLine
