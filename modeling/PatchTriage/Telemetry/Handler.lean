import PatchTriage.Settings.Basic

/-!
# Handlers

Settings decide which log entries are shown and in which form: one handler takes the entries from
a level up and writes a line for each, as JSON in production and wherever JSON is asked for.
-/

namespace PatchTriage

/-- Where log entries are shown. -/
structure Handler where
  /-- The least level that is shown. -/
  level : Level
  format : LogFormat
deriving DecidableEq, Repr

/-- The name of the environment in which every line is JSON. -/
def productionName : String := "production"

/-- The handler that settings ask for. -/
def Settings.handler (s : Settings) : Handler where
  level := s.logLevel
  format := if s.environment = productionName then .json else s.logFormat

namespace Handler

/-- What a line for people says in front of the fields. -/
def base (clock : Log.Clock) (r : Log.Record) : String :=
  s!"{clock.time} - {r.logger} - {r.level.name} - {r.message}"

/-- The line on a log entry, unless it cannot be written. -/
def line (h : Handler) (clock : Log.Clock) (room : Nat) (context : Fields) (r : Log.Record) :
    Except Json.WriteError String :=
  match h.format with
  | .json => r.jsonLine clock room context
  | .text => .ok (r.textLine (base clock r) context)

/-- What is shown of a log entry: its line, if its level is high enough. Of an entry that cannot be
written nothing is shown; what the log says of its own failure is left out. -/
def shown (h : Handler) (clock : Log.Clock) (room : Nat) (context : Fields) (r : Log.Record) :
    String :=
  if h.level ≤ r.level then
    match h.line clock room context r with
    | .ok line => line ++ "\n"
    | .error _ => ""
  else ""

end Handler

/-- The log entry on a handler that was just put in place. -/
def Settings.handlerEntry (s : Settings) : Log.Record where
  level := .debug
  logger := "root"
  message := s!"Logging configured: level={s.logLevel.name}, environment={s.environment}"

/-- What is shown when the handler that settings ask for is put in place. -/
def Settings.announcement (s : Settings) (clock : Log.Clock) (room : Nat) (context : Fields) :
    String :=
  s.handler.shown clock room context s.handlerEntry

end PatchTriage
