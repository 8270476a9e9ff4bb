import PatchTriage.Fault
import PatchTriage.Json.Printer
import PatchTriage.Telemetry.Level

/-!
# Log records

A record has a level, a logger, a message and fields of its own, which may not bear the names of
the attributes that every record has. It may go with a failure.
-/

namespace PatchTriage.Log

/-- The attributes that every record has, so that no field may bear their names. -/
def reservedNames : List String :=
  ["name", "msg", "args", "levelname", "levelno", "pathname", "filename", "module", "exc_info",
    "exc_text", "stack_info", "lineno", "funcName", "created", "msecs", "relativeCreated",
    "thread", "threadName", "processName", "process", "message", "asctime"]

/-- What a record says of a failure that it goes with. -/
inductive Failure where
  | fault (f : Fault)
  /-- The record asks for a failure, and there is none. -/
  | absent
deriving DecidableEq, Repr

/-- Where in a program a record was written. -/
structure Origin where
  file : String
  line : Int
  function : Option String

/-- What a message is made of. -/
structure Draft where
  template : String
  args : List Json := []

/-- A log record. -/
structure Record where
  level : Level
  logger : String
  message : String
  /-- What the message was made of, if not of itself. -/
  draft : Option Draft := none
  fields : Fields := []
  failure : Option Failure := none
  origin : Origin := ⟨"", 0, none⟩

/-- A name that a field may not bear. -/
structure ReservedName where
  name : String
deriving DecidableEq, Repr

/-- The text that reports a field with a reserved name. -/
def ReservedName.message (e : ReservedName) : String :=
  let name := Text.quote e.name
  s!"Attempt to overwrite {name} in LogRecord"

/-- The record with further fields, unless one of them has a reserved name. -/
def Record.withFields (r : Record) (fields : Fields) : Except ReservedName Record :=
  match fields.find? fun e => reservedNames.contains e.1 with
  | some e => .error ⟨e.1⟩
  | none => .ok { r with fields }

/-- Whether a name is private: lines leave out what bears it. -/
def isPrivate (name : String) : Bool := name.toList.head? == some '_'

/-- The fields of a record that are written: those that are neither private nor named as an
attribute that every record has. -/
def Record.shownFields (r : Record) : Fields :=
  r.fields.filter fun e => !reservedNames.contains e.1 && !isPrivate e.1

end PatchTriage.Log
