import PatchTriage.Json.Written
import PatchTriage.Telemetry.Log

/-!
# Log lines

A record is written either as one JSON object on a line or as a line for people, with the fields
in brackets behind it. The context in force adds its fields to those of the record, and the
record's own win. There is no JSON line for a record with an integer that is too long, or with
fields that are nested too deep.
-/

namespace PatchTriage.Log

/-- What stands for the time and for a duration wherever one is written. -/
structure Clock where
  time : String
  elapsed : String

/-- The text of the failure that a record goes with. -/
def Failure.text : Failure → String
  | fault f => f.traceLine
  | absent => "NoneType: None"

/-- The level that a line bears, by its name and its number. The levels of records are not the only
ones that there may be. -/
structure Grade where
  name : String
  number : Int

/-- The grade of a level. -/
def Grade.ofLevel (level : Level) : Grade := ⟨level.name, level.number⟩

/-- Whether a grade is that of an error or a higher one. -/
def Grade.isGrave (g : Grade) : Bool := (Level.error.number : Int) ≤ g.number

/-- The failure that a record goes with as an object, if there is one. -/
def Failure.toJson? : Failure → Option Json
  | fault f => some (.object [("type", .text f.label), ("message", .text f.message),
      ("traceback", .text f.traceLine)])
  | absent => none

/-- Where a record was written, as an object. -/
def Origin.toJson (o : Origin) : Json :=
  .object [("file", .text o.file), ("line", .int o.line), ("function", .ofText? o.function)]

/-- The fields that a record is written with before its own. -/
def Record.standing (clock : Clock) (grade : Grade) (context : Fields) (r : Record) : Fields :=
  [("timestamp", .text clock.time), ("level", .text grade.name), ("logger", .text r.logger),
      ("message", .text r.message)] ++
    (if context.isEmpty then [] else [("context", .object context)]) ++
    (r.failure.bind Failure.toJson?).toList.map fun v => ("exception", v)

/-- The object that a record is written as: its own fields are written over the standing ones, and
where it was written over both. -/
def Record.toJson (clock : Clock) (grade : Grade) (context : Fields) (r : Record) : Fields :=
  let all := Table.putAll (r.standing clock grade context) r.shownFields
  if grade.isGrave then Table.put all "source" r.origin.toJson else all

/-- The record as a JSON object on one line that bears a grade, where `room` lists and objects may
be entered one in another. -/
def Record.jsonLineAt (clock : Clock) (room : Nat) (grade : Grade) (context : Fields) (r : Record) :
    Except Json.WriteError String :=
  ((Json.object (r.toJson clock grade context)).written room).map String.ofList

/-- The record as a JSON object on one line. -/
def Record.jsonLine (clock : Clock) (room : Nat) (context : Fields) (r : Record) :
    Except Json.WriteError String :=
  r.jsonLineAt clock room (.ofLevel r.level) context

/-- A field behind a line for people. -/
def shownField (e : String × Json) : String := e.1 ++ "=" ++ String.ofList e.2.display

/-- The record as a line for people that begins with `base`: the failure follows on a line of its
own, and then the fields. -/
def Record.textLine (base : String) (context : Fields) (r : Record) : String :=
  let base :=
    match r.failure with
    | some failure =>
      if base.endsWith "\n" then base ++ failure.text else base ++ "\n" ++ failure.text
    | none => base
  let fields := Table.putAll context r.shownFields
  if fields.isEmpty then base
  else base ++ " [" ++ " ".intercalate (fields.map shownField) ++ "]"

end PatchTriage.Log
