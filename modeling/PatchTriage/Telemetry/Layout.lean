import PatchTriage.Pattern.Basic
import PatchTriage.Telemetry.Line
import PatchTriage.Telemetry.Message
import PatchTriage.Text.Lines

/-!
# Layouts of log lines

What a line says in front of the fields is a template filled from the attributes of the record,
among them its fields. A layout has to have some directive with a name, and a record has to have
every attribute that the layout names; the empty layout says the message alone.

Attributes that differ from run to run, other than the time, are not offered: the identities of
the process and of the thread, and times as numbers.
-/

namespace PatchTriage.Log

/-- Why a layout does not serve. -/
inductive LayoutError where
  /-- The layout has no directive with a name. -/
  | noDirective (layout : String)
  /-- The record has no such attribute. -/
  | noAttribute (name : String)
  | misfit (m : Template.Misfit)
deriving DecidableEq, Repr

namespace LayoutError

/-- The text that reports the error. -/
def message : LayoutError → String
  | noDirective layout => s!"Invalid format '{layout}' for '%' style"
  | noAttribute name => s!"Formatting field not found in record: {Text.quote name}"
  | misfit m => m.message

/-- The kind of the error. -/
def label : LayoutError → String
  | noDirective _ | noAttribute _ => "ValueError"
  | misfit m => m.label

/-- The error as a fault. -/
def fault (e : LayoutError) : Fault := { label := e.label, message := e.message }

/-- A misfit in a layout; a value that is missing is an attribute. -/
def ofMisfit : Template.Misfit → LayoutError
  | .missing name => noAttribute name
  | m => misfit m

end LayoutError

/-! ### Directives in a layout -/

namespace Layout

open Pattern

/-- One of several characters. -/
def oneOf (classes : List CharClass) : Pattern :=
  match classes with
  | [] => empty
  | first :: rest => rest.foldl (fun p k => alt p (one k)) (one first)

/-- An asterisk or digits. -/
def numberPattern : Pattern := alt (one (.exactly '*')) (plus (one .digit))

/-- A directive with a name: flags, a width and a precision may stand between the name and the
letter. -/
def directivePattern : Pattern :=
  text "%(" ++ plus word ++ text ")" ++ star (oneOf ("#0+ -".toList.map .exactly)) ++
    opt numberPattern ++ opt (text "." ++ numberPattern) ++
    oneOf ("diouxefgcrsa%".toList.map anyCase)

/-- The layout that a text asks for. -/
def checked (layout : String) : Except LayoutError String :=
  if layout.isEmpty then .ok "%(message)s"
  else if directivePattern.occursIn layout.toList then .ok layout
  else .error (.noDirective layout)

end Layout

/-- The layout of lines that are not laid out otherwise. -/
def standardLayout : String := "%(name)s - %(levelname)s - %(message)s"

/-! ### Attributes of a record -/

/-- The value of the failure that a record goes with: its kind, the failure itself, and its
frames, of which there are none. -/
def Failure.value : Failure → Template.Value
  | fault f =>
    let said :=
      if f.message.isEmpty || f.label == Fault.keyLabel then f.message else Text.quote f.message
    .other "tuple" s!"(<class '{f.label}'>, {f.label}({said}), None)".toList
  | absent => .other "tuple" "(None, None, None)".toList

/-- The name of the file in which a record was written. -/
def Origin.fileName (o : Origin) : String :=
  String.ofList ((Text.splitOn '/' o.file.toList).getLastD [])

/-- The name of the file without its extension; dots at its start begin none. -/
def Origin.moduleName (o : Origin) : String :=
  let name := o.fileName.toList
  let dots := name.takeWhile (· == '.')
  let rest := name.dropWhile (· == '.')
  match (Text.splitOn '.' rest).dropLast with
  | [] => o.fileName
  | pieces => String.ofList (dots ++ Json.joinWith ['.'] pieces)

/-- The attributes of a record. -/
def Record.attributes (clock : Clock) (r : Record) : Table String Template.Value :=
  let text := fun s => Template.Value.json (.text s)
  let draft := r.draft.getD { template := r.message }
  [("name", text r.logger), ("msg", text draft.template), ("args", argumentsValue draft.args),
    ("levelname", text r.level.name), ("levelno", .json (.nat r.level.number)),
    ("pathname", text r.origin.file), ("filename", text r.origin.fileName),
    ("module", text r.origin.moduleName),
    ("exc_info", r.failure.elim (.json .null) Failure.value), ("exc_text", .json .null),
    ("stack_info", .json .null), ("lineno", .json (.int r.origin.line)),
    ("funcName", .json (.ofText? r.origin.function)), ("threadName", text "MainThread"),
    ("processName", text "MainProcess")] ++ r.fields.map (fun e => (e.1, .json e.2)) ++
    [("message", text r.message), ("asctime", text clock.time)]

/-- All attributes of a record as one value. -/
def attributesValue (attributes : Table String Template.Value) : Template.Value :=
  let shown := attributes.map fun e => Text.quoted e.1.toList ++ ':' :: ' ' :: e.2.quoted
  .other "dict" ('{' :: (Json.joinWith [',', ' '] shown ++ ['}']))

/-- The record as a line for people in a layout that was checked. -/
def Record.laidOut (clock : Clock) (layout : String) (context : Fields) (r : Record) :
    Except LayoutError String :=
  let attributes := r.attributes clock
  let supply := Template.Supply.byName (attributesValue attributes) (Table.get? attributes)
  match Template.fill layout supply with
  | .ok base => .ok (r.textLine base context)
  | .error m => .error (.ofMisfit m)

end PatchTriage.Log
