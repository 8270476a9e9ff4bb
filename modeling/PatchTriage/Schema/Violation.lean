import PatchTriage.Binary64.Text
import PatchTriage.Fault

/-!
# Violations

What can be wrong with a value that is handed in: it is missing, of a kind that does not convert,
or outside its bounds. A violation is a problem and the place where it arose. Two texts are made
of them: a line for each violation, and the longer report of a record that was built with numbers
outside their bounds.
-/

namespace PatchTriage

/-- What is wrong with a value. -/
inductive Problem where
  | missing
  | notInteger
  | unreadableInteger
  | oversizedInteger
  | fractional
  | notNumber
  | unreadableNumber
  | notBoolean
  | unreadableBoolean
  | notText
  | notObject
  | notList
  /-- The value is no object where the record of this name is due. -/
  | notRecord (name : String)
  /-- The value is none of these. -/
  | notMember (options : List String)
  | notAbove (bound : Int)
  | notAtLeast (bound : Int)
  | notAtMost (bound : Int)
  /-- A rule on the value refuses it with this text. -/
  | refused (reason : String)
deriving DecidableEq, Repr

/-- Lists alternatives: commas between them and a word before the last. -/
def joinAlternatives : List String → String
  | [] => ""
  | [s] => s
  | [s, t] => s!"{s} or {t}"
  | s :: rest => s!"{s}, {joinAlternatives rest}"

namespace Problem

/-- The short name of a problem. -/
def code : Problem → String
  | missing => "missing"
  | notInteger => "int_type"
  | unreadableInteger => "int_parsing"
  | oversizedInteger => "int_parsing_size"
  | fractional => "int_from_float"
  | notNumber => "float_type"
  | unreadableNumber => "float_parsing"
  | notBoolean => "bool_type"
  | unreadableBoolean => "bool_parsing"
  | notText => "string_type"
  | notObject => "dict_type"
  | notList => "list_type"
  | notRecord _ => "model_type"
  | notMember _ => "enum"
  | notAbove _ => "greater_than"
  | notAtLeast _ => "greater_than_equal"
  | notAtMost _ => "less_than_equal"
  | refused _ => "value_error"

/-- The sentence that reports a problem. -/
def message : Problem → String
  | missing => "Field required"
  | notInteger => "Input should be a valid integer"
  | unreadableInteger => "Input should be a valid integer, unable to parse string as an integer"
  | oversizedInteger => "Unable to parse input string as an integer, exceeded maximum size"
  | fractional => "Input should be a valid integer, got a number with a fractional part"
  | notNumber => "Input should be a valid number"
  | unreadableNumber => "Input should be a valid number, unable to parse string as a number"
  | notBoolean => "Input should be a valid boolean"
  | unreadableBoolean => "Input should be a valid boolean, unable to interpret input"
  | notText => "Input should be a valid string"
  | notObject => "Input should be a valid dictionary"
  | notList => "Input should be a valid list"
  | notRecord name => s!"Input should be a valid dictionary or instance of {name}"
  | notMember options => s!"Input should be {joinAlternatives (options.map Text.quote)}"
  | notAbove bound => s!"Input should be greater than {bound}"
  | notAtLeast bound => s!"Input should be greater than or equal to {bound}"
  | notAtMost bound => s!"Input should be less than or equal to {bound}"
  | refused reason => s!"Value error, {reason}"

end Problem

/-- A problem and the place where it arose. -/
structure Violation where
  /-- The names and positions that lead to the value; none for a record as a whole. -/
  place : List String
  problem : Problem
deriving DecidableEq, Repr

namespace Violation

/-- The line that reports a violation. -/
def line (v : Violation) : String :=
  let place := ".".intercalate v.place
  s!"{place}: {v.problem.message} [{v.problem.code}]"

/-- The report of all violations, a line each. -/
def lines (l : List Violation) : String := "\n".intercalate (l.map line)

/-- The violation as seen from further out. -/
def within (step : String) (v : Violation) : Violation := { v with place := step :: v.place }

end Violation

/-- A number that a record was built with although its bounds forbid it. -/
structure OutOfBounds where
  field : String
  value : Binary64
  problem : Problem
deriving DecidableEq, Repr

namespace OutOfBounds

/-- The part of the report on one number. -/
def block (o : OutOfBounds) : String :=
  s!"\n{o.field}\n  {o.problem.message} [type={o.problem.code}, input_value={o.value}, " ++
    s!"input_type=float]\n    For further information visit " ++
    s!"https://errors.pydantic.dev/2.14/v/{o.problem.code}"

/-- The fault of a record that was built with these numbers. -/
def fault (record : String) (l : List OutOfBounds) : Fault where
  label := "ValidationError"
  message :=
    let noun := if l.length = 1 then "error" else "errors"
    s!"{l.length} validation {noun} for {record}" ++ String.join (l.map block)

end OutOfBounds

/-- What keeps a number from being a score between zero and one. -/
def scoreProblem? (x : Binary64) : Option Problem :=
  if 1 < x then some (.notAtMost 1) else if x < 0 then some (.notAtLeast 0) else none

/-- The score in a field, if it is out of bounds. -/
def OutOfBounds.score? (field : String) (x : Binary64) : Option OutOfBounds :=
  (scoreProblem? x).map fun problem => ⟨field, x, problem⟩

end PatchTriage
