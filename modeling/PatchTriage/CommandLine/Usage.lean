import PatchTriage.CommandLine.FileTree
import PatchTriage.Text.Quoted

/-!
# Usage errors

Why the arguments of the program make no sense, with the line that says so.
-/

namespace PatchTriage.CommandLine

/-- Why arguments make no sense. -/
inductive UsageError where
  | missingCommand
  /-- There is no such command; `similar` are those with a similar name. -/
  | noSuchCommand (name : String) (similar : List String)
  /-- There is no such option; `similar` are those with a similar name. -/
  | noSuchOption (name : String) (similar : List String)
  | missingValue (option : String)
  | unwantedValue (option : String)
  /-- The value of the option is none of these. -/
  | notOneOf (option value : String) (choices : List String)
  /-- The file at the path cannot be opened. -/
  | unopened (path : String) (reason : OpenError)
  | extraArguments (l : List String)
deriving DecidableEq, Repr

/-- Quotes every one of several texts. -/
def quoteAll (l : List String) : String := ", ".intercalate (l.map Text.quote)

/-- A hint at what may have been meant. -/
def hint : List String → String
  | [] => ""
  | [s] => s!" Did you mean {Text.quote s}?"
  | l => s!" (Did you mean one of: {quoteAll (l.mergeSort fun s t => s ≤ t)}?)"

/-- The text that reports the error. -/
def UsageError.message : UsageError → String
  | missingCommand => "Missing command."
  | noSuchCommand name similar => s!"No such command {Text.quote name}.{hint similar}"
  | noSuchOption name similar => s!"No such option {Text.quote name}.{hint similar}"
  | missingValue option => s!"Option {Text.quote option} requires an argument."
  | unwantedValue option => s!"Option {Text.quote option} does not take a value."
  | notOneOf option value choices =>
    s!"Invalid value for {option}: {Text.quote value} is not one of {quoteAll choices}."
  | unopened path reason => s!"Invalid value for '[DIFF_FILE]': '{path}': {reason.message}"
  | extraArguments l =>
    let noun := if l.length = 1 then "argument" else "arguments"
    let all := " ".intercalate l
    s!"Got unexpected extra {noun} ({all})"

end PatchTriage.CommandLine
