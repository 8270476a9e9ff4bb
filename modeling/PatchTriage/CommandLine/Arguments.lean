import PatchTriage.CommandLine.Usage
import PatchTriage.Text.Similarity

/-!
# Arguments

Options go by a long name or by a letter, with their value behind an equals sign, right behind the
letter, or in the next argument. They may stand anywhere among the other arguments, up to the mark
that ends them.
-/

namespace PatchTriage.CommandLine

/-- The options of the command. -/
inductive Flag where
  | format
  | logLevel
  | showMetrics
  | help
deriving DecidableEq, Repr

namespace Flag

/-- The long name of an option. -/
def longName : Flag → String
  | format => "--format"
  | logLevel => "--log-level"
  | showMetrics => "--show-metrics"
  | help => "--help"

/-- All options. -/
def all : List Flag := [format, logLevel, showMetrics, help]

/-- The option with a long name. -/
def ofLongName? (s : String) : Option Flag := all.find? fun flag => flag.longName == s

/-- The option with a letter. -/
def ofLetter? (c : Char) : Option Flag := if c = 'f' then some format else none

/-- Whether an option is given with a value. -/
def takesValue : Flag → Bool
  | format | logLevel => true
  | showMetrics | help => false

/-- The error of an option that there is not. -/
def unknown (name : String) : UsageError :=
  .noSuchOption name (Text.similarTo name (all.map longName))

end Flag

/-- An option as it is given. -/
structure Given where
  flag : Flag
  value : String

/-- What the arguments of the command hold. -/
structure Arguments where
  options : List Given := []
  positional : List String := []

/-- Puts an option in front. -/
def Arguments.consOption (flag : Flag) (value : String) (a : Arguments) : Arguments :=
  { a with options := ⟨flag, value⟩ :: a.options }

/-- Puts an argument in front. -/
def Arguments.consPositional (value : String) (a : Arguments) : Arguments :=
  { a with positional := value :: a.positional }

/-- An argument taken apart. -/
inductive Word where
  /-- What follows is no option. -/
  | endOfOptions
  /-- An option by its long name, perhaps with a value behind an equals sign. -/
  | long (name : String) (value : Option String)
  /-- An option by its letter, perhaps with a value right behind it. -/
  | short (letter : Char) (rest : List Char)
  | positional (value : String)

/-- Takes an argument apart. -/
def Word.of (arg : String) : Word :=
  match arg.toList with
  | ['-', '-'] => endOfOptions
  | '-' :: '-' :: rest =>
    let l := '-' :: '-' :: rest
    match l.dropWhile (· != '=') with
    | _ :: value => long (String.ofList (l.takeWhile (· != '='))) (some (String.ofList value))
    | [] => long arg none
  | '-' :: letter :: rest => short letter rest
  | _ => positional arg

/-- Reads the arguments of the command. -/
def readArguments : List String → Except UsageError Arguments
  | [] => .ok {}
  | arg :: rest =>
    match Word.of arg with
    | .endOfOptions => .ok { positional := rest }
    | .positional value => (readArguments rest).map (·.consPositional value)
    | .long name value =>
      match Flag.ofLongName? name with
      | none => .error (Flag.unknown name)
      | some flag =>
        match flag.takesValue, value, rest with
        | true, some value, rest => (readArguments rest).map (·.consOption flag value)
        | true, none, value :: rest => (readArguments rest).map (·.consOption flag value)
        | true, none, [] => .error (.missingValue name)
        | false, none, rest => (readArguments rest).map (·.consOption flag "")
        | false, some _, _ => .error (.unwantedValue name)
    | .short letter tail =>
      let name := String.ofList ['-', letter]
      match Flag.ofLetter? letter, tail, rest with
      | none, _, _ => .error (.noSuchOption name [])
      | some flag, c :: tail, rest =>
        (readArguments rest).map (·.consOption flag (String.ofList (c :: tail)))
      | some flag, [], value :: rest => (readArguments rest).map (·.consOption flag value)
      | some _, [], [] => .error (.missingValue name)

end PatchTriage.CommandLine
