import PatchTriage.Settings.Basic
import PatchTriage.Settings.File

/-!
# Where settings come from

A setting is taken from the first source that names it: values given outright, then the
environment, then a file of entries. What a later source says of it has no effect, even
if it is invalid, and names that are no settings are ignored.
-/

namespace PatchTriage

/-- The names of the settings. -/
def Settings.names : List String := Table.keys ({} : Settings).toFields

/-- The sources of settings. -/
structure Sources where
  values : Fields := []
  environment : Table String String := []
  /-- The entries of the file. -/
  file : Table String String := []

namespace Sources

/-- The raw value of a setting, if a source names it. -/
def raw? (s : Sources) (name : String) : Option Json :=
  (Table.get? s.values name).orElse fun _ =>
    ((Table.get? s.environment name).orElse fun _ => Table.get? s.file name).map Json.text

/-- The raw values of all settings that a source names. -/
def raw (s : Sources) : Fields :=
  Settings.names.filterMap fun name => (s.raw? name).map fun v => (name, v)

/-- The settings that the sources give. -/
def resolve (s : Sources) : Except (List Violation) Settings :=
  (Settings.ofFields s.raw).toExcept

end Sources

/-- The settings given by values alone. -/
def Settings.ofValues (values : Fields) : Except (List Violation) Settings :=
  Sources.resolve { values }

end PatchTriage
