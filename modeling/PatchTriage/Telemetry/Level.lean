/-!
# Levels

The five levels of log records and captured faults, from `debug` up. A level has a name in
capitals, for log lines and settings, and one in small letters, for captured faults.
-/

namespace PatchTriage

/-- How grave a record is. -/
inductive Level where
  | debug
  | info
  | warning
  | error
  | critical
deriving DecidableEq, Repr

namespace Level

/-- All levels from below. -/
def all : List Level := [debug, info, warning, error, critical]

/-- The name of a level in log lines and settings. -/
def name : Level → String
  | debug => "DEBUG"
  | info => "INFO"
  | warning => "WARNING"
  | error => "ERROR"
  | critical => "CRITICAL"

/-- The name of a level as the severity of a captured fault. -/
def severity : Level → String
  | debug => "debug"
  | info => "info"
  | warning => "warning"
  | error => "error"
  | critical => "critical"

/-- The rank of a level, least for `debug`. -/
def rank : Level → Nat
  | debug => 0
  | info => 1
  | warning => 2
  | error => 3
  | critical => 4

/-- The number of a level in log lines. -/
def number (level : Level) : Nat := 10 * (level.rank + 1)

instance : LE Level := ⟨fun a b => a.rank ≤ b.rank⟩

instance (a b : Level) : Decidable (a ≤ b) := inferInstanceAs (Decidable (a.rank ≤ b.rank))

/-- The level with a name in capitals. -/
def ofName? (s : String) : Option Level := all.find? fun level => level.name == s

/-- The level with a severity's name. -/
def ofSeverity? (s : String) : Option Level := all.find? fun level => level.severity == s

end Level

end PatchTriage
