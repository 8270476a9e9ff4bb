import PatchTriage.Schema.Violation

/-!
# Checked values

The outcome of a check is the value or every violation that was found. The parts of a record are
checked independently and side by side, so that a record with several bad parts reports all of
them, in the order of the parts.
-/

namespace PatchTriage

/-- A value that passed a check, or what is wrong with it. -/
inductive Checked (α : Type) where
  | valid (value : α)
  | invalid (violations : List Violation)

namespace Checked

variable {α β : Type}

/-- Applies a function to a valid value. -/
protected def map (f : α → β) : Checked α → Checked β
  | valid a => valid (f a)
  | invalid l => invalid l

/-- Checks two parts; the violations of the first come before those of the second. -/
protected def apply (f : Checked (α → β)) (x : Checked α) : Checked β :=
  match f, x with
  | valid f, valid a => valid (f a)
  | valid _, invalid l => invalid l
  | invalid l, valid _ => invalid l
  | invalid l, invalid l' => invalid (l ++ l')

instance : Applicative Checked where
  pure := valid
  map := Checked.map
  seq f x := Checked.apply f (x ())

/-- The outcome of a value that has a problem. -/
def refuse (p : Problem) : Checked α := invalid [⟨[], p⟩]

/-- The outcome as seen from further out. -/
def within (step : String) : Checked α → Checked α
  | valid a => valid a
  | invalid l => invalid (l.map (·.within step))

/-- A further check of a valid value. -/
def require (problem? : α → Option Problem) : Checked α → Checked α
  | valid a =>
    match problem? a with
    | some p => refuse p
    | none => valid a
  | invalid l => invalid l

/-- A further conversion of a valid value. -/
def andThen (x : Checked α) (f : α → Checked β) : Checked β :=
  match x with
  | valid a => f a
  | invalid l => invalid l

/-- Checks a list: valid if every item is. -/
def all (l : List (Checked α)) : Checked (List α) :=
  l.foldr (fun x rest => (· :: ·) <$> x <*> rest) (valid [])

/-- The outcome as a result or an error. -/
def toExcept : Checked α → Except (List Violation) α
  | valid a => .ok a
  | invalid l => .error l

end Checked

/-- The fault of a record that was handed in with these violations. -/
def Violation.fault (l : List Violation) : Fault where
  label := "ValidationError"
  message := Violation.lines l

end PatchTriage
