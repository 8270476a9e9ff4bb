import PatchTriage.Fault
import PatchTriage.Json.Printer
import PatchTriage.Text.Digit

/-!
# Writing within limits

Writing a value on one line fails on an integer that has too many digits, and where lists and
objects stand in each other more deeply than there is room for. The value is written from left to
right, so of several such places the first decides. Where there is none, what is written is
`Json.compact`.
-/

namespace PatchTriage.Json

/-- Why a value cannot be written. -/
inductive WriteError where
  /-- An integer has more digits than a numeral may have. -/
  | numeral
  /-- There is no room to enter a further list or object. -/
  | depth
deriving DecidableEq, Repr

/-- The error as a fault. -/
def WriteError.fault : WriteError → Fault
  | numeral =>
    { label := "ValueError"
      message :=
        s!"Exceeds the limit ({maxNumeralDigits} digits) for integer string conversion; " ++
          "use sys.set_int_max_str_digits() to increase the limit" }
  | depth =>
    { label := "RecursionError"
      message := "maximum recursion depth exceeded while encoding a JSON object" }

/-- Whether an integer has no more digits than a numeral may have, its sign apart. -/
def HasNumeral (n : Int) : Prop := (digitsOf n.natAbs).length ≤ maxNumeralDigits

instance (n : Int) : Decidable (HasNumeral n) := Nat.decLe _ _

mutual

/-- Writes a value on one line, where `room` lists and objects may be entered one in another. -/
def written (room : Nat) : Json → Except WriteError (List Char)
  | int n => if HasNumeral n then .ok (intText n) else .error .numeral
  | array items =>
    match room with
    | 0 => .error .depth
    | room + 1 => do
      let texts ← writtenItems room items
      return '[' :: (joinWith [',', ' '] texts ++ [']'])
  | object fields =>
    match room with
    | 0 => .error .depth
    | room + 1 => do
      let texts ← writtenFields room fields
      return '{' :: (joinWith [',', ' '] texts ++ ['}'])
  | v => return v.compact

/-- Writes the items of a list. -/
def writtenItems (room : Nat) : List Json → Except WriteError (List (List Char))
  | [] => return []
  | v :: items => do
    let first ← written room v
    let rest ← writtenItems room items
    return first :: rest

/-- Writes the fields of an object. -/
def writtenFields (room : Nat) : List (String × Json) → Except WriteError (List (List Char))
  | [] => return []
  | (name, v) :: fields => do
    let first ← written room v
    let rest ← writtenFields room fields
    return (quotedText name ++ ':' :: ' ' :: first) :: rest

end

end PatchTriage.Json
