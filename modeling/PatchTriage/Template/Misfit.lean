import PatchTriage.Fault
import PatchTriage.Text.Hex

/-!
# Faults of templates

Why a template cannot be filled: values are missing or left over, a value is of a kind that its
directive does not take, or a directive is cut off or unknown.
-/

namespace PatchTriage.Template

/-- Why a template cannot be filled. -/
inductive Misfit where
  | tooFew
  | tooMany
  /-- A directive names a value, and the values have no names. -/
  | unnamed
  /-- No value has this name. -/
  | missing (name : String)
  | cutOff
  | cutOffName
  /-- A number is due, and the value is of this kind. -/
  | notNumber (letter : Char) (kind : String)
  /-- An integer is due, and the value is of this kind. -/
  | notInteger (letter : Char) (kind : String)
  /-- A number with a point is due, and the value is of this kind. -/
  | notReal (kind : String)
  | notCharacter
  | noCharacter
  | tooLargeForReal
  /-- A width or a precision is to be taken from a value that is no integer. -/
  | starNotInteger
  /-- The integer does not fit into a machine integer of this name. -/
  | starTooLarge (word : String)
  | widthTooBig
  | precisionTooBig
  | precisionTooLarge
  /-- The letter of a directive is none that is known. -/
  | unknownLetter (c : Char) (position : Nat)
deriving DecidableEq, Repr

namespace Misfit

/-- How an unknown letter is shown: a control character other than the last one, and everything
beyond ASCII, by a question mark. -/
def shownLetter (c : Char) : Char := if 31 ≤ c.toNat ∧ c.toNat ≤ 126 then c else '?'

/-- The text that reports the misfit. -/
def message : Misfit → String
  | tooFew => "not enough arguments for format string"
  | tooMany => "not all arguments converted during string formatting"
  | unnamed => "format requires a mapping"
  | missing name => Text.quote name
  | cutOff => "incomplete format"
  | cutOffName => "incomplete format key"
  | notNumber letter kind => s!"%{letter} format: a real number is required, not {kind}"
  | notInteger letter kind => s!"%{letter} format: an integer is required, not {kind}"
  | notReal kind => s!"must be real number, not {kind}"
  | notCharacter => "%c requires int or char"
  | noCharacter => "%c arg not in range(0x110000)"
  | tooLargeForReal => "int too large to convert to float"
  | starNotInteger => "* wants int"
  | starTooLarge word => "Python int too large to convert to C " ++ word
  | widthTooBig => "width too big"
  | precisionTooBig => "precision too big"
  | precisionTooLarge => "precision too large"
  | unknownLetter c position =>
    let code := String.ofList (Nat.toDigits 16 c.toNat)
    s!"unsupported format character '{shownLetter c}' (0x{code}) at index {position}"

/-- The kind of the misfit. -/
def label : Misfit → String
  | tooFew | tooMany | unnamed | notNumber _ _ | notInteger _ _ | notReal _ | notCharacter
  | starNotInteger => "TypeError"
  | missing _ => Fault.keyLabel
  | noCharacter | tooLargeForReal | starTooLarge _ | precisionTooLarge => "OverflowError"
  | cutOff | cutOffName | widthTooBig | precisionTooBig | unknownLetter _ _ => "ValueError"

/-- The misfit as a fault. -/
def fault (m : Misfit) : PatchTriage.Fault := { label := m.label, message := m.message }

end Misfit

end PatchTriage.Template
