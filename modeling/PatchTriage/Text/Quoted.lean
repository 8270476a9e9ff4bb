import PatchTriage.Text.Hex
import PatchTriage.Text.Printable

/-!
# Quoted texts

A quoted text stands between single quotes, or between double quotes when it holds a single quote
and no double one. The quote in use and the backslash are escaped by a backslash, line feed,
carriage return and tab by their letters, and every other unprintable character by its code in
two, four or eight hexadecimal digits.
-/

namespace PatchTriage.Text

/-- The quote that encloses a text. -/
def quoteMark (l : List Char) : Char := if l.contains '\'' && !l.contains '"' then '"' else '\''

/-- One character of a text enclosed by `mark`. -/
def quotedChar (mark c : Char) : List Char :=
  if c = mark ∨ c = '\\' then ['\\', c]
  else if c = '\n' then ['\\', 'n']
  else if c = '\r' then ['\\', 'r']
  else if c = '\t' then ['\\', 't']
  else if isPrintable c then [c]
  else if c.toNat < 0x100 then '\\' :: 'x' :: hex 2 c.toNat
  else if c.toNat < 0x10000 then '\\' :: 'u' :: hex 4 c.toNat
  else '\\' :: 'U' :: hex 8 c.toNat

/-- The text between quotes, with what cannot stand for itself escaped. -/
def quoted (l : List Char) : List Char :=
  let mark := quoteMark l
  mark :: (l.flatMap (quotedChar mark) ++ [mark])

/-- The quoted form of a string. -/
def quote (s : String) : String := String.ofList (quoted s.toList)

end PatchTriage.Text
