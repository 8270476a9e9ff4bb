import PatchTriage.Binary64.Notation
import PatchTriage.Json.Printer

/-!
# Values for templates

What can be put in the place of a directive: a JSON value, or something that only has a text. A
value has a plain text, a quoted text, and the quoted text in ASCII.
-/

namespace PatchTriage.Template

/-- A value that a template can show. -/
inductive Value where
  | json (v : Json)
  /-- A value of a kind that JSON does not have, and its text. -/
  | other (kind : String) (text : List Char)

namespace Value

/-- The name of the kind of a value in error texts. -/
def kind : Value → String
  | json v => v.kindName
  | other kind _ => kind

/-- The text of a value. -/
def plain : Value → List Char
  | json v => v.display
  | other _ text => text

/-- The text of a value, with quotes if it is a text itself. -/
def quoted : Value → List Char
  | json v => v.shown
  | other _ text => text

/-- The escape of a character by its code in two, four or eight hexadecimal digits. -/
def asciiChar (c : Char) : List Char :=
  let n := c.toNat
  if n < 0x80 then [c]
  else if n < 0x100 then '\\' :: 'x' :: Text.hex 2 n
  else if n < 0x10000 then '\\' :: 'u' :: Text.hex 4 n
  else '\\' :: 'U' :: Text.hex 8 n

/-- The quoted text, in ASCII. -/
def ascii (v : Value) : List Char := v.quoted.flatMap asciiChar

/-- The integer that a value is. -/
def whole? : Value → Option Int
  | json (.int n) => some n
  | json (.bool b) => some (if b then 1 else 0)
  | _ => none

/-- The integer part of a number. -/
def truncated? : Value → Option Int
  | json (.real x) => some x.toInt
  | v => v.whole?

/-- Values side by side in brackets, as the arguments of a message show. -/
def several (l : List Json) : Value :=
  let inner := Json.joinWith [',', ' '] (l.map Json.shown)
  other "tuple" ('(' :: inner ++ if l.length = 1 then [',', ')'] else [')'])

end Value

end PatchTriage.Template
