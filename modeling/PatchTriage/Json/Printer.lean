import PatchTriage.Json.Basic
import PatchTriage.Text.Hex
import PatchTriage.Text.Quoted

/-!
# Texts of JSON values

`Json.compact` writes a value on one line, with a blank behind every comma and colon; what it
writes is ASCII without control characters, as every other character is escaped by its 16-bit
units. `Json.indented` writes one item a line, two columns deeper at each level.

`Json.display` is the text of a value in a line for people: a text stands for itself, and inside a
list or an object it is quoted.
-/

namespace PatchTriage.Json

/-- Joins texts with a separator between them. -/
def joinWith (sep : List Char) : List (List Char) → List Char
  | [] => []
  | first :: rest => first ++ rest.flatMap fun l => sep ++ l

/-- An escape of one 16-bit unit. -/
def unitEscape (n : Nat) : List Char := '\\' :: 'u' :: Text.hex 4 n

/-- One character between the quotes of a JSON text. -/
def escapedChar (c : Char) : List Char :=
  let n := c.toNat
  if c = '"' then ['\\', '"']
  else if c = '\\' then ['\\', '\\']
  else if c = '\n' then ['\\', 'n']
  else if c = '\r' then ['\\', 'r']
  else if c = '\t' then ['\\', 't']
  else if n = 0x08 then ['\\', 'b']
  else if n = 0x0C then ['\\', 'f']
  else if 0x20 ≤ n ∧ n < 0x7F then [c]
  else if n < 0x10000 then unitEscape n
  else
    unitEscape (0xD800 + (n - 0x10000) / 0x400) ++ unitEscape (0xDC00 + (n - 0x10000) % 0x400)

/-- A JSON text with its quotes. -/
def quotedText (s : String) : List Char := '"' :: (s.toList.flatMap escapedChar ++ ['"'])

/-- The text of an integer, however long it is: `Json.written` refuses the integers that are too
long for a line. -/
def intText (n : Int) : List Char := if n < 0 then '-' :: digitsOf n.natAbs else digitsOf n.natAbs

/-- The value on one line. -/
def compact : Json → List Char
  | null => ['n', 'u', 'l', 'l']
  | bool true => ['t', 'r', 'u', 'e']
  | bool false => ['f', 'a', 'l', 's', 'e']
  | int n => intText n
  | real x => x.text
  | text s => quotedText s
  | array items => '[' :: (joinWith [',', ' '] (items.map fun v => compact v) ++ [']'])
  | object fields =>
    '{' :: (joinWith [',', ' '] (fields.map fun e => quotedText e.1 ++ ':' :: ' ' :: compact e.2) ++
      ['}'])
decreasing_by
  · exact sizeOf_item_lt ‹_›
  · exact sizeOf_field_lt ‹_›

/-- A line feed and the indentation of a level. -/
def lineBreak (depth : Nat) : List Char := '\n' :: List.replicate (2 * depth) ' '

/-- An object with one field a line, from the texts of its values. -/
def objectAt (depth : Nat) (fields : List (String × List Char)) : List Char :=
  let breakIn := lineBreak (depth + 1)
  if fields.isEmpty then ['{', '}']
  else
    '{' :: (breakIn ++ joinWith (',' :: breakIn)
        (fields.map fun e => quotedText e.1 ++ ':' :: ' ' :: e.2) ++ lineBreak depth ++ ['}'])

/-- A list with one item a line, from the texts of its items. -/
def arrayAt (depth : Nat) (items : List (List Char)) : List Char :=
  let breakIn := lineBreak (depth + 1)
  if items.isEmpty then ['[', ']']
  else '[' :: (breakIn ++ joinWith (',' :: breakIn) items ++ lineBreak depth ++ [']'])

/-- The value with one item a line, at a level of nesting. -/
def indentedAt (depth : Nat) : Json → List Char
  | array items => arrayAt depth (items.map fun v => indentedAt (depth + 1) v)
  | object fields => objectAt depth (fields.map fun e => (e.1, indentedAt (depth + 1) e.2))
  | v => compact v
termination_by v => v
decreasing_by
  · exact sizeOf_item_lt ‹_›
  · exact sizeOf_field_lt ‹_›

/-- The value with one item a line. -/
def indented (v : Json) : List Char := indentedAt 0 v

/-- The value as it shows inside a list or an object of a line for people. Neither the digits of an
integer nor the depth of nesting is limited here. -/
def shown : Json → List Char
  | null => ['N', 'o', 'n', 'e']
  | bool true => ['T', 'r', 'u', 'e']
  | bool false => ['F', 'a', 'l', 's', 'e']
  | int n => intText n
  | real x => x.text
  | text s => Text.quoted s.toList
  | array items => '[' :: (joinWith [',', ' '] (items.map fun v => shown v) ++ [']'])
  | object fields =>
    '{' :: (joinWith [',', ' ']
        (fields.map fun e => Text.quoted e.1.toList ++ ':' :: ' ' :: shown e.2) ++ ['}'])
decreasing_by
  · exact sizeOf_item_lt ‹_›
  · exact sizeOf_field_lt ‹_›

/-- The value as it shows in a line for people. -/
def display : Json → List Char
  | text s => s.toList
  | v => shown v

end PatchTriage.Json
