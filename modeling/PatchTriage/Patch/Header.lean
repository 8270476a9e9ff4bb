import PatchTriage.Patch.Basic
import PatchTriage.Text.Blank
import PatchTriage.Text.Digit
import PatchTriage.Text.Lines

/-!
# Header lines

The grammars of the two header lines that give a patch its structure. A file header is
`diff --git a/` OLD ` b/` NEW with two non-empty paths; where the separator occurs more than once,
the old path is the shortest one. A hunk header is `@@ -` START [`,` COUNT] ` +` START [`,` COUNT]
` @@` with decimal digits of any script and any text behind it.
-/

namespace PatchTriage

/-- A line of a diff without its end. -/
abbrev Line := List Char

/-- The two paths of a file header. -/
structure GitHeader where
  oldPath : Line
  newPath : Line
deriving DecidableEq, Repr

namespace GitHeader

/-- Splits at the first separator that has something on either side; `seen` holds the characters
in front, newest first. -/
def split? (seen : Line) : Line → Option GitHeader
  | [] => none
  | c :: rest =>
    match seen, Text.after? (c :: rest) " b/" with
    | _ :: _, some (n :: path) => some ⟨seen.reverse, n :: path⟩
    | _, _ => split? (c :: seen) rest

/-- Reads a file header. -/
def read? (line : Line) : Option GitHeader := (Text.after? line "diff --git a/").bind (split? [])

end GitHeader

/-- The parts of a hunk header, its numerals as written. -/
structure HunkHeader where
  oldStart : Line
  oldCount : Option Line
  newStart : Line
  newCount : Option Line
  /-- What follows the closing mark. -/
  rest : Line
deriving DecidableEq, Repr

/-- A numeral that is longer than a hunk header may hold. -/
structure NumeralTooLong where
  /-- How many digits it has. -/
  digits : Nat
deriving DecidableEq, Repr

/-- The text that reports a numeral that is too long. -/
def NumeralTooLong.message (e : NumeralTooLong) : String :=
  s!"Exceeds the limit ({maxNumeralDigits} digits) for integer string conversion: value has " ++
    s!"{e.digits} digits; use sys.set_int_max_str_digits() to increase the limit"

namespace HunkHeader

/-- Reads a non-empty numeral at the start of a line. -/
def numeral? (line : Line) : Option (Line × Line) :=
  match line.takeWhile Text.isDigit with
  | [] => none
  | d :: ds => some (d :: ds, line.dropWhile Text.isDigit)

/-- Reads a numeral and, behind a comma, a second one. -/
def range? (line : Line) : Option (Line × Option Line × Line) := do
  let (start, line) ← numeral? line
  match line with
  | ',' :: line =>
    let (count, line) ← numeral? line
    some (start, some count, line)
  | line => some (start, none, line)

/-- Reads a hunk header. -/
def read? (line : Line) : Option HunkHeader := do
  let line ← Text.after? line "@@ -"
  let (oldStart, oldCount, line) ← range? line
  let line ← Text.after? line " +"
  let (newStart, newCount, line) ← range? line
  let rest ← Text.after? line " @@"
  some ⟨oldStart, oldCount, newStart, newCount, rest⟩

/-- The value of a numeral, if it is not too long. -/
def value (ds : Line) : Except NumeralTooLong Nat :=
  if maxNumeralDigits < ds.length then .error ⟨ds.length⟩ else .ok (Text.numeralValue ds)

/-- The value of a count; one that is left out is one. -/
def countValue : Option Line → Except NumeralTooLong Nat
  | some ds => value ds
  | none => .ok 1

/-- The empty hunk of a header. The numerals are read from left to right, so the first that is too
long is the one reported. -/
def toHunk (h : HunkHeader) : Except NumeralTooLong Hunk := do
  let oldStart ← value h.oldStart
  let oldCount ← countValue h.oldCount
  let newStart ← value h.newStart
  let newCount ← countValue h.newCount
  return { oldStart, oldCount, newStart, newCount, header := String.ofList (Text.trim h.rest) }

end HunkHeader

end PatchTriage
