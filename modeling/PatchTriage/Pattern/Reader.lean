import PatchTriage.Pattern.Basic

/-!
# Written patterns

The keywords of a classifier are written as texts: every character stands for itself in either
case, `\b` is a word boundary, `\w` a word character, `\s` a blank, `.` anything but a line feed,
`^` and `$` the ends of the text, and `+`, `*` and `?` repeat what stands before them.
-/

namespace PatchTriage.Pattern

/-- A written pattern in which a repetition has nothing to repeat. -/
structure NothingToRepeat where
  /-- How many characters stand before the repetition. -/
  position : Nat
deriving DecidableEq, Repr

/-- The text that reports a repetition without anything before it. -/
def NothingToRepeat.message (e : NothingToRepeat) : String :=
  s!"nothing to repeat at position {e.position}"

/-- A part of a written pattern, and whether it can be repeated. -/
structure Part where
  pattern : Pattern
  repeatable : Bool

/-- The part that a backslash and a letter stand for. -/
def escapedPart (c : Char) : Part :=
  match c with
  | 'b' => ⟨wordBoundary, false⟩
  | 'w' => ⟨word, true⟩
  | 's' => ⟨blank, true⟩
  | c => ⟨one (anyCase c), true⟩

/-- The repetition that a character asks for. -/
def repetition? (c : Char) : Option (Pattern → Pattern) :=
  match c with
  | '+' => some plus
  | '*' => some star
  | '?' => some opt
  | _ => none

/-- The part that an unescaped character stands for. -/
def plainPart (c : Char) : Part :=
  match c with
  | '^' => ⟨textStart, false⟩
  | '$' => ⟨textEnd, false⟩
  | '.' => ⟨one .any, true⟩
  | c => ⟨one (anyCase c), true⟩

/-- Reads parts behind `parts`, which are kept newest first. -/
def readParts (position : Nat) (parts : List Part) :
    List Char → Except NothingToRepeat (List Part)
  | '\\' :: c :: rest => readParts (position + 2) (escapedPart c :: parts) rest
  | c :: rest =>
    match repetition? c, parts with
    | some f, ⟨p, true⟩ :: parts => readParts (position + 1) (⟨f p, false⟩ :: parts) rest
    | some _, _ => .error ⟨position⟩
    | none, parts => readParts (position + 1) (plainPart c :: parts) rest
  | [] => .ok parts

/-- The pattern of a written one. -/
def read (s : String) : Except NothingToRepeat Pattern :=
  (readParts 0 [] s.toList).map fun parts =>
    match parts with
    | [] => empty
    | last :: front => front.foldl (fun q part => seq part.pattern q) last.pattern

end PatchTriage.Pattern
