import PatchTriage.Patch.Basic
import PatchTriage.Text.Lines

/-!
# Changed lines

What a file change adds and removes. `addedLines` and `removedLines` take every line with the
marker; `Changes.of` leaves out lines that look like the name of a side, and joins the bodies of
all others in their order. `Totals.of` sums up a whole patch.
-/

namespace PatchTriage

/-- All lines of a file with their markers. -/
def FileChange.markedLines (f : FileChange) : List String := (f.hunks.getD []).flatMap (·.lines)

/-- The bodies of the lines that start with a marker. -/
def bodiesMarked (mark : Char) (lines : List String) : List String :=
  lines.filterMap fun line =>
    match line.toList with
    | c :: body => if c = mark then some (String.ofList body) else none
    | [] => none

/-- The bodies of all added lines. -/
def FileChange.addedLines (f : FileChange) : List String := bodiesMarked '+' f.markedLines

/-- The bodies of all removed lines. -/
def FileChange.removedLines (f : FileChange) : List String := bodiesMarked '-' f.markedLines

/-- The changed lines of a file as the classifier sees them. -/
structure Changes where
  added : Nat := 0
  removed : Nat := 0
  /-- The bodies of the changed lines, in their order. -/
  bodies : List String := []
deriving DecidableEq, Repr

namespace Changes

/-- The changed body of a line with its marker, if the line is a change. -/
def body? (line : String) : Option (Bool × String) :=
  match line.toList with
  | '+' :: body =>
    if Text.startsWith body "++" then none else some (true, String.ofList body)
  | '-' :: body =>
    if Text.startsWith body "--" then none else some (false, String.ofList body)
  | _ => none

/-- The changed lines of a file. -/
def of (f : FileChange) : Changes :=
  let found := f.markedLines.filterMap body?
  { added := found.countP (·.1), removed := found.countP (!·.1), bodies := found.map (·.2) }

/-- How many lines changed. -/
def total (c : Changes) : Nat := c.added + c.removed

/-- The bodies joined by line feeds. -/
def content (c : Changes) : String := "\n".intercalate c.bodies

end Changes

/-- The totals of a patch. -/
structure Totals where
  files : Nat := 0
  additions : Int := 0
  deletions : Int := 0
deriving DecidableEq, Repr

/-- The sum of integers. -/
def sumInts (l : List Int) : Int := l.foldl (· + ·) 0

/-- The sum of counts; a count that is left out is zero. -/
def sumCounts (l : List (Option Int)) : Int := sumInts (l.map (·.getD 0))

/-- The totals of a list of files. -/
def Totals.ofFiles (files : List FileChange) : Totals where
  files := files.length
  additions := sumCounts (files.map (·.additions))
  deletions := sumCounts (files.map (·.deletions))

/-- The totals of a patch; those of no patch are zero. -/
def Totals.of : Option Patch → Totals
  | some p => .ofFiles p.files
  | none => {}

end PatchTriage
