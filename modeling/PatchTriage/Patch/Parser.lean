import PatchTriage.Patch.Header

/-!
# Reading a diff

`Patch.parse` makes one pass over the lines of a text with the file and the hunk that are being
filled. A file header opens a file and closes the one before. Before the first file header, a file
may also be opened by the name of its new side, or by that of its old side when the new one is
missing. Lines that fit nowhere are skipped; the only failure is a number of more than 4300 digits
in a hunk header.
-/

namespace PatchTriage

/-- How many lines behind a file header may name the source of a rename. -/
def renameLookahead : Nat := 4

/-- The status of a file whose header stands between two lines: only the nearest marks count. -/
def FileStatus.near (before : Option Line) (after : List Line) : FileStatus :=
  if (after.take renameLookahead).any (Text.startsWith · "rename from ") then .renamed
  else if before.any (Text.startsWith · "new file mode") then .added
  else if after.head?.any (Text.startsWith · "deleted file mode") then .deleted
  else .modified

/-- What the marker in front of a line of a hunk says. -/
inductive Mark where
  | added
  | removed
  | context
deriving DecidableEq, Repr

/-- The marker of a line that belongs to the body of a hunk. Lines that look like the name of a
side belong to none. -/
def Mark.ofBodyLine? (line : Line) : Option Mark :=
  if Text.startsWith line "+++" || Text.startsWith line "---" then none
  else
    match line with
    | '+' :: _ => some .added
    | '-' :: _ => some .removed
    | ' ' :: _ => some .context
    | _ => none

/-- A file that is being filled. -/
structure Draft where
  oldPath : Line
  newPath : Line
  status : FileStatus
  /-- The hunks so far, newest first, and the lines of each newest first. -/
  hunks : List Hunk := []
  additions : Nat := 0
  deletions : Nat := 0

namespace Draft

/-- Starts a file at its header. -/
def ofGitHeader (h : GitHeader) : FileStatus → Draft
  | .added => { oldPath := devNull.toList, newPath := h.newPath, status := .added }
  | .deleted => { oldPath := h.oldPath, newPath := devNull.toList, status := .deleted }
  | status => { oldPath := h.oldPath, newPath := h.newPath, status := status }

/-- Starts a file without a header, at a line that names its only side. -/
def ofSideName? (line : Line) (after : List Line) : Option Draft :=
  match Text.after? line "+++ b/" with
  | some [] => none
  | some path => some { oldPath := devNull.toList, newPath := path, status := .added }
  | none =>
    match Text.after? line "--- a/" with
    | none | some [] => none
    | some path =>
      if after.head?.any (Text.startsWith · "+++ /dev/null") then
        some { oldPath := path, newPath := devNull.toList, status := .deleted }
      else none

/-- Adds a line to the hunk that is being filled. -/
def addBody (d : Draft) (line : Line) : Draft :=
  match d.hunks, Mark.ofBodyLine? line with
  | hunk :: rest, some mark =>
    let d := { d with hunks := { hunk with lines := String.ofList line :: hunk.lines } :: rest }
    match mark with
    | .added => { d with additions := d.additions + 1 }
    | .removed => { d with deletions := d.deletions + 1 }
    | .context => d
  | _, _ => d

/-- Takes in a line behind the one that started the file. -/
def addLine (d : Draft) (line : Line) : Except NumeralTooLong Draft :=
  match HunkHeader.read? line with
  | some h => h.toHunk.map fun hunk => { d with hunks := hunk :: d.hunks }
  | none => .ok (d.addBody line)

/-- The finished file. -/
def finish (d : Draft) : FileChange where
  oldPath := String.ofList d.oldPath
  newPath := String.ofList d.newPath
  status := d.status
  hunks := some (d.hunks.reverse.map fun hunk => { hunk with lines := hunk.lines.reverse })
  additions := some d.additions
  deletions := some d.deletions

end Draft

/-- The state of the pass: the finished files, newest first, and the file that is being filled. -/
structure Parsing where
  finished : List FileChange := []
  current : Option Draft := none

namespace Parsing

/-- All files so far, newest first. -/
def files (p : Parsing) : List FileChange :=
  match p.current with
  | some d => d.finish :: p.finished
  | none => p.finished

/-- Takes in a line, knowing the line before it and the lines behind it. -/
def step (p : Parsing) (before : Option Line) (line : Line) (after : List Line) :
    Except NumeralTooLong Parsing :=
  match GitHeader.read? line with
  | some h =>
    .ok { finished := p.files, current := some (.ofGitHeader h (.near before after)) }
  | none =>
    match p.current with
    | none => .ok { p with current := Draft.ofSideName? line after }
    | some d => (d.addLine line).map fun d => { p with current := some d }

/-- Takes in the remaining lines. -/
def run (p : Parsing) (before : Option Line) : List Line → Except NumeralTooLong Parsing
  | [] => .ok p
  | line :: after =>
    match p.step before line after with
    | .ok p => p.run (some line) after
    | .error e => .error e

end Parsing

/-- The patch of a text. -/
def Patch.parse (text : String) : Except NumeralTooLong Patch :=
  match ({} : Parsing).run none (Text.lines text.toList) with
  | .ok p => .ok { files := p.files.reverse }
  | .error e => .error e

end PatchTriage
