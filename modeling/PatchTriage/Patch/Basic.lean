/-!
# Patches

A patch is a list of file changes in the order in which a diff names them. A file change holds its
hunks with their raw lines, each behind its marker, and how many lines it adds and deletes.
Records that come from elsewhere may leave the hunks or the counts out.
-/

namespace PatchTriage

/-- What a diff does to a file. -/
inductive FileStatus where
  | added
  | deleted
  | modified
  | renamed
deriving DecidableEq, Repr

namespace FileStatus

/-- The name of a status. -/
def name : FileStatus → String
  | added => "added"
  | deleted => "deleted"
  | modified => "modified"
  | renamed => "renamed"

/-- The status with a name. -/
def ofName? (s : String) : Option FileStatus :=
  [added, deleted, modified, renamed].find? fun status => status.name == s

end FileStatus

/-- A continuous block of changed lines with the numbers and the text of its header. -/
structure Hunk where
  oldStart : Int
  oldCount : Int
  newStart : Int
  newCount : Int
  /-- The lines of the block, each with its marker. -/
  lines : List String := []
  /-- The text behind the numbers of the header. -/
  header : String := ""
deriving DecidableEq, Repr

/-- The path that stands for a missing side. -/
def devNull : String := "/dev/null"

/-- All changes to one file. -/
structure FileChange where
  oldPath : String
  newPath : String
  status : FileStatus := .modified
  /-- The blocks in order, unless the record does not say. -/
  hunks : Option (List Hunk) := some []
  /-- The number of added lines, unless the record does not say. -/
  additions : Option Int := some 0
  /-- The number of deleted lines, unless the record does not say. -/
  deletions : Option Int := some 0
deriving DecidableEq, Repr

/-- The path that best identifies the file: the new one unless that side is missing. -/
def FileChange.path (f : FileChange) : String :=
  if f.newPath ≠ "" ∧ f.newPath ≠ devNull then f.newPath else f.oldPath

/-- The file changes of one diff, in its order. -/
structure Patch where
  files : List FileChange := []
deriving DecidableEq, Repr

end PatchTriage
