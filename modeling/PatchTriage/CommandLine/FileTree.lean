import PatchTriage.Table
import PatchTriage.Text.Lines

/-!
# Opening files

A path leads through folders from the current one, or from the root if it starts with a slash: a
single dot stays, two dots lead to the folder around, and every other component has to be there.
Only at the end may it lead to a file, and it has to.
-/

namespace PatchTriage.CommandLine

/-- Why a file cannot be opened. -/
inductive OpenError where
  | notFound
  /-- The path goes on behind a file. -/
  | notFolder
  /-- The path leads to a folder. -/
  | isFolder
  | nameTooLong
  | refused (reason : String)
deriving DecidableEq, Repr

/-- The text that reports the error. -/
def OpenError.message : OpenError → String
  | notFound => "No such file or directory"
  | notFolder => "Not a directory"
  | isFolder => "Is a directory"
  | nameTooLong => "File name too long"
  | refused reason => reason

/-- The components that lead from the root to a place. -/
abbrev Trail := List (List Char)

/-- Files and folders. -/
structure FileTree where
  /-- The current folder. -/
  current : Trail
  /-- The files with their bytes. -/
  files : Table Trail (List UInt8)

/-- Where a path has led to. -/
inductive Place where
  | folder (trail : Trail)
  | file (bytes : List UInt8)

namespace FileTree

/-- Whether a folder is there: one around the current folder or around a file. -/
def hasFolder (t : FileTree) (trail : Trail) : Bool :=
  trail.isPrefixOf t.current || t.files.any fun e => trail.isPrefixOf e.1 && trail != e.1

/-- The greatest number of bytes of a component. -/
def maxComponent : Nat := 255

/-- The number of bytes of a path that is too long. -/
def pathLimit : Nat := 4096

/-- The number of bytes of a text. -/
def byteCount (l : List Char) : Nat := (String.ofList l).utf8ByteSize

/-- What a component leads to from a folder. -/
def enter (t : FileTree) (trail : Trail) (component : List Char) : Except OpenError Place :=
  if component = [] ∨ component = ['.'] then .ok (.folder trail)
  else if component = ['.', '.'] then .ok (.folder trail.dropLast)
  else if maxComponent < byteCount component then .error .nameTooLong
  else
    let trail := trail ++ [component]
    match Table.get? t.files trail with
    | some bytes => .ok (.file bytes)
    | none => if t.hasFolder trail then .ok (.folder trail) else .error .notFound

/-- Takes one more component. -/
def step (t : FileTree) (place : Place) (component : List Char) : Except OpenError Place :=
  match place with
  | .folder trail => t.enter trail component
  | .file _ => .error .notFolder

/-- The bytes of the file at a path. -/
def bytesAt (t : FileTree) (path : String) : Except OpenError (List UInt8) := do
  let l := path.toList
  if l.isEmpty then throw .notFound
  if pathLimit ≤ byteCount l then throw .nameTooLong
  let start := if l.head? = some '/' then [] else t.current
  match ← (Text.splitOn '/' l).foldlM t.step (.folder start) with
  | .file bytes => return bytes
  | .folder _ => throw .isFolder

/-- The trail of a path from a folder; single dots are no components. -/
def trailOf (folder : Trail) (path : String) : Trail :=
  let l := path.toList
  (if l.head? = some '/' then [] else folder) ++
    (Text.splitOn '/' l).filter fun component => component != [] && component != ['.']

/-- The tree that holds files at paths. -/
def ofFiles (current : Trail) (files : Table String (List UInt8)) : FileTree where
  current := current
  files := files.map fun e => (trailOf current e.1, e.2)

end FileTree

end PatchTriage.CommandLine
