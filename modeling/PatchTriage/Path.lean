import PatchTriage.Text.Lines

/-!
# Paths

Only the last component of a path says what kind of file it names. Components stand between
slashes; empty ones and single dots are none.
-/

namespace PatchTriage.Path

/-- Whether a piece between slashes is a component. -/
def isComponent (piece : List Char) : Bool := piece != [] && piece != ['.']

/-- The components of a path. -/
def components (path : List Char) : List (List Char) := (Text.splitOn '/' path).filter isComponent

/-- The last component of a path, empty if there is none. -/
def name (path : List Char) : List Char := (components path).getLastD []

/-- What follows the last dot; without a dot, everything. -/
def afterLastDot (name : List Char) : List Char := (Text.splitOn '.' name).getLastD []

/-- A component is its own last component. -/
theorem name_of_component {n : List Char} (h : isComponent n = true) (hs : '/' ∉ n) :
    name n = n := by
  simp [name, components, Text.splitOn_of_not_mem hs, h]

end PatchTriage.Path
