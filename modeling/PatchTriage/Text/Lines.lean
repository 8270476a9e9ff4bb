/-!
# Splitting

Texts are split at a separator: `splitOn` gives the pieces between its occurrences, of which there
is always at least one. A line ends at a line feed and nowhere else, and loses one carriage return
at its end; other separators stay inside the line, as they are content.
-/

namespace PatchTriage.Text

/-- Puts a character in front of the first piece. -/
def consFirst (c : Char) : List (List Char) → List (List Char)
  | [] => [[c]]
  | piece :: rest => (c :: piece) :: rest

/-- The pieces of a text between the occurrences of a separator. -/
def splitOn (sep : Char) (l : List Char) : List (List Char) :=
  l.foldr (fun c pieces => if c = sep then [] :: pieces else consFirst c pieces) [[]]

/-- Drops one carriage return at the end. -/
def dropReturn (line : List Char) : List Char :=
  match line.getLast? with
  | some '\r' => line.dropLast
  | _ => line

/-- The lines of a text. -/
def lines (l : List Char) : List (List Char) := (splitOn '\n' l).map dropReturn

/-- Whether a line starts with a text. -/
def startsWith (line : List Char) (start : String) : Bool := start.toList.isPrefixOf line

/-- What follows the first list in the second, if the second starts with the first. -/
def dropStart? : List Char → List Char → Option (List Char)
  | [], l => some l
  | _ :: _, [] => none
  | c :: start, d :: l => if c = d then dropStart? start l else none

/-- What follows `start` in a line that starts with it. -/
def after? (line : List Char) (start : String) : Option (List Char) :=
  dropStart? start.toList line

/-- A start can be dropped just where the text begins with it, and the rest is left. -/
theorem dropStart?_eq_some_iff {start l rest : List Char} :
    dropStart? start l = some rest ↔ l = start ++ rest := by
  induction start generalizing l with
  | nil => simp [dropStart?]
  | cons c start ih =>
    cases l with
    | nil => simp [dropStart?]
    | cons d l =>
      by_cases h : c = d
      · subst h
        simp [dropStart?, ih]
      · simp [dropStart?, h, Ne.symm h]

/-- So it is with the start of a line. -/
theorem after?_eq_some_iff {line rest : List Char} {start : String} :
    after? line start = some rest ↔ line = start.toList ++ rest :=
  dropStart?_eq_some_iff

/-- A text is split into one piece at least. -/
theorem splitOn_ne_nil (sep : Char) (l : List Char) : splitOn sep l ≠ [] := by
  cases l with
  | nil => simp [splitOn]
  | cons c rest =>
    simp only [splitOn, List.foldr_cons]
    split
    · simp
    · generalize rest.foldr _ [[]] = pieces
      cases pieces <;> simp [consFirst]

/-- The empty text is one empty piece. -/
@[simp] theorem splitOn_nil (sep : Char) : splitOn sep [] = [[]] := rfl

/-- A separator ends the piece in front of it. -/
@[simp] theorem splitOn_self (sep : Char) (l : List Char) :
    splitOn sep (sep :: l) = [] :: splitOn sep l := by
  simp [splitOn]

/-- Another character belongs to the first piece. -/
@[simp]
theorem splitOn_cons {sep c : Char} (h : c ≠ sep) (l : List Char) :
    splitOn sep (c :: l) = consFirst c (splitOn sep l) := by
  simp [splitOn, h]

/-- A text without the separator is one piece. -/
theorem splitOn_of_not_mem {sep : Char} {l : List Char} (h : sep ∉ l) : splitOn sep l = [l] := by
  induction l with
  | nil => rfl
  | cons c rest ih =>
    simp only [List.mem_cons, not_or] at h
    simp [Ne.symm h.1, ih h.2, consFirst]

end PatchTriage.Text
