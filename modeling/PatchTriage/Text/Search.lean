/-!
# Finding texts in texts

Whether a text occurs inside another, letter by letter.
-/

namespace PatchTriage.Text

/-- Whether `part` occurs in a text. -/
def occurs (part : List Char) : List Char → Bool
  | [] => part.isEmpty
  | c :: rest => if part.isPrefixOf (c :: rest) then true else occurs part rest

/-- Whether one of several texts occurs in a text. -/
def anyOccurs (parts : List String) (l : List Char) : Bool :=
  parts.any fun part => occurs part.toList l

/-- A search finds a part just if it stands somewhere in the text. -/
theorem occurs_iff {part l : List Char} : occurs part l = true ↔ part <:+: l := by
  induction l with
  | nil => simp [occurs]
  | cons c rest ih =>
    simp only [occurs]
    split
    · rename_i h
      exact ⟨fun _ => (List.isPrefixOf_iff_prefix.1 h).isInfix, fun _ => rfl⟩
    · rename_i h
      rw [ih, List.infix_cons_iff]
      constructor
      · exact .inr
      · rintro (h' | h')
        · exact absurd (List.isPrefixOf_iff_prefix.2 h') h
        · exact h'

end PatchTriage.Text
