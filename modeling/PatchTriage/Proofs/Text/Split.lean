import PatchTriage.Text.Lines
import Mathlib.Data.List.Basic

/-!
# Pieces of a text

No piece of a text holds the separator (`not_mem_of_mem_splitOn`), and pieces that were joined by it
are taken apart again (`splitOn_intercalate`). Joined texts that hold the separator themselves have
the pieces of each (`splitOn_intercalate_eq_flatMap`). A text made of whole lines (`IsWhole`) may
stand in front of any other one: the lines of both together are those of the first, without the
empty one behind its last end, and then those of the second (`lines_append`).
-/

namespace PatchTriage.Text

/-- Splitting is that of lists. -/
theorem splitOn_eq (sep : Char) (l : List Char) : splitOn sep l = List.splitOn sep l := by
  induction l with
  | nil => rfl
  | cons c l ih =>
    rw [List.splitOn, List.splitOnP_cons_eq_if_modifyHead, ← List.splitOn, ← ih]
    by_cases h : c = sep
    · subst h
      rw [splitOn_self, if_pos (beq_self_eq_true c)]
    · rw [splitOn_cons h, if_neg (by simpa using h)]
      cases hl : splitOn sep l with
      | nil => exact absurd hl (splitOn_ne_nil sep l)
      | cons piece pieces => rfl

/-- Pieces that were joined are taken apart again. -/
theorem splitOn_intercalate {sep : Char} {pieces : List (List Char)} (hne : pieces ≠ [])
    (h : ∀ piece ∈ pieces, sep ∉ piece) : splitOn sep ([sep].intercalate pieces) = pieces := by
  rw [splitOn_eq, List.splitOn_intercalate sep h hne]

/-- The pieces of two texts with the separator between them are those of each. -/
theorem splitOn_append_cons (sep : Char) (t u : List Char) :
    splitOn sep (t ++ sep :: u) = splitOn sep t ++ splitOn sep u := by
  simp only [splitOn_eq]
  exact List.splitOnP_append_cons t u (beq_self_eq_true sep)

/-- The pieces of joined texts are those of each. -/
theorem splitOn_intercalate_eq_flatMap {sep : Char} {texts : List (List Char)} (hne : texts ≠ []) :
    splitOn sep ([sep].intercalate texts) = texts.flatMap (splitOn sep) := by
  induction texts with
  | nil => exact absurd rfl hne
  | cons text texts ih =>
    cases texts with
    | nil => simp
    | cons next texts =>
      rw [List.intercalate_cons_cons, List.append_assoc, List.singleton_append,
        splitOn_append_cons, ih (List.cons_ne_nil _ _)]
      rfl

/-- Texts without the separator are their own pieces. -/
theorem flatMap_splitOn {sep : Char} {pieces : List (List Char)}
    (h : ∀ piece ∈ pieces, sep ∉ piece) : pieces.flatMap (splitOn sep) = pieces := by
  induction pieces with
  | nil => rfl
  | cons piece pieces ih =>
    rw [List.flatMap_cons, splitOn_of_not_mem (h piece List.mem_cons_self),
      ih fun piece hpiece => h piece (List.mem_cons_of_mem _ hpiece)]
    rfl

/-- No piece holds the separator. -/
theorem not_mem_of_mem_splitOn {sep : Char} {l piece : List Char} (h : piece ∈ splitOn sep l) :
    sep ∉ piece := by
  induction l generalizing piece with
  | nil =>
    obtain rfl := List.mem_singleton.1 h
    exact List.not_mem_nil
  | cons c l ih =>
    by_cases hc : c = sep
    · subst hc
      rw [splitOn_self] at h
      rcases List.mem_cons.1 h with rfl | h
      · exact List.not_mem_nil
      · exact ih h
    · rw [splitOn_cons hc] at h
      cases hl : splitOn sep l with
      | nil => exact absurd hl (splitOn_ne_nil sep l)
      | cons first pieces =>
        rw [hl, consFirst] at h
        rcases List.mem_cons.1 h with rfl | h
        · have hfirst : sep ∉ first := ih (by rw [hl]; exact List.mem_cons_self)
          exact List.not_mem_cons_of_ne_of_not_mem (Ne.symm hc) hfirst
        · exact ih (by rw [hl]; exact List.mem_cons_of_mem first h)

/-- No line holds a line feed. -/
theorem feed_not_mem_lines {t line : List Char} (h : line ∈ lines t) : '\n' ∉ line := by
  obtain ⟨piece, hpiece, rfl⟩ := List.mem_map.1 h
  have hsub : dropReturn piece ⊆ piece := by
    unfold dropReturn
    split
    · exact List.dropLast_subset piece
    · exact List.Subset.refl piece
  exact fun hmem => not_mem_of_mem_splitOn hpiece (hsub hmem)

/-! ## Whole lines -/

/-- Whether every line of a text has its end, so that another text may follow. -/
def IsWhole (t : List Char) : Prop := t = [] ∨ t.getLast? = some '\n'

instance (t : List Char) : Decidable (IsWhole t) := by
  unfold IsWhole
  infer_instance

/-- The lines of a text that have their end: all but what stands behind the last end. -/
def endedLines (t : List Char) : List (List Char) := (lines t).dropLast

/-- Two texts with an end of a line between them are split on their own. -/
theorem lines_append_feed (t u : List Char) : lines (t ++ '\n' :: u) = lines t ++ lines u := by
  rw [lines, splitOn_append_cons, List.map_append]
  rfl

/-- The lines of a text behind whole lines are its own. -/
theorem lines_append {t : List Char} (h : IsWhole t) (u : List Char) :
    lines (t ++ u) = endedLines t ++ lines u := by
  rcases h with rfl | h
  · rfl
  · obtain ⟨s, rfl⟩ := List.getLast?_eq_some_iff.1 h
    have hended : endedLines (s ++ ['\n']) = lines s := by
      rw [endedLines, lines_append_feed]
      exact List.dropLast_concat
    rw [hended, ← lines_append_feed, List.append_assoc]
    rfl

/-- Whole lines have an empty line behind them. -/
theorem lines_of_isWhole {t : List Char} (h : IsWhole t) : lines t = endedLines t ++ [[]] := by
  have happ := lines_append h []
  rwa [List.append_nil] at happ

end PatchTriage.Text
