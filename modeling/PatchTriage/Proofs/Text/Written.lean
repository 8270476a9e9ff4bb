import PatchTriage.Text.Lines
import Mathlib.Data.List.Forall2

/-!
# Writing lines

A text is written line by line: each line is ended by a line feed or by a carriage return and a
line feed, chosen line by line, and the last line may go without an end. `lines_of_written` reads
such a text back. A line comes back as it was written unless it ends in a carriage return of its
own, which is taken for a part of its end when a bare line feed follows (`Reads`). A text that
ends in a line feed has an empty line behind it.
-/

namespace PatchTriage.Text

/-- The text that writes lines, each with its own kind of end. -/
inductive Written : List (List Char) → List Char → Prop
  | nil : Written [] []
  /-- The last line goes without an end. -/
  | last (l : List Char) : Written [l] l
  | feed {l : List Char} {ls : List (List Char)} {t : List Char} :
      Written ls t → Written (l :: ls) (l ++ '\n' :: t)
  | returnFeed {l : List Char} {ls : List (List Char)} {t : List Char} :
      Written ls t → Written (l :: ls) (l ++ '\r' :: '\n' :: t)

/-- What may be read for a line that was written. -/
def Reads (l read : List Char) : Prop := read = l ∨ read = dropReturn l

/-- A piece without separators stands in front of a separator. -/
theorem splitOn_append_self {sep : Char} {l : List Char} (h : sep ∉ l) (t : List Char) :
    splitOn sep (l ++ sep :: t) = l :: splitOn sep t := by
  induction l with
  | nil => simp
  | cons c l ih =>
    obtain ⟨hc, hl⟩ := not_or.1 (mt List.mem_cons.2 h)
    simp [Ne.symm hc, ih hl, consFirst]

/-- A line that does not end in a carriage return keeps all its characters. -/
theorem dropReturn_of_getLast?_ne {l : List Char} (h : l.getLast? ≠ some '\r') :
    dropReturn l = l := by
  unfold dropReturn
  split
  · next hr => exact absurd hr h
  · rfl

/-- Exactly one carriage return is dropped. -/
theorem dropReturn_concat (l : List Char) : dropReturn (l ++ ['\r']) = l := by
  simp [dropReturn]

/-- A line with something behind a text starts with that text, also when its carriage return is
dropped. -/
theorem dropReturn_append {start rest : List Char} (h : rest ≠ []) :
    dropReturn (start ++ rest) = start ++ dropReturn rest := by
  unfold dropReturn
  rw [List.getLast?_append_of_ne_nil _ h]
  split
  · exact List.dropLast_append_of_ne_nil h
  · rfl

/-- A line that does not end in a carriage return is read as it was written. -/
theorem Reads.eq {l read : List Char} (h : Reads l read) (hl : l.getLast? ≠ some '\r') :
    read = l := by
  rcases h with h | h
  · exact h
  · rw [h, dropReturn_of_getLast?_ne hl]

/-- What is read for a line starts as the line does, as long as something follows the start. -/
theorem Reads.append {start rest read : List Char} (h : Reads (start ++ rest) read)
    (hr : rest ≠ []) : ∃ rest', read = start ++ rest' := by
  rcases h with h | h
  · exact ⟨rest, h⟩
  · exact ⟨dropReturn rest, by rw [h, dropReturn_append hr]⟩

/-- What is read for lines that stand behind others stands behind what is read for those. -/
theorem Reads.split {ls ls' read : List (List Char)} (h : List.Forall₂ Reads (ls ++ ls') read) :
    ∃ r r', read = r ++ r' ∧ List.Forall₂ Reads ls r ∧ List.Forall₂ Reads ls' r' := by
  induction ls generalizing read with
  | nil => exact ⟨[], read, rfl, .nil, h⟩
  | cons l ls ih =>
    cases h with
    | @cons _ b _ read hb hread =>
      obtain ⟨r, r', rfl, hr, hr'⟩ := ih hread
      exact ⟨b :: r, r', rfl, .cons hb hr, hr'⟩

/-- Lines that do not end in carriage returns are read as they were written. -/
theorem Reads.eq_of_forall {ls read : List (List Char)} (h : List.Forall₂ Reads ls read)
    (hls : ∀ l ∈ ls, l.getLast? ≠ some '\r') : read = ls := by
  induction h with
  | nil => rfl
  | @cons l b ls read hb _ ih =>
    rw [hb.eq (hls l List.mem_cons_self), ih fun m hm => hls m (List.mem_cons_of_mem l hm)]

/-- The lines of a written text are those that were written, up to a carriage return at the end of
a line, and an empty line behind the last end. -/
theorem lines_of_written {ls : List (List Char)} {t : List Char} (h : Written ls t)
    (hf : ∀ l ∈ ls, '\n' ∉ l) :
    ∃ read, List.Forall₂ Reads ls read ∧ (lines t = read ∨ lines t = read ++ [[]]) := by
  induction h with
  | nil => exact ⟨[], .nil, .inr rfl⟩
  | last l =>
    have hl : '\n' ∉ l := hf l (List.mem_singleton_self l)
    refine ⟨[dropReturn l], .cons (.inr rfl) .nil, .inl ?_⟩
    rw [lines, splitOn_of_not_mem hl]
    rfl
  | @feed l ls t _ ih =>
    obtain ⟨read, hread, ht⟩ := ih fun m hm => hf m (List.mem_cons_of_mem l hm)
    have hl : '\n' ∉ l := hf l List.mem_cons_self
    have hlines : lines (l ++ '\n' :: t) = dropReturn l :: lines t := by
      rw [lines, splitOn_append_self hl]
      rfl
    refine ⟨dropReturn l :: read, .cons (.inr rfl) hread, ?_⟩
    rw [hlines]
    rcases ht with ht | ht
    · exact .inl (by rw [ht])
    · exact .inr (by rw [ht]; rfl)
  | @returnFeed l ls t _ ih =>
    obtain ⟨read, hread, ht⟩ := ih fun m hm => hf m (List.mem_cons_of_mem l hm)
    have hl : '\n' ∉ l ++ ['\r'] := by
      simpa using hf l List.mem_cons_self
    have hlines : lines (l ++ '\r' :: '\n' :: t) = l :: lines t := by
      have happ : l ++ '\r' :: '\n' :: t = (l ++ ['\r']) ++ '\n' :: t := by simp
      rw [happ, lines, splitOn_append_self hl, List.map_cons, dropReturn_concat]
      rfl
    refine ⟨l :: read, .cons (.inl rfl) hread, ?_⟩
    rw [hlines]
    rcases ht with ht | ht
    · exact .inl (by rw [ht])
    · exact .inr (by rw [ht]; rfl)

end PatchTriage.Text
