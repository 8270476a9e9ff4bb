import PatchTriage.Path
import PatchTriage.Proofs.Text.Case
import PatchTriage.Proofs.Text.Split

/-!
# Names and extensions

The name of a path is a path of its own, with the same name (`Path.name_name`). What follows the
last dot of a name is its extension. There are two ways to read it in small letters: to take it from
the name and put it in small letters, and to put the whole name in small letters and to take it from
there. Small letters make no dot and lose none, so both ways read the same piece of the name. The
one letter whose small letter depends on the text in front is the capital sigma, so they can only
differ by a sigma (`Path.lower_afterLastDot_iff`).
-/

namespace PatchTriage.Path

variable {path piece n x : List Char}

/-- A component is no empty one and no single dot, and lies between slashes. -/
theorem mem_components (h : piece ∈ components path) : isComponent piece = true ∧ '/' ∉ piece := by
  obtain ⟨hpiece, hcomponent⟩ := List.mem_filter.1 h
  exact ⟨hcomponent, Text.not_mem_of_mem_splitOn hpiece⟩

/-- **The name of a path is its own name.** -/
theorem name_name (path : List Char) : name (name path) = name path := by
  by_cases h : components path = []
  · rw [name, name, h]
    rfl
  · have hlast : name path = (components path).getLast h := by
      rw [name, List.getLastD_eq_getLast?, List.getLast?_eq_some_getLast h, Option.getD_some]
    obtain ⟨hcomponent, hslash⟩ := mem_components (List.getLast_mem h)
    rw [hlast]
    exact name_of_component hcomponent hslash

/-! ## What follows the last dot -/

/-- Behind the last dot stands what follows it. -/
theorem afterLastDot_append (front : List Char) (h : '.' ∉ x) :
    afterLastDot (front ++ '.' :: x) = x := by
  rw [afterLastDot, Text.splitOn_append_cons, Text.splitOn_of_not_mem h, List.getLastD_concat]

/-- A name with a dot is made up of what stands in front of its last dot and what follows it. -/
theorem exists_afterLastDot (h : '.' ∈ n) :
    ∃ front, n = front ++ '.' :: afterLastDot n ∧ '.' ∉ afterLastDot n := by
  obtain ⟨back, front, hsplit, hback⟩ := List.eq_append_cons_of_mem (List.mem_reverse.2 h)
  have hn : n = front.reverse ++ '.' :: back.reverse := by
    rw [← List.reverse_reverse n, hsplit, List.reverse_append, List.reverse_cons, List.append_assoc]
    rfl
  have hdot : '.' ∉ back.reverse := fun hmem => hback (List.mem_reverse.1 hmem)
  have hafter : afterLastDot n = back.reverse := by rw [hn, afterLastDot_append _ hdot]
  rw [hafter]
  exact ⟨front.reverse, hn, hdot⟩

/-- The extension of a name in small letters is the small text of its extension, read behind what
stands in front of it. -/
theorem exists_afterLastDot_lower (h : '.' ∈ n) :
    ∃ before, afterLastDot (Text.lower n) = Text.lowerFrom before (afterLastDot n) := by
  obtain ⟨front, hn, hdot⟩ := exists_afterLastDot h
  obtain ⟨start, hstart⟩ := Text.exists_lowerFrom_append [] front ('.' :: afterLastDot n)
  rw [← hn, ← Text.lower_eq, List.append_nil] at hstart
  have hlower : Text.lower n =
      start ++ '.' :: Text.lowerFrom ('.' :: front.reverse) (afterLastDot n) := hstart
  refine ⟨'.' :: front.reverse, ?_⟩
  rw [hlower, afterLastDot_append _ (mt Text.dot_mem_lowerFrom_iff.1 hdot)]

/-- **Both ways read the same extension**, unless it holds a sigma. -/
theorem lower_afterLastDot_iff (h : '.' ∈ n) (hsmall : 'σ' ∉ x) (hfinal : 'ς' ∉ x) :
    Text.lower (afterLastDot n) = x ↔ afterLastDot (Text.lower n) = x := by
  obtain ⟨before, hbefore⟩ := exists_afterLastDot_lower h
  rw [hbefore, Text.lower_eq]
  exact Text.lowerFrom_eq_iff hsmall hfinal [] before

/-- A capital sigma behind a letter is final, but on its own it is not. -/
example : Text.lower (afterLastDot ['a', '.', 'Σ']) = ['σ'] ∧
    afterLastDot (Text.lower ['a', '.', 'Σ']) = ['ς'] := by decide +kernel

end PatchTriage.Path
