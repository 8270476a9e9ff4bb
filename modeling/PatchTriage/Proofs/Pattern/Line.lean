import PatchTriage.Proofs.Pattern.Matching
import PatchTriage.Proofs.Text.Joined

/-!
# Patterns within a line

A pattern that takes no line feed and asks for nothing around its pieces stays in a line
(`Pattern.staysInLine`). No piece that fits it holds a line feed (`Pattern.Fits.feed_not_mem`), and
a piece that fits it fits anywhere (`Pattern.Fits.anywhere`). In texts joined by line feeds it is
therefore found exactly if it is found in one of them (`Pattern.occursIn_intercalate`).
-/

namespace PatchTriage.Pattern

/-- Whether a pattern takes no line feed and does not look at what stands around a piece. -/
def staysInLine : Pattern → Bool
  | empty => true
  | one k => !k.accepts '\n'
  | wordBoundary | textStart | textEnd => false
  | seq p q | alt p q => p.staysInLine && q.staysInLine
  | star p => p.staysInLine

section
variable {p : Pattern} {before : Option Char} {piece after : List Char}

/-- A piece that fits a pattern within a line holds no line feed. -/
theorem Fits.feed_not_mem (h : Fits p before piece after) (hp : p.staysInLine = true) :
    '\n' ∉ piece := by
  induction h with
  | empty | wordBoundary | textStart | textEnd | done => exact List.not_mem_nil
  | @one k _ c _ hc =>
    rw [staysInLine, Bool.not_eq_true'] at hp
    intro hmem
    rw [← List.mem_singleton.1 hmem, hp] at hc
    cases hc
  | seq _ _ ihp ihq =>
    rw [staysInLine, Bool.and_eq_true] at hp
    exact fun hmem => (List.mem_append.1 hmem).elim (ihp hp.1) (ihq hp.2)
  | left _ ih =>
    rw [staysInLine, Bool.and_eq_true] at hp
    exact ih hp.1
  | right _ ih =>
    rw [staysInLine, Bool.and_eq_true] at hp
    exact ih hp.2
  | more _ _ ihp ihrest =>
    exact fun hmem => (List.mem_append.1 hmem).elim (ihp hp) (ihrest hp)

/-- What stands around a piece does not matter to a pattern within a line. -/
theorem Fits.anywhere (h : Fits p before piece after) (hp : p.staysInLine = true)
    (before' : Option Char) (after' : List Char) : Fits p before' piece after' := by
  induction h generalizing before' after' with
  | empty => exact .empty
  | one hc => exact .one hc
  | wordBoundary | textStart | textEnd => cases hp
  | seq _ _ ihp ihq =>
    rw [staysInLine, Bool.and_eq_true] at hp
    exact .seq (ihp hp.1 _ _) (ihq hp.2 _ _)
  | left _ ih =>
    rw [staysInLine, Bool.and_eq_true] at hp
    exact .left (ih hp.1 _ _)
  | right _ ih =>
    rw [staysInLine, Bool.and_eq_true] at hp
    exact .right (ih hp.2 _ _)
  | done => exact .done
  | more _ _ ihp ihrest => exact .more (ihp hp _ _) (ihrest hp _ _)

/-- A pattern within a line is found exactly if some part of the text fits it on its own. -/
theorem occursIn_iff_exists_piece (hp : p.staysInLine = true) {l : List Char} :
    p.occursIn l = true ↔ ∃ piece, piece <:+: l ∧ Fits p none piece [] := by
  rw [occursIn_iff]
  constructor
  · rintro ⟨front, piece, after, rfl, h⟩
    exact ⟨piece, ⟨front, after, rfl⟩, h.anywhere hp none []⟩
  · rintro ⟨piece, ⟨front, after, rfl⟩, h⟩
    exact ⟨front, piece, after, rfl, h.anywhere hp _ _⟩

/-- A pattern within a line that is found in a part of a text is found in the text. -/
theorem occursIn_of_infix (hp : p.staysInLine = true) {part l : List Char} (hpart : part <:+: l)
    (h : p.occursIn part = true) : p.occursIn l = true := by
  obtain ⟨piece, hpiece, hfits⟩ := (occursIn_iff_exists_piece hp).1 h
  exact (occursIn_iff_exists_piece hp).2 ⟨piece, hpiece.trans hpart, hfits⟩

/-- **A pattern within a line is found in joined lines exactly if it is found in one of them.** -/
theorem occursIn_intercalate (hp : p.staysInLine = true) {texts : List (List Char)}
    (hne : texts ≠ []) : p.occursIn (['\n'].intercalate texts) = texts.any p.occursIn := by
  rw [Bool.eq_iff_iff, occursIn_iff_exists_piece hp, List.any_eq_true]
  simp only [occursIn_iff_exists_piece hp]
  constructor
  · rintro ⟨piece, hpiece, h⟩
    obtain ⟨text, htext, hinfix⟩ :=
      (Text.infix_intercalate_iff (h.feed_not_mem hp) hne).1 hpiece
    exact ⟨text, htext, piece, hinfix, h⟩
  · rintro ⟨text, htext, piece, hinfix, h⟩
    exact ⟨piece, (Text.infix_intercalate_iff (h.feed_not_mem hp) hne).2 ⟨text, htext, hinfix⟩, h⟩

end

end PatchTriage.Pattern
