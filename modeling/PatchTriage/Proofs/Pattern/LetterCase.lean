import PatchTriage.Proofs.Pattern.Matching
import PatchTriage.Proofs.Text.Case

/-!
# Patterns that ignore case

A pattern whose classes never ask for one character as it stands ignores case
(`Pattern.ignoresCase`): a piece that fits it still fits with ASCII letters in their other case,
whatever is done to the text around it in the same way (`Pattern.Fits.recased`). So the pattern is
found in a text just if it is found in one with the same ASCII small letters
(`Pattern.occursIn_congr`).
-/

namespace PatchTriage

/-- Whether a class takes a letter just if it takes its other case. -/
def CharClass.ignoresCase : CharClass → Bool
  | exactly _ => false
  | letterOf _ | word | blank | digit | any => true

/-- A class that ignores case sees the ASCII small letter of a character only. -/
theorem CharClass.accepts_toLower {k : CharClass} (hk : k.ignoresCase = true) (c : Char) :
    k.accepts c.toLower = k.accepts c := by
  cases k with
  | exactly d => cases hk
  | letterOf group => rw [accepts, accepts, Text.lowerChar_toLower]
  | word => exact Text.isWord_toLower c
  | blank => exact Text.isBlank_toLower c
  | digit => exact Text.isDigit_toLower c
  | any => exact Text.bne_feed_toLower c

namespace Pattern

/-- Whether no class of a pattern asks for one character as it stands. -/
def ignoresCase : Pattern → Bool
  | empty | wordBoundary | textStart | textEnd => true
  | one k => k.ignoresCase
  | seq p q | alt p q => p.ignoresCase && q.ignoresCase
  | star p => p.ignoresCase

variable {p : Pattern}

/-- A word ends at the same places in either case. -/
theorem touchesWord_congr {c d : Option Char} (h : c.map Char.toLower = d.map Char.toLower) :
    touchesWord c = touchesWord d := by
  have hlower (c : Option Char) : touchesWord (c.map Char.toLower) = touchesWord c := by
    rw [touchesWord, touchesWord, Option.any_map]
    exact congrArg (Option.any · c) (funext Text.isWord_toLower)
  rw [← hlower c, h, hlower]

/-- A line feed has no other case. -/
theorem eq_feed_of_map {l : List Char} (h : ['\n'] = l.map Char.toLower) : l = ['\n'] := by
  obtain ⟨c, rfl, hc⟩ := List.map_eq_singleton_iff.1 h.symm
  have hfeed := Text.bne_feed_toLower c
  rw [hc] at hfeed
  simpa using hfeed.symm

/-- Pieces that differ in case alone end so too. -/
theorem lastBefore_map {before before' : Option Char} {l l' : List Char}
    (hbefore : before.map Char.toLower = before'.map Char.toLower)
    (hl : l.map Char.toLower = l'.map Char.toLower) :
    (lastBefore before l).map Char.toLower = (lastBefore before' l').map Char.toLower := by
  rw [lastBefore, lastBefore, Option.map_or, Option.map_or, ← List.getLast?_map, hl,
    List.getLast?_map, hbefore]

/-- **A piece in other letters fits as well.** -/
theorem Fits.recased {before : Option Char} {piece after : List Char}
    (h : Fits p before piece after) (hp : p.ignoresCase = true) {before' : Option Char}
    {piece' after' : List Char} (hbefore : before.map Char.toLower = before'.map Char.toLower)
    (hpiece : piece.map Char.toLower = piece'.map Char.toLower)
    (hafter : after.map Char.toLower = after'.map Char.toLower) : Fits p before' piece' after' := by
  induction h generalizing before' piece' after' with
  | empty =>
    obtain rfl := List.map_eq_nil_iff.1 hpiece.symm
    exact .empty
  | one hc =>
    obtain ⟨d, rfl, hd⟩ := List.map_eq_singleton_iff.1 hpiece.symm
    refine .one ?_
    rw [← CharClass.accepts_toLower hp, hd, CharClass.accepts_toLower hp]
    exact hc
  | wordBoundary hne =>
    obtain rfl := List.map_eq_nil_iff.1 hpiece.symm
    have hhead := congrArg List.head? hafter
    rw [List.head?_map, List.head?_map] at hhead
    refine .wordBoundary ?_
    rwa [← touchesWord_congr hbefore, ← touchesWord_congr hhead]
  | textStart =>
    obtain rfl := List.map_eq_nil_iff.1 hpiece.symm
    obtain rfl := Option.map_eq_none_iff.1 hbefore.symm
    exact .textStart
  | textEnd hend =>
    obtain rfl := List.map_eq_nil_iff.1 hpiece.symm
    rcases hend with rfl | rfl
    · exact .textEnd (.inl (List.map_eq_nil_iff.1 hafter.symm))
    · exact .textEnd (.inr (eq_feed_of_map hafter))
  | seq _ _ ihp ihq =>
    rw [ignoresCase, Bool.and_eq_true] at hp
    rw [List.map_append] at hpiece
    obtain ⟨first', second', rfl, hfirst, hsecond⟩ := List.map_eq_append_iff.1 hpiece.symm
    refine .seq (ihp hp.1 hbefore hfirst.symm ?_)
      (ihq hp.2 (lastBefore_map hbefore hfirst.symm) hsecond.symm hafter)
    rw [List.map_append, List.map_append, hsecond, hafter]
  | left _ ih =>
    rw [ignoresCase, Bool.and_eq_true] at hp
    exact .left (ih hp.1 hbefore hpiece hafter)
  | right _ ih =>
    rw [ignoresCase, Bool.and_eq_true] at hp
    exact .right (ih hp.2 hbefore hpiece hafter)
  | done =>
    obtain rfl := List.map_eq_nil_iff.1 hpiece.symm
    exact .done
  | more _ _ ihp ihrest =>
    rw [List.map_append] at hpiece
    obtain ⟨first', second', rfl, hfirst, hsecond⟩ := List.map_eq_append_iff.1 hpiece.symm
    refine .more (ihp hp hbefore hfirst.symm ?_)
      (ihrest hp (lastBefore_map hbefore hfirst.symm) hsecond.symm hafter)
    rw [List.map_append, List.map_append, hsecond, hafter]

/-- A pattern that ignores case is found in all texts with the same small letters, or in none. -/
theorem occursIn_congr (hp : p.ignoresCase = true) {l l' : List Char}
    (h : l.map Char.toLower = l'.map Char.toLower) : p.occursIn l = p.occursIn l' := by
  have hone : ∀ {l l' : List Char}, l.map Char.toLower = l'.map Char.toLower →
      p.occursIn l = true → p.occursIn l' = true := by
    intro l l' h hl
    obtain ⟨front, piece, after, rfl, hfits⟩ := occursIn_iff.1 hl
    rw [List.map_append] at h
    obtain ⟨start, after', rfl, hstart, hafter⟩ := List.map_eq_append_iff.1 h.symm
    rw [List.map_append] at hstart
    obtain ⟨front', piece', rfl, hfront, hpiece⟩ := List.map_eq_append_iff.1 hstart
    refine occursIn_iff.2 ⟨front', piece', after', rfl, hfits.recased hp ?_ hpiece.symm hafter.symm⟩
    rw [← List.getLast?_map, ← List.getLast?_map, hfront]
  exact Bool.eq_iff_iff.2 ⟨hone h, hone h.symm⟩

end Pattern

end PatchTriage
