import PatchTriage.Pattern.Basic

/-!
# What the search finds

`Pattern.Fits` says rule by rule which pieces of a text fit a pattern, between the character in
front of the piece and the text behind it. The search for a pattern never builds a piece: it takes
the text character by character and keeps what may remain to be fitted. Its two parts say of a piece
what they should: an empty piece fits where `Pattern.fitsEmpty` says so (`Pattern.fitsEmpty_iff`),
and a piece with a first character fits where its rest fits one of the patterns behind that
character (`Pattern.fits_cons_iff`). So the search finds a pattern exactly where a piece of the text
fits it (`Pattern.occursIn_iff`).
-/

namespace PatchTriage.Pattern

/-- The character in front of what follows a piece: its last one, or the one in front of it. -/
def lastBefore (before : Option Char) (piece : List Char) : Option Char := piece.getLast?.or before

/-- Behind a piece stands its last character. -/
@[simp]
theorem lastBefore_cons (before : Option Char) (c : Char) (piece : List Char) :
    lastBefore before (c :: piece) = lastBefore (some c) piece := by
  rw [lastBefore, lastBefore, List.getLast?_cons]
  cases piece.getLast? with
  | none => rfl
  | some d => rfl

/-- Whether a piece between the character `before` and the text `after` fits a pattern. -/
inductive Fits : Pattern → Option Char → List Char → List Char → Prop
  | empty {before : Option Char} {after : List Char} : Fits .empty before [] after
  | one {k : CharClass} {before : Option Char} {c : Char} {after : List Char} :
      k.accepts c = true → Fits (.one k) before [c] after
  | wordBoundary {before : Option Char} {after : List Char} :
      touchesWord before ≠ touchesWord after.head? → Fits .wordBoundary before [] after
  | textStart {after : List Char} : Fits .textStart none [] after
  | textEnd {before : Option Char} {after : List Char} :
      after = [] ∨ after = ['\n'] → Fits .textEnd before [] after
  | seq {p q : Pattern} {before : Option Char} {first second after : List Char} :
      Fits p before first (second ++ after) → Fits q (lastBefore before first) second after →
        Fits (.seq p q) before (first ++ second) after
  | left {p q : Pattern} {before : Option Char} {piece after : List Char} :
      Fits p before piece after → Fits (.alt p q) before piece after
  | right {p q : Pattern} {before : Option Char} {piece after : List Char} :
      Fits q before piece after → Fits (.alt p q) before piece after
  | done {p : Pattern} {before : Option Char} {after : List Char} : Fits (.star p) before [] after
  | more {p : Pattern} {before : Option Char} {first second after : List Char} :
      Fits p before first (second ++ after) →
        Fits (.star p) (lastBefore before first) second after →
          Fits (.star p) before (first ++ second) after

section
variable {p q : Pattern} {before : Option Char} {piece after : List Char}

/-! ## Pieces by the shape of the pattern -/

/-- A piece fits two patterns in a row just if it is cut into a piece for each. -/
theorem fits_seq_iff : Fits (.seq p q) before piece after ↔
    ∃ first second, piece = first ++ second ∧ Fits p before first (second ++ after) ∧
      Fits q (lastBefore before first) second after := by
  constructor
  · intro h
    cases h with
    | seq hp hq => exact ⟨_, _, rfl, hp, hq⟩
  · rintro ⟨first, second, rfl, hp, hq⟩
    exact .seq hp hq

/-- A piece fits a choice just if it fits one of the patterns. -/
theorem fits_alt_iff :
    Fits (.alt p q) before piece after ↔ Fits p before piece after ∨ Fits q before piece after := by
  constructor
  · intro h
    cases h with
    | left h => exact .inl h
    | right h => exact .inr h
  · rintro (h | h)
    · exact .left h
    · exact .right h

/-- A repetition that fits a piece with a first character begins with a part that is not empty:
empty parts are passed over, for the rest begins with the same character. -/
theorem fits_star_cons_iff {c : Char} : Fits (.star p) before (c :: piece) after ↔
    ∃ first second, piece = first ++ second ∧ Fits p before (c :: first) (second ++ after) ∧
      Fits (.star p) (lastBefore (some c) first) second after := by
  constructor
  · intro h
    generalize hs : Pattern.star p = s, hl : c :: piece = l at h
    induction h with
    | @more p' before first second after hp hrest _ ih =>
      cases hs
      cases first with
      | nil => exact ih rfl hl
      | cons d first =>
        obtain ⟨rfl, rfl⟩ := List.cons.inj hl
        rw [lastBefore_cons] at hrest
        exact ⟨first, second, rfl, hp, hrest⟩
    | _ => cases hs <;> cases hl
  · rintro ⟨first, second, rfl, hp, hrest⟩
    rw [← lastBefore_cons before] at hrest
    exact .more hp hrest

/-- **The empty piece** fits where the search says so. -/
theorem fitsEmpty_iff : p.fitsEmpty before after = true ↔ Fits p before [] after := by
  induction p generalizing before with
  | empty => exact iff_of_true rfl .empty
  | one k => exact iff_of_false nofun nofun
  | wordBoundary =>
    rw [fitsEmpty, bne_iff_ne]
    exact ⟨.wordBoundary, fun | .wordBoundary h => h⟩
  | textStart =>
    rw [fitsEmpty, Option.isNone_iff_eq_none]
    exact ⟨fun h => h ▸ .textStart, fun | .textStart => rfl⟩
  | textEnd =>
    rw [fitsEmpty, Bool.or_eq_true, beq_iff_eq, beq_iff_eq]
    exact ⟨.textEnd, fun | .textEnd h => h⟩
  | seq p q ihp ihq =>
    rw [fitsEmpty, Bool.and_eq_true, ihp, ihq, fits_seq_iff]
    constructor
    · rintro ⟨hp, hq⟩
      exact ⟨[], [], rfl, hp, hq⟩
    · rintro ⟨first, second, hnil, hp, hq⟩
      obtain ⟨rfl, rfl⟩ := List.append_eq_nil_iff.1 hnil.symm
      exact ⟨hp, hq⟩
  | alt p q ihp ihq => rw [fitsEmpty, Bool.or_eq_true, ihp, ihq, fits_alt_iff]
  | star p => exact iff_of_true rfl .done

/-! ## Pieces by their first character -/

/-- Simplified or not, two patterns in a row are fitted by the same pieces. -/
theorem fits_followedBy_iff :
    Fits (p.followedBy q) before piece after ↔ Fits (.seq p q) before piece after := by
  unfold followedBy
  split
  · rw [fits_seq_iff]
    constructor
    · exact fun h => ⟨[], piece, rfl, .empty, h⟩
    · rintro ⟨first, second, rfl, hp, hq⟩
      cases hp
      exact hq
  · exact Iff.rfl

/-- A rest that is followed by `q` takes its part of the piece first. -/
theorem exists_fits_followedBy_iff (rests : List Char → List Pattern) (q : Pattern) (c : Char)
    (piece after : List Char) :
    (∃ r ∈ (rests (piece ++ after)).map fun r => r.followedBy q, Fits r (some c) piece after) ↔
      ∃ first second, piece = first ++ second ∧
        (∃ r ∈ rests (first ++ (second ++ after)), Fits r (some c) first (second ++ after)) ∧
          Fits q (lastBefore (some c) first) second after := by
  constructor
  · rintro ⟨_, hmem, h⟩
    obtain ⟨r, hr, rfl⟩ := List.mem_map.1 hmem
    obtain ⟨first, second, rfl, hfirst, hq⟩ := fits_seq_iff.1 (fits_followedBy_iff.1 h)
    rw [List.append_assoc] at hr
    exact ⟨first, second, rfl, ⟨r, hr, hfirst⟩, hq⟩
  · rintro ⟨first, second, rfl, ⟨r, hr, hfirst⟩, hq⟩
    rw [← List.append_assoc] at hr
    exact ⟨_, List.mem_map_of_mem hr, fits_followedBy_iff.2 (.seq hfirst hq)⟩

/-- **A piece with a first character** fits where its rest fits what remains behind it. Of two
patterns in a row the first one takes this character, or it fits the empty piece and the second one
takes it. -/
theorem fits_cons_iff {c : Char} : Fits p before (c :: piece) after ↔
    ∃ r ∈ p.afterChar before c (piece ++ after), Fits r (some c) piece after := by
  induction p generalizing piece after with
  | empty | wordBoundary | textStart | textEnd =>
    exact iff_of_false nofun fun ⟨_, hr, _⟩ => List.not_mem_nil hr
  | one k =>
    rw [afterChar]
    constructor
    · intro h
      cases h with
      | one hc => exact ⟨.empty, by simp [hc], .empty⟩
    · rintro ⟨r, hr, h⟩
      split at hr
      · next hc =>
        obtain rfl := List.mem_singleton.1 hr
        cases h
        exact .one hc
      · exact absurd hr List.not_mem_nil
  | seq p q ihp ihq =>
    have hsplit : Fits (.seq p q) before (c :: piece) after ↔
        (∃ first second, piece = first ++ second ∧ Fits p before (c :: first) (second ++ after) ∧
          Fits q (lastBefore (some c) first) second after) ∨
        (Fits p before [] (c :: (piece ++ after)) ∧ Fits q before (c :: piece) after) := by
      rw [fits_seq_iff]
      constructor
      · rintro ⟨first, second, hl, hp, hq⟩
        cases first with
        | nil =>
          obtain rfl : c :: piece = second := hl
          exact .inr ⟨hp, hq⟩
        | cons d first =>
          obtain ⟨rfl, rfl⟩ := List.cons.inj hl
          rw [lastBefore_cons] at hq
          exact .inl ⟨first, second, rfl, hp, hq⟩
      · rintro (⟨first, second, rfl, hp, hq⟩ | ⟨hp, hq⟩)
        · rw [← lastBefore_cons before] at hq
          exact ⟨c :: first, second, rfl, hp, hq⟩
        · exact ⟨[], c :: piece, rfl, hp, hq⟩
    have hfirst := exists_fits_followedBy_iff (p.afterChar before c) q c piece after
    rw [hsplit, afterChar, ← fitsEmpty_iff, ihq]
    simp only [ihp]
    rw [← hfirst]
    split
    · next he =>
      simp only [he, true_and, List.mem_append, or_and_right, exists_or]
    · next he => simp [he]
  | alt p q ihp ihq =>
    rw [fits_alt_iff, ihp, ihq, afterChar]
    simp only [List.mem_append, or_and_right, exists_or]
  | star p ih =>
    have hfirst := exists_fits_followedBy_iff (p.afterChar before c) (.star p) c piece after
    rw [fits_star_cons_iff, afterChar, hfirst]
    simp only [ih]

/-! ## The search -/

/-- Whether some piece at the start of a text fits. -/
def FitsStart (p : Pattern) (before : Option Char) (l : List Char) : Prop :=
  ∃ piece after, l = piece ++ after ∧ Fits p before piece after

/-- At the end of a text only the empty piece is left. -/
theorem fitsStart_nil_iff : FitsStart p before [] ↔ p.fitsEmpty before [] = true := by
  rw [fitsEmpty_iff, FitsStart]
  constructor
  · rintro ⟨piece, after, hl, h⟩
    obtain ⟨rfl, rfl⟩ := List.append_eq_nil_iff.1 hl.symm
    exact h
  · exact fun h => ⟨[], [], rfl, h⟩

/-- Elsewhere a start is the empty piece, or it takes the next character. -/
theorem fitsStart_cons_iff {c : Char} {l : List Char} : FitsStart p before (c :: l) ↔
    p.fitsEmpty before (c :: l) = true ∨
      ∃ r ∈ p.afterChar before c l, FitsStart r (some c) l := by
  rw [fitsEmpty_iff]
  constructor
  · rintro ⟨piece, after, hl, h⟩
    cases piece with
    | nil =>
      obtain rfl : c :: l = after := hl
      exact .inl h
    | cons d piece =>
      obtain ⟨rfl, rfl⟩ := List.cons.inj hl
      obtain ⟨r, hr, h⟩ := fits_cons_iff.1 h
      exact .inr ⟨r, hr, piece, after, rfl, h⟩
  · rintro (h | ⟨r, hr, piece, after, rfl, h⟩)
    · exact ⟨[], c :: l, rfl, h⟩
    · exact ⟨c :: piece, after, rfl, fits_cons_iff.2 ⟨r, hr, h⟩⟩

/-- A pattern that is added to a list is one of it, next to those that were. -/
@[simp]
theorem mem_insertNew {l : List Pattern} : p ∈ insertNew q l ↔ p = q ∨ p ∈ l := by
  rw [insertNew]
  split
  · next h => exact ⟨.inr, fun hp => hp.elim (fun he => he ▸ h) id⟩
  · exact List.mem_cons

/-- So are all of several patterns that are added. -/
@[simp]
theorem mem_foldl_insertNew {l new : List Pattern} :
    p ∈ new.foldl (fun l q => insertNew q l) l ↔ p ∈ l ∨ p ∈ new := by
  induction new generalizing l with
  | nil => simp
  | cons q new ih =>
    simp [ih, or_assoc, or_left_comm]

/-- What may remain is what may remain of one of the patterns. -/
theorem mem_advance_iff {c : Char} {live : List Pattern} :
    p ∈ advance before c after live ↔ ∃ q ∈ live, p ∈ q.afterChar before c after := by
  have hfold : ∀ (live next : List Pattern),
      p ∈ live.foldl (fun next p =>
          (p.afterChar before c after).foldl (fun l q => insertNew q l) next) next ↔
        p ∈ next ∨ ∃ q ∈ live, p ∈ q.afterChar before c after := by
    intro live
    induction live with
    | nil => simp
    | cons q live ih =>
      intro next
      simp [ih, or_assoc]
  rw [advance, hfold]
  exact or_iff_right List.not_mem_nil

/-- The search finds the pieces that have begun, and those that begin later. A piece that begins
here is as good as one that has begun. -/
theorem search_iff {begun : List Pattern} {l : List Char} : p.search begun before l = true ↔
    (∃ q ∈ begun, FitsStart q before l) ∨
      ∃ skipped rest, l = skipped ++ rest ∧ FitsStart p (lastBefore before skipped) rest := by
  induction l generalizing begun before with
  | nil =>
    rw [search, List.any_eq_true]
    simp only [mem_insertNew, ← fitsStart_nil_iff]
    constructor
    · rintro ⟨q, rfl | hq, h⟩
      · exact .inr ⟨[], [], rfl, h⟩
      · exact .inl ⟨q, hq, h⟩
    · rintro (⟨q, hq, h⟩ | ⟨skipped, rest, hl, h⟩)
      · exact ⟨q, .inr hq, h⟩
      · obtain ⟨rfl, rfl⟩ := List.append_eq_nil_iff.1 hl.symm
        exact ⟨p, .inl rfl, h⟩
  | cons c l ih =>
    have hhere : (∃ skipped rest, c :: l = skipped ++ rest ∧
          FitsStart p (lastBefore before skipped) rest) ↔ FitsStart p before (c :: l) ∨
        ∃ skipped rest, l = skipped ++ rest ∧ FitsStart p (lastBefore (some c) skipped) rest := by
      constructor
      · rintro ⟨skipped, rest, hl, h⟩
        cases skipped with
        | nil =>
          obtain rfl : c :: l = rest := hl
          exact .inl h
        | cons d skipped =>
          obtain ⟨rfl, rfl⟩ := List.cons.inj hl
          rw [lastBefore_cons] at h
          exact .inr ⟨skipped, rest, rfl, h⟩
      · rintro (h | ⟨skipped, rest, rfl, h⟩)
        · exact ⟨[], c :: l, rfl, h⟩
        · rw [← lastBefore_cons before] at h
          exact ⟨c :: skipped, rest, rfl, h⟩
    have hlive : ((∃ q ∈ begun, FitsStart q before (c :: l)) ∨ FitsStart p before (c :: l)) ↔
        ∃ q ∈ insertNew p begun, FitsStart q before (c :: l) := by
      simp only [mem_insertNew, or_and_right, exists_or, exists_eq_left]
      exact or_comm
    rw [hhere, ← or_assoc, hlive, search]
    simp only [fitsStart_cons_iff]
    split
    · next hany =>
      obtain ⟨q, hq, he⟩ := List.any_eq_true.1 hany
      exact iff_of_true rfl (.inl ⟨q, hq, .inl he⟩)
    · next hany =>
      have hnone : ∀ q ∈ insertNew p begun, q.fitsEmpty before (c :: l) ≠ true :=
        fun q hq he => hany (List.any_eq_true.2 ⟨q, hq, he⟩)
      rw [ih]
      refine or_congr_left ?_
      simp only [mem_advance_iff]
      constructor
      · rintro ⟨r, ⟨q, hq, hr⟩, h⟩
        exact ⟨q, hq, .inr ⟨r, hr, h⟩⟩
      · rintro ⟨q, hq, he | ⟨r, hr, h⟩⟩
        · exact absurd he (hnone q hq)
        · exact ⟨r, ⟨q, hq, hr⟩, h⟩

/-- **The search finds a pattern exactly if some piece of the text fits it.** -/
theorem occursIn_iff {l : List Char} : p.occursIn l = true ↔
    ∃ front piece after, l = front ++ piece ++ after ∧ Fits p front.getLast? piece after := by
  rw [occursIn, search_iff]
  constructor
  · rintro (⟨q, hq, -⟩ | ⟨front, rest, rfl, piece, after, rfl, h⟩)
    · exact absurd hq List.not_mem_nil
    · rw [lastBefore, Option.or_none] at h
      exact ⟨front, piece, after, (List.append_assoc _ _ _).symm, h⟩
  · rintro ⟨front, piece, after, rfl, h⟩
    refine .inr ⟨front, piece ++ after, List.append_assoc _ _ _, piece, after, rfl, ?_⟩
    rwa [lastBefore, Option.or_none]

end

end PatchTriage.Pattern
