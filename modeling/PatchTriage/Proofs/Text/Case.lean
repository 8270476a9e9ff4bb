import PatchTriage.Text.Blank
import PatchTriage.Text.Case
import PatchTriage.Text.Digit
import PatchTriage.Text.Word
import Mathlib.Data.List.Basic

/-!
# Letters in either case

Texts that differ in the case of ASCII letters only have the same ASCII small letters, and the
properties of characters that patterns ask for do not tell a letter from its other case
(`lowerChar_toLower`, `isWord_toLower`). `recase` puts the letters at any places of a text in their
other case.

The full lower case of a text goes character by character, but one character looks around: a capital
sigma may become a final one (`lowerFrom`). So what becomes of a part of a text depends on the text
in front of it by its sigmas alone (`lowerFrom_eq_iff`), and no dot comes or goes
(`dot_mem_lowerFrom_iff`).
-/

namespace PatchTriage.Text

/-! ## ASCII letters -/

/-- An ASCII letter in its other case; any other character as it is. -/
def otherCase (c : Char) : Char := if c.isUpper then c.toLower else c.toUpper

/-- A text with the letters at some places in their other case. -/
def recase (places : Nat → Bool) (l : List Char) : List Char :=
  l.mapIdx fun i c => if places i then otherCase c else c

/-- What holds of the ASCII characters, and of those without another case, holds of all. -/
theorem ascii_or_fixed {P : Char → Prop} (hascii : ∀ n < 0x80, P (Char.ofNat n))
    (hfixed : ∀ c : Char, c.toLower = c → c.toUpper = c → P c) (c : Char) : P c := by
  by_cases hc : c.toNat < 0x80
  · rw [← Char.ofNat_toNat c]
    exact hascii c.toNat hc
  · have hcapital : ¬(c.val ≥ 'A'.val ∧ c.val ≤ 'Z'.val) := fun h =>
      hc (Nat.lt_of_le_of_lt (UInt32.le_iff_toNat_le.1 h.2) (by decide))
    have hsmall : ¬('a'.val ≤ c.val ∧ c.val ≤ 'z'.val) := fun h =>
      hc (Nat.lt_of_le_of_lt (UInt32.le_iff_toNat_le.1 h.2) (by decide))
    exact hfixed c (dif_neg hcapital) (dif_neg hsmall)

/-- The other case of a letter has the same small letter. -/
theorem toLower_otherCase : ∀ c : Char, (otherCase c).toLower = c.toLower := by
  refine ascii_or_fixed (by decide +kernel) fun c hlower hupper => ?_
  rw [otherCase, hlower, hupper, ite_self, hlower]

/-- What tells no ASCII character from its small letter tells no character from it. -/
theorem apply_toLower {α : Type} {f : Char → α}
    (h : ∀ n < 0x80, f (Char.ofNat n).toLower = f (Char.ofNat n)) : ∀ c : Char, f c.toLower = f c :=
  ascii_or_fixed h fun _ hlower _ => congrArg f hlower

/-- A small ASCII letter has the lower case of its capital. -/
theorem lowerChar_toLower : ∀ c : Char, lowerChar c.toLower = lowerChar c :=
  apply_toLower (by decide +kernel)

/-- A small ASCII letter is of a word just if its capital is. -/
theorem isWord_toLower : ∀ c : Char, isWord c.toLower = isWord c :=
  apply_toLower (by decide +kernel)

/-- It is blank just if its capital is. -/
theorem isBlank_toLower : ∀ c : Char, isBlank c.toLower = isBlank c :=
  apply_toLower (by decide +kernel)

/-- It is a digit just if its capital is. -/
theorem isDigit_toLower : ∀ c : Char, isDigit c.toLower = isDigit c :=
  apply_toLower (by decide +kernel)

/-- It is a line feed just if its capital is. -/
theorem bne_feed_toLower : ∀ c : Char, (c.toLower != '\n') = (c != '\n') :=
  apply_toLower (f := (· != '\n')) (by decide +kernel)

/-- Letters in their other case keep the small letters of a text. -/
theorem map_toLower_recase (places : Nat → Bool) (l : List Char) :
    (recase places l).map Char.toLower = l.map Char.toLower := by
  refine List.ext_getElem? fun i => ?_
  rw [recase, List.getElem?_map, List.getElem?_mapIdx, List.getElem?_map, Option.map_map]
  refine congrArg (fun f => Option.map f l[i]?) (funext fun c => ?_)
  rw [Function.comp_apply]
  split
  · exact toLower_otherCase c
  · rfl

/-! ## The small letters of a text -/

/-- The full lower case of a text behind the characters `before`, nearest first. -/
def lowerFrom (before : List Char) : List Char → List Char
  | [] => []
  | c :: after => lowerAt before c after ++ lowerFrom (c :: before) after

/-- The full lower case of a text is that of the text with nothing in front of it. -/
theorem lower_eq (l : List Char) : lower l = lowerFrom [] l := by
  have hgo : ∀ (l done before : List Char),
      lower.go done before l = done.reverse ++ lowerFrom before l := by
    intro l
    induction l with
    | nil => intro done before; rw [lower.go, lowerFrom, List.append_nil]
    | cons c after ih =>
      intro done before
      rw [lower.go, ih, lowerFrom, List.reverse_append, List.reverse_reverse, List.append_assoc]
  exact hgo l [] []

/-- What becomes of the end of a text is an end of what becomes of the text. -/
theorem exists_lowerFrom_append (before front back : List Char) :
    ∃ start, lowerFrom before (front ++ back) =
      start ++ lowerFrom (front.reverse ++ before) back := by
  induction front generalizing before with
  | nil => exact ⟨[], rfl⟩
  | cons c front ih =>
    obtain ⟨start, hstart⟩ := ih (c :: before)
    refine ⟨lowerAt before c (front ++ back) ++ start, ?_⟩
    rw [List.cons_append, lowerFrom, hstart, List.append_assoc, List.reverse_cons,
      List.append_assoc]
    rfl

/-- Every block of capitals has its small letters behind the dot. -/
theorem dot_lt_shifted : ∀ run ∈ capitalRuns.toList, (0x2E : Int) < run.first + run.shift := by
  decide +kernel

/-- A block that is found for a capital is one of the table, and begins no later than the capital.
-/
theorem mem_of_capitalRun? {n : Nat} {run : CapitalRun} (h : capitalRun? n = some run) :
    run ∈ capitalRuns.toList ∧ run.first ≤ n := by
  rw [capitalRun?] at h
  split at h
  · have hspan := Array.find?_some h
    exact ⟨Array.mem_toList_iff.2 (Array.mem_of_find?_eq_some h), by simp at hspan; exact hspan.1⟩
  · cases h

/-- A character of a greater number is no dot. -/
theorem ofNat_ne_dot {n : Nat} (h : 0x2E < n) : Char.ofNat n ≠ '.' := by
  intro heq
  by_cases hvalid : n.isValidChar
  · have hchar : Char.ofNat n = Char.ofNatAux n hvalid := dif_pos hvalid
    have hvalue : n = 0x2E := congrArg Char.toNat (hchar.symm.trans heq)
    omega
  · have hchar : Char.ofNat n = Char.ofNat 0 := dif_neg hvalid
    exact absurd (hchar.symm.trans heq) (by decide)

/-- Just the dot becomes a dot. -/
theorem lowerChar_eq_dot_iff {c : Char} : lowerChar c = '.' ↔ c = '.' := by
  have hdot : lowerChar '.' = '.' := by decide +kernel
  refine ⟨fun h => ?_, fun h => h ▸ hdot⟩
  rw [lowerChar] at h
  split at h
  · split at h
    · exact absurd h (ofNat_ne_dot (by omega))
    · exact h
  · split at h
    · exact absurd h (by decide)
    · split at h
      · next run hrun =>
        split at h
        · obtain ⟨hmem, hfirst⟩ := mem_of_capitalRun? hrun
          have hshift := dot_lt_shifted run hmem
          exact absurd h (ofNat_ne_dot (by omega))
        · exact h
      · exact h

/-- So it is where a character may become more than one. -/
theorem dot_mem_lowerAt_iff {before after : List Char} {c : Char} :
    '.' ∈ lowerAt before c after ↔ c = '.' := by
  rw [lowerAt]
  split
  · next hc =>
    subst hc
    refine iff_of_false ?_ (by decide)
    split <;> decide
  · split
    · next hc =>
      subst hc
      decide
    · rw [List.mem_singleton, eq_comm, lowerChar_eq_dot_iff]

/-- **No dot comes or goes.** -/
theorem dot_mem_lowerFrom_iff {before l : List Char} : '.' ∈ lowerFrom before l ↔ '.' ∈ l := by
  induction l generalizing before with
  | nil => exact Iff.rfl
  | cons c l ih => rw [lowerFrom, List.mem_append, dot_mem_lowerAt_iff, ih, List.mem_cons, eq_comm]

/-- A character other than the capital sigma does not look around. -/
theorem lowerAt_congr {c : Char} (hc : c ≠ 'Σ') (before before' after after' : List Char) :
    lowerAt before c after = lowerAt before' c after' := by
  rw [lowerAt, lowerAt, if_neg hc, if_neg hc]

/-- Where no capital sigma stands, what is in front of a text does not matter. -/
theorem lowerFrom_congr {l : List Char} (h : 'Σ' ∉ l) (before before' : List Char) :
    lowerFrom before l = lowerFrom before' l := by
  induction l generalizing before before' with
  | nil => rfl
  | cons c l ih =>
    rw [List.mem_cons, not_or] at h
    rw [lowerFrom, lowerFrom, lowerAt_congr (Ne.symm h.1) before before' l l, ih h.2]

/-- A capital sigma becomes one of the two small ones. -/
theorem sigma_mem_lowerFrom {before l : List Char} (h : 'Σ' ∈ l) :
    'σ' ∈ lowerFrom before l ∨ 'ς' ∈ lowerFrom before l := by
  induction l generalizing before with
  | nil => cases h
  | cons c l ih =>
    rw [lowerFrom, List.mem_append, List.mem_append]
    rcases List.mem_cons.1 h with rfl | h
    · rw [lowerAt, if_pos rfl]
      split
      · exact .inr (.inl List.mem_cons_self)
      · exact .inl (.inl List.mem_cons_self)
    · exact (ih h).imp .inr .inr

/-- **Sigmas apart, the text in front does not matter.** -/
theorem lowerFrom_eq_iff {l x : List Char} (hsmall : 'σ' ∉ x) (hfinal : 'ς' ∉ x)
    (before before' : List Char) : lowerFrom before l = x ↔ lowerFrom before' l = x := by
  by_cases h : 'Σ' ∈ l
  · have hne : ∀ before, lowerFrom before l ≠ x := by
      rintro before rfl
      exact (sigma_mem_lowerFrom h).elim hsmall hfinal
    exact iff_of_false (hne before) (hne before')
  · rw [lowerFrom_congr h before before']

end PatchTriage.Text
