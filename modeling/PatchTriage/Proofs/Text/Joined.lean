import PatchTriage.Text.Search

/-!
# Parts of joined texts

A part of two joined texts that does not hold the separator lies in one of them, for else it would
take in the joint (`infix_append_cons_iff`). So such a part of several joined texts is a part of one
of them (`infix_intercalate_iff`), and a text without the separator occurs in joined texts exactly
if it occurs in one of them (`occurs_intercalate`).
-/

namespace PatchTriage.Text

variable {sep : Char} {part : List Char}

/-- **A part without the separator does not reach over a joint**: it ends in front of the joint, or
it begins behind it. -/
theorem infix_append_cons_iff (h : sep ∉ part) (l r : List Char) :
    part <:+: l ++ sep :: r ↔ part <:+: l ∨ part <:+: r := by
  constructor
  · rintro ⟨front, back, heq⟩
    rcases List.append_eq_append_iff.1 heq with ⟨rest, hl, -⟩ | ⟨rest, hfront, hback⟩
    · exact .inl ⟨front, rest, hl.symm⟩
    · cases rest with
      | nil =>
        rw [List.append_nil] at hfront
        exact .inl ⟨front, [], by rw [List.append_nil, hfront]⟩
      | cons c rest =>
        obtain ⟨rfl, rfl⟩ := List.cons.inj hback
        rcases List.append_eq_append_iff.1 hfront with ⟨inner, -, hpart⟩ | ⟨inner, -, hrest⟩
        · exact absurd (hpart ▸ List.mem_append_right inner List.mem_cons_self) h
        · cases inner with
          | nil =>
            obtain rfl : sep :: rest = part := hrest
            exact absurd List.mem_cons_self h
          | cons d inner =>
            obtain ⟨rfl, rfl⟩ := List.cons.inj hrest
            exact .inr ⟨inner, back, rfl⟩
  · rintro (hl | hr)
    · exact hl.trans (List.prefix_append l (sep :: r)).isInfix
    · exact hr.trans ((List.suffix_cons sep r).trans (List.suffix_append l (sep :: r))).isInfix

/-- A part without the separator lies in one of the joined texts. -/
theorem infix_intercalate_iff (h : sep ∉ part) {texts : List (List Char)} (hne : texts ≠ []) :
    part <:+: [sep].intercalate texts ↔ ∃ text ∈ texts, part <:+: text := by
  induction texts with
  | nil => exact absurd rfl hne
  | cons text texts ih =>
    cases texts with
    | nil => simp
    | cons next texts =>
      rw [List.intercalate_cons_cons, List.append_assoc, List.singleton_append,
        infix_append_cons_iff h, ih (List.cons_ne_nil _ _)]
      simp only [List.mem_cons, exists_eq_or_imp]

/-- A text without the separator occurs in joined texts exactly if it occurs in one of them. -/
theorem occurs_intercalate (h : sep ∉ part) {texts : List (List Char)} (hne : texts ≠ []) :
    occurs part ([sep].intercalate texts) = texts.any (occurs part) := by
  rw [Bool.eq_iff_iff, occurs_iff, infix_intercalate_iff h hne, List.any_eq_true]
  simp only [occurs_iff]

end PatchTriage.Text
