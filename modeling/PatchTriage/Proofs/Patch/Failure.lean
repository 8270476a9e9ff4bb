import PatchTriage.Proofs.Patch.Segments

/-!
# When a diff cannot be read

The pass over the lines of a diff stops at a hunk header with a numeral that is too long
(`TooLongAt`), provided that a file is open there. So a text cannot be read exactly if such a line
stands behind one that opens a file (`Unreadable`, `Patch.exists_parse_error_iff`). Before all
openers any line may stand.
-/

namespace PatchTriage

section
variable (L : List Line)

/-- Whether the hunk header at a position has a numeral that is too long. -/
def TooLongAt (i : Nat) : Prop :=
  ∃ h : HunkHeader, h.WellFormed ∧ lineAt L i = h.text ∧
    ∃ ds ∈ h.numerals, maxNumeralDigits < ds.length

/-- Whether a numeral is too long in a hunk header that stands behind the opener of a file. -/
def Unreadable : Prop := ∃ o ∈ openers L, ∃ i, o < i ∧ TooLongAt L i

end

section
variable {L : List Line}

/-- A line is readable just if no numeral of a hunk header at its place is too long. -/
theorem readableLine_lineAt_iff {i : Nat} : ReadableLine (lineAt L i) ↔ ¬TooLongAt L i := by
  constructor
  · rintro hread ⟨h, hwf, hline, ds, hds, hlong⟩
    have hr : HunkHeader.read? (lineAt L i) = some h := HunkHeader.read?_eq_some_iff.2 ⟨hwf, hline⟩
    exact Nat.not_le_of_lt hlong (hread h hr ds hds)
  · intro hnot h hr ds hds
    obtain ⟨hwf, hline⟩ := HunkHeader.read?_eq_some_iff.1 hr
    exact Nat.le_of_not_lt fun hlong => hnot ⟨h, hwf, hline, ds, hds, hlong⟩

/-- Behind the last line no numeral is too long, for there are only empty lines. -/
theorem TooLongAt.lt_length {i : Nat} (h : TooLongAt L i) : i < L.length := by
  refine Nat.lt_of_not_le fun hle => ?_
  obtain ⟨header, -, hline, -⟩ := h
  rw [lineAt, List.getD_eq_getElem?_getD, List.getElem?_eq_none hle] at hline
  cases hline

/-- What remains of the text from a position on is readable if every line in it is. -/
theorem forall_drop_readableLine_iff {k : Nat} :
    (∀ line ∈ L.drop k, ReadableLine line) ↔ ∀ i, k ≤ i → ¬TooLongAt L i := by
  constructor
  · intro h i hki hlong
    have hi : i < L.length := hlong.lt_length
    have hmem : lineAt L i ∈ L.drop k := by
      rw [List.mem_drop_iff_getElem]
      exact ⟨i - k, by omega, by rw [lineAt_of_lt hi]; congr 1; omega⟩
    exact readableLine_lineAt_iff.1 (h _ hmem) hlong
  · intro h line hline
    obtain ⟨j, hj, rfl⟩ := List.mem_drop_iff_getElem.1 hline
    have hkj : k + j < L.length := by omega
    rw [← lineAt_of_lt hkj]
    exact readableLine_lineAt_iff.2 (h _ (Nat.le_add_right k j))

namespace Parsing

/-- With an open file, the pass comes to its end exactly if all lines are readable. A file header
is, for it is no hunk header. -/
theorem run_isOk_iff_of_open {finished : List FileChange} {d : Draft} {before : Option Line}
    {ls : List Line} :
    (∃ p, run { finished := finished, current := some d } before ls = .ok p) ↔
      ∀ line ∈ ls, ReadableLine line := by
  induction ls generalizing finished d before with
  | nil => simp [run]
  | cons line ls ih =>
    rw [List.forall_mem_cons]
    by_cases hf : IsFileHeader line
    · obtain ⟨header, hr⟩ := hf.exists_read?
      have hread : ReadableLine line :=
        readableLine_of_not_header fun hh => hh.not_isFileHeader hf
      rw [run_header hr, ih]
      exact ⟨fun h => ⟨hread, h⟩, And.right⟩
    · rw [run, step_open hf, ← Draft.addLine_isOk_iff (d := d)]
      cases d.addLine line with
      | error e => simp [Except.map]
      | ok d₁ => exact ih.trans ⟨fun h => ⟨⟨d₁, rfl⟩, h⟩, And.right⟩

/-- Before any file is open, only what stands behind the first opener can stop the pass; all other
openers stand behind it. -/
theorem run_isOk_iff_of_none {k : Nat} :
    (∃ p, run {} (L.take k).getLast? (L.drop k) = .ok p) ↔
      ∀ o ∈ openersFrom L k, ∀ i, o < i → ¬TooLongAt L i := by
  induction k using positions_induction (n := L.length) with
  | stop k hk =>
    rw [List.drop_of_length_le hk, openersFrom_of_le hk]
    simp [run]
  | step k hk ih =>
    have hfirst (h : FileHeaderAt L k ∨ SideNameAt L k) :
        (∀ o ∈ openersFrom L k, ∀ i, o < i → ¬TooLongAt L i) ↔ ∀ i, k < i → ¬TooLongAt L i := by
      rw [openersFrom_of_opener hk h, List.forall_mem_cons]
      refine ⟨And.left, fun hall => ⟨hall, fun o ho i hi => hall i ?_⟩⟩
      have hko : k + 1 ≤ o := (mem_positions.1 (List.mem_filter.1 ho).1).1
      exact Nat.lt_trans hko hi
    rw [drop_of_lt hk]
    by_cases hf : FileHeaderAt L k
    · obtain ⟨header, hr⟩ := hf.exists_read?
      rw [run_header hr, run_isOk_iff_of_open, forall_drop_readableLine_iff, hfirst (.inl hf)]
      exact Iff.rfl
    · rw [run, step_none hf]
      dsimp only
      cases hside : Draft.ofSideName? (lineAt L k) (L.drop (k + 1)) with
      | none =>
        have hs : ¬SideNameAt L k := not_sideNameAt_of_eq_none hside
        rw [← getLast?_take_succ hk, openersFrom_of_not_opener hk (not_or.2 ⟨hf, hs⟩)]
        exact ih
      | some d =>
        have hs : SideNameAt L k := sideNameAt_of_eq_some hside
        rw [run_isOk_iff_of_open, forall_drop_readableLine_iff, hfirst (.inr hs)]
        exact Iff.rfl

end Parsing

end

namespace Patch

/-- A text is read unless a numeral behind an opener is too long. -/
theorem exists_parse_ok_iff {text : String} :
    (∃ patch, parse text = .ok patch) ↔ ¬Unreadable (Text.lines text.toList) := by
  have hrun : (∃ patch, parse text = .ok patch) ↔
      ∃ p, ({} : Parsing).run none (Text.lines text.toList) = .ok p := by
    rw [parse]
    cases ({} : Parsing).run none (Text.lines text.toList) with
    | ok p => simp
    | error e => simp
  have hall : ¬Unreadable (Text.lines text.toList) ↔
      ∀ o ∈ openersFrom (Text.lines text.toList) 0, ∀ i, o < i →
        ¬TooLongAt (Text.lines text.toList) i := by
    simp only [Unreadable, openers, not_exists, not_and]
  rw [hrun, hall]
  exact Parsing.run_isOk_iff_of_none (k := 0)

/-- **Only a numeral that is too long stops the parser**, and only behind the opener of a file. -/
theorem exists_parse_error_iff {text : String} :
    (∃ e, parse text = .error e) ↔ Unreadable (Text.lines text.toList) := by
  rw [← not_iff_not, ← exists_parse_ok_iff]
  cases parse text with
  | ok patch => simp
  | error e => simp

/-- Every file that is read says which hunks it has. -/
theorem hunks_of_mem_parse {text : String} {patch : Patch} (h : parse text = .ok patch) :
    ∀ f ∈ patch.files, ∃ hs, f.hunks = some hs := by
  intro f hf
  rw [files_of_parse h] at hf
  obtain ⟨o, -, rfl⟩ := List.mem_map.1 hf
  exact ⟨_, rfl⟩

end Patch

end PatchTriage
