import PatchTriage.Patch.Header
import Mathlib.Data.List.TakeWhile

/-!
# The grammars of header lines

What the readers of header lines accept. A header has a written form (`text`), and a reader takes
exactly the lines in that form: `GitHeader.read?_eq_some_iff` for file headers, where of several
splits the one with the shortest old path is read, and `HunkHeader.read?_eq_some_iff` for hunk
headers, which split in one way only. `HunkHeader.toHunk_eq` says what comes of the numerals: the
hunk with their values, or the first that is too long.
-/

namespace PatchTriage

namespace GitHeader

/-- The line that writes a file header. -/
def text (h : GitHeader) : Line :=
  "diff --git a/".toList ++ (h.oldPath ++ (" b/".toList ++ h.newPath))

/-- A separator is found where the rest of a line starts with it and something follows. -/
theorem after?_separator {line path : Line} :
    Text.after? line " b/" = some path ↔ line = " b/".toList ++ path :=
  Text.after?_eq_some_iff

/-- One step of the search for a separator: it ends here, or the next character joins what has
been passed over. -/
theorem split?_cons (seen : Line) (c : Char) (rest : Line) :
    (∃ path, seen ≠ [] ∧ path ≠ [] ∧ c :: rest = " b/".toList ++ path ∧
      split? seen (c :: rest) = some ⟨seen.reverse, path⟩) ∨
    ((∀ path, seen ≠ [] → path ≠ [] → c :: rest ≠ " b/".toList ++ path) ∧
      split? seen (c :: rest) = split? (c :: seen) rest) := by
  cases seen with
  | nil => exact .inr ⟨fun _ h => absurd rfl h, by simp only [split?]⟩
  | cons s seen =>
    cases hsep : Text.after? (c :: rest) " b/" with
    | none =>
      refine .inr ⟨fun path _ _ he => ?_, by simp only [split?, hsep]⟩
      rw [after?_separator.2 he] at hsep
      cases hsep
    | some path =>
      cases path with
      | nil =>
        refine .inr ⟨fun path _ hpath he => ?_, by simp only [split?, hsep]⟩
        rw [after?_separator.2 he] at hsep
        exact hpath (Option.some.inj hsep)
      | cons n path =>
        exact .inl ⟨n :: path, List.cons_ne_nil _ _, List.cons_ne_nil _ _,
          after?_separator.1 hsep, by simp only [split?, hsep]⟩

/-- The search finds the shortest split with something on either side. -/
theorem split?_eq_some_iff {seen line : Line} {h : GitHeader} :
    split? seen line = some h ↔
      ∃ mid, h.oldPath = seen.reverse ++ mid ∧ h.oldPath ≠ [] ∧ h.newPath ≠ [] ∧
        line = mid ++ (" b/".toList ++ h.newPath) ∧
        ∀ mid' path, seen.reverse ++ mid' ≠ [] → path ≠ [] →
          line = mid' ++ (" b/".toList ++ path) → mid.length ≤ mid'.length := by
  induction line generalizing seen with
  | nil =>
    constructor
    · intro hs
      cases hs
    · rintro ⟨mid, -, -, -, he, -⟩
      simp at he
  | cons c rest ih =>
    rcases split?_cons seen c rest with ⟨path, hseen, hpath, he, hs⟩ | ⟨hno, hs⟩
    · rw [hs]
      constructor
      · intro hh
        cases hh
        refine ⟨[], by simp, by simpa using hseen, hpath, he, fun _ _ _ _ _ => Nat.zero_le _⟩
      · rintro ⟨mid, hold, -, -, hline, hmin⟩
        have hmid : mid = [] := by
          have := hmin [] path (by simpa using hseen) hpath he
          exact List.eq_nil_of_length_eq_zero (Nat.le_zero.1 this)
        subst hmid
        have hnew : h.newPath = path := by
          rw [he] at hline
          simpa using hline.symm
        cases h
        simp_all
    · rw [hs, ih]
      constructor
      · rintro ⟨mid, hold, hne, hnew, hrest, hmin⟩
        refine ⟨c :: mid, by simp [hold], hne, hnew, by rw [hrest]; rfl, ?_⟩
        intro mid' path hmid' hpath he
        cases mid' with
        | nil => exact absurd he (hno path (by simpa using hmid') hpath)
        | cons c' mid' =>
          obtain ⟨rfl, hrest'⟩ := List.cons.inj he
          have := hmin mid' path (by simp) hpath hrest'
          simpa using this
      · rintro ⟨mid, hold, hne, hnew, he, hmin⟩
        cases mid with
        | nil =>
          have hseen : seen ≠ [] := by simpa [hold] using hne
          exact absurd he (hno h.newPath hseen hnew)
        | cons c' mid =>
          obtain ⟨rfl, hrest⟩ := List.cons.inj he
          refine ⟨mid, by simp [hold], hne, hnew, hrest, fun mid' path _ hpath he' => ?_⟩
          have := hmin (c :: mid') path (by simp) hpath (by rw [he']; rfl)
          simpa using this

/-- A file header is read from exactly the lines that write it, provided that no shorter old path
would do. -/
theorem read?_eq_some_iff {line : Line} {h : GitHeader} :
    read? line = some h ↔
      h.oldPath ≠ [] ∧ h.newPath ≠ [] ∧ line = h.text ∧
        ∀ h' : GitHeader, h'.oldPath ≠ [] → h'.newPath ≠ [] → line = h'.text →
          h.oldPath.length ≤ h'.oldPath.length := by
  rw [read?, Option.bind_eq_some_iff]
  constructor
  · rintro ⟨rest, hrest, hs⟩
    rw [Text.after?_eq_some_iff] at hrest
    obtain ⟨mid, hold, hne, hnew, he, hmin⟩ := split?_eq_some_iff.1 hs
    have hmid : h.oldPath = mid := by simpa using hold
    subst hmid
    have hline : line = h.text := by
      rw [hrest, he]
      rfl
    refine ⟨hne, hnew, hline, fun h' hne' hnew' he' => ?_⟩
    have hcancel : rest = h'.oldPath ++ (" b/".toList ++ h'.newPath) :=
      List.append_cancel_left (hrest.symm.trans he')
    exact hmin h'.oldPath h'.newPath hne' hnew' hcancel
  · rintro ⟨hne, hnew, he, hmin⟩
    have hafter : Text.after? line "diff --git a/" =
        some (h.oldPath ++ (" b/".toList ++ h.newPath)) := Text.after?_eq_some_iff.2 he
    refine ⟨_, hafter, split?_eq_some_iff.2 ?_⟩
    refine ⟨h.oldPath, rfl, hne, hnew, rfl, fun mid' path hmid' hpath he' => ?_⟩
    refine hmin ⟨mid', path⟩ hmid' hpath ?_
    rw [he]
    exact congrArg ("diff --git a/".toList ++ ·) he'

/-- A split with something on either side is enough for the search to find one. -/
theorem isSome_split? {seen line mid path : Line} (hne : seen.reverse ++ mid ≠ [])
    (hpath : path ≠ []) (he : line = mid ++ (" b/".toList ++ path)) :
    (split? seen line).isSome = true := by
  induction line generalizing seen mid with
  | nil => simp at he
  | cons c rest ih =>
    rcases split?_cons seen c rest with ⟨path', -, -, -, hs⟩ | ⟨hno, hs⟩
    · rw [hs]
      rfl
    · rw [hs]
      cases mid with
      | nil => exact absurd he (hno path (by simpa using hne) hpath)
      | cons c' mid =>
        obtain ⟨rfl, hrest⟩ := List.cons.inj he
        exact ih (by simp) hrest

end GitHeader

/-- Whether a line is a file header: it names two paths that are not empty. -/
def IsFileHeader (line : Line) : Prop :=
  ∃ h : GitHeader, h.oldPath ≠ [] ∧ h.newPath ≠ [] ∧ line = h.text

/-- A file header is read from every line that is one, and from no other. -/
theorem isSome_read?_iff_isFileHeader {line : Line} :
    (GitHeader.read? line).isSome = true ↔ IsFileHeader line := by
  constructor
  · intro hs
    obtain ⟨h, hh⟩ := Option.isSome_iff_exists.1 hs
    obtain ⟨hne, hnew, he, -⟩ := GitHeader.read?_eq_some_iff.1 hh
    exact ⟨h, hne, hnew, he⟩
  · rintro ⟨h, hne, hnew, he⟩
    have hafter : Text.after? line "diff --git a/" =
        some (h.oldPath ++ (" b/".toList ++ h.newPath)) := Text.after?_eq_some_iff.2 he
    rw [GitHeader.read?, hafter]
    exact @GitHeader.isSome_split? [] _ _ _ hne hnew rfl

instance (line : Line) : Decidable (IsFileHeader line) :=
  decidable_of_iff _ isSome_read?_iff_isFileHeader

/-- A file header is read. -/
theorem IsFileHeader.exists_read? {line : Line} (h : IsFileHeader line) :
    ∃ header, GitHeader.read? line = some header :=
  Option.isSome_iff_exists.1 (isSome_read?_iff_isFileHeader.2 h)

/-- No file header is read from a line that is none. -/
theorem GitHeader.read?_eq_none {line : Line} (h : ¬IsFileHeader line) : read? line = none := by
  rw [← Option.not_isSome_iff_eq_none]
  exact mt isSome_read?_iff_isFileHeader.1 h

/-- The paths that a file header was written with are read back when the old one does not contain
the separator: a shorter old path would be followed by a separator, which cannot reach into the true
one. -/
theorem GitHeader.read?_text {h : GitHeader} (hold : h.oldPath ≠ []) (hnew : h.newPath ≠ [])
    (hsep : ¬" b/".toList <:+: h.oldPath) : read? h.text = some h := by
  refine read?_eq_some_iff.2 ⟨hold, hnew, rfl, fun h' _ _ he => ?_⟩
  have hcancel : h.oldPath ++ (" b/".toList ++ h.newPath) =
      h'.oldPath ++ (" b/".toList ++ h'.newPath) := List.append_cancel_left he
  rcases List.append_eq_append_iff.1 hcancel with ⟨u, hu, -⟩ | ⟨u, hu, hrest⟩
  · rw [hu, List.length_append]
    exact Nat.le_add_right _ _
  · rcases u with _ | ⟨a, _ | ⟨b, _ | ⟨c, u⟩⟩⟩
    · exact Nat.le_of_eq (by rw [hu, List.append_nil])
    · simp at hrest
    · simp at hrest
    · obtain ⟨rfl, rfl, rfl, -⟩ : ' ' = a ∧ 'b' = b ∧ '/' = c ∧ _ := by simpa using hrest
      exact absurd ⟨h'.oldPath, u, by rw [hu]; simp⟩ hsep

namespace HunkHeader

/-- The numerals of one side as they are written: the second one stands behind a comma. -/
def rangeText (start : Line) : Option Line → Line
  | some count => start ++ ',' :: count
  | none => start

/-- The line that writes a hunk header. -/
def text (h : HunkHeader) : Line :=
  "@@ -".toList ++ (rangeText h.oldStart h.oldCount ++
    (" +".toList ++ (rangeText h.newStart h.newCount ++ (" @@".toList ++ h.rest))))

/-- The numerals of a header from left to right. -/
def numerals (h : HunkHeader) : List Line :=
  h.oldStart :: h.oldCount.toList ++ h.newStart :: h.newCount.toList

/-- Whether a text is a numeral: digits, of which there is at least one. -/
def IsNumeral (ds : Line) : Prop := ds ≠ [] ∧ ∀ c ∈ ds, Text.isDigit c = true

/-- Whether all numerals of a header are numerals. -/
def WellFormed (h : HunkHeader) : Prop := ∀ ds ∈ h.numerals, IsNumeral ds

/-- A numeral reaches up to the first character that is no digit. -/
theorem numeral?_append {ds rest : Line} (hds : IsNumeral ds)
    (hrest : rest.head?.any Text.isDigit = false) : numeral? (ds ++ rest) = some (ds, rest) := by
  obtain ⟨hne, hdigits⟩ := hds
  have htake : rest.takeWhile Text.isDigit = [] := by
    cases rest with
    | nil => rfl
    | cons c rest => exact List.takeWhile_cons_of_neg (by simpa using hrest)
  have hdrop : rest.dropWhile Text.isDigit = rest := by
    cases rest with
    | nil => rfl
    | cons c rest => exact List.dropWhile_cons_of_neg (by simpa using hrest)
  obtain ⟨d, ds, rfl⟩ := List.exists_cons_of_ne_nil hne
  rw [numeral?, List.takeWhile_append_of_pos hdigits, List.dropWhile_append_of_pos hdigits, htake,
    hdrop, List.append_nil]

/-- What is read as a numeral is one, and stands at the start of the line. -/
theorem numeral?_sound {line ds rest : Line} (h : numeral? line = some (ds, rest)) :
    IsNumeral ds ∧ line = ds ++ rest := by
  unfold numeral? at h
  split at h
  · cases h
  · next d ds' htake =>
    obtain ⟨rfl, rfl⟩ := Prod.mk.inj (Option.some.inj h)
    rw [← htake]
    exact ⟨⟨by rw [htake]; exact List.cons_ne_nil _ _, fun c hc => List.mem_takeWhile_imp hc⟩,
      List.takeWhile_append_dropWhile.symm⟩

/-- A range that is written before a blank is read back. -/
theorem range?_append {start : Line} {count : Option Line} {rest : Line} (hs : IsNumeral start)
    (hc : ∀ ds ∈ count, IsNumeral ds) :
    range? (rangeText start count ++ ' ' :: rest) = some (start, count, ' ' :: rest) := by
  have hblank : (' ' :: rest).head?.any Text.isDigit = false := rfl
  cases count with
  | none =>
    rw [range?, rangeText, numeral?_append hs hblank]
    rfl
  | some ds =>
    have hcomma : (',' :: (ds ++ ' ' :: rest)).head?.any Text.isDigit = false := rfl
    have happ : rangeText start (some ds) ++ ' ' :: rest = start ++ ',' :: (ds ++ ' ' :: rest) := by
      simp [rangeText]
    rw [range?, happ, numeral?_append hs hcomma]
    have hds := numeral?_append (hc ds rfl) hblank
    simp [hds]

/-- What is read as a range is the text of one, and stands at the start of the line. -/
theorem range?_sound {line start : Line} {count : Option Line} {rest : Line}
    (h : range? line = some (start, count, rest)) :
    IsNumeral start ∧ (∀ ds ∈ count, IsNumeral ds) ∧ line = rangeText start count ++ rest := by
  rw [range?, Option.bind_eq_bind, Option.bind_eq_some_iff] at h
  obtain ⟨⟨ds, behind⟩, hds, h⟩ := h
  obtain ⟨hnum, rfl⟩ := numeral?_sound hds
  dsimp only at h
  split at h
  · next behind =>
    rw [Option.bind_eq_some_iff] at h
    obtain ⟨⟨cs, behind'⟩, hcs, h⟩ := h
    obtain ⟨hnum', rfl⟩ := numeral?_sound hcs
    obtain ⟨rfl, rfl, rfl⟩ : ds = start ∧ some cs = count ∧ behind' = rest := by simpa using h
    refine ⟨hnum, fun ds' h' => ?_, by simp [rangeText]⟩
    cases h'
    exact hnum'
  · obtain ⟨rfl, rfl, rfl⟩ : ds = start ∧ none = count ∧ behind = rest := by simpa using h
    exact ⟨hnum, nofun, rfl⟩

/-- The numerals of a header are those of its two sides. -/
theorem wellFormed_iff {h : HunkHeader} :
    h.WellFormed ↔ (IsNumeral h.oldStart ∧ ∀ ds ∈ h.oldCount, IsNumeral ds) ∧
      (IsNumeral h.newStart ∧ ∀ ds ∈ h.newCount, IsNumeral ds) := by
  simp [WellFormed, numerals, or_imp, forall_and, and_assoc]

/-- A hunk header is read from exactly the lines that write it. -/
theorem read?_eq_some_iff {line : Line} {h : HunkHeader} :
    read? line = some h ↔ h.WellFormed ∧ line = h.text := by
  rw [wellFormed_iff]
  constructor
  · intro hr
    simp only [read?, Option.bind_eq_bind, Option.bind_eq_some_iff, Prod.exists,
      Text.after?_eq_some_iff] at hr
    obtain ⟨l₁, rfl, os, oc, l₂, hold, l₃, rfl, ns, nc, l₄, hnew, rest, rfl, he⟩ := hr
    obtain ⟨hos, hoc, rfl⟩ := range?_sound hold
    obtain ⟨hns, hnc, rfl⟩ := range?_sound hnew
    cases he
    exact ⟨⟨⟨hos, hoc⟩, hns, hnc⟩, rfl⟩
  · rintro ⟨⟨⟨hos, hoc⟩, hns, hnc⟩, rfl⟩
    have hnew : range? (rangeText h.newStart h.newCount ++ (" @@".toList ++ h.rest)) =
        some (h.newStart, h.newCount, " @@".toList ++ h.rest) := range?_append hns hnc
    have hold : range? (rangeText h.oldStart h.oldCount ++ (" +".toList ++
        (rangeText h.newStart h.newCount ++ (" @@".toList ++ h.rest)))) =
        some (h.oldStart, h.oldCount, " +".toList ++
          (rangeText h.newStart h.newCount ++ (" @@".toList ++ h.rest))) := range?_append hos hoc
    have hafter (start : String) (rest : Line) :
        Text.after? (start.toList ++ rest) start = some rest := Text.after?_eq_some_iff.2 rfl
    simp only [read?, text, hafter, hold, hnew, Option.bind_eq_bind, Option.bind_some]

end HunkHeader

/-- Whether a line is a hunk header. -/
def IsHunkHeader (line : Line) : Prop := ∃ h : HunkHeader, h.WellFormed ∧ line = h.text

/-- A hunk header is read from every line that is one, and from no other. -/
theorem isSome_read?_iff_isHunkHeader {line : Line} :
    (HunkHeader.read? line).isSome = true ↔ IsHunkHeader line := by
  rw [Option.isSome_iff_exists]
  exact exists_congr fun h => HunkHeader.read?_eq_some_iff

instance (line : Line) : Decidable (IsHunkHeader line) :=
  decidable_of_iff _ isSome_read?_iff_isHunkHeader

/-- A hunk header is read. -/
theorem IsHunkHeader.exists_read? {line : Line} (h : IsHunkHeader line) :
    ∃ header, HunkHeader.read? line = some header :=
  Option.isSome_iff_exists.1 (isSome_read?_iff_isHunkHeader.2 h)

/-- A line that a hunk header is read from is one. -/
theorem isHunkHeader_of_read? {line : Line} {h : HunkHeader} (hr : HunkHeader.read? line = some h) :
    IsHunkHeader line :=
  isSome_read?_iff_isHunkHeader.1 (by rw [hr]; rfl)

/-- No hunk header is read from a line that is none. -/
theorem HunkHeader.read?_eq_none {line : Line} (h : ¬IsHunkHeader line) : read? line = none := by
  rw [← Option.not_isSome_iff_eq_none]
  exact mt isSome_read?_iff_isHunkHeader.1 h

namespace HunkHeader

/-- The hunk that a header opens, with the values of its numerals however long they are. -/
def hunk (h : HunkHeader) : Hunk where
  oldStart := Text.numeralValue h.oldStart
  oldCount := (h.oldCount.map Text.numeralValue).getD 1
  newStart := Text.numeralValue h.newStart
  newCount := (h.newCount.map Text.numeralValue).getD 1
  header := String.ofList (Text.trim h.rest)

/-- Whether a numeral is longer than a hunk header may hold. -/
def tooLong (ds : Line) : Bool := maxNumeralDigits < ds.length

/-- The value of a numeral, if it is not too long. -/
theorem value_eq (ds : Line) : value ds = match [ds].find? tooLong with
    | some ds => .error ⟨ds.length⟩
    | none => .ok (Text.numeralValue ds) := by
  rw [value, List.find?_singleton]
  by_cases h : maxNumeralDigits < ds.length
  · simp [tooLong, h]
  · simp [tooLong, h]

/-- The value of a count, if it is given and not too long. -/
theorem countValue_eq (count : Option Line) :
    countValue count = match count.toList.find? tooLong with
    | some ds => .error ⟨ds.length⟩
    | none => .ok ((count.map Text.numeralValue).getD 1) := by
  cases count with
  | none => rfl
  | some ds => exact value_eq ds

/-- A header gives its hunk, unless a numeral is too long; the first such numeral is reported. -/
theorem toHunk_eq (h : HunkHeader) :
    h.toHunk = match h.numerals.find? tooLong with
      | some ds => .error ⟨ds.length⟩
      | none => .ok h.hunk := by
  have hsides : h.numerals = [h.oldStart] ++ (h.oldCount.toList ++
      ([h.newStart] ++ h.newCount.toList)) := by simp [numerals]
  rw [hsides, List.find?_append, List.find?_append, List.find?_append, toHunk, value_eq,
    countValue_eq, value_eq, countValue_eq]
  cases [h.oldStart].find? tooLong with
  | some ds => rfl
  | none =>
    cases h.oldCount.toList.find? tooLong with
    | some ds => rfl
    | none =>
      cases [h.newStart].find? tooLong with
      | some ds => rfl
      | none =>
        cases h.newCount.toList.find? tooLong with
        | some ds => rfl
        | none => rfl

/-- Whether no numeral of a header is too long. -/
def Readable (h : HunkHeader) : Prop := ∀ ds ∈ h.numerals, ds.length ≤ maxNumeralDigits

/-- A header is readable just if none of its numerals is too long. -/
theorem readable_iff {h : HunkHeader} : h.Readable ↔ h.numerals.find? tooLong = none := by
  simp [Readable, tooLong, List.find?_eq_none]

/-- A header whose numerals have a readable length gives its hunk. -/
theorem toHunk_of_readable {h : HunkHeader} (hr : h.Readable) : h.toHunk = .ok h.hunk := by
  rw [toHunk_eq, readable_iff.1 hr]

/-- A header with a numeral that is too long gives no hunk. -/
theorem toHunk_of_not_readable {h : HunkHeader} (hr : ¬h.Readable) : ∃ e, h.toHunk = .error e := by
  cases hf : h.numerals.find? tooLong with
  | none => exact absurd (readable_iff.2 hf) hr
  | some ds => exact ⟨⟨ds.length⟩, by rw [toHunk_eq, hf]⟩

end HunkHeader

end PatchTriage
