import PatchTriage.Proofs.Patch.Pass
import Mathlib.Data.List.Induction
import Mathlib.Data.Nat.Digits.Defs

/-!
# What header lines say

At every point of a pass a line is taken by what the two header grammars make of it
(`Parsing.ReadsHeaders`). A line that names two paths opens a file, under the paths of its shortest
split. With an open file, a line that is a hunk header splits into its parts in one way only, and
they give the hunk: its numbers are the positional values of the numerals, a count that is left out
being one, and its text is stripped of white space. Only a numeral that is too long keeps it from
being opened. `Parsing.readsHeaders` says so of every line.
-/

namespace PatchTriage

/-! ## Numerals and stripped texts -/

/-- A range that a search returns is one of the set. -/
theorem CodeSet.mem_of_find?_go {s : CodeSet} {n : Nat} :
    ∀ {steps lo hi : Nat} {r : Nat × Nat}, find?.go s n steps lo hi = some r → r ∈ s.ranges
  | 0, _, _, _, h => by cases h
  | steps + 1, lo, hi, r, h => by
    simp only [find?.go] at h
    split at h
    · split at h
      · cases h
      · next first last hmid =>
        split at h
        · exact mem_of_find?_go h
        · split at h
          · exact mem_of_find?_go h
          · cases h
            exact Array.mem_of_getElem? hmid
    · cases h

namespace Text

/-- The value of a digit of any script is less than ten. -/
theorem digitValue?_lt {c : Char} {d : Nat} (h : digitValue? c = some d) : d < 10 := by
  have hruns : ∀ run ∈ digitRuns.ranges, run.2 = run.1 + 9 := by decide
  simp only [digitValue?] at h
  split at h
  · split at h
    · obtain rfl := Option.some.inj h
      omega
    · cases h
  · obtain ⟨run, hrun, rfl⟩ := Option.map_eq_some_iff.1 h
    have hwidth := hruns run (CodeSet.mem_of_find?_go hrun)
    have hbounds := CodeSet.find?_bounds hrun
    omega

/-- Whether a numeral writes a number: its characters are digits, and the number is their
positional value. -/
def Writes (ds : List Char) (n : Int) : Prop :=
  ∃ values : List Nat, ds.map digitValue? = values.map some ∧ (∀ v ∈ values, v < 10) ∧
    n = (Nat.ofDigits 10 values.reverse : Nat)

/-- A numeral writes its value. -/
theorem writes_numeralValue {ds : List Char} (h : ∀ c ∈ ds, isDigit c = true) :
    Writes ds (numeralValue ds) := by
  induction ds using List.reverseRecOn with
  | nil => exact ⟨[], rfl, nofun, rfl⟩
  | append_singleton ds c ih =>
    obtain ⟨values, hvalues, hlt, hn⟩ := ih fun d hd => h d (List.mem_append_left [c] hd)
    obtain ⟨d, hd⟩ := Option.isSome_iff_exists.1 (h c (List.mem_append_right ds List.mem_cons_self))
    refine ⟨values ++ [d], by simp [hvalues, hd], ?_, ?_⟩
    · rintro v hv
      rcases List.mem_append.1 hv with hv | hv
      · exact hlt v hv
      · rw [List.mem_singleton.1 hv]
        exact digitValue?_lt hd
    · rw [numeralValue_append_singleton, hd, List.reverse_append, List.reverse_singleton,
        List.singleton_append, Nat.ofDigits_cons, ← Int.ofNat_inj.1 hn, Nat.add_comm]
      rfl

/-- Whether `t` is what is left of a text without the white space around it. -/
structure Stripped (l t : List Char) : Prop where
  around : ∃ front back, l = front ++ t ++ back ∧ ∀ c ∈ front ++ back, isBlank c = true
  head : ∀ c, t.head? = some c → isBlank c = false
  last : ∀ c, t.getLast? = some c → isBlank c = false

/-- A trimmed text is stripped of what stood around it. -/
theorem stripped_trim (l : List Char) : Stripped l (trim l) := by
  refine ⟨⟨l.takeWhile isBlank, ((l.dropWhile isBlank).reverse.takeWhile isBlank).reverse, ?_, ?_⟩,
    fun _ => head?_trimBy, fun _ => getLast?_trimBy⟩
  · rw [List.append_assoc, trim, trimBy, ← List.reverse_append, List.takeWhile_append_dropWhile,
      List.reverse_reverse, List.takeWhile_append_dropWhile]
  · intro c hc
    rcases List.mem_append.1 hc with hc | hc
    · exact List.mem_takeWhile_imp hc
    · exact List.mem_takeWhile_imp (List.mem_reverse.1 hc)

end Text

/-! ## The parts of a header -/

/-- Whether these are the paths that a file header names: of all ways to split it, those of the one
with the shortest old path. -/
structure GitHeader.Names (h : GitHeader) (line : Line) : Prop where
  oldPath : h.oldPath ≠ []
  newPath : h.newPath ≠ []
  split : line = h.text
  shortest : ∀ h' : GitHeader, h'.oldPath ≠ [] → h'.newPath ≠ [] → line = h'.text →
    h.oldPath.length ≤ h'.oldPath.length

/-- A file header is read just as the line names its paths. -/
theorem GitHeader.names_iff {h : GitHeader} {line : Line} : h.Names line ↔ read? line = some h :=
  ⟨fun ⟨hold, hnew, hline, hmin⟩ => read?_eq_some_iff.2 ⟨hold, hnew, hline, hmin⟩, fun hr =>
    have ⟨hold, hnew, hline, hmin⟩ := read?_eq_some_iff.1 hr
    ⟨hold, hnew, hline, hmin⟩⟩

namespace HunkHeader

/-- Whether these are the parts of a hunk header. -/
def Splits (h : HunkHeader) (line : Line) : Prop := h.WellFormed ∧ line = h.text

/-- A hunk header is read just as the line is split. -/
theorem splits_iff {h : HunkHeader} {line : Line} : h.Splits line ↔ read? line = some h :=
  read?_eq_some_iff.symm

/-- Whether a hunk is what the parts of a header say. -/
structure Gives (h : HunkHeader) (hunk : Hunk) : Prop where
  oldStart : Text.Writes h.oldStart hunk.oldStart
  oldCount : (∀ ds, h.oldCount = some ds → Text.Writes ds hunk.oldCount) ∧
    (h.oldCount = none → hunk.oldCount = 1)
  newStart : Text.Writes h.newStart hunk.newStart
  newCount : (∀ ds, h.newCount = some ds → Text.Writes ds hunk.newCount) ∧
    (h.newCount = none → hunk.newCount = 1)
  header : Text.Stripped h.rest hunk.header.toList
  lines : hunk.lines = []

/-- The value of a count is that of its numeral, if there is one, and one if not. -/
theorem writes_count {count : Option Line} (h : ∀ ds ∈ count, IsNumeral ds) :
    (∀ ds, count = some ds → Text.Writes ds ((count.map Text.numeralValue).getD 1 : Nat)) ∧
      (count = none → ((count.map Text.numeralValue).getD 1 : Nat) = (1 : Int)) := by
  constructor
  · rintro ds rfl
    exact Text.writes_numeralValue (h ds rfl).2
  · rintro rfl
    rfl

/-- A well-formed header gives the numbers of its hunk. -/
theorem gives_hunk {h : HunkHeader} (hwf : h.WellFormed) : h.Gives h.hunk := by
  obtain ⟨⟨hos, hoc⟩, hns, hnc⟩ := wellFormed_iff.1 hwf
  refine ⟨Text.writes_numeralValue hos.2, writes_count hoc, Text.writes_numeralValue hns.2,
    writes_count hnc, ?_, rfl⟩
  rw [hunk, String.toList_ofList]
  exact Text.stripped_trim h.rest

end HunkHeader

/-! ## Points of a pass -/

namespace Parsing

/-- What the header grammars make of a line at a point of a pass. -/
structure ReadsHeaders (p : Parsing) (before : Option Line) (line : Line) (after : List Line) :
    Prop where
  /-- A line with two paths opens a file, whatever is open. -/
  file : IsFileHeader line → ∃ h : GitHeader, h.Names line ∧ (∀ h', h'.Names line → h' = h) ∧
    p.step before line after =
      .ok { finished := p.files, current := some (.ofGitHeader h (.near before after)) }
  /-- Any other line leaves an open file open. -/
  sameFile : ¬IsFileHeader line → ∀ d, p.current = some d → ∀ q, p.step before line after = .ok q →
    ∃ d', q = { finished := p.finished, current := some d' } ∧ d.SameSides d'
  /-- Without an open file, any other line may open one that it names the only side of. -/
  noFile : ¬IsFileHeader line → p.current = none →
    p.step before line after = .ok { p with current := Draft.ofSideName? line after }
  /-- A hunk header opens a hunk in an open file, unless a numeral is too long; the first such one
  is reported. -/
  hunk : IsHunkHeader line → ∀ d, p.current = some d → ∃ (h : HunkHeader) (hunk : Hunk),
    h.Splits line ∧ (∀ h' : HunkHeader, h'.Splits line → h' = h) ∧ h.Gives hunk ∧
      p.step before line after =
        match h.numerals.find? fun ds => maxNumeralDigits < ds.length with
        | some ds => .error ⟨ds.length⟩
        | none => .ok { p with current := some { d with hunks := hunk :: d.hunks } }
  /-- Any other line opens none. -/
  sameHunks : ¬IsFileHeader line → ¬IsHunkHeader line → ∀ d, p.current = some d →
    ∃ d', p.step before line after = .ok { p with current := some d' } ∧
      d'.hunks.length = d.hunks.length

end Parsing

/-- A line for the body of a hunk opens no hunk. -/
theorem Draft.length_hunks_addBody (d : Draft) (line : Line) :
    (d.addBody line).hunks.length = d.hunks.length := by
  cases hd : d.hunks with
  | nil => simp [hd]
  | cons hunk older =>
    by_cases hb : IsBodyLine line
    · simp [addBody_of_body hd hb]
    · simp [hb, hd]

/-- **The header grammars are accepted exactly and read in one way**, at every point of a pass. -/
theorem Parsing.readsHeaders (p : Parsing) (before : Option Line) (line : Line)
    (after : List Line) : p.ReadsHeaders before line after where
  file hf := by
    obtain ⟨h, hr⟩ := hf.exists_read?
    refine ⟨h, GitHeader.names_iff.2 hr, fun h' hn => ?_, by rw [step, hr]⟩
    exact Option.some.inj ((GitHeader.names_iff.1 hn).symm.trans hr)
  sameFile hf d hd q hq := by
    obtain ⟨finished, current⟩ := p
    obtain rfl : current = some d := hd
    rw [step_open hf] at hq
    cases hadd : d.addLine line with
    | error e => rw [hadd] at hq; cases hq
    | ok d' =>
      rw [hadd] at hq
      exact ⟨d', (Except.ok.inj hq).symm, (Draft.addLine_keeps hadd).1⟩
  noFile hf hp := by
    obtain ⟨finished, current⟩ := p
    obtain rfl : current = none := hp
    exact step_none hf finished before after
  hunk hh d hd := by
    obtain ⟨h, hr⟩ := hh.exists_read?
    have hsplits := HunkHeader.splits_iff.2 hr
    refine ⟨h, h.hunk, hsplits, fun h' hs => ?_, HunkHeader.gives_hunk hsplits.1, ?_⟩
    · exact Option.some.inj ((HunkHeader.splits_iff.1 hs).symm.trans hr)
    · obtain ⟨finished, current⟩ := p
      obtain rfl : current = some d := hd
      rw [step_open hh.not_isFileHeader, Draft.addLine_of_header hr, HunkHeader.toHunk_eq]
      change _ = match h.numerals.find? HunkHeader.tooLong with
        | some ds => _
        | none => _
      cases h.numerals.find? HunkHeader.tooLong with
      | some ds => rfl
      | none => rfl
  sameHunks hf hh d hd := by
    obtain ⟨finished, current⟩ := p
    obtain rfl : current = some d := hd
    refine ⟨d.addBody line, ?_, d.length_hunks_addBody line⟩
    simp [hf, hh, Except.map]

end PatchTriage
