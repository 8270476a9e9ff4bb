import PatchTriage.Proofs.Patch.Failure
import PatchTriage.Proofs.Patch.RoundTrip
import PatchTriage.Proofs.Text.Split
import Mathlib.Data.List.DropRight

/-!
# Patches one after another

Two diffs that stand one after another are read as the files of the first and then those of the
second, provided that neither lends the other a mark of a status (`Separable`): the first does not
end in the mark of an added file, and no header in its last three lines is near the source of a
rename in the second. Then no step of the pass over the first diff sees the second one
(`Parsing.step_append`), so the pass over both is one pass behind the other (`Parsing.run_append`).
The second diff starts with a file header, so all that the first leaves to it is finished files, and
these do not bear on what follows (`Parsing.run_withOlder`).
-/

namespace PatchTriage

/-- Whether two diffs, given by their lines, keep their marks of a status apart. -/
structure Separable (ls ls' : List Line) : Prop where
  /-- The second diff starts with a file header. -/
  header : ∃ line, ls'.head? = some line ∧ IsFileHeader line
  /-- The first diff does not end in the mark of an added file. -/
  added : ls.getLast?.any marksNew = false
  /-- No header at the end of the first diff is near the source of a rename in the second. -/
  renamed :
    (∀ line ∈ ls.rtake 3, ¬IsFileHeader line) ∨ ((ls'.drop 1).take 3).any namesSource = false

/-! ## Marks of the neighbours -/

/-- A file header starts as no other mark does. -/
theorem IsFileHeader.startsWith_eq_false {line : Line} (h : IsFileHeader line) {start : String}
    (hstart : ¬start.toList <+: "diff --git a/".toList)
    (hheader : ¬"diff --git a/".toList <+: start.toList) : Text.startsWith line start = false := by
  obtain ⟨header, -, -, rfl⟩ := h
  refine Bool.eq_false_iff.2 fun hline => ?_
  have hprefix : start.toList <+: header.text := List.isPrefixOf_iff_prefix.1 hline
  rcases List.prefix_or_prefix_of_prefix hprefix (List.prefix_append _ _) with h | h
  · exact hstart h
  · exact hheader h

/-- What a file header says about the status of the file before it: nothing. -/
theorem FileStatus.near_append {before : Option Line} {ls ls' : List Line} {line : Line}
    (hline : ls'.head? = some line) (h : IsFileHeader line)
    (hsource : (ls'.take (renameLookahead - ls.length)).any namesSource = false) :
    near before (ls ++ ls') = near before ls := by
  have hrename : ((ls ++ ls').take renameLookahead).any namesSource =
      (ls.take renameLookahead).any namesSource := any_take_append hsource (by omega)
  have hdeleted : (ls ++ ls').head?.any marksDeleted = ls.head?.any marksDeleted := by
    cases ls with
    | nil =>
      rw [List.nil_append, hline]
      exact h.startsWith_eq_false (by decide) (by decide)
    | cons next ls => rfl
  rw [near_eq, near_eq, hrename, hdeleted]

/-- The line in front of a header counts only if it marks an added file. -/
theorem FileStatus.near_of_not_marksNew {before : Option Line} (h : before.any marksNew = false)
    (after : List Line) : near before after = near none after := by
  rw [near_eq, near_eq, h]
  rfl

/-- A file header does not say that the new side of a file is missing. -/
theorem Draft.ofSideName?_append {line : Line} {ls ls' : List Line} {next : Line}
    (hnext : ls'.head? = some next) (h : IsFileHeader next) :
    ofSideName? line (ls ++ ls') = ofSideName? line ls := by
  cases ls with
  | nil =>
    have hside : Text.startsWith next "+++ /dev/null" = false :=
      h.startsWith_eq_false (by decide) (by decide)
    rw [List.nil_append, ofSideName?, ofSideName?, hnext, Option.any_some, hside]
    rfl
  | cons first ls => rfl

namespace Separable

variable {ls ls' : List Line}

/-- What holds of the first diff holds of its rest. -/
theorem tail {line : Line} (h : Separable (line :: ls) ls') : Separable ls ls' := by
  refine ⟨h.header, ?_, ?_⟩
  · have hadded := h.added
    cases ls with
    | nil => rfl
    | cons next ls => rwa [List.getLast?_cons_cons] at hadded
  · refine h.renamed.imp_left fun hlast l hl => hlast l ?_
    rw [List.rtake_eq_reverse_take_reverse, List.mem_reverse] at hl ⊢
    rw [List.reverse_cons, List.take_append]
    exact List.mem_append_left _ hl

/-- Behind a header of the first diff, the second one names no source of a rename within reach. If
the header is out of reach of the end, only the first line of the second diff is looked at. -/
theorem any_namesSource {line : Line} (h : Separable (line :: ls) ls') (hline : IsFileHeader line) :
    (ls'.take (renameLookahead - ls.length)).any namesSource = false := by
  obtain ⟨next, hnext, hheader⟩ := h.header
  obtain ⟨rest, rfl⟩ := List.head?_eq_some_iff.1 hnext
  have hnot : namesSource next = false := hheader.startsWith_eq_false (by decide) (by decide)
  rw [renameLookahead]
  rcases h.renamed with hlast | hsource
  · have hlength : 3 ≤ ls.length := by
      by_contra hshort
      have hall : (line :: ls).rtake 3 = line :: ls := by
        rw [List.rtake, List.length_cons, Nat.sub_eq_zero_of_le (by omega), List.drop_zero]
      exact hlast line (by rw [hall]; exact List.mem_cons_self) hline
    have hfirst : ((next :: rest).take 1).any namesSource = false := by
      simp [hnot]
    rw [List.any_eq_false] at hfirst ⊢
    exact fun l hl => hfirst l (List.take_subset_take_left _ (by omega) hl)
  · have hfour : ((next :: rest).take 4).any namesSource = false := by
      rw [List.take_succ_cons, List.any_cons, hnot]
      exact hsource
    rw [List.any_eq_false] at hfour ⊢
    exact fun l hl => hfour l (List.take_subset_take_left _ (by omega) hl)

end Separable

namespace Parsing

/-- A step over a line of the first diff does not see the second one. -/
theorem step_append {line : Line} {ls ls' : List Line} (h : Separable (line :: ls) ls')
    (p : Parsing) (before : Option Line) :
    p.step before line (ls ++ ls') = p.step before line ls := by
  obtain ⟨next, hnext, hheader⟩ := h.header
  rw [step, step, Draft.ofSideName?_append hnext hheader]
  cases hr : GitHeader.read? line with
  | none => rfl
  | some header =>
    have hline : IsFileHeader line := isSome_read?_iff_isFileHeader.1 (by rw [hr]; rfl)
    dsimp only
    rw [FileStatus.near_append hnext hheader (h.any_namesSource hline)]

/-- **One pass behind the other.** The pass over two diffs is the pass over the first, and then the
pass over the second from where the first left off. -/
theorem run_append {ls ls' : List Line} (h : Separable ls ls') (p : Parsing)
    (before : Option Line) :
    p.run before (ls ++ ls') =
      match p.run before ls with
      | .ok p' => p'.run (lastOf before ls) ls'
      | .error e => .error e := by
  induction ls generalizing p before with
  | nil => rfl
  | cons line ls ih =>
    rw [List.cons_append, run, run, step_append h, lastOf_cons]
    cases p.step before line ls with
    | error e => rfl
    | ok p' => exact ih h.tail p' (some line)

/-! ## Finished files -/

/-- The state with further files that were finished before all others. -/
def withOlder (p : Parsing) (older : List FileChange) : Parsing :=
  { p with finished := p.finished ++ older }

/-- Older files stand behind those of a pass. -/
@[simp]
theorem files_withOlder (p : Parsing) (older : List FileChange) :
    (p.withOlder older).files = p.files ++ older := by
  obtain ⟨finished, current⟩ := p
  cases current with
  | none => rfl
  | some d => rfl

/-- A step takes no notice of older files. -/
@[simp]
theorem step_withOlder (p : Parsing) (older : List FileChange) (before : Option Line) (line : Line)
    (after : List Line) :
    (p.withOlder older).step before line after =
      (p.step before line after).map fun p' => p'.withOlder older := by
  rw [step, step, files_withOlder]
  cases GitHeader.read? line with
  | some h => rfl
  | none =>
    obtain ⟨finished, current⟩ := p
    cases current with
    | none => rfl
    | some d =>
      dsimp only [withOlder]
      cases d.addLine line with
      | ok d => rfl
      | error e => rfl

/-- Finished files do not bear on the pass. -/
@[simp]
theorem run_withOlder (p : Parsing) (older : List FileChange) (before : Option Line)
    (ls : List Line) :
    (p.withOlder older).run before ls = (p.run before ls).map fun p' => p'.withOlder older := by
  induction ls generalizing p before with
  | nil => rfl
  | cons line ls ih =>
    rw [run, run, step_withOlder]
    cases p.step before line ls with
    | error e => rfl
    | ok p' => exact ih p' (some line)

/-- The pass over a diff that starts with a file header is the same behind another diff, whose files
are finished by then. -/
theorem run_behind {ls : List Line} {line : Line} (hline : ls.head? = some line)
    (h : IsFileHeader line) {before : Option Line} (hbefore : before.any marksNew = false)
    (p : Parsing) :
    p.run before ls = (run {} none ls).map fun p' => p'.withOlder p.files := by
  obtain ⟨rest, rfl⟩ := List.head?_eq_some_iff.1 hline
  obtain ⟨header, hr⟩ := h.exists_read?
  rw [run_header hr, run_header hr, FileStatus.near_of_not_marksNew hbefore]
  exact run_withOlder { current := some (.ofGitHeader header (.near none rest)) } p.files
    (some line) rest

end Parsing

namespace Patch

/-- The patch of a text of whole lines is that of its lines. -/
theorem parse_of_isWhole {text : String} (h : Text.IsWhole text.toList) :
    parse text = (({} : Parsing).run none (Text.endedLines text.toList)).map fun p =>
      { files := p.files.reverse } := by
  rw [parse, Text.lines_of_isWhole h, Parsing.run_concat_nil]
  cases ({} : Parsing).run none (Text.endedLines text.toList) with
  | ok p => rfl
  | error e => rfl

/-- A diff without openers has no files. -/
theorem parse_of_openers_eq_nil {text : String} (h : openers (Text.lines text.toList) = []) :
    parse text = .ok {} := by
  have hread : ¬Unreadable (Text.lines text.toList) := by
    rintro ⟨o, ho, -⟩
    rw [h] at ho
    cases ho
  obtain ⟨p, hp⟩ := exists_parse_ok_iff.2 hread
  have hfiles : p.files = [] := by
    rw [files_of_parse hp, h]
    rfl
  rw [hp, ← hfiles]

/-- **Two diffs one after another.** They are read as the files of the first and then those of the
second; the first numeral that is too long stops the pass in either. A first diff that opens no file
has no effect. -/
theorem parse_append {t₁ t₂ : String} (hwhole : Text.IsWhole t₁.toList)
    (hseparable : Separable (Text.endedLines t₁.toList) (Text.lines t₂.toList)) :
    (parse (t₁ ++ t₂) =
      match parse t₁, parse t₂ with
      | .ok p₁, .ok p₂ => .ok { files := p₁.files ++ p₂.files }
      | .ok _, .error e => .error e
      | .error e, _ => .error e) ∧
    (openers (Text.lines t₁.toList) = [] → parse (t₁ ++ t₂) = parse t₂) := by
  have happend : parse (t₁ ++ t₂) =
      match parse t₁, parse t₂ with
      | .ok p₁, .ok p₂ => .ok { files := p₁.files ++ p₂.files }
      | .ok _, .error e => .error e
      | .error e, _ => .error e := by
    rw [parse_of_isWhole hwhole, parse, String.toList_append, Text.lines_append hwhole,
      Parsing.run_append hseparable]
    cases ({} : Parsing).run none (Text.endedLines t₁.toList) with
    | error e => rfl
    | ok p =>
      obtain ⟨line, hline, hheader⟩ := hseparable.header
      have hbefore : (Parsing.lastOf none (Text.endedLines t₁.toList)).any marksNew = false := by
        rw [Parsing.lastOf, Option.or_none]
        exact hseparable.added
      dsimp only
      rw [Parsing.run_behind hline hheader hbefore, parse]
      cases ({} : Parsing).run none (Text.lines t₂.toList) with
      | error e => rfl
      | ok q =>
        dsimp only [Except.map]
        rw [Parsing.files_withOlder, List.reverse_append]
  refine ⟨happend, fun hnone => ?_⟩
  rw [happend, parse_of_openers_eq_nil hnone]
  cases parse t₂ with
  | ok p => rfl
  | error e => rfl

/-- A rename behind a diff whose only header is just far enough from its end. -/
theorem parse_append_rename :
    Text.IsWhole "diff --git a/p b/p\n@@ -1 +1 @@\n-x\n+y\n".toList ∧
    Separable (Text.endedLines "diff --git a/p b/p\n@@ -1 +1 @@\n-x\n+y\n".toList)
      (Text.lines "diff --git a/q b/r\nrename from q\nrename to r".toList) ∧
    parse ("diff --git a/p b/p\n@@ -1 +1 @@\n-x\n+y\n" ++
        "diff --git a/q b/r\nrename from q\nrename to r") =
      .ok { files := [
        { oldPath := "p", newPath := "p", additions := some 1, deletions := some 1,
          hunks := some [⟨1, 1, 1, 1, ["-x", "+y"], ""⟩] },
        { oldPath := "q", newPath := "r", status := .renamed }] } := by
  have hwhole : Text.IsWhole "diff --git a/p b/p\n@@ -1 +1 @@\n-x\n+y\n".toList := by decide
  have hseparable : Separable
      (Text.endedLines "diff --git a/p b/p\n@@ -1 +1 @@\n-x\n+y\n".toList)
      (Text.lines "diff --git a/q b/r\nrename from q\nrename to r".toList) :=
    ⟨⟨"diff --git a/q b/r".toList, by decide +kernel, by decide +kernel⟩, by decide +kernel,
      .inl (by decide +kernel)⟩
  have hfirst : parse "diff --git a/p b/p\n@@ -1 +1 @@\n-x\n+y\n" = .ok { files := [
      { oldPath := "p", newPath := "p", additions := some 1, deletions := some 1,
        hunks := some [⟨1, 1, 1, 1, ["-x", "+y"], ""⟩] }] } := by decide +kernel
  have hsecond : parse "diff --git a/q b/r\nrename from q\nrename to r" =
      .ok { files := [{ oldPath := "q", newPath := "r", status := .renamed }] } := by
    decide +kernel
  refine ⟨hwhole, hseparable, ?_⟩
  rw [(parse_append hwhole hseparable).1, hfirst, hsecond]
  rfl

/-- With the header one line nearer to the end, the rename is taken for one of the first file. -/
example : parse "diff --git a/p b/p\n@@ -1 +1 @@\n-x\ndiff --git a/q b/r\nrename from q" =
    .ok { files := [
      { oldPath := "p", newPath := "p", status := .renamed, deletions := some 1,
        hunks := some [⟨1, 1, 1, 1, ["-x"], ""⟩] },
      { oldPath := "q", newPath := "r", status := .renamed }] } := by decide +kernel

end Patch

end PatchTriage
