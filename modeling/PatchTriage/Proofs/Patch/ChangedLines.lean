import PatchTriage.Patch.Totals
import PatchTriage.Proofs.Patch.RoundTrip

/-!
# Changed lines of a hunk

What becomes of the lines behind a hunk header, each a marker with any text. A line whose text
makes it look like the name of a side (`--- x` removes `-- x`) is passed over; all others are
stored, counted by their marker, and given back without it (`Changes`). So for these lines the
counts and the lists of changed lines agree (`length_bodiesMarked`), and what they leave out is
known exactly (`Patch.parse_one_hunk`).
-/

namespace PatchTriage

open Text (Reads)

/-! ## Counts and lists -/

/-- A first line with a mark counts if the mark is the one asked for. -/
theorem bodiesMarked_cons (mark c : Char) (text : Line) (lines : List String) :
    bodiesMarked mark (String.ofList (c :: text) :: lines) =
      (if c = mark then [String.ofList text] else []) ++ bodiesMarked mark lines := by
  rw [bodiesMarked, bodiesMarked, List.filterMap_cons, String.toList_ofList]
  by_cases h : c = mark
  · simp only [if_pos h, List.singleton_append]
  · simp only [if_neg h, List.nil_append]

/-- The stored lines with a marker are as many as their bodies. -/
theorem length_bodiesMarked (mark : Char) (lines : List String) :
    (bodiesMarked mark lines).length = lines.countP fun line => [mark].isPrefixOf line.toList := by
  induction lines with
  | nil => rfl
  | cons line lines ih =>
    rw [bodiesMarked] at ih ⊢
    rw [List.filterMap_cons, List.countP_cons, ← ih]
    cases line.toList with
    | nil => simp
    | cons c text =>
      by_cases h : c = mark
      · simp [h]
      · simp [h, Ne.symm h]

/-! ## Lines with any text -/

/-- A line of a hunk as it is written: its marker and its text. -/
def markedLine (l : Char × Line) : Line := l.1 :: l.2

/-- Whether a line has a marker and is not passed over: its text does not go on with the marker
twice. -/
def IsChange (mark : Char) (l : Char × Line) : Prop := l.1 = mark ∧ ¬[mark, mark] <+: l.2

instance (mark : Char) (l : Char × Line) : Decidable (IsChange mark l) := by
  unfold IsChange
  infer_instance

/-- The markers of lines. -/
def markers : List Char := ['+', '-', ' ']

/-- A line with a marker belongs to the body of a hunk unless it is passed over, which no line of
context is. -/
theorem isBodyLine_markedLine {l : Char × Line} (hl : l.1 ∈ markers) :
    IsBodyLine (markedLine l) ↔ l.1 = ' ' ∨ IsChange l.1 l := by
  obtain ⟨c, text⟩ := l
  simp only [markers, List.mem_cons, List.not_mem_nil, or_false] at hl
  rcases hl with rfl | rfl | rfl
  · simp [IsBodyLine, markedLine, IsChange, Text.startsWith]
  · simp [IsBodyLine, markedLine, IsChange, Text.startsWith]
  · simp [IsBodyLine, markedLine, Text.startsWith]

/-- **Changed lines in their order.** The bodies that are given back for a marker are the texts of
the lines with that marker that are not passed over. -/
theorem bodiesMarked_bodyOf {mark : Char} (hmark : mark ≠ ' ') {body : List (Char × Line)}
    (hbody : ∀ l ∈ body, l.1 ∈ markers) :
    bodiesMarked mark (bodyOf (body.map markedLine)) =
      (body.filter fun l => IsChange mark l).map fun l => String.ofList l.2 := by
  induction body with
  | nil => rfl
  | cons l body ih =>
    have hl : l.1 ∈ markers := hbody l List.mem_cons_self
    have hrest := ih fun m hm => hbody m (List.mem_cons_of_mem l hm)
    rw [bodyOf] at hrest ⊢
    by_cases hb : IsBodyLine (markedLine l)
    · rw [List.map_cons, List.filter_cons_of_pos (by simpa using hb), List.map_cons, markedLine,
        bodiesMarked_cons, hrest]
      by_cases hm : l.1 = mark
      · have hchange : IsChange mark l := by
          rcases (isBodyLine_markedLine hl).1 hb with hblank | hchange
          · exact absurd (hm.symm.trans hblank) hmark
          · rwa [hm] at hchange
        rw [if_pos hm, List.filter_cons_of_pos (by simpa using hchange)]
        rfl
      · have hchange : ¬IsChange mark l := fun hchange => hm hchange.1
        rw [if_neg hm, List.filter_cons_of_neg (by simpa using hchange)]
        rfl
    · have hchange : ¬IsChange mark l := by
        intro hchange
        obtain rfl := hchange.1
        exact hb ((isBodyLine_markedLine hl).2 (.inr hchange))
      rw [List.map_cons, List.filter_cons_of_neg (by simpa using hb), hrest,
        List.filter_cons_of_neg (by simpa using hchange)]

/-! ## A file with one hunk -/

/-- A line with a marker is no header. -/
theorem not_header_markedLine {l : Char × Line} (hl : l.1 ∈ markers) :
    ¬IsFileHeader (markedLine l) ∧ ¬IsHunkHeader (markedLine l) := by
  constructor
  · intro hf
    have hd : l.1 = 'd' := Option.some.inj hf.head?
    rw [hd] at hl
    exact absurd hl (by decide)
  · intro hh
    have hat : l.1 = '@' := Option.some.inj hh.head?
    rw [hat] at hl
    exact absurd hl (by decide)

/-- A marked line does not end in a carriage return if its text does not. -/
theorem getLast?_markedLine {l : Char × Line} (hl : l.1 ∈ markers)
    (hreturn : l.2.getLast? ≠ some '\r') : (markedLine l).getLast? ≠ some '\r' := by
  rw [markedLine, List.getLast?_cons]
  cases hlast : l.2.getLast? with
  | none =>
    intro hc
    rw [Option.getD_none, Option.some.injEq] at hc
    rw [hc] at hl
    exact absurd hl (by decide)
  | some c =>
    rw [hlast] at hreturn
    exact hreturn

/-- A line with its mark is within a line if its text is. -/
theorem feed_markedLine {l : Char × Line} (hl : l.1 ∈ markers) (hfeed : '\n' ∉ l.2) :
    '\n' ∉ markedLine l := by
  intro hmem
  rcases List.mem_cons.1 hmem with hc | hmem
  · rw [← hc] at hl
    exact absurd hl (by decide)
  · exact hfeed hmem

/-- A hunk header is read with its numerals, also when its text loses a carriage return. -/
theorem HunkHeader.exists_of_reads {header : HunkHeader} (hw : header.WellFormed) {line : Line}
    (h : Reads header.text line) :
    ∃ header', HunkHeader.read? line = some header' ∧ header'.numerals = header.numerals := by
  obtain ⟨rest, rfl⟩ : ∃ rest, line = { header with rest := rest }.text := by
    rcases h with rfl | rfl
    · exact ⟨header.rest, rfl⟩
    · have hmark : ∃ rest, Text.dropReturn ('@' :: header.rest) = '@' :: rest := by
        by_cases hr : header.rest = []
        · exact ⟨[], by rw [hr]; rfl⟩
        · exact ⟨Text.dropReturn header.rest, @Text.dropReturn_append ['@'] _ hr⟩
      obtain ⟨rest, hrest⟩ := hmark
      have hsplit (rest : Line) : { header with rest := rest }.text =
          "@@ -".toList ++ (rangeText header.oldStart header.oldCount ++ (" +".toList ++
            (rangeText header.newStart header.newCount ++ " @".toList))) ++ '@' :: rest := by
        simp [text]
      refine ⟨rest, ?_⟩
      rw [hsplit rest, ← hrest, ← Text.dropReturn_append (List.cons_ne_nil _ _)]
      exact congrArg Text.dropReturn (hsplit header.rest)
  exact ⟨{ header with rest := rest }, read?_eq_some_iff.2 ⟨hw, rfl⟩, rfl⟩

/-- The hunks of a header line and lines that are no headers behind it. -/
theorem hunksOf_cons_of_not_header {line : Line} (hline : IsHunkHeader line) {ls : List Line}
    (hls : ∀ l ∈ ls, ¬IsHunkHeader l) : hunksOf (line :: ls) = [hunkOf (line, ls)] := by
  rw [hunksOf, cut_cons_of_head hline, cut_of_forall_not hls]
  rfl

/-- The counts and the changed lines of a file with one hunk whose lines have markers. -/
structure HoldsChanges (f : FileChange) (body : List (Char × Line)) : Prop where
  additions : f.additions = some (body.countP fun l => IsChange '+' l : Nat)
  deletions : f.deletions = some (body.countP fun l => IsChange '-' l : Nat)
  addedLines : f.addedLines = (body.filter fun l => IsChange '+' l).map fun l => String.ofList l.2
  removedLines :
    f.removedLines = (body.filter fun l => IsChange '-' l).map fun l => String.ofList l.2

/-- A file with one hunk holds the changes of that hunk. -/
theorem holdsChanges_fileOf (d : Draft) (line : Line) {body : List (Char × Line)}
    (hbody : ∀ l ∈ body, l.1 ∈ markers) :
    HoldsChanges (d.fileOf [hunkOf (line, body.map markedLine)]) body := by
  have hstored : storedLines [hunkOf (line, body.map markedLine)] =
      bodyOf (body.map markedLine) := by
    simp [storedLines, hunkOf]
  have hadded := bodiesMarked_bodyOf (by decide : '+' ≠ ' ') hbody
  have hremoved := bodiesMarked_bodyOf (by decide : '-' ≠ ' ') hbody
  have hcount {mark : Char} (h : bodiesMarked mark (bodyOf (body.map markedLine)) =
        (body.filter fun l => IsChange mark l).map fun l => String.ofList l.2) :
      (storedLines [hunkOf (line, body.map markedLine)]).countP
        (fun line => [mark].isPrefixOf line.toList) = body.countP fun l => IsChange mark l := by
    rw [← length_bodiesMarked, hstored, h, List.length_map, List.countP_eq_length_filter]
  refine ⟨?_, ?_, ?_, ?_⟩
  · exact congrArg (fun n : Nat => some (n : Int)) (hcount hadded)
  · exact congrArg (fun n : Nat => some (n : Int)) (hcount hremoved)
  · exact (congrArg (bodiesMarked '+') hstored).trans hadded
  · exact (congrArg (bodiesMarked '-') hstored).trans hremoved

/-- A modified file with one hunk, read on its own. -/
theorem Parsing.run_one_hunk {h : GitHeader} (hh : GitHeader.read? h.text = some h)
    {marks : List Line} (hm : Marks .modified marks) {hunkLine : Line} {header : HunkHeader}
    (hr : HunkHeader.read? hunkLine = some header) (hreadable : header.Readable)
    {body : List (Char × Line)} (hbody : ∀ l ∈ body, l.1 ∈ markers) :
    ∃ f p, run {} none (h.text :: (marks ++ hunkLine :: body.map markedLine)) = .ok p ∧
      p.files = [f] ∧ f.oldPath = String.ofList h.oldPath ∧ f.newPath = String.ofList h.newPath ∧
      f.status = .modified ∧ HoldsChanges f body := by
  have hhunk : IsHunkHeader hunkLine := isHunkHeader_of_read? hr
  have hmarked : ∀ l ∈ body.map markedLine, ¬IsFileHeader l ∧ ¬IsHunkHeader l := by
    rw [List.forall_mem_map]
    exact fun l hl => not_header_markedLine (hbody l hl)
  have hfile : ∀ l ∈ marks ++ hunkLine :: body.map markedLine, ¬IsFileHeader l := by
    rw [List.forall_mem_append, List.forall_mem_cons]
    exact ⟨fun l hl => (hm.inert l hl).1, hhunk.not_isFileHeader, fun l hl => (hmarked l hl).1⟩
  have hread : ∀ l ∈ marks ++ hunkLine :: body.map markedLine, ReadableLine l := by
    rw [List.forall_mem_append, List.forall_mem_cons]
    refine ⟨fun l hl => (hm.inert l hl).readableLine, fun header' hr' => ?_, fun l hl => ?_⟩
    · rw [hr] at hr'
      cases hr'
      exact hreadable
    · exact readableLine_of_not_header (hmarked l hl).2
  have hnear : FileStatus.near none (marks ++ hunkLine :: body.map markedLine) = .modified := by
    have hhead : ∀ l ∈ hunkLine :: body.map markedLine,
        ∃ c ∈ '@' :: markers, l.head? = some c := by
      refine List.forall_mem_cons.2 ⟨⟨'@', List.mem_cons_self, hhunk.head?⟩, ?_⟩
      rw [List.forall_mem_map]
      exact fun l hl => ⟨l.1, List.mem_cons_of_mem _ (hbody l hl), rfl⟩
    exact hm.near rfl
      (any_take_of_any (any_eq_false_of_head? hhead (by decide) (by decide)))
  have hhunks : hunksOf (marks ++ hunkLine :: body.map markedLine) =
      [hunkOf (hunkLine, body.map markedLine)] := by
    rw [hunksOf_append_of_isInert hm.inert,
      hunksOf_cons_of_not_header hhunk fun l hl => (hmarked l hl).2]
  obtain ⟨d, hd, hrun⟩ := run_block hh hfile hread {} none []
  rw [List.append_nil] at hd hrun
  rw [hnear] at hd
  refine ⟨d.finish, _, hrun, rfl, ?_⟩
  rw [hd, hhunks]
  exact ⟨rfl, rfl, rfl, holdsChanges_fileOf _ hunkLine hbody⟩

/-- **Changed lines of one hunk.** A file with one hunk is read as one modified file, whatever its
lines say behind their markers. It counts and gives back the texts of all marked lines in their
order, except for those that look like the name of a side. -/
theorem Patch.parse_one_hunk {path : Line} {header : HunkHeader} {body : List (Char × Line)}
    {text : String} (hne : path ≠ []) (hfeed : '\n' ∉ path) (hsep : ¬" b/".toList <:+: path)
    (hreturn : path.getLast? ≠ some '\r') (hheader : header.WellFormed)
    (hreadable : header.Readable) (hrest : '\n' ∉ header.rest)
    (hbody : ∀ l ∈ body, l.1 ∈ markers ∧ '\n' ∉ l.2 ∧ l.2.getLast? ≠ some '\r')
    (htext : Text.Written (GitHeader.text ⟨path, path⟩ :: oldSide path :: newSide path ::
      header.text :: body.map markedLine) text.toList) :
    ∃ f : FileChange, Patch.parse text = .ok { files := [f] } ∧
      f.oldPath = String.ofList path ∧ f.newPath = String.ofList path ∧ f.status = .modified ∧
      HoldsChanges f body := by
  have hold : '\n' ∉ oldSide path := List.not_mem_append (by decide) hfeed
  have hnew : '\n' ∉ newSide path := List.not_mem_append (by decide) hfeed
  have hmarked : ∀ l ∈ body.map markedLine, '\n' ∉ l := by
    rw [List.forall_mem_map]
    exact fun l hl => feed_markedLine (hbody l hl).1 (hbody l hl).2.1
  obtain ⟨read, hread, hlines⟩ := Text.lines_of_written htext <|
    List.forall_mem_cons.2 ⟨GitHeader.text_feed hfeed hfeed, List.forall_mem_cons.2 ⟨hold,
      List.forall_mem_cons.2 ⟨hnew, List.forall_mem_cons.2
        ⟨header.text_feed hheader hrest, hmarked⟩⟩⟩⟩
  simp only [List.forall₂_cons_left_iff] at hread
  obtain ⟨line, _, hline, ⟨old, _, hold, ⟨new, _, hnew, ⟨hunkLine, read, hhunk, hread, rfl⟩, rfl⟩,
    rfl⟩, rfl⟩ := hread
  obtain rfl := GitHeader.eq_of_reads hne hreturn hline
  obtain rfl : read = body.map markedLine := by
    refine Reads.eq_of_forall hread ?_
    rw [List.forall_mem_map]
    exact fun l hl => getLast?_markedLine (hbody l hl).1 (hbody l hl).2.2
  have hm : Marks .modified [old, new] :=
    @GitHeader.marks_of_reads ⟨path, path⟩ hne hne .modified _ (.cons hold (.cons hnew .nil))
  obtain ⟨header', hr, hnumerals⟩ := header.exists_of_reads hheader hhunk
  have hreadable' : header'.Readable := by
    rw [HunkHeader.Readable, hnumerals]
    exact hreadable
  have hpath : GitHeader.read? (GitHeader.text ⟨path, path⟩) = some ⟨path, path⟩ :=
    GitHeader.read?_text hne hne hsep
  obtain ⟨f, p, hrun, hfiles, hf⟩ :=
    Parsing.run_one_hunk hpath hm hr hreadable' fun l hl => (hbody l hl).1
  refine ⟨f, ?_, hf⟩
  rw [Patch.parse_of_lines hlines hrun, hfiles]
  rfl

/-- A removed line that is passed over, between two that change something. -/
theorem Patch.parse_one_hunk_sql :
    ∃ f : FileChange, Patch.parse
        "diff --git a/q b/q\n--- a/q\n+++ b/q\n@@ -1 +1 @@\n+a\n--- x\n-b" = .ok { files := [f] } ∧
      f.oldPath = "q" ∧ f.newPath = "q" ∧ f.status = .modified ∧
      HoldsChanges f [('+', ['a']), ('-', "-- x".toList), ('-', ['b'])] := by
  refine @parse_one_hunk "q".toList ⟨['1'], none, ['1'], none, []⟩ _ _ (by decide) (by decide)
    (by decide) (by decide) ?_ ?_ (by decide) (by decide) ?_
  · have hone : HunkHeader.IsNumeral ['1'] := ⟨nofun, List.forall_mem_singleton.2 (by decide)⟩
    exact List.forall_mem_cons.2 ⟨hone, List.forall_mem_singleton.2 hone⟩
  · unfold HunkHeader.Readable
    decide
  · have hwritten := Text.Written.feed (l := "diff --git a/q b/q".toList) <|
      .feed (l := "--- a/q".toList) <| .feed (l := "+++ b/q".toList) <|
      .feed (l := "@@ -1 +1 @@".toList) <| .feed (l := "+a".toList) <|
      .feed (l := "--- x".toList) <| .last "-b".toList
    exact Eq.mp (congrArg₂ Text.Written (by decide +kernel) (by simp)) hwritten

/-- A comment that is removed from an SQL file is lost: the one line of the hunk has the marker of
a removed line, but neither the count nor the list of removed lines mentions it. -/
theorem Patch.parse_loses_removed_comment :
    ∃ f : FileChange,
      Patch.parse "diff --git a/x.sql b/x.sql\n--- a/x.sql\n+++ b/x.sql\n@@ -1 +0,0 @@\n--- x\n" =
        .ok { files := [f] } ∧ f.deletions = some 0 ∧ f.removedLines = [] :=
  ⟨{ oldPath := "x.sql", newPath := "x.sql", hunks := some [⟨1, 1, 0, 0, [], ""⟩] },
    by decide +kernel, rfl, rfl⟩

end PatchTriage
