import PatchTriage.Proofs.Patch.Pass
import PatchTriage.Proofs.Patch.Writing

/-!
# Reading back what was written

The status of a file hangs on the line in front of its header and on the four lines behind it, and
these may belong to its neighbours. Records that stand one after another do not disturb each other
all the same: no record ends in the mark of an added file (`marksNew`), and no record names the
source of a rename in its first two lines (`namesSource`). With this, `Parsing.run_record` says
that a record is read back wherever it stands, `Parsing.run_records` says it of all records by
induction, and `Patch.parse_written` of the text that writes them.
-/

namespace PatchTriage

open Text (Reads)

/-! ## Marks of a status -/

/-- Whether a line is the mark of an added file. -/
def marksNew (line : Line) : Bool := Text.startsWith line "new file mode"

/-- Whether a line is the mark of a deleted file. -/
def marksDeleted (line : Line) : Bool := Text.startsWith line "deleted file mode"

/-- Whether a line names the source of a rename. -/
def namesSource (line : Line) : Bool := Text.startsWith line "rename from "

/-- The status that a header has among its lines: a rename comes first, a new file next. -/
theorem FileStatus.near_eq (before : Option Line) (after : List Line) :
    near before after =
      if (after.take renameLookahead).any namesSource then .renamed
      else if before.any marksNew then .added
      else if after.head?.any marksDeleted then .deleted
      else .modified := rfl

/-- Lines that stand behind others are looked at only as far as these leave off. -/
theorem any_take_append {j k : Nat} {p : Line → Bool} {ls ls' : List Line}
    (h : (ls'.take j).any p = false) (hk : k ≤ ls.length + j) :
    ((ls ++ ls').take k).any p = (ls.take k).any p := by
  have hrest : (ls'.take (k - ls.length)).any p = false := by
    rw [List.any_eq_false] at h ⊢
    exact fun l hl => h l (List.take_subset_take_left ls' (by omega) hl)
  rw [List.take_append, List.any_append, hrest, Bool.or_false]

/-- What no line has, none of the first lines has. -/
theorem any_take_of_any {k : Nat} {p : Line → Bool} {ls : List Line} (h : ls.any p = false) :
    (ls.take k).any p = false := by
  rw [List.any_eq_false] at h ⊢
  exact fun l hl => h l (List.mem_of_mem_take hl)

/-- Lines that are told by their first character have no mark that starts with another one. -/
theorem any_eq_false_of_head? {start : String} {cs : List Char} {ls : List Line}
    (h : ∀ l ∈ ls, ∃ c ∈ cs, l.head? = some c) (hcs : start.toList.head? ∉ cs.map some)
    (hne : start.toList ≠ []) : ls.any (Text.startsWith · start) = false := by
  rw [List.any_eq_false]
  intro l hl hstart
  obtain ⟨c, hc, hlc⟩ := h l hl
  obtain ⟨rest, rfl⟩ := startsWith_iff.1 hstart
  rw [List.head?_append_of_ne_nil _ hne] at hlc
  exact hcs (by rw [hlc]; exact List.mem_map_of_mem hc)

/-- What the lines between a file header and its hunks say about the status, and do not say. -/
structure Marks (status : FileStatus) (ls : List Line) : Prop where
  inert : ∀ l ∈ ls, IsInert l
  length : 2 ≤ ls.length
  first : (ls.take 1).any namesSource = false
  source : (ls.take renameLookahead).any namesSource = decide (status = .renamed)
  old : ls.any marksNew = false
  deleted : ls.head?.any marksDeleted = decide (status = .deleted)

/-- The lines that mark the status of a record do so too as they are read, where a path may have
lost a carriage return at its end. -/
theorem GitHeader.marks_of_reads {header : GitHeader} (hold : header.oldPath ≠ [])
    (hnew : header.newPath ≠ []) {status : FileStatus} {read : List Line}
    (h : List.Forall₂ Reads (header.marks status) read) : Marks status read := by
  have holdSide {l : Line} (hl : Reads (oldSide header.oldPath) l) : ∃ path, l = oldSide path :=
    hl.append hold
  have hnewSide {l : Line} (hl : Reads (newSide header.newPath) l) : ∃ path, l = newSide path :=
    hl.append hnew
  cases status with
  | added =>
    simp only [marks, List.forall₂_cons_left_iff, List.forall₂_nil_left_iff] at h
    obtain ⟨_, _, h₁, ⟨_, _, h₂, rfl, rfl⟩, rfl⟩ := h
    obtain rfl := h₁.eq (by decide)
    obtain ⟨new, rfl⟩ := hnewSide h₂
    exact ⟨by simp [isInert_noOldSide, isInert_newSide], by simp, rfl, rfl, rfl, rfl⟩
  | deleted =>
    simp only [marks, List.forall₂_cons_left_iff, List.forall₂_nil_left_iff] at h
    obtain ⟨_, _, h₁, ⟨_, _, h₂, ⟨_, _, h₃, rfl, rfl⟩, rfl⟩, rfl⟩ := h
    obtain rfl := h₁.eq (by decide)
    obtain ⟨old, rfl⟩ := holdSide h₂
    obtain rfl := h₃.eq (by decide)
    exact ⟨by simp [isInert_deletedFileMode, isInert_oldSide, isInert_noNewSide], by simp, rfl, rfl,
      rfl, rfl⟩
  | modified =>
    simp only [marks, List.forall₂_cons_left_iff, List.forall₂_nil_left_iff] at h
    obtain ⟨_, _, h₁, ⟨_, _, h₂, rfl, rfl⟩, rfl⟩ := h
    obtain ⟨old, rfl⟩ := holdSide h₁
    obtain ⟨new, rfl⟩ := hnewSide h₂
    exact ⟨by simp [isInert_oldSide, isInert_newSide], by simp, rfl, rfl, rfl, rfl⟩
  | renamed =>
    simp only [marks, List.forall₂_cons_left_iff, List.forall₂_nil_left_iff] at h
    obtain ⟨_, _, h₁, ⟨_, _, h₂, ⟨_, _, h₃, h, rfl⟩, rfl⟩, rfl⟩ := h
    obtain ⟨_, _, h₄, ⟨_, _, h₅, rfl, rfl⟩, rfl⟩ := h
    obtain rfl := h₁.eq (by decide)
    obtain ⟨source, rfl⟩ : ∃ path, _ = renameFrom path := h₂.append hold
    obtain ⟨target, rfl⟩ : ∃ path, _ = renameTo path := h₃.append hnew
    obtain ⟨old, rfl⟩ := holdSide h₄
    obtain ⟨new, rfl⟩ := hnewSide h₅
    exact ⟨by simp [isInert_sameContent, isInert_renameFrom, isInert_renameTo, isInert_oldSide,
      isInert_newSide], by simp, rfl, rfl, rfl, rfl⟩

/-- The marks of a status are recognized whatever stands behind them, unless it names the source
of a rename right away. -/
theorem Marks.near {status : FileStatus} {before : Option Line} {ls rest : List Line}
    (h : Marks status ls) (hbefore : before.any marksNew = decide (status = .added))
    (hrest : (rest.take 2).any namesSource = false) : .near before (ls ++ rest) = status := by
  have hlength := h.length
  have hsource : ((ls ++ rest).take renameLookahead).any namesSource =
      decide (status = .renamed) := by
    rw [any_take_append hrest (by rw [renameLookahead]; omega), h.source]
  have hmode : (ls ++ rest).head?.any marksDeleted = decide (status = .deleted) := by
    rw [← h.deleted]
    cases ls with
    | nil => simp at hlength
    | cons l ls => rfl
  rw [FileStatus.near_eq, hsource, hbefore, hmode]
  cases status <;> rfl

/-! ## One record -/

/-- A file header is read as it was written if its new path does not end in a carriage return. -/
theorem GitHeader.eq_of_reads {header : GitHeader} (hne : header.newPath ≠ [])
    (hreturn : header.newPath.getLast? ≠ some '\r') {line : Line} (h : Reads header.text line) :
    line = header.text := by
  have htext : header.text =
      ("diff --git a/".toList ++ (header.oldPath ++ " b/".toList)) ++ header.newPath :=
    calc header.text
        = "diff --git a/".toList ++ (header.oldPath ++ (" b/".toList ++ header.newPath)) := rfl
      _ = _ := by rw [List.append_assoc, List.append_assoc]
  refine h.eq ?_
  rw [htext, List.getLast?_append_of_ne_nil _ hne]
  exact hreturn

/-- What is read for the lines of a record before its hunks: its file header as it was written,
and marks of its status around it. -/
theorem FileChange.Writable.preamble_of_reads {r : FileChange} (hw : r.Writable)
    {read : List Line} (h : List.Forall₂ Reads r.preamble read) :
    ∃ marks, Marks r.status marks ∧ read = r.front ++ r.gitHeader.text :: marks := by
  obtain ⟨front, _, rfl, hfront, hbehind⟩ := Reads.split h
  obtain rfl : front = r.front := by
    refine Reads.eq_of_forall hfront ?_
    rw [FileChange.front]
    split
    · decide
    · exact nofun
  rw [List.forall₂_cons_left_iff] at hbehind
  obtain ⟨line, marks, hline, hmarks, rfl⟩ := hbehind
  obtain rfl := GitHeader.eq_of_reads hw.new_ne hw.new_return hline
  exact ⟨marks, GitHeader.marks_of_reads hw.old_ne hw.new_ne hmarks, rfl⟩

/-- No record names the source of a rename in its first two lines. -/
theorem FileChange.front_noSource (r : FileChange) {marks : List Line}
    (h : (marks.take 1).any namesSource = false) (rest : List Line) (hmarks : marks ≠ []) :
    ((r.front ++ r.gitHeader.text :: (marks ++ rest)).take 2).any namesSource = false := by
  obtain ⟨first, marks, rfl⟩ := List.exists_cons_of_ne_nil hmarks
  rw [FileChange.front]
  split
  · rfl
  · exact h

/-- The content of a record is what its header and its hunks say. -/
theorem FileChange.Writable.fileOf {r : FileChange} (hw : r.Writable) {hs : List Hunk}
    (hhs : r.hunks = some hs) : (Draft.ofGitHeader r.gitHeader r.status).fileOf hs = r := by
  obtain ⟨_, hhunks, -, hadd, hdel⟩ := hw.hunks
  obtain rfl := Option.some.inj (hhs.symm.trans hhunks)
  have hold := hw.added
  have hnew := hw.deleted
  obtain ⟨oldPath, newPath, status, hunks, additions, deletions⟩ := r
  dsimp only at hhunks hadd hdel hold hnew
  subst hhunks hadd hdel
  cases status with
  | added => simp [Draft.ofGitHeader, Draft.fileOf, gitHeader, hold rfl]
  | deleted => simp [Draft.ofGitHeader, Draft.fileOf, gitHeader, hnew rfl]
  | modified => simp [Draft.ofGitHeader, Draft.fileOf, gitHeader]
  | renamed => simp [Draft.ofGitHeader, Draft.fileOf, gitHeader]

namespace Parsing

/-- The mark of an added file changes nothing by itself. -/
theorem run_newFileMode (p : Parsing) (before : Option Line) (rest : List Line) :
    p.run before (newFileMode :: rest) = p.run (some newFileMode) rest := by
  obtain ⟨hfile, hhunk, hbody⟩ := isInert_newFileMode
  refine run_cons_of_step ?_
  obtain ⟨finished, current⟩ := p
  cases current with
  | none =>
    rw [step_none hfile]
    rfl
  | some d => simp [hfile, hhunk, hbody, Except.map]

/-- What stands in front of a file header is recognized as the mark of an added file exactly if
the record is one. -/
theorem run_front (r : FileChange) (p : Parsing) {before : Option Line}
    (hbefore : before.any marksNew = false) (rest : List Line) :
    ∃ before', before'.any marksNew = decide (r.status = .added) ∧
      p.run before (r.front ++ rest) = p.run before' rest := by
  by_cases hs : r.status = .added
  · refine ⟨some newFileMode, by rw [hs]; rfl, ?_⟩
    rw [FileChange.front, if_pos hs]
    exact run_newFileMode p before rest
  · refine ⟨before, by rw [hbefore, decide_eq_false hs], ?_⟩
    rw [FileChange.front, if_neg hs]
    rfl

/-- What no line has, the last one that was passed has not. -/
theorem lastOf_any {before : Option Line} {ls : List Line} {q : Line → Bool}
    (hbefore : before.any q = false) (hls : ls.any q = false) :
    (lastOf before ls).any q = false := by
  rw [lastOf]
  cases hlast : ls.getLast? with
  | none => exact hbefore
  | some l => simpa using List.any_eq_false.1 hls l (List.mem_of_getLast? hlast)

/-- **A record is read back wherever it stands**, as long as the line in front of it is no mark of
an added file, and the two lines behind it do not name the source of a rename. Its header, its marks
and its hunks stand together as one file, and no line of a hunk says anything about the status. -/
theorem run_record {r : FileChange} (hw : r.Writable) {read body : List Line}
    (hread : List.Forall₂ Reads r.preamble read) (hbody : HunksWritten (r.hunks.getD []) body)
    (p : Parsing) {before : Option Line} (hbefore : before.any marksNew = false) {rest : List Line}
    (hrest : (rest.take 2).any namesSource = false) :
    ∃ d before', d.finish = r ∧ before'.any marksNew = false ∧
      p.run before (read ++ (body ++ rest)) =
        run { finished := p.files, current := some d } before' rest := by
  obtain ⟨hs, hhunks, hsw, -, -⟩ := hw.hunks
  rw [hhunks, Option.getD_some] at hbody
  obtain ⟨marks, hm, rfl⟩ := hw.preamble_of_reads hread
  have hhead := hbody.head?_mem hsw
  have hsource : body.any namesSource = false :=
    any_eq_false_of_head? hhead (by decide) (by decide)
  have hnew : body.any marksNew = false :=
    any_eq_false_of_head? hhead (by decide) (by decide)
  obtain ⟨before', hbefore', hfront⟩ :=
    run_front r p hbefore (r.gitHeader.text :: (marks ++ body) ++ rest)
  have hnear : .near before' (marks ++ body ++ rest) = r.status := by
    rw [List.append_assoc]
    refine hm.near hbefore' ?_
    rw [any_take_append hrest (Nat.le_add_left _ _), any_take_of_any hsource]
  have hheader : GitHeader.read? r.gitHeader.text = some r.gitHeader :=
    GitHeader.read?_text hw.old_ne hw.new_ne hw.old_separator
  have hinner : ∀ l ∈ marks ++ body, ¬IsFileHeader l ∧ ReadableLine l := by
    intro l hl
    rcases List.mem_append.1 hl with hl | hl
    · exact ⟨(hm.inert l hl).1, (hm.inert l hl).readableLine⟩
    · obtain ⟨c, hc, hlc⟩ := hhead l hl
      refine ⟨fun hf => ?_, hbody.readableLine hsw l hl⟩
      rw [hf.head?] at hlc
      cases hlc
      exact absurd hc (by decide)
  have hhunksOf : hunksOf (marks ++ body) = hs := by
    rw [hunksOf_append_of_isInert hm.inert, (hbody.hunksOf hsw).2]
  obtain ⟨d, hd, hblock⟩ := run_block hheader (fun l hl => (hinner l hl).1)
    (fun l hl => (hinner l hl).2) p before' rest
  refine ⟨d, lastOf (some r.gitHeader.text) (marks ++ body), ?_, ?_, ?_⟩
  · rw [hd, hnear, hhunksOf, hw.fileOf hhunks]
  · exact lastOf_any rfl (by rw [List.any_append, hm.old, hnew]; rfl)
  · rw [← hblock, ← hfront]
    simp only [List.append_assoc, List.cons_append]

/-- **Records are read back** in their order, behind any files that were read before them. -/
theorem run_records {rs : List FileChange} {out read : List Line} (hout : RecordsWritten rs out)
    (hw : ∀ r ∈ rs, r.Writable) (hread : List.Forall₂ Reads out read) :
    (read.take 2).any namesSource = false ∧
      ∀ (p : Parsing) (before : Option Line), before.any marksNew = false →
        ∃ p', p.run before read = .ok p' ∧ p'.files = rs.reverse ++ p.files := by
  induction hout generalizing read with
  | nil =>
    cases hread
    exact ⟨rfl, fun p before _ => ⟨p, rfl, rfl⟩⟩
  | @cons r rs body out hbody _ ih =>
    have hr : r.Writable := hw r List.mem_cons_self
    obtain ⟨preamble, _, rfl, hpreamble, h⟩ := Reads.split hread
    obtain ⟨body', rest, rfl, hbody', hrest⟩ := Reads.split h
    obtain rfl : body' = body := by
      obtain ⟨hs, hhunks, hsw, -, -⟩ := hr.hunks
      rw [hhunks, Option.getD_some] at hbody
      exact Reads.eq_of_forall hbody' (hbody.lines_return hsw)
    obtain ⟨hsource, hrun⟩ := ih (fun s hs => hw s (List.mem_cons_of_mem r hs)) hrest
    constructor
    · obtain ⟨marks, hm, rfl⟩ := hr.preamble_of_reads hpreamble
      have hne : marks ≠ [] := List.ne_nil_of_length_pos (Nat.lt_of_lt_of_le (by decide) hm.length)
      have := r.front_noSource hm.first (body' ++ rest) hne
      simpa only [List.append_assoc, List.cons_append] using this
    · intro p before hbefore
      obtain ⟨d, before', hd, hbefore', hstep⟩ := run_record hr hpreamble hbody p hbefore hsource
      obtain ⟨p', hp', hfiles⟩ := hrun { finished := p.files, current := some d } before' hbefore'
      refine ⟨p', by rw [hstep, hp'], ?_⟩
      rw [hfiles, files_some, hd, List.reverse_cons, List.append_assoc]
      rfl

end Parsing

/-! ## All records -/

/-- The lines of a record before its hunks are single lines. -/
theorem FileChange.Writable.preamble_feed {r : FileChange} (hw : r.Writable) :
    ∀ l ∈ r.preamble, '\n' ∉ l := by
  have hfront : ∀ l ∈ r.front, '\n' ∉ l := by
    rw [front]
    split
    · decide
    · exact nofun
  intro l hl
  rcases List.mem_append.1 hl with hl | hl
  · exact hfront l hl
  · rcases List.mem_cons.1 hl with rfl | hl
    · exact GitHeader.text_feed hw.old_feed hw.new_feed
    · exact GitHeader.marks_feed hw.old_feed hw.new_feed r.status l hl

/-- The lines of records are single lines. -/
theorem RecordsWritten.lines_feed {rs : List FileChange} {out : List Line}
    (h : RecordsWritten rs out) (hw : ∀ r ∈ rs, r.Writable) : ∀ l ∈ out, '\n' ∉ l := by
  induction h with
  | nil => exact nofun
  | @cons r rs body out hbody _ ih =>
    have hr : r.Writable := hw r List.mem_cons_self
    obtain ⟨hs, hhunks, hsw, -, -⟩ := hr.hunks
    rw [hhunks, Option.getD_some] at hbody
    intro l hl
    rcases List.mem_append.1 hl with hl | hl
    · exact hr.preamble_feed l hl
    · rcases List.mem_append.1 hl with hl | hl
      · exact hbody.lines_feed hsw l hl
      · exact ih (fun s hs => hw s (List.mem_cons_of_mem r hs)) l hl

/-- **Parsing recovers what was written.** Whatever records are written one after another, and
whichever ends their lines are given, the patch of the text holds exactly these records. -/
theorem Patch.parse_written {rs : List FileChange} {out : List Line} {text : String}
    (hw : ∀ r ∈ rs, r.Writable) (hout : RecordsWritten rs out)
    (htext : Text.Written out text.toList) : Patch.parse text = .ok { files := rs } := by
  obtain ⟨read, hread, hlines⟩ := Text.lines_of_written htext (hout.lines_feed hw)
  obtain ⟨-, hrun⟩ := Parsing.run_records hout hw hread
  obtain ⟨p, hp, hfiles⟩ := hrun {} none rfl
  rw [Patch.parse_of_lines hlines hp, hfiles]
  simp [Parsing.files]

/-- A file without hunks and an added file with one are read back from lines with both kinds of
ends. -/
theorem Patch.parse_written_two :
    Patch.parse ("diff --git a/a b/a\r\n--- a/a\n+++ b/a\nnew file mode 100644\r\n" ++
      "diff --git a/c b/c\n--- /dev/null\n+++ b/c\n@@ -0,0 +1,1 @@ f\r\n+x") =
      .ok { files := [
        { oldPath := "a", newPath := "a" },
        { oldPath := "/dev/null", newPath := "c", status := .added, additions := some 1,
          hunks := some [⟨0, 0, 1, 1, ["+x"], "f"⟩] }] } := by
  refine parse_written ?_ (.cons .nil (.cons (.cons (.line "+x" .nil) .nil) .nil)) ?_
  · refine List.forall_mem_cons.2 ⟨?_, List.forall_mem_cons.2 ⟨?_, nofun⟩⟩
    · exact ⟨by decide, by decide, by decide, by decide, by decide, by decide, nofun, nofun,
        [], rfl, nofun, rfl, rfl⟩
    · refine ⟨by decide, by decide, by decide, by decide, by decide, by decide, fun _ => rfl, nofun,
        _, rfl, List.forall_mem_cons.2 ⟨?_, nofun⟩, by decide, by decide⟩
      exact ⟨by decide, by decide, by decide, by decide, by decide, by decide⟩
  · have hwritten := Text.Written.returnFeed (l := "diff --git a/a b/a".toList) <|
      .feed (l := "--- a/a".toList) <| .feed (l := "+++ b/a".toList) <|
      .returnFeed (l := "new file mode 100644".toList) <|
      .feed (l := "diff --git a/c b/c".toList) <| .feed (l := "--- /dev/null".toList) <|
      .feed (l := "+++ b/c".toList) <| .returnFeed (l := "@@ -0,0 +1,1 @@ f".toList) <|
      .last "+x".toList
    exact Eq.mp (congrArg₂ Text.Written (by decide +kernel) (by simp)) hwritten

end PatchTriage
