import PatchTriage.Proofs.Patch.Filling
import PatchTriage.Proofs.Text.Decimal
import PatchTriage.Proofs.Text.Written

/-!
# Writing a patch

How the records of a patch are written down. A record is its file header with the lines that mark
its status and name its sides (`FileChange.preamble`), and then its hunks, each a header line with
the lines of its body; among these may stand any number of notices that the last line has no end
(`BodyWritten`, `HunksWritten`, `RecordsWritten`). `FileChange.Writable` says which records keep
their content when they are written, and `HunksWritten.hunksOf` that the hunks are read back.
-/

namespace PatchTriage

open Text (decimal Reads)

/-! ## The lines of a record -/

/-- The mark of an added file, which stands in front of its header. -/
def newFileMode : Line := "new file mode 100644".toList

/-- The mark of a deleted file, which stands right behind its header. -/
def deletedFileMode : Line := "deleted file mode 100644".toList

/-- The first mark of a renamed file. -/
def sameContent : Line := "similarity index 100%".toList

/-- The mark of a renamed file that names where it comes from. -/
def renameFrom (path : Line) : Line := "rename from ".toList ++ path

/-- The mark of a renamed file that names where it goes. -/
def renameTo (path : Line) : Line := "rename to ".toList ++ path

/-- The name of the old side. -/
def oldSide (path : Line) : Line := "--- a/".toList ++ path

/-- The name of the new side. -/
def newSide (path : Line) : Line := "+++ b/".toList ++ path

/-- The name of an old side that is missing. -/
def noOldSide : Line := "--- /dev/null".toList

/-- The name of a new side that is missing. -/
def noNewSide : Line := "+++ /dev/null".toList

/-- The notice that the line in front of it has no end. -/
def noFinalFeed : Line := "\\ No newline at end of file".toList

namespace Hunk

/-- The header of a hunk with both counts. -/
def writtenHeader (h : Hunk) : HunkHeader where
  oldStart := decimal h.oldStart.toNat
  oldCount := some (decimal h.oldCount.toNat)
  newStart := decimal h.newStart.toNat
  newCount := some (decimal h.newCount.toNat)
  rest := ' ' :: h.header.toList

/-- The line that opens a hunk. -/
def headerLine (h : Hunk) : Line := h.writtenHeader.text

/-- The numbers in the header of a hunk. -/
def numbers (h : Hunk) : List Int := [h.oldStart, h.oldCount, h.newStart, h.newCount]

/-- Whether a hunk keeps its content when it is written. -/
structure Writable (h : Hunk) : Prop where
  numbers : ∀ n ∈ h.numbers, 0 ≤ n ∧ (decimal n.toNat).length ≤ maxNumeralDigits
  header_feed : '\n' ∉ h.header.toList
  header_trim : Text.trim h.header.toList = h.header.toList
  lines_body : ∀ l ∈ h.lines, IsBodyLine l.toList
  lines_feed : ∀ l ∈ h.lines, '\n' ∉ l.toList
  lines_return : ∀ l ∈ h.lines, l.toList.getLast? ≠ some '\r'

end Hunk

/-- The lines of a hunk as they are written, with any number of notices among them. -/
inductive BodyWritten : List String → List Line → Prop
  | nil : BodyWritten [] []
  | line (l : String) {ls : List String} {out : List Line} :
      BodyWritten ls out → BodyWritten (l :: ls) (l.toList :: out)
  | notice {ls : List String} {out : List Line} :
      BodyWritten ls out → BodyWritten ls (noFinalFeed :: out)

/-- The hunks of a file as they are written. -/
inductive HunksWritten : List Hunk → List Line → Prop
  | nil : HunksWritten [] []
  | cons {h : Hunk} {hs : List Hunk} {body out : List Line} :
      BodyWritten h.lines body → HunksWritten hs out →
        HunksWritten (h :: hs) (h.headerLine :: (body ++ out))

/-- What stands between the file header of a record and its hunks. -/
def GitHeader.marks (h : GitHeader) : FileStatus → List Line
  | .added => [noOldSide, newSide h.newPath]
  | .deleted => [deletedFileMode, oldSide h.oldPath, noNewSide]
  | .modified => [oldSide h.oldPath, newSide h.newPath]
  | .renamed =>
    [sameContent, renameFrom h.oldPath, renameTo h.newPath, oldSide h.oldPath, newSide h.newPath]

namespace FileChange

/-- The file header of a record. A side that is missing goes by the name of the other one. -/
def gitHeader (r : FileChange) : GitHeader where
  oldPath := (if r.status = .added then r.newPath else r.oldPath).toList
  newPath := (if r.status = .deleted then r.oldPath else r.newPath).toList

/-- What stands in front of the file header of a record. -/
def front (r : FileChange) : List Line := if r.status = .added then [newFileMode] else []

/-- The lines of a record before its hunks. -/
def preamble (r : FileChange) : List Line :=
  r.front ++ r.gitHeader.text :: r.gitHeader.marks r.status

/-- Whether a record keeps its content when it is written. -/
structure Writable (r : FileChange) : Prop where
  old_ne : r.gitHeader.oldPath ≠ []
  new_ne : r.gitHeader.newPath ≠ []
  old_feed : '\n' ∉ r.gitHeader.oldPath
  new_feed : '\n' ∉ r.gitHeader.newPath
  old_separator : ¬" b/".toList <:+: r.gitHeader.oldPath
  new_return : r.gitHeader.newPath.getLast? ≠ some '\r'
  /-- A file that is added has no old side. -/
  added : r.status = .added → r.oldPath = devNull
  /-- A file that is deleted has no new side. -/
  deleted : r.status = .deleted → r.newPath = devNull
  hunks : ∃ hs, r.hunks = some hs ∧ (∀ h ∈ hs, h.Writable) ∧
    r.additions = some ((storedLines hs).countP isAddition : Nat) ∧
    r.deletions = some ((storedLines hs).countP isDeletion : Nat)

end FileChange

/-- The records of a patch as they are written, one after another. -/
inductive RecordsWritten : List FileChange → List Line → Prop
  | nil : RecordsWritten [] []
  | cons {r : FileChange} {rs : List FileChange} {body out : List Line} :
      HunksWritten (r.hunks.getD []) body → RecordsWritten rs out →
        RecordsWritten (r :: rs) (r.preamble ++ (body ++ out))

/-! ## What lines are not -/

/-- Whether a line means nothing behind a file header: it is no header, and belongs to no body. -/
def IsInert (line : Line) : Prop :=
  ¬IsFileHeader line ∧ ¬IsHunkHeader line ∧ ¬IsBodyLine line

instance (line : Line) : Decidable (IsInert line) := by
  unfold IsInert
  infer_instance

/-- A line that starts with a letter that starts no header is inert. -/
theorem isInert_of_head? {line : Line} {c : Char} (h : line.head? = some c)
    (hc : c ∉ ['d', '@', '+', '-', ' ']) : IsInert line := by
  simp only [List.mem_cons, List.not_mem_nil, or_false, not_or] at hc
  obtain ⟨hd, hat, hplus, hminus, hblank⟩ := hc
  refine ⟨fun hf => hd ?_, fun hh => hat ?_, fun hb => ?_⟩
  · exact Option.some.inj (h.symm.trans hf.head?)
  · exact Option.some.inj (h.symm.trans hh.head?)
  · rcases hb.head? with hb | hb | hb
    · exact hplus (Option.some.inj (h.symm.trans hb))
    · exact hminus (Option.some.inj (h.symm.trans hb))
    · exact hblank (Option.some.inj (h.symm.trans hb))

/-- The name of an old side is inert. -/
theorem isInert_oldSide (path : Line) : IsInert (oldSide path) := by
  refine ⟨fun hf => ?_, fun hh => ?_, fun hb => hb.2.2 rfl⟩
  · cases hf.head?
  · cases hh.head?

/-- The name of a new side is inert. -/
theorem isInert_newSide (path : Line) : IsInert (newSide path) := by
  refine ⟨fun hf => ?_, fun hh => ?_, fun hb => hb.2.1 rfl⟩
  · cases hf.head?
  · cases hh.head?

/-- The line that tells the old name of a renamed file is inert. -/
theorem isInert_renameFrom (path : Line) : IsInert (renameFrom path) :=
  isInert_of_head? (c := 'r') rfl (by decide)

/-- So is the one that tells its new name. -/
theorem isInert_renameTo (path : Line) : IsInert (renameTo path) :=
  isInert_of_head? (c := 'r') rfl (by decide)

/-- The line that tells of a new file is inert. -/
theorem isInert_newFileMode : IsInert newFileMode := by decide

/-- So is the one that tells of a deleted file. -/
theorem isInert_deletedFileMode : IsInert deletedFileMode := by decide

/-- The line that tells of the same content is inert. -/
theorem isInert_sameContent : IsInert sameContent := by decide

/-- The name that stands for a missing old side is inert. -/
theorem isInert_noOldSide : IsInert noOldSide := by decide

/-- So is the one for a missing new side. -/
theorem isInert_noNewSide : IsInert noNewSide := by decide

/-- A line that is inert has no numeral that could be too long. -/
theorem IsInert.readableLine {line : Line} (h : IsInert line) : ReadableLine line :=
  readableLine_of_not_header h.2.1

/-- What inert lines write is no hunk. -/
theorem hunksOf_append_of_isInert {ls : List Line} (h : ∀ l ∈ ls, IsInert l) (out : List Line) :
    hunksOf (ls ++ out) = hunksOf out := by
  rw [hunksOf, hunksOf, cut_append fun l hl => (h l hl).2.1]

/-! ## Single lines -/

/-- A file header is one line if its paths are. -/
theorem GitHeader.text_feed {h : GitHeader} (hold : '\n' ∉ h.oldPath) (hnew : '\n' ∉ h.newPath) :
    '\n' ∉ h.text :=
  List.not_mem_append (by decide) (List.not_mem_append hold (List.not_mem_append (by decide) hnew))

/-- The marks of a status are single lines if the paths are. -/
theorem GitHeader.marks_feed {h : GitHeader} (hold : '\n' ∉ h.oldPath) (hnew : '\n' ∉ h.newPath)
    (status : FileStatus) : ∀ l ∈ h.marks status, '\n' ∉ l := by
  have holdSide : '\n' ∉ oldSide h.oldPath := List.not_mem_append (by decide) hold
  have hnewSide : '\n' ∉ newSide h.newPath := List.not_mem_append (by decide) hnew
  cases status with
  | added => exact List.forall_mem_cons.2 ⟨by decide, by simpa using hnewSide⟩
  | deleted =>
    have hmissing : '\n' ∉ noNewSide := by decide
    exact List.forall_mem_cons.2 ⟨by decide, by simpa using ⟨holdSide, hmissing⟩⟩
  | modified => simpa [GitHeader.marks] using ⟨holdSide, hnewSide⟩
  | renamed =>
    have hsource : '\n' ∉ renameFrom h.oldPath := List.not_mem_append (by decide) hold
    have htarget : '\n' ∉ renameTo h.newPath := List.not_mem_append (by decide) hnew
    exact List.forall_mem_cons.2 ⟨by decide, by simpa using ⟨hsource, htarget, holdSide, hnewSide⟩⟩

/-- A numeral holds no line feed. -/
theorem HunkHeader.IsNumeral.feed {ds : Line} (h : IsNumeral ds) : '\n' ∉ ds := by
  intro hmem
  cases h.2 _ hmem

/-- The text of a range is within a line. -/
theorem HunkHeader.rangeText_feed {start : Line} {count : Option Line} (hs : IsNumeral start)
    (hc : ∀ ds ∈ count, IsNumeral ds) : '\n' ∉ rangeText start count := by
  cases count with
  | none => exact hs.feed
  | some ds =>
    have hds : '\n' ∉ ',' :: ds := by
      simpa using (hc ds rfl).feed
    exact List.not_mem_append hs.feed hds

/-- A hunk header is one line if the text behind its numbers is. -/
theorem HunkHeader.text_feed {h : HunkHeader} (hw : h.WellFormed) (hrest : '\n' ∉ h.rest) :
    '\n' ∉ h.text := by
  obtain ⟨⟨hos, hoc⟩, hns, hnc⟩ := wellFormed_iff.1 hw
  refine List.not_mem_append (by decide) (List.not_mem_append (rangeText_feed hos hoc) ?_)
  refine List.not_mem_append (by decide) (List.not_mem_append (rangeText_feed hns hnc) ?_)
  exact List.not_mem_append (by decide) hrest

/-! ## Hunks -/

namespace Hunk

/-- The decimal text of a number is a numeral. -/
theorem isNumeral_decimal (n : Nat) : HunkHeader.IsNumeral (decimal n) :=
  ⟨Text.decimal_ne_nil n, fun _ => Text.isDigit_of_mem_decimal⟩

/-- The header that is written for a hunk is well-formed. -/
theorem wellFormed_writtenHeader (h : Hunk) : h.writtenHeader.WellFormed := by
  simp [HunkHeader.WellFormed, HunkHeader.numerals, writtenHeader, isNumeral_decimal]

/-- The header of a hunk is read back from its line. -/
theorem read?_headerLine (h : Hunk) : HunkHeader.read? h.headerLine = some h.writtenHeader :=
  HunkHeader.read?_eq_some_iff.2 ⟨h.wellFormed_writtenHeader, rfl⟩

/-- The line that is written for it is a hunk header. -/
theorem isHunkHeader_headerLine (h : Hunk) : IsHunkHeader h.headerLine :=
  ⟨h.writtenHeader, h.wellFormed_writtenHeader, rfl⟩

/-- The numerals of a hunk that keeps its content are short enough. -/
theorem Writable.readable {h : Hunk} (hw : h.Writable) : h.writtenHeader.Readable := by
  intro ds hds
  have hnumber : ∃ n ∈ h.numbers, ds = decimal n.toNat := by
    simpa [HunkHeader.numerals, writtenHeader, Hunk.numbers] using hds
  obtain ⟨n, hn, rfl⟩ := hnumber
  exact (hw.numbers n hn).2

/-- A hunk that keeps its content is opened by its header line. -/
theorem Writable.hunk {h : Hunk} (hw : h.Writable) :
    h.writtenHeader.hunk = { h with lines := [] } := by
  have hvalue : ∀ n ∈ h.numbers, (Text.numeralValue (decimal n.toNat) : Int) = n := by
    intro n hn
    rw [Text.numeralValue_decimal]
    exact Int.toNat_of_nonneg (hw.numbers n hn).1
  simp only [Hunk.numbers, List.forall_mem_cons] at hvalue
  obtain ⟨hos, hoc, hns, hnc, -⟩ := hvalue
  have htrim : Text.trim (' ' :: h.header.toList) = h.header.toList := hw.header_trim
  simp only [HunkHeader.hunk, writtenHeader, Option.map_some, Option.getD_some, hos, hoc, hns, hnc,
    htrim, String.ofList_toList]

/-- The header line of a hunk that keeps its content does not end in a carriage return. -/
theorem Writable.headerLine_return {h : Hunk} (hw : h.Writable) :
    h.headerLine.getLast? ≠ some '\r' := by
  obtain ⟨front, hfront⟩ : ∃ front, h.headerLine = front ++ ' ' :: h.header.toList :=
    ⟨_, by simp only [headerLine, HunkHeader.text, ← List.append_assoc]; rfl⟩
  rw [hfront, List.getLast?_append_of_ne_nil _ (List.cons_ne_nil _ _), List.getLast?_cons]
  intro hlast
  cases hheader : h.header.toList.getLast? with
  | none =>
    rw [hheader] at hlast
    cases hlast
  | some c =>
    rw [hheader] at hlast
    obtain rfl : c = '\r' := Option.some.inj hlast
    rw [← hw.header_trim] at hheader
    cases Text.getLast?_trimBy hheader

/-- The header line of a hunk that keeps its content is one line. -/
theorem Writable.headerLine_feed {h : Hunk} (hw : h.Writable) : '\n' ∉ h.headerLine := by
  have hrest : '\n' ∉ ' ' :: h.header.toList := by
    simpa using hw.header_feed
  exact HunkHeader.text_feed h.wellFormed_writtenHeader hrest

end Hunk

/-- The body of a hunk keeps the lines that were written, and no notice. -/
theorem BodyWritten.bodyOf {ls : List String} {out : List Line} (h : BodyWritten ls out)
    (hls : ∀ l ∈ ls, IsBodyLine l.toList) : bodyOf out = ls := by
  induction h with
  | nil => rfl
  | @line l ls out _ ih =>
    have hl : IsBodyLine l.toList := hls l List.mem_cons_self
    have hout := ih fun m hm => hls m (List.mem_cons_of_mem l hm)
    rw [PatchTriage.bodyOf] at hout ⊢
    rw [List.filter_cons_of_pos (by simpa using hl), List.map_cons, hout, String.ofList_toList]
  | @notice ls out _ ih =>
    have hnotice : ¬IsBodyLine noFinalFeed := by decide
    rw [PatchTriage.bodyOf, List.filter_cons_of_neg (by simpa using hnotice)]
    exact ih hls

/-- A line that writes a body is a notice or one of the lines. -/
theorem BodyWritten.mem {ls : List String} {out : List Line} (h : BodyWritten ls out) {line : Line}
    (hline : line ∈ out) : line = noFinalFeed ∨ ∃ l ∈ ls, line = l.toList := by
  induction h with
  | nil => cases hline
  | @line l ls out _ ih =>
    rcases List.mem_cons.1 hline with rfl | hline
    · exact .inr ⟨l, List.mem_cons_self, rfl⟩
    · exact (ih hline).imp_right fun ⟨m, hm, he⟩ => ⟨m, List.mem_cons_of_mem l hm, he⟩
  | notice _ ih => exact (List.mem_cons.1 hline).elim .inl ih

namespace HunksWritten

variable {hs : List Hunk} {out : List Line}

/-- What holds of notices, of header lines and of the lines of bodies holds of every line that
writes hunks. -/
theorem forall_mem {P : Line → Prop} (h : HunksWritten hs out) (hnotice : P noFinalFeed)
    (hheader : ∀ h ∈ hs, P h.headerLine) (hbody : ∀ h ∈ hs, ∀ l ∈ h.lines, P l.toList) :
    ∀ line ∈ out, P line := by
  induction h with
  | nil => exact nofun
  | @cons h hs body out hb _ ih =>
    intro line hline
    rcases List.mem_cons.1 hline with rfl | hline
    · exact hheader h List.mem_cons_self
    · rcases List.mem_append.1 hline with hline | hline
      · rcases hb.mem hline with rfl | ⟨l, hl, rfl⟩
        · exact hnotice
        · exact hbody h List.mem_cons_self l hl
      · exact ih (fun g hg => hheader g (List.mem_cons_of_mem h hg))
          (fun g hg => hbody g (List.mem_cons_of_mem h hg)) line hline

variable (hw : ∀ h ∈ hs, h.Writable)
include hw

/-- The lines of hunks do not end in carriage returns. -/
theorem lines_return (h : HunksWritten hs out) : ∀ line ∈ out, line.getLast? ≠ some '\r' :=
  h.forall_mem (by decide) (fun g hg => (hw g hg).headerLine_return)
    fun g hg => (hw g hg).lines_return

/-- The lines of hunks are single lines. -/
theorem lines_feed (h : HunksWritten hs out) : ∀ line ∈ out, '\n' ∉ line :=
  h.forall_mem (by decide) (fun g hg => (hw g hg).headerLine_feed) fun g hg => (hw g hg).lines_feed

/-- The lines of hunks are told by their first character. -/
theorem head?_mem (h : HunksWritten hs out) :
    ∀ line ∈ out, ∃ c ∈ ['@', '+', '-', ' ', '\\'], line.head? = some c := by
  refine h.forall_mem ⟨'\\', by decide, rfl⟩ (fun g _ => ⟨'@', by decide, rfl⟩) fun g hg l hl => ?_
  rcases ((hw g hg).lines_body l hl).head? with hc | hc | hc
  · exact ⟨'+', by decide, hc⟩
  · exact ⟨'-', by decide, hc⟩
  · exact ⟨' ', by decide, hc⟩

/-- The header lines of hunks that keep their content are readable, and no other line of them
is a header. -/
theorem readableLine (h : HunksWritten hs out) : ∀ line ∈ out, ReadableLine line := by
  refine h.forall_mem (IsInert.readableLine (by decide)) (fun g hg header hr => ?_)
    fun g hg l hl => readableLine_of_not_header ((hw g hg).lines_body l hl).not_isHunkHeader
  rw [g.read?_headerLine] at hr
  cases hr
  exact (hw g hg).readable

/-- **Hunks are read back.** Behind their own header lines, all lines of hunks belong to the hunk
they were written for. -/
theorem hunksOf (h : HunksWritten hs out) :
    (cut IsHunkHeader out).1 = [] ∧ PatchTriage.hunksOf out = hs := by
  induction h with
  | nil => exact ⟨rfl, rfl⟩
  | @cons h hs body out hb _ ih =>
    have hh : h.Writable := hw h List.mem_cons_self
    obtain ⟨hfirst, hrest⟩ := ih fun g hg => hw g (List.mem_cons_of_mem h hg)
    have hbody : ∀ line ∈ body, ¬IsHunkHeader line := by
      intro line hline
      rcases hb.mem hline with rfl | ⟨l, hl, rfl⟩
      · decide
      · exact (hh.lines_body l hl).not_isHunkHeader
    have hcut : cut IsHunkHeader (h.headerLine :: (body ++ out)) =
        ([], (h.headerLine, body) :: (cut IsHunkHeader out).2) := by
      rw [cut_cons_of_head h.isHunkHeader_headerLine, cut_append hbody, hfirst, List.append_nil]
    have hhunk : hunkOf (h.headerLine, body) = h := by
      simp only [hunkOf, hunkAt_of_read? h.read?_headerLine, hh.hunk, hb.bodyOf hh.lines_body]
    refine ⟨by rw [hcut], ?_⟩
    rw [PatchTriage.hunksOf] at hrest ⊢
    rw [hcut, List.map_cons, hhunk, hrest]

end HunksWritten

end PatchTriage
