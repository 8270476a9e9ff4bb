import PatchTriage.Patch.Totals
import PatchTriage.Proofs.Patch.Pass

/-!
# Segments of a diff

What the pass over the lines of a diff comes to, told by the positions of the lines alone. Some
lines open a file (`openers`): all file headers, and before the first of them at most one line that
names the only side of a file. Behind it the file has the lines up to the next file header
(`segment`). The hunk headers among these open its hunks, and each hunk keeps the lines of the body
up to the next header of either kind (`hunkFrom`).

`Patch.parse_eq_segments` says that the files of a patch are the files of its segments, and that
the lines which they keep are, in their order, the lines of the text that stand in the body of a
hunk (`StoredAt`): none is lost, none is kept twice, and none is made up.
-/

namespace PatchTriage

section
variable (L : List Line)

/-! ## Lines by their positions -/

/-- The line at a position. Behind the last line there are only empty ones. -/
def lineAt (i : Nat) : Line := L.getD i []

/-- Whether a file header stands at a position. -/
def FileHeaderAt (i : Nat) : Prop := IsFileHeader (lineAt L i)

/-- Whether a hunk header stands at a position. -/
def HunkHeaderAt (i : Nat) : Prop := IsHunkHeader (lineAt L i)

/-- Whether a line at a position belongs to the body of a hunk, if there is one. -/
def BodyAt (i : Nat) : Prop := IsBodyLine (lineAt L i)

/-- Whether a line at a position names the only side of a file: the new side, or an old one where
the next line says that the new side is missing. -/
def SideNameAt (i : Nat) : Prop :=
  (∃ path, path ≠ [] ∧ lineAt L i = "+++ b/".toList ++ path) ∨
    (∃ path, path ≠ [] ∧ lineAt L i = "--- a/".toList ++ path) ∧
      Text.startsWith (lineAt L (i + 1)) "+++ /dev/null" = true

end

instance (L : List Line) : DecidablePred (FileHeaderAt L) := fun i =>
  inferInstanceAs (Decidable (IsFileHeader (lineAt L i)))

instance (L : List Line) : DecidablePred (HunkHeaderAt L) := fun i =>
  inferInstanceAs (Decidable (IsHunkHeader (lineAt L i)))

instance (L : List Line) : DecidablePred (BodyAt L) := fun i =>
  inferInstanceAs (Decidable (IsBodyLine (lineAt L i)))

/-- A file is opened without a header by the lines that name its only side. -/
theorem Draft.isSome_ofSideName?_iff {line : Line} {after : List Line} :
    (Draft.ofSideName? line after).isSome = true ↔
      (∃ path, path ≠ [] ∧ line = "+++ b/".toList ++ path) ∨
        (∃ path, path ≠ [] ∧ line = "--- a/".toList ++ path) ∧
          after.head?.any (Text.startsWith · "+++ /dev/null") = true := by
  have hnew (path : Line) : Text.after? line "+++ b/" = some path ↔
      line = "+++ b/".toList ++ path := Text.after?_eq_some_iff
  have hold (path : Line) : Text.after? line "--- a/" = some path ↔
      line = "--- a/".toList ++ path := Text.after?_eq_some_iff
  simp only [← hnew, ← hold]
  unfold Draft.ofSideName?
  cases hside : Text.after? line "+++ b/" with
  | some path =>
    have hother : Text.after? line "--- a/" = none := by
      rw [(hnew path).1 hside]
      rfl
    cases path with
    | nil => simp [hother]
    | cons c path => simp
  | none =>
    cases Text.after? line "--- a/" with
    | none => simp
    | some path =>
      cases path with
      | nil => simp
      | cons c path =>
        by_cases h : after.head?.any (Text.startsWith · "+++ /dev/null") = true
        · simp [h]
        · simp [h]

section
variable {L : List Line}

/-- The line at a place within the text is the one that is listed there. -/
theorem lineAt_of_lt {i : Nat} (h : i < L.length) : lineAt L i = L[i] := by
  rw [lineAt, List.getD_eq_getElem?_getD, List.getElem?_eq_getElem h, Option.getD_some]

/-- What remains from a place on begins with its line. -/
theorem drop_of_lt {i : Nat} (h : i < L.length) : L.drop i = lineAt L i :: L.drop (i + 1) := by
  rw [List.drop_eq_getElem_cons h, lineAt_of_lt h]

/-- What stands up to a place ends with its line. -/
theorem getLast?_take_succ {i : Nat} (h : i < L.length) :
    (L.take (i + 1)).getLast? = some (lineAt L i) := by
  rw [lineAt_of_lt h, List.take_add_one, List.getElem?_eq_getElem h, Option.toList_some,
    List.getLast?_concat]

/-- The line behind a position is looked at through what remains of the text. -/
theorem isSome_ofSideName?_iff_sideNameAt {i : Nat} :
    (Draft.ofSideName? (lineAt L i) (L.drop (i + 1))).isSome = true ↔ SideNameAt L i := by
  have hnext : (L.drop (i + 1)).head?.any (Text.startsWith · "+++ /dev/null") =
      Text.startsWith (lineAt L (i + 1)) "+++ /dev/null" := by
    rw [List.head?_drop, lineAt, List.getD_eq_getElem?_getD]
    cases L[i + 1]? with
    | none => rfl
    | some line => rfl
  rw [Draft.isSome_ofSideName?_iff, hnext]
  rfl

/-- Where a file is named by a side, there is the name of a side. -/
theorem sideNameAt_of_eq_some {i : Nat} {d : Draft}
    (h : Draft.ofSideName? (lineAt L i) (L.drop (i + 1)) = some d) : SideNameAt L i := by
  rw [← isSome_ofSideName?_iff_sideNameAt, h]
  rfl

/-- Where none is, there is no such name. -/
theorem not_sideNameAt_of_eq_none {i : Nat}
    (h : Draft.ofSideName? (lineAt L i) (L.drop (i + 1)) = none) : ¬SideNameAt L i := by
  rw [← isSome_ofSideName?_iff_sideNameAt, h]
  exact Bool.false_ne_true

instance (L : List Line) : DecidablePred (SideNameAt L) := fun _ =>
  decidable_of_iff _ isSome_ofSideName?_iff_sideNameAt

end

/-! ## Segments -/

section
variable (L : List Line)

/-- The positions from `k` on that open a file: the first line that names the only side of a file,
if it stands before all file headers, and all file headers. -/
def openersFrom (k : Nat) : List Nat :=
  ((upTo (FileHeaderAt L) k L.length).find? fun i => SideNameAt L i).toList ++
    (positions k L.length).filter fun i => FileHeaderAt L i

/-- The positions that open a file. -/
def openers : List Nat := openersFrom L 0

/-- The positions behind one up to the next file header. -/
def segment (o : Nat) : List Nat := upTo (FileHeaderAt L) (o + 1) L.length

/-- The positions behind one up to the next header of either kind. -/
def hunkBody (h : Nat) : List Nat :=
  upTo (fun i => FileHeaderAt L i ∨ HunkHeaderAt L i) (h + 1) L.length

/-- The line at a position as a hunk stores it. -/
def stored (i : Nat) : String := String.ofList (lineAt L i)

/-- The hunk that a position opens. -/
def hunkFrom (h : Nat) : Hunk :=
  { hunkAt (lineAt L h) with lines := ((hunkBody L h).filter fun i => BodyAt L i).map (stored L) }

/-- The sides and the status of the file that a position opens. -/
def draftAt (o : Nat) : Draft :=
  match GitHeader.read? (lineAt L o) with
  | some h => .ofGitHeader h (.near (L.take o).getLast? (L.drop (o + 1)))
  | none =>
    match Draft.ofSideName? (lineAt L o) (L.drop (o + 1)) with
    | some d => d
    | none => { oldPath := [], newPath := [], status := .modified }

/-- The file that a position opens, with the hunks of its segment. -/
def fileAt (o : Nat) : FileChange :=
  (draftAt L o).fileOf (((segment L o).filter fun h => HunkHeaderAt L h).map (hunkFrom L))

/-- Whether the line at a position is stored: it belongs to the body of a hunk, and has a hunk
header of the same segment before it. -/
def StoredAt (i : Nat) : Prop :=
  BodyAt L i ∧ ∃ o ∈ openers L, i ∈ segment L o ∧ ∃ h ∈ segment L o, h < i ∧ HunkHeaderAt L h

instance : DecidablePred (StoredAt L) := fun i => by
  unfold StoredAt
  infer_instance

end

section
variable {L : List Line}

/-! ## Openers and segments -/

/-- Behind the text there are no openers. -/
theorem openersFrom_of_le {k : Nat} (hk : L.length ≤ k) : openersFrom L k = [] := by
  rw [openersFrom, upTo_of_le hk, positions_of_le hk]
  rfl

/-- The first position that opens a file is followed by file headers only. -/
theorem openersFrom_of_opener {k : Nat} (hk : k < L.length)
    (h : FileHeaderAt L k ∨ SideNameAt L k) :
    openersFrom L k = k :: (positions (k + 1) L.length).filter fun o => FileHeaderAt L o := by
  rw [openersFrom, positions_of_lt hk]
  by_cases hf : FileHeaderAt L k
  · rw [upTo_of_head hf, List.filter_cons_of_pos (by simpa using hf)]
    rfl
  · have hs : SideNameAt L k := h.resolve_left hf
    rw [upTo_of_not_head hk hf, List.find?_cons_of_pos (by simpa using hs),
      List.filter_cons_of_neg (by simpa using hf)]
    rfl

/-- A line that opens nothing is passed over. -/
theorem openersFrom_of_not_opener {k : Nat} (hk : k < L.length)
    (h : ¬(FileHeaderAt L k ∨ SideNameAt L k)) : openersFrom L k = openersFrom L (k + 1) := by
  obtain ⟨hf, hs⟩ := not_or.1 h
  rw [openersFrom, openersFrom, positions_of_lt hk, upTo_of_not_head hk hf,
    List.find?_cons_of_neg (by simpa using hs), List.filter_cons_of_neg (by simpa using hf)]

/-- A file header begins the file that it names, with the status of the lines around it. -/
theorem draftAt_of_header {o : Nat} {header : GitHeader}
    (hr : GitHeader.read? (lineAt L o) = some header) :
    draftAt L o = .ofGitHeader header (.near (L.take o).getLast? (L.drop (o + 1))) := by
  rw [draftAt, hr]

/-- The name of a side begins the file that it names where no header stands. -/
theorem draftAt_of_sideName {o : Nat} {d : Draft} (hf : ¬FileHeaderAt L o)
    (hd : Draft.ofSideName? (lineAt L o) (L.drop (o + 1)) = some d) : draftAt L o = d := by
  rw [draftAt, GitHeader.read?_eq_none hf, hd]

/-! ## The hunks of a segment -/

/-- What lines at positions write is what the hunk headers among the positions open. -/
theorem hunksOf_segment (o : Nat) :
    hunksOf ((segment L o).map (lineAt L)) =
      ((segment L o).filter fun h => HunkHeaderAt L h).map (hunkFrom L) := by
  have hbody (h : Nat) : hunkOf (lineAt L h, (hunkBody L h).map (lineAt L)) = hunkFrom L h := by
    rw [hunkOf, bodyOf, List.filter_map, List.map_map]
    rfl
  have hcut : cut (fun i => IsHunkHeader (lineAt L i)) (segment L o) =
      (hunkBody L o, ((segment L o).filter fun h => HunkHeaderAt L h).map fun h =>
        (h, hunkBody L h)) := cut_upTo (HunkHeaderAt L) (o + 1) L.length
  rw [hunksOf, cut_map, hcut, List.map_map, List.map_map]
  exact List.map_congr_left fun h _ => hbody h

/-- A file that was opened at a position and filled with the lines of its segment is the file at
that position. -/
theorem finish_eq_fileAt {o : Nat} {d : Draft}
    (h : (draftAt L o).fill ((segment L o).map (lineAt L)) = .ok d) : d.finish = fileAt L o := by
  have hfresh : (draftAt L o).IsFresh := by
    rw [draftAt]
    split
    · exact Draft.isFresh_ofGitHeader _ _
    · split
      · next hd => exact Draft.isFresh_ofSideName? hd
      · exact ⟨rfl, rfl, rfl⟩
  rw [Draft.finish_fill hfresh h, hunksOf_segment, fileAt]

/-! ## The pass over the positions -/

namespace Parsing

/-- With an open file, the lines up to the next file header fill it, and every file header behind
them opens another one. -/
theorem files_of_open {k : Nat} {finished : List FileChange} {d : Draft} {p : Parsing}
    (h : run { finished := finished, current := some d } (L.take k).getLast? (L.drop k) = .ok p) :
    ∃ d', d.fill ((upTo (FileHeaderAt L) k L.length).map (lineAt L)) = .ok d' ∧
      p.files.reverse = finished.reverse ++ d'.finish ::
        ((positions k L.length).filter fun o => FileHeaderAt L o).map (fileAt L) := by
  induction k using positions_induction (n := L.length) generalizing finished d with
  | stop k hk =>
    rw [List.drop_of_length_le hk] at h
    cases h
    refine ⟨d, by rw [upTo_of_le hk]; rfl, ?_⟩
    rw [positions_of_le hk]
    simp
  | step k hk ih =>
    rw [drop_of_lt hk] at h
    by_cases hf : FileHeaderAt L k
    · obtain ⟨header, hr⟩ := hf.exists_read?
      rw [run_header hr, ← draftAt_of_header hr, ← getLast?_take_succ hk] at h
      obtain ⟨d', hfill, hfiles⟩ := ih h
      refine ⟨d, by rw [upTo_of_head hf]; rfl, ?_⟩
      rw [hfiles, finish_eq_fileAt hfill, positions_of_lt hk,
        List.filter_cons_of_pos (by simpa using hf)]
      simp
    · rw [run, step_open hf] at h
      cases hadd : d.addLine (lineAt L k) with
      | error e =>
        rw [hadd] at h
        cases h
      | ok d₁ =>
        rw [hadd, ← getLast?_take_succ hk] at h
        obtain ⟨d', hfill, hfiles⟩ := ih h
        refine ⟨d', ?_, ?_⟩
        · rw [upTo_of_not_head hk hf, List.map_cons, Draft.fill, hadd]
          exact hfill
        · rw [hfiles, positions_of_lt hk, List.filter_cons_of_neg (by simpa using hf)]

/-- Before any file is open, the first line that opens one decides. -/
theorem files_of_none {k : Nat} {p : Parsing}
    (h : run {} (L.take k).getLast? (L.drop k) = .ok p) :
    p.files.reverse = (openersFrom L k).map (fileAt L) := by
  induction k using positions_induction (n := L.length) with
  | stop k hk =>
    rw [List.drop_of_length_le hk] at h
    cases h
    rw [openersFrom_of_le hk]
    rfl
  | step k hk ih =>
    rw [drop_of_lt hk] at h
    by_cases hf : FileHeaderAt L k
    · obtain ⟨header, hr⟩ := hf.exists_read?
      rw [run_header hr, ← draftAt_of_header hr, ← getLast?_take_succ hk] at h
      obtain ⟨d', hfill, hfiles⟩ := files_of_open h
      rw [hfiles, finish_eq_fileAt hfill, openersFrom_of_opener hk (.inl hf)]
      rfl
    · rw [run, step_none hf] at h
      dsimp only at h
      rw [← getLast?_take_succ hk] at h
      cases hside : Draft.ofSideName? (lineAt L k) (L.drop (k + 1)) with
      | none =>
        have hs : ¬SideNameAt L k := not_sideNameAt_of_eq_none hside
        rw [hside] at h
        rw [ih h, openersFrom_of_not_opener hk (not_or.2 ⟨hf, hs⟩)]
      | some d =>
        have hs : SideNameAt L k := sideNameAt_of_eq_some hside
        rw [hside, ← draftAt_of_sideName hf hside] at h
        obtain ⟨d', hfill, hfiles⟩ := files_of_open h
        rw [hfiles, finish_eq_fileAt hfill, openersFrom_of_opener hk (.inr hs)]
        rfl

end Parsing

/-! ## What is stored -/

/-- All positions are those before the first opener and those of the segments. -/
theorem positions_eq_append (k : Nat) :
    ∃ pre, positions k L.length = pre ++ (openersFrom L k).flatMap (fun o => o :: segment L o) ∧
      (∀ i ∈ pre, ∀ o ∈ openersFrom L k, i < o) ∧ ∀ o ∈ openersFrom L k, k ≤ o := by
  induction k using positions_induction (n := L.length) with
  | stop k hk =>
    exact ⟨[], by rw [positions_of_le hk, openersFrom_of_le hk]; rfl, nofun,
      by rw [openersFrom_of_le hk]; nofun⟩
  | step k hk ih =>
    by_cases h : FileHeaderAt L k ∨ SideNameAt L k
    · refine ⟨[], ?_, nofun, ?_⟩
      · have hrest := flatten_cut (p := FileHeaderAt L) (positions (k + 1) L.length)
        rw [cut_positions, List.flatMap_map] at hrest
        rw [openersFrom_of_opener hk h, List.flatMap_cons, List.nil_append, List.cons_append,
          positions_of_lt hk]
        exact congrArg (k :: ·) hrest.symm
      · rw [openersFrom_of_opener hk h]
        intro o ho
        rcases List.mem_cons.1 ho with rfl | ho
        · exact Nat.le_refl o
        · have := (mem_positions.1 (List.mem_filter.1 ho).1).1
          omega
    · obtain ⟨pre, hpre, hbefore, hfrom⟩ := ih
      rw [openersFrom_of_not_opener hk h]
      refine ⟨k :: pre, by rw [positions_of_lt hk, hpre]; rfl, fun i hi o ho => ?_, fun o ho => ?_⟩
      · rcases List.mem_cons.1 hi with rfl | hi
        · exact hfrom o ho
        · exact hbefore i hi o ho
      · exact Nat.le_of_succ_le (hfrom o ho)

/-- The segment of an opener goes up to the next file header. -/
theorem mem_segment {i o : Nat} :
    i ∈ segment L o ↔ o < i ∧ i < L.length ∧ ∀ j, o < j → j ≤ i → ¬FileHeaderAt L j := mem_upTo

/-- A position that opens a file either is a file header or stands before all of them. -/
theorem mem_openers {o : Nat} (h : o ∈ openers L) :
    FileHeaderAt L o ∨ (SideNameAt L o ∧ (∀ j ≤ o, ¬FileHeaderAt L j) ∧
      (upTo (FileHeaderAt L) 0 L.length).find? (fun i => SideNameAt L i) = some o) := by
  rcases List.mem_append.1 h with h | h
  · have hfind := Option.mem_toList.1 h
    have hs := List.find?_some hfind
    have hbefore := (mem_upTo.1 (List.mem_of_find?_eq_some hfind)).2.2
    exact .inr ⟨by simpa using hs, fun j hj => hbefore j (Nat.zero_le j) hj, hfind⟩
  · exact .inl (by simpa using (List.mem_filter.1 h).2)

/-- No position is in two segments. -/
theorem segment_unique {i o o' : Nat} (ho : o ∈ openers L) (ho' : o' ∈ openers L)
    (hi : i ∈ segment L o) (hi' : i ∈ segment L o') : o = o' := by
  have hnot {a b : Nat} (ha : a ∈ openers L) (hb : b ∈ openers L) (hia : i ∈ segment L a)
      (hib : i ∈ segment L b) : ¬a < b := by
    intro hab
    have hheader : ¬FileHeaderAt L b :=
      (mem_segment.1 hia).2.2 b hab (Nat.le_of_lt (mem_segment.1 hib).1)
    obtain ⟨-, hbefore, hfind⟩ := (mem_openers hb).resolve_left hheader
    obtain ⟨-, -, hfind'⟩ := (mem_openers ha).resolve_left (hbefore a (Nat.le_of_lt hab))
    exact Nat.ne_of_lt hab (Option.some.inj (hfind'.symm.trans hfind))
  exact Nat.le_antisymm (Nat.le_of_not_lt (hnot ho' ho hi' hi))
    (Nat.le_of_not_lt (hnot ho ho' hi hi'))

/-- In a segment, the lines of the body behind the first hunk header are stored. -/
theorem storedAt_iff {i o : Nat} (ho : o ∈ openers L) (hi : i ∈ segment L o) :
    StoredAt L i ↔ BodyAt L i ∧ ∃ h ∈ segment L o, h < i ∧ HunkHeaderAt L h := by
  constructor
  · rintro ⟨hb, o', ho', hi', hh⟩
    obtain rfl := segment_unique ho ho' hi hi'
    exact ⟨hb, hh⟩
  · rintro ⟨hb, hh⟩
    exact ⟨hb, o, ho, hi, hh⟩

/-- The body of a hunk goes up to the next header. -/
theorem mem_hunkBody {h i : Nat} :
    i ∈ hunkBody L h ↔ h < i ∧ i < L.length ∧
      ∀ j, h < j → j ≤ i → ¬(FileHeaderAt L j ∨ HunkHeaderAt L j) := mem_upTo

/-- What is stored of a segment is stored hunk by hunk. -/
theorem filter_segment {o : Nat} (ho : o ∈ openers L) :
    (segment L o).filter (fun i => StoredAt L i) =
      ((segment L o).filter fun h => HunkHeaderAt L h).flatMap fun h =>
        (hunkBody L h).filter fun i => BodyAt L i := by
  have hcut := flatten_cut (p := HunkHeaderAt L) (segment L o)
  rw [segment, cut_upTo, List.flatMap_map] at hcut
  refine (congrArg (List.filter _) hcut.symm).trans (filter_append_flatMap ?_ ?_ ?_)
  · intro i hi
    obtain ⟨hoi, hin, hno⟩ := mem_hunkBody.1 hi
    have hseg : i ∈ segment L o :=
      mem_segment.2 ⟨hoi, hin, fun j hoj hji hf => hno j hoj hji (.inl hf)⟩
    rw [decide_eq_false_iff_not, storedAt_iff ho hseg]
    rintro ⟨-, h, hh, hhi, hhunk⟩
    exact hno h (mem_segment.1 hh).1 (Nat.le_of_lt hhi) (.inr hhunk)
  · intro h hh
    have hhunk : HunkHeaderAt L h := by simpa using (List.mem_filter.1 hh).2
    rw [decide_eq_false_iff_not]
    exact fun hs => IsBodyLine.not_isHunkHeader hs.1 hhunk
  · intro h hh
    obtain ⟨hseg, hhunk⟩ := List.mem_filter.1 hh
    obtain ⟨hoh, -, hno⟩ := mem_segment.1 hseg
    refine List.filter_congr fun i hi => ?_
    obtain ⟨hhi, hin, hno'⟩ := mem_hunkBody.1 hi
    have hiseg : i ∈ segment L o := by
      refine mem_segment.2 ⟨Nat.lt_trans hoh hhi, hin, fun j hoj hji => ?_⟩
      rcases Nat.lt_or_ge h j with hj | hj
      · exact fun hf => hno' j hj hji (.inl hf)
      · exact hno j hoj hj
    rw [decide_eq_decide, storedAt_iff ho hiseg]
    exact ⟨And.left, fun hb => ⟨hb, h, hseg, hhi, by simpa using hhunk⟩⟩

/-- A position that opens a file is not stored. -/
theorem not_storedAt_opener {o : Nat} (ho : o ∈ openers L) : ¬StoredAt L o := by
  rintro ⟨hb, -⟩
  rcases mem_openers ho with hf | ⟨hs, -⟩
  · exact IsBodyLine.not_isFileHeader hb hf
  · rcases hs with ⟨path, -, hline⟩ | ⟨⟨path, -, hline⟩, -⟩
    · exact hb.2.1 (by rw [hline]; rfl)
    · exact hb.2.2 (by rw [hline]; rfl)

/-- **Nothing is lost, doubled or made up.** The stored positions of a text are those of its
segments. -/
theorem filter_storedAt :
    (positions 0 L.length).filter (fun i => StoredAt L i) =
      (openers L).flatMap fun o => ((segment L o).filter fun h => HunkHeaderAt L h).flatMap fun h =>
        (hunkBody L h).filter fun i => BodyAt L i := by
  obtain ⟨pre, hpre, hbefore, -⟩ := positions_eq_append (L := L) 0
  rw [hpre]
  refine filter_append_flatMap (fun i hi => ?_) (fun o ho => ?_) (fun o ho => filter_segment ho)
  · rw [decide_eq_false_iff_not]
    rintro ⟨-, o, ho, hseg, -⟩
    exact Nat.lt_asymm (hbefore i hi o ho) (mem_segment.1 hseg).1
  · rw [decide_eq_false_iff_not]
    exact not_storedAt_opener ho

end

/-! ## The parser -/

/-- The lines that the file at a position keeps. -/
theorem markedLines_fileAt (L : List Line) (o : Nat) :
    (fileAt L o).markedLines =
      (((segment L o).filter fun h => HunkHeaderAt L h).flatMap fun h =>
        (hunkBody L h).filter fun i => BodyAt L i).map (stored L) := by
  rw [List.map_flatMap]
  exact List.flatMap_map (hunkFrom L) Hunk.lines _

/-- The files of a patch are those that the openers of the text open. -/
theorem Patch.files_of_parse {text : String} {patch : Patch} (h : Patch.parse text = .ok patch) :
    patch.files = (openers (Text.lines text.toList)).map (fileAt (Text.lines text.toList)) := by
  rw [parse] at h
  split at h
  · next p hp =>
    cases h
    exact Parsing.files_of_none hp
  · cases h

/-- **The pass is the segmentation.** The files of a patch are those that the openers of the text
open, each with the hunks of its segment, and the lines that they keep are all stored lines of the
text in their order. -/
theorem Patch.parse_eq_segments {text : String} {L : List Line} {patch : Patch}
    (hL : Text.lines text.toList = L) (h : Patch.parse text = .ok patch) :
    patch.files = (openers L).map (fileAt L) ∧
      patch.files.flatMap FileChange.markedLines =
        ((positions 0 L.length).filter fun i => StoredAt L i).map (stored L) := by
  have hfiles : patch.files = (openers L).map (fileAt L) := by
    rw [parse, hL] at h
    split at h
    · next p hp =>
      cases h
      exact Parsing.files_of_none hp
    · cases h
  refine ⟨hfiles, ?_⟩
  rw [hfiles, filter_storedAt, List.flatMap_map, List.map_flatMap]
  exact congrArg (fun f => (openers L).flatMap f) (funext (markedLines_fileAt L))

/-- A file that is opened by the name of its new side, and one that is opened by its header. The
line behind that header belongs to no hunk. -/
theorem Patch.parse_eq_segments_two :
    ∃ L : List Line, openers L = [0, 3] ∧
      [({ oldPath := "/dev/null", newPath := "a", status := .added, additions := some 1,
          hunks := some [⟨0, 0, 1, 1, ["+x"], ""⟩] } : FileChange),
        { oldPath := "b", newPath := "c" }] = (openers L).map (fileAt L) ∧
      ["+x"] = ((positions 0 L.length).filter fun i => StoredAt L i).map (stored L) := by
  have h : Patch.parse "+++ b/a\n@@ -0,0 +1 @@\n+x\ndiff --git a/b b/c\n+y" =
      .ok { files := [
        { oldPath := "/dev/null", newPath := "a", status := .added, additions := some 1,
          hunks := some [⟨0, 0, 1, 1, ["+x"], ""⟩] },
        { oldPath := "b", newPath := "c" }] } := by decide +kernel
  exact ⟨_, by decide +kernel, parse_eq_segments rfl h⟩

end PatchTriage
