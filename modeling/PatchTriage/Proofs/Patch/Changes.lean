import PatchTriage.Proofs.Patch.ChangedLines
import PatchTriage.Proofs.Patch.Segments
import PatchTriage.Proofs.Text.Split

/-!
# Consistent files

A file that is read counts the lines that it keeps, keeps only lines of bodies, and has a path
(`Patch.consistent_of_mem_parse`) within a line (`Patch.feed_not_mem_path`). On such a file the two
ways to look at its changed lines agree: no kept line looks like the name of a side, so `Changes.of`
passes over none. Its counts are the lengths of the lists of changed lines, its bodies are these
lists taken together in the order of the diff (`FileChange.Consistent.interleaved`), and its content
is taken apart into the bodies again (`FileChange.Consistent.splitOn_content`).
-/

namespace PatchTriage

/-- Whether a list takes all elements of two others, those of each in their order. -/
inductive Interleaved {α : Type} : List α → List α → List α → Prop
  | nil : Interleaved [] [] []
  | left {l r m : List α} (a : α) : Interleaved l r m → Interleaved (a :: l) r (a :: m)
  | right {l r m : List α} (a : α) : Interleaved l r m → Interleaved l (a :: r) (a :: m)

/-- A list that takes all of two others is as long as both. -/
theorem Interleaved.length_eq {α : Type} {l r m : List α} (h : Interleaved l r m) :
    m.length = l.length + r.length := by
  induction h with
  | nil => rfl
  | left a h ih =>
    rw [List.length_cons, List.length_cons, ih]
    omega
  | right a h ih =>
    rw [List.length_cons, List.length_cons, ih]
    omega

/-- Elements that are told apart are taken together in their order. -/
theorem interleaved_filter (found : List (Bool × String)) :
    Interleaved ((found.filter (·.1)).map (·.2)) ((found.filter (!·.1)).map (·.2))
      (found.map (·.2)) := by
  induction found with
  | nil => exact .nil
  | cons e found ih =>
    obtain ⟨added, body⟩ := e
    cases added with
    | true => exact .left body ih
    | false => exact .right body ih

/-- The bodies of all changed lines in the order of the diff. -/
def FileChange.changedLines (f : FileChange) : List String :=
  (f.markedLines.filter fun line => isAddition line || isDeletion line).map fun line =>
    String.ofList line.toList.tail

/-- Whether the counts of a file are those of the lines that it keeps, which are all of the body of
a hunk and of one line each, and the file has a path. -/
structure FileChange.Consistent (f : FileChange) : Prop where
  hunks : ∃ hs, f.hunks = some hs
  body : ∀ line ∈ f.markedLines, IsBodyLine line.toList
  feed : ∀ line ∈ f.markedLines, '\n' ∉ line.toList
  additions : f.additions = some (f.markedLines.countP isAddition : Nat)
  deletions : f.deletions = some (f.markedLines.countP isDeletion : Nat)
  path : f.path ≠ ""

/-! ## Files that are read -/

/-- Whether a file that is being filled names both of its sides. -/
def Draft.Named (d : Draft) : Prop := d.oldPath ≠ [] ∧ d.newPath ≠ []

/-- The path of the missing side is not empty. -/
theorem devNull_ne_nil : devNull.toList ≠ [] := by decide

/-- A header names both sides. -/
theorem Draft.named_ofGitHeader {line : Line} {h : GitHeader} (hr : GitHeader.read? line = some h)
    (status : FileStatus) : (ofGitHeader h status).Named := by
  obtain ⟨hold, hnew, -⟩ := GitHeader.read?_eq_some_iff.1 hr
  cases status with
  | added => exact ⟨devNull_ne_nil, hnew⟩
  | deleted => exact ⟨hold, devNull_ne_nil⟩
  | modified => exact ⟨hold, hnew⟩
  | renamed => exact ⟨hold, hnew⟩

/-- So does the name of a side where no header stands. -/
theorem Draft.named_ofSideName? {line : Line} {after : List Line} {d : Draft}
    (h : ofSideName? line after = some d) : d.Named := by
  unfold ofSideName? at h
  split at h
  · cases h
  · next path hne _ =>
    cases h
    exact ⟨devNull_ne_nil, fun he => hne he⟩
  · split at h
    · cases h
    · cases h
    · next path hne _ =>
      split at h
      · cases h
        exact ⟨fun he => hne he, devNull_ne_nil⟩
      · cases h

section
variable {L : List Line}

/-- A position that opens a file names both sides, one of which may be the missing one. -/
theorem named_draftAt {o : Nat} (ho : o ∈ openers L) : (draftAt L o).Named := by
  rw [draftAt]
  split
  · next h hr => exact Draft.named_ofGitHeader hr _
  · next hr =>
    split
    · next d hd => exact Draft.named_ofSideName? hd
    · next hd =>
      rcases mem_openers ho with hf | ⟨hs, -⟩
      · obtain ⟨header, hr'⟩ := hf.exists_read?
        rw [hr] at hr'
        cases hr'
      · exact absurd hs (not_sideNameAt_of_eq_none hd)

/-- The lines of a text hold no line feed, nor do the empty ones behind them. -/
theorem feed_lineAt {t : List Char} (i : Nat) : '\n' ∉ lineAt (Text.lines t) i := by
  by_cases hi : i < (Text.lines t).length
  · rw [lineAt_of_lt hi]
    exact Text.feed_not_mem_lines (List.getElem_mem hi)
  · rw [lineAt, List.getD_eq_getElem?_getD, List.getElem?_eq_none (Nat.le_of_not_lt hi)]
    exact List.not_mem_nil

/-- A line that the file of an opener keeps is one of the body of a hunk of the text. -/
theorem mem_markedLines_fileAt {o : Nat} {line : String} (h : line ∈ (fileAt L o).markedLines) :
    ∃ i, BodyAt L i ∧ line.toList = lineAt L i := by
  rw [markedLines_fileAt] at h
  obtain ⟨i, hi, rfl⟩ := List.mem_map.1 h
  obtain ⟨h, -, hi⟩ := List.mem_flatMap.1 hi
  exact ⟨i, by simpa using (List.mem_filter.1 hi).2, String.toList_ofList⟩

end

/-- A file that names both sides has a path. -/
theorem Draft.Named.path_fileOf {d : Draft} (h : d.Named) (hs : List Hunk) :
    (d.fileOf hs).path ≠ "" := by
  have hof {path : Line} (hne : path ≠ []) : String.ofList path ≠ "" :=
    fun he => hne (by rw [← @String.toList_ofList path, he]; rfl)
  rw [FileChange.path]
  split
  · exact hof h.2
  · exact hof h.1

/-- Whether a file that is being filled names its sides without a line feed. -/
def Draft.InLine (d : Draft) : Prop := '\n' ∉ d.oldPath ∧ '\n' ∉ d.newPath

/-- The path of the missing side is within a line. -/
theorem feed_not_mem_devNull : '\n' ∉ devNull.toList := by decide

/-- The paths of a header are within its line. -/
theorem Draft.inLine_ofGitHeader {line : Line} {h : GitHeader}
    (hr : GitHeader.read? line = some h) (hline : '\n' ∉ line) (status : FileStatus) :
    (ofGitHeader h status).InLine := by
  obtain ⟨-, -, rfl, -⟩ := GitHeader.read?_eq_some_iff.1 hr
  have hold : '\n' ∉ h.oldPath :=
    fun hmem => hline (List.mem_append_right _ (List.mem_append_left _ hmem))
  have hnew : '\n' ∉ h.newPath := fun hmem =>
    hline (List.mem_append_right _ (List.mem_append_right _ (List.mem_append_right _ hmem)))
  cases status with
  | added => exact ⟨feed_not_mem_devNull, hnew⟩
  | deleted => exact ⟨hold, feed_not_mem_devNull⟩
  | modified => exact ⟨hold, hnew⟩
  | renamed => exact ⟨hold, hnew⟩

/-- So are those of the name of a side where no header stands. -/
theorem Draft.inLine_ofSideName? {line : Line} {after : List Line} {d : Draft}
    (h : ofSideName? line after = some d) (hline : '\n' ∉ line) : d.InLine := by
  have hpath {side : String} {path : Line} (hp : Text.after? line side = some path) :
      '\n' ∉ path := by
    rw [Text.after?_eq_some_iff] at hp
    exact fun hmem => hline (hp ▸ List.mem_append_right _ hmem)
  unfold ofSideName? at h
  split at h
  · cases h
  · next hp =>
    cases h
    exact ⟨feed_not_mem_devNull, hpath hp⟩
  · split at h
    · cases h
    · cases h
    · next hp =>
      split at h
      · cases h
        exact ⟨hpath hp, feed_not_mem_devNull⟩
      · cases h

/-- The paths of a file that is read hold no line feed. -/
theorem inLine_draftAt {t : List Char} (o : Nat) : (draftAt (Text.lines t) o).InLine := by
  rw [draftAt]
  split
  · next hr => exact Draft.inLine_ofGitHeader hr (feed_lineAt o) _
  · split
    · next hd => exact Draft.inLine_ofSideName? hd (feed_lineAt o)
    · exact ⟨List.not_mem_nil, List.not_mem_nil⟩

/-- The path of a file is within a line if those of its sides are. -/
theorem Draft.InLine.path_fileOf {d : Draft} (h : d.InLine) (hs : List Hunk) :
    '\n' ∉ (d.fileOf hs).path.toList := by
  rw [FileChange.path]
  split
  · exact String.toList_ofList.symm ▸ h.2
  · exact String.toList_ofList.symm ▸ h.1

/-- **The path of a file that is read is within a line.** -/
theorem Patch.feed_not_mem_path {text : String} {p : Patch} (h : parse text = .ok p) :
    ∀ f ∈ p.files, '\n' ∉ f.path.toList := by
  intro f hf
  rw [files_of_parse h] at hf
  obtain ⟨o, -, rfl⟩ := List.mem_map.1 hf
  exact (inLine_draftAt o).path_fileOf _

/-- **Every file that is read is consistent.** -/
theorem Patch.consistent_of_mem_parse {text : String} {p : Patch} (h : parse text = .ok p) :
    ∀ f ∈ p.files, f.Consistent := by
  intro f hf
  rw [files_of_parse h] at hf
  obtain ⟨o, ho, rfl⟩ := List.mem_map.1 hf
  exact {
    hunks := ⟨_, rfl⟩
    body := fun line hline => by
      obtain ⟨i, hbody, he⟩ := mem_markedLines_fileAt hline
      rw [he]
      exact hbody
    feed := fun line hline => by
      obtain ⟨i, -, he⟩ := mem_markedLines_fileAt hline
      rw [he]
      exact feed_lineAt i
    additions := rfl
    deletions := rfl
    path := (named_draftAt ho).path_fileOf _ }

/-! ## Changes -/

/-- No line of the body of a hunk is passed over: its marker decides. -/
theorem Changes.body?_cases {line : String} (h : IsBodyLine line.toList) :
    (∃ text, line.toList = '+' :: text ∧ body? line = some (true, String.ofList text)) ∨
      (∃ text, line.toList = '-' :: text ∧ body? line = some (false, String.ofList text)) ∨
        ∃ text, line.toList = ' ' :: text ∧ body? line = none := by
  obtain ⟨hmark, hplus, hminus⟩ := h
  rcases hmark with hm | hm | hm
  · obtain ⟨text, ht⟩ := startsWith_iff.1 hm
    have hgoes : ¬Text.startsWith text "++" = true := by
      rw [ht] at hplus
      exact hplus
    refine .inl ⟨text, ht, ?_⟩
    rw [body?, ht]
    exact if_neg hgoes
  · obtain ⟨text, ht⟩ := startsWith_iff.1 hm
    have hgoes : ¬Text.startsWith text "--" = true := by
      rw [ht] at hminus
      exact hminus
    refine .inr (.inl ⟨text, ht, ?_⟩)
    rw [body?, ht]
    exact if_neg hgoes
  · obtain ⟨text, ht⟩ := startsWith_iff.1 hm
    refine .inr (.inr ⟨text, ht, ?_⟩)
    rw [body?, ht]
    rfl

section
variable {lines : List String} (h : ∀ line ∈ lines, IsBodyLine line.toList)
include h

/-- The bodies that are given back for a marker are those of the changes with that marker. -/
theorem bodiesMarked_eq_filter (added : Bool) :
    bodiesMarked (if added then '+' else '-') lines =
      ((lines.filterMap Changes.body?).filter (·.1 == added)).map (·.2) := by
  rw [bodiesMarked, List.filter_filterMap, List.map_filterMap]
  refine List.filterMap_congr fun line hline => ?_
  rcases Changes.body?_cases (h line hline) with ⟨text, ht, hb⟩ | ⟨text, ht, hb⟩ | ⟨text, ht, hb⟩
  · rw [ht, hb]
    cases added <;> rfl
  · rw [ht, hb]
    cases added <;> rfl
  · rw [ht, hb]
    cases added <;> rfl

/-- The bodies marked as added are those found with this mark. -/
theorem bodiesMarked_added :
    bodiesMarked '+' lines = ((lines.filterMap Changes.body?).filter (·.1)).map (·.2) := by
  simpa using bodiesMarked_eq_filter h true

/-- The bodies marked as removed are those found with the other one. -/
theorem bodiesMarked_removed :
    bodiesMarked '-' lines = ((lines.filterMap Changes.body?).filter (!·.1)).map (·.2) := by
  simpa using bodiesMarked_eq_filter h false

/-- The changed lines without their markers are the bodies of all changes. -/
theorem map_tail_filter_changed :
    ((lines.filter fun line => isAddition line || isDeletion line).map fun line =>
      String.ofList line.toList.tail) = (lines.filterMap Changes.body?).map (·.2) := by
  rw [List.map_filterMap, ← List.filterMap_eq_filter, List.map_filterMap]
  refine List.filterMap_congr fun line hline => ?_
  rcases Changes.body?_cases (h line hline) with ⟨text, ht, hb⟩ | ⟨text, ht, hb⟩ | ⟨text, ht, hb⟩
  · simp [ht, hb, isAddition, Text.startsWith, Option.guard]
  · simp [ht, hb, isDeletion, isAddition, Text.startsWith, Option.guard]
  · simp [ht, hb, isAddition, isDeletion, Text.startsWith, Option.guard]

end

namespace FileChange.Consistent

variable {f : FileChange} (h : f.Consistent)
include h

/-- The additions of a consistent file are its added lines. -/
theorem additions_eq : f.additions = some (f.addedLines.length : Int) := by
  rw [h.additions, addedLines, length_bodiesMarked]
  rfl

/-- The deletions of a consistent file are its removed lines. -/
theorem deletions_eq : f.deletions = some (f.removedLines.length : Int) := by
  rw [h.deletions, removedLines, length_bodiesMarked]
  rfl

/-- The changes of a consistent file count its added lines. -/
theorem added_changes : (Changes.of f).added = f.addedLines.length := by
  rw [Changes.of, addedLines, bodiesMarked_added h.body, List.length_map,
    ← List.countP_eq_length_filter]

/-- They count its removed lines. -/
theorem removed_changes : (Changes.of f).removed = f.removedLines.length := by
  rw [Changes.of, removedLines, bodiesMarked_removed h.body, List.length_map,
    ← List.countP_eq_length_filter]

/-- Their bodies are all of its changed lines in the order of the diff. -/
theorem bodies_changes : (Changes.of f).bodies = f.changedLines :=
  (map_tail_filter_changed h.body).symm

/-- The changed lines are the added and the removed ones together. -/
theorem interleaved : Interleaved f.addedLines f.removedLines f.changedLines := by
  rw [← h.bodies_changes, addedLines, bodiesMarked_added h.body, removedLines,
    bodiesMarked_removed h.body]
  exact interleaved_filter _

/-- A changed line holds no line feed. -/
theorem feed_changedLines {body : String} (hbody : body ∈ f.changedLines) :
    '\n' ∉ body.toList := by
  obtain ⟨line, hline, rfl⟩ := List.mem_map.1 hbody
  rw [String.toList_ofList]
  exact fun hmem => h.feed line (List.mem_filter.1 hline).1 (List.mem_of_mem_tail hmem)

/-- **The content is taken apart into the changed lines**, if there are any. -/
theorem splitOn_content (hne : f.changedLines ≠ []) :
    Text.splitOn '\n' (Changes.of f).content.toList = f.changedLines.map String.toList := by
  rw [Changes.content, h.bodies_changes, String.toList_intercalate]
  refine Text.splitOn_intercalate (by simpa using hne) ?_
  rw [List.forall_mem_map]
  exact fun body hbody => h.feed_changedLines hbody

end FileChange.Consistent

end PatchTriage
