import PatchTriage.Proofs.Analysis.Agreement
import PatchTriage.Proofs.Binary64.Text
import PatchTriage.Proofs.Report.Page

/-!
# The table of files

The page of a report that finds something has a table with one row for each file, in the order of
the diff (`Findings.HasTable`). A row shows the path, the status, the change type and the confidence
of its file, but the risk is looked up under the path: where several files have one path, each of
their rows shows the risk of the last of them (`Analysis.run_fileRows`). Where no path occurs twice,
each row shows the risk of its own file (`Analysis.fileRows_of_nodup`).
-/

namespace PatchTriage

namespace Markdown

/-- The row of a file with a risk. -/
def row (f : ClassifiedFile) (risk : Binary64) : String :=
  let c := f.classification
  s!"| `{f.path}` | {statusSign f.file.status} {f.file.status.name} | {c.changeType.name} " ++
    s!"| {c.confidence.percentText} | {risk.twoPlaces} |"

/-- The row of a file shows the risk that is listed last for its path. -/
theorem fileRow_eq (lastFirst : List FileRisk) (f : ClassifiedFile) :
    fileRow lastFirst f = row f (shownRisk lastFirst f.path) := rfl

/-- Two risks give the same row exactly if they have the same text. -/
theorem row_inj {f : ClassifiedFile} {x y : Binary64} :
    row f x = row f y ↔ x.twoPlaces = y.twoPlaces := by
  unfold row
  dsimp only
  rw [String.append_right_inj, String.append_left_inj, String.append_right_inj]
  exact Iff.rfl

/-! ## Rows lie within a line -/

/-- The sign of a status is within a line. -/
theorem feed_not_mem_statusSign (status : FileStatus) : '\n' ∉ (statusSign status).toList := by
  cases status <;> decide

/-- So is its name. -/
theorem feed_not_mem_statusName (status : FileStatus) : '\n' ∉ status.name.toList := by
  cases status <;> decide

/-- The row of a file whose path lies within a line does so, too. -/
theorem feed_not_mem_row {f : ClassifiedFile} (hpath : '\n' ∉ f.path.toList) (risk : Binary64) :
    '\n' ∉ (row f risk).toList := by
  unfold row
  simp only [toString, String.toList_append, List.mem_append, not_or]
  simp only [hpath, risk.feed_not_mem_twoPlaces, Binary64.feed_not_mem_percentText,
    feed_not_mem_statusSign, feed_not_mem_statusName, feed_not_mem_typeName, not_false_eq_true,
    and_true]
  decide

end Markdown

/-! ## The risk under a path -/

/-- Whether an entry is the last one under a path. -/
def RiskDetails.LastUnder (d : RiskDetails) (path : String) (last : FileRisk) : Prop :=
  last.path = path ∧ ∃ front back, d.files = front ++ last :: back ∧ ∀ e ∈ back, e.path ≠ path

/-- Under a path that was assessed stands the risk of its last entry. -/
theorem Markdown.shownRisk_reverse {d : RiskDetails} {path : String}
    (h : path ∈ d.files.map (·.path)) :
    ∃ last, d.LastUnder path last ∧ shownRisk d.files.reverse path = last.score := by
  cases hfind : d.files.reverse.find? fun e => e.path == path with
  | none =>
    obtain ⟨e, he, hpath⟩ := List.mem_map.1 h
    have hne := List.find?_eq_none.1 hfind e (List.mem_reverse.2 he)
    exact absurd (beq_iff_eq.2 hpath) hne
  | some last =>
    obtain ⟨hpath, back, front, hsplit, hback⟩ := List.find?_eq_some_iff_append.1 hfind
    refine ⟨last, ⟨beq_iff_eq.1 hpath, front.reverse, back.reverse, ?_, fun e he => ?_⟩, ?_⟩
    · rw [← List.reverse_reverse d.files, hsplit]
      simp
    · simpa using hback e (List.mem_reverse.1 he)
    · rw [shownRisk, hfind]
      rfl

/-- Where no path occurs twice, the entry under a path is the only one. -/
theorem RiskDetails.LastUnder.eq_of_nodup {d : RiskDetails} {path : String} {own last : FileRisk}
    (h : d.LastUnder path last) (hnodup : (d.files.map (·.path)).Nodup) (hown : own ∈ d.files)
    (hpath : own.path = path) : last = own := by
  obtain ⟨hlast, front, back, hfiles, -⟩ := h
  have hmem : last ∈ d.files := by
    rw [hfiles]
    exact List.mem_append_right _ List.mem_cons_self
  exact List.inj_on_of_nodup_map hnodup hmem hown (hlast.trans hpath.symm)

/-! ## The page -/

/-- Whether the lines of a page take in the table of files of some findings. -/
def Findings.HasTable (f : Findings) (page : String) : Prop :=
  ∃ above below, Text.splitOn '\n' page.toList =
    above ++ (["## Files", ""] ++ Markdown.fileTableHead ++ Markdown.fileRows f ++ [""]).map
      String.toList ++ below

/-- No line of the table holds a line feed. -/
theorem Markdown.feed_not_mem_tableLine {f : Findings}
    (hpath : ∀ file ∈ f.files, '\n' ∉ file.path.toList) :
    ∀ line ∈ ["## Files", ""] ++ fileTableHead ++ fileRows f ++ [""], '\n' ∉ line.toList := by
  have hends : ∀ line ∈ ["## Files", ""] ++ fileTableHead, '\n' ∉ line.toList := by decide
  intro line hline
  rcases List.mem_append.1 hline with hline | hline
  · rcases List.mem_append.1 hline with hline | hline
    · exact hends line hline
    · obtain ⟨file, hfile, rfl⟩ := List.mem_map.1 hline
      rw [fileRow_eq]
      exact feed_not_mem_row (hpath file hfile) _
  · obtain rfl := List.mem_singleton.1 hline
    exact List.not_mem_nil

/-- The page of a report on files whose paths lie within a line has the table of them. -/
theorem Findings.hasTable_markdown {r : Report} {f : Findings} (h : r.outcome = .success f)
    (hne : f.files ≠ []) (hpath : ∀ file ∈ f.files, '\n' ∉ file.path.toList) :
    f.HasTable r.markdown := by
  have hlines : Markdown.fileLines f =
      ["## Files", ""] ++ Markdown.fileTableHead ++ Markdown.fileRows f ++ [""] := by
    rw [Markdown.fileLines, if_neg (by simpa using hne)]
  have hbody : Markdown.body r.outcome = Markdown.summaryLines f ++
      (["## Files", ""] ++ Markdown.fileTableHead ++ Markdown.fileRows f ++ [""]) ++
      (Markdown.changeTypeLines f ++ Markdown.recommendationLines f ++ Markdown.degradedLines f ++
        ["---", "*Generated by heuristic diff analysis. Verify before acting on it.*"]) := by
    rw [h, Markdown.body, hlines]
    simp only [List.append_assoc]
  obtain ⟨rest, hrest⟩ :=
    Report.exists_splitOn_markdown hbody (Markdown.feed_not_mem_tableLine hpath)
  exact ⟨_, rest, hrest⟩

namespace Analysis

variable {s : Settings} {text : String} {f : Findings}

/-- What a run finds: the files of the patch in its order, each with a path within a line, and an
entry of the risk for each. -/
theorem tabled_of_success (h : (run s (.standard s) text).value.outcome = .success f) :
    (∃ p, Patch.parse text = .ok p ∧ f.files.map (·.file) = p.files) ∧
      (∀ file ∈ f.files, '\n' ∉ file.path.toList) ∧
      f.risk.details.files.map (·.path) = f.files.map (·.path) := by
  obtain ⟨-, p, hp, rfl⟩ := exists_of_success h
  have hexamined := examined_examine s (.ofRules s.classifierRules) p
  refine ⟨⟨p, hp, hexamined.map_file⟩, fun file hfile => ?_,
    hexamined.map_path fun file hfile => (Patch.consistent_of_mem_parse hp file hfile).path⟩
  exact Patch.feed_not_mem_path hp file.file
    (hexamined.map_file ▸ List.mem_map_of_mem hfile)

/-- Each file has an entry of its own and a row, which shows the risk of the last entry under its
path. -/
theorem exists_row (h : (run s (.standard s) text).value.outcome = .success f) {i : Nat}
    {file : ClassifiedFile} (hfile : f.files[i]? = some file) :
    ∃ own last : FileRisk, f.risk.details.files[i]? = some own ∧ own.path = file.path ∧
      f.risk.details.LastUnder file.path last ∧
      (Markdown.fileRows f)[i]? = some (Markdown.row file last.score) := by
  obtain ⟨-, -, hpaths⟩ := tabled_of_success h
  have hpath : (f.risk.details.files.map (·.path))[i]? = some file.path := by
    rw [hpaths, List.getElem?_map, hfile]
    rfl
  obtain ⟨last, hlast, hshown⟩ := Markdown.shownRisk_reverse (List.mem_of_getElem? hpath)
  rw [List.getElem?_map] at hpath
  obtain ⟨own, hown, hownPath⟩ := Option.map_eq_some_iff.1 hpath
  refine ⟨own, last, hown, hownPath, hlast, ?_⟩
  rw [Markdown.fileRows, List.getElem?_map, hfile, Option.map_some, Markdown.fileRow_eq, hshown]

/-- **A row shows the last risk under its path.** The page of a run has one row for each file, in
the order of the diff. It is the row of the file with its own risk exactly if the last entry under
its path has a risk of the same text. -/
theorem run_fileRows (h : (run s (.standard s) text).value.outcome = .success f) :
    (∃ p, Patch.parse text = .ok p ∧ f.files.map (·.file) = p.files) ∧
    (f.files ≠ [] → f.HasTable (run s (.standard s) text).value.markdown) ∧
    (Markdown.fileRows f).length = f.files.length ∧
    ∀ (i : Nat) (file : ClassifiedFile), f.files[i]? = some file → ∃ own last : FileRisk,
      f.risk.details.files[i]? = some own ∧ own.path = file.path ∧
      f.risk.details.LastUnder file.path last ∧
      (Markdown.fileRows f)[i]? = some (Markdown.row file last.score) ∧
      ((Markdown.fileRows f)[i]? = some (Markdown.row file own.score) ↔
        last.score.twoPlaces = own.score.twoPlaces) := by
  obtain ⟨hread, hline, -⟩ := tabled_of_success h
  refine ⟨hread, fun hne => Findings.hasTable_markdown h hne hline, List.length_map _,
    fun i file hfile => ?_⟩
  obtain ⟨own, last, hown, hpath, hlast, hrow⟩ := exists_row h hfile
  exact ⟨own, last, hown, hpath, hlast, hrow, by rw [hrow, Option.some.injEq, Markdown.row_inj]⟩

/-- A table of two rows, the second of which shows the last risk under its path. -/
theorem run_fileRows_two :
    ∃ f, (run {} (.standard {}) ("diff --git a/a.py b/a.py\n@@ -0,0 +1 @@\n+add new\n" ++
        "diff --git a/b b/b")).value.outcome = .success f ∧
      f.HasTable (run {} (.standard {}) ("diff --git a/a.py b/a.py\n@@ -0,0 +1 @@\n+add new\n" ++
        "diff --git a/b b/b")).value.markdown ∧
      (Markdown.fileRows f).length = 2 ∧
      ∃ file last, file.path = "b" ∧ f.files[1]? = some file ∧
        f.risk.details.LastUnder file.path last ∧
        (Markdown.fileRows f)[1]? = some (Markdown.row file last.score) := by
  have hparse : Patch.parse ("diff --git a/a.py b/a.py\n@@ -0,0 +1 @@\n+add new\n" ++
      "diff --git a/b b/b") = .ok
        { files := [
            { oldPath := "a.py", newPath := "a.py", additions := some 1
              hunks := some [⟨0, 0, 1, 1, ["+add new"], ""⟩] },
            { oldPath := "b", newPath := "b" }] } := by decide +kernel
  obtain ⟨f, hf⟩ : ∃ f, (run {} (.standard {})
      ("diff --git a/a.py b/a.py\n@@ -0,0 +1 @@\n+add new\n" ++
        "diff --git a/b b/b")).value.outcome = .success f :=
    ⟨_, outcome_of_parse rfl (by decide +kernel) hparse⟩
  obtain ⟨⟨p, hp, hfiles⟩, htable, hlength, hrows⟩ := run_fileRows hf
  rw [hparse] at hp
  obtain rfl := Except.ok.inj hp
  have htwo : f.files.length = 2 := by simpa using congrArg List.length hfiles
  obtain ⟨file, hfile⟩ : ∃ file, f.files[1]? = some file :=
    ⟨_, List.getElem?_eq_getElem (by omega)⟩
  have hpath : file.path = "b" := by
    have hsecond := congrArg (·[1]?) hfiles
    simp only [List.getElem?_map, hfile] at hsecond
    exact (congrArg FileChange.path (Option.some.inj hsecond)).trans (by decide)
  obtain ⟨-, last, -, -, hlast, hrow, -⟩ := hrows 1 file hfile
  exact ⟨f, hf, htable (List.ne_nil_of_length_pos (by omega)), by omega, file, last, hpath, hfile,
    hlast, hrow⟩

/-- Where one path occurs twice, the first row shows the risk of the second file. -/
theorem fileRows_of_repeated_path :
    ∃ f, (run {} (.standard {}) ("diff --git a/a.py b/a.py\n@@ -0,0 +1 @@\n+add new\n" ++
        "diff --git a/a.py b/a.py")).value.outcome = .success f ∧
      f.risk.details.files.map (fun own => own.score.twoPlaces) = ["0.59", "0.47"] ∧
      Markdown.fileRows f = ["| `a.py` | ✏️ modified | feature | 90% | 0.47 |",
        "| `a.py` | ✏️ modified | no-change | 100% | 0.47 |"] ∧
      Markdown.fileRows f ≠ List.zipWith (fun file own => Markdown.row file own.score) f.files
        f.risk.details.files := by
  have hparse : Patch.parse ("diff --git a/a.py b/a.py\n@@ -0,0 +1 @@\n+add new\n" ++
      "diff --git a/a.py b/a.py") = .ok
        { files := [
            { oldPath := "a.py", newPath := "a.py", additions := some 1
              hunks := some [⟨0, 0, 1, 1, ["+add new"], ""⟩] },
            { oldPath := "a.py", newPath := "a.py" }] } := by decide +kernel
  exact ⟨_, @outcome_of_parse {} (.standard {}) _ _ rfl (by decide +kernel) hparse,
    by decide +kernel⟩

/-- **Where no path occurs twice, each row shows the risk of its own file.** -/
theorem fileRows_of_nodup (h : (run s (.standard s) text).value.outcome = .success f)
    (hnodup : (f.files.map (·.path)).Nodup) :
    Markdown.fileRows f = List.zipWith (fun file own => Markdown.row file own.score) f.files
      f.risk.details.files := by
  obtain ⟨-, -, hpaths⟩ := tabled_of_success h
  refine List.ext_getElem? fun i => ?_
  rw [List.getElem?_zipWith]
  cases hfile : f.files[i]? with
  | none =>
    rw [Markdown.fileRows, List.getElem?_map, hfile]
    rfl
  | some file =>
    obtain ⟨own, last, hown, hpath, hlast, hrow⟩ := exists_row h hfile
    rw [hrow, hown, hlast.eq_of_nodup (hpaths ▸ hnodup) (List.mem_of_getElem? hown) hpath]

end Analysis

end PatchTriage
