import PatchTriage.Proofs.Analysis.Outcome
import PatchTriage.Proofs.Change.Details
import PatchTriage.Proofs.Table
import Mathlib.Algebra.Ring.Int.Defs

/-!
# Agreement of the stages

The reader, the classifier, the assessor and the summary all count, each in its own way. On a text
that is read they agree: file by file (`ClassifiedFile.Agrees`), for a file that is read is
consistent and its classification describes its changed lines, and over the whole report
(`Findings.Agrees`). `Analysis.run_agrees` says so of every run that finds something.
-/

namespace PatchTriage

/-- Whether a file and its classification tell the same of the changed lines. -/
structure ClassifiedFile.Agrees (f : ClassifiedFile) : Prop where
  additions : f.file.additions = some (f.file.addedLines.length : Int)
  deletions : f.file.deletions = some (f.file.removedLines.length : Int)
  added : f.classification.details.added = f.file.addedLines.length
  removed : f.classification.details.removed = f.file.removedLines.length
  extracted : (Changes.of f.file).added = f.file.addedLines.length ∧
    (Changes.of f.file).removed = f.file.removedLines.length
  total : f.classification.details.total =
    f.classification.details.added + f.classification.details.removed
  /-- The content falls into the changed lines again. -/
  content : 0 < f.classification.details.total →
    Text.splitOn '\n' f.classification.details.content.toList =
      f.file.changedLines.map String.toList
  changed : f.file.changedLines.length = f.classification.details.total
  order : Interleaved f.file.addedLines f.file.removedLines f.file.changedLines
  noChange : f.changeType = .noChange ↔ f.file.additions = some 0 ∧ f.file.deletions = some 0

/-- Whether the parts of a report are about the files of a patch, and about the same numbers. -/
structure Findings.Agrees (p : Patch) (f : Findings) : Prop where
  read : f.files.map (·.file) = p.files
  file : ∀ c ∈ f.files, c.Agrees
  /-- Each file is assessed in its place. -/
  paths : f.risk.details.files.map (·.path) = f.files.map (·.path)
  entries : f.risk.details.files.length = f.files.length
  assessed : f.risk.details.total = f.files.length
  summed : f.summary.totals.files = f.files.length
  totals : f.summary.totals = .of (some p)
  additions : f.summary.totals.additions = (p.files.map fun g => (g.addedLines.length : Int)).sum
  deletions : f.summary.totals.deletions =
    (p.files.map fun g => (g.removedLines.length : Int)).sum
  /-- Each file counts for one change type. -/
  counted : (f.summary.changeTypes.map (·.2)).sum = f.files.length
  counts : ∀ type, (Table.get? f.summary.changeTypes type).getD 0 =
    f.files.countP (·.changeType = type)
  level : f.summary.riskLevel = some f.risk.level

/-! ## One file -/

/-- A consistent file agrees with a classification that describes its changed lines. -/
theorem ClassifiedFile.agrees_of {f : ClassifiedFile} (hf : f.file.Consistent)
    (hc : f.classification.Describes (Changes.of f.file)) : f.Agrees := by
  have htotal : (Changes.of f.file).total =
      f.file.addedLines.length + f.file.removedLines.length := by
    rw [Changes.total, hf.added_changes, hf.removed_changes]
  have hlength : f.file.changedLines.length = (Changes.of f.file).total :=
    hf.interleaved.length_eq.trans htotal.symm
  exact {
    additions := hf.additions_eq
    deletions := hf.deletions_eq
    added := hc.added.trans hf.added_changes
    removed := hc.removed.trans hf.removed_changes
    extracted := ⟨hf.added_changes, hf.removed_changes⟩
    total := by rw [hc.total, hc.added, hc.removed, Changes.total]
    content := fun hpos => by
      rw [hc.total] at hpos
      rw [hc.content hpos]
      exact hf.splitOn_content (List.ne_nil_of_length_pos (hlength ▸ hpos))
    changed := hlength.trans hc.total.symm
    order := hf.interleaved
    noChange := by
      rw [changeType, hc.noChange, htotal, hf.additions_eq, hf.deletions_eq, Nat.add_eq_zero_iff,
        Option.some.injEq, Option.some.injEq, Int.natCast_eq_zero, Int.natCast_eq_zero] }

/-- A file with a path is assessed under it. -/
theorem ClassifiedFile.nameOf_toCandidate {f : ClassifiedFile} (h : f.path ≠ "") :
    RiskRules.nameOf f.toCandidate = f.path := if_neg h

/-! ## A whole patch -/

/-- The counts of files are summed up as they are if none is left out. -/
theorem sumCounts_map {files : List FileChange} {count : FileChange → Option Int}
    {value : FileChange → Int} (h : ∀ f ∈ files, count f = some (value f)) :
    sumCounts (files.map count) = (files.map value).sum := by
  have hvalues : (files.map count).map (·.getD 0) = files.map value := by
    rw [List.map_map]
    exact List.map_congr_left fun f hf => by rw [Function.comp, h f hf, Option.getD_some]
  rw [sumCounts, hvalues, sumInts, List.sum_eq_foldl]

/-- Under each change type stands how many files have it. -/
theorem getD_get?_changeTypeCounts (files : List ClassifiedFile) (type : ChangeType) :
    (Table.get? (changeTypeCounts files) type).getD 0 = files.countP (·.changeType = type) := by
  have hcount : (files.map (·.changeType)).count type = files.countP (·.changeType = type) := by
    rw [List.count, List.countP_map]
    rfl
  rw [changeTypeCounts, Table.get?_counts, hcount]
  split
  · next hzero => rw [hzero, Option.getD_none]
  · rfl

/-- The files of findings are those of the patch. -/
theorem Findings.Examined.map_file {s : Settings} {c : Classifier} {p : Patch} {f : Findings}
    (h : f.Examined s c p) : f.files.map (·.file) = p.files := by
  rw [h.files, List.map_map]
  exact List.map_id p.files

/-- Files with a path are assessed in their places: only an empty path would be assessed under
another name. -/
theorem Findings.Examined.map_path {s : Settings} {c : Classifier} {p : Patch} {f : Findings}
    (h : f.Examined s c p) (hp : ∀ file ∈ p.files, file.path ≠ "") :
    f.risk.details.files.map (·.path) = f.files.map (·.path) := by
  rw [h.details_risk, List.map_map]
  refine List.map_congr_left fun file hfile => ?_
  have hmem : file.file ∈ p.files := h.map_file ▸ List.mem_map_of_mem hfile
  exact (s.riskRules.path_assessFile file.toCandidate).trans
    (ClassifiedFile.nameOf_toCandidate (hp _ hmem))

/-- Findings on consistent files whose classifications describe them agree with the patch. -/
theorem Findings.Examined.agrees {s : Settings} {c : Classifier} {p : Patch} {f : Findings}
    (h : f.Examined s c p) (hp : ∀ file ∈ p.files, file.Consistent)
    (hc : ∀ file ∈ p.files, (c.classifyFile file).value.Describes (Changes.of file)) :
    f.Agrees p := by
  have hread := h.map_file
  have hpaths := h.map_path fun file hfile => (hp file hfile).path
  have htotals : f.summary.totals = .ofFiles p.files := by
    rw [h.summary, Summary.of, hread]
  exact {
    read := hread
    file := fun file hfile => by
      rw [h.files] at hfile
      obtain ⟨g, hg, rfl⟩ := List.mem_map.1 hfile
      exact ClassifiedFile.agrees_of (hp g hg) (hc g hg)
    paths := hpaths
    entries := by simpa using congrArg List.length hpaths
    assessed := by rw [h.details_risk]
    summed := by rw [htotals, ← hread]; exact List.length_map _
    totals := htotals
    additions := by
      rw [htotals]
      exact sumCounts_map fun g hg => (hp g hg).additions_eq
    deletions := by
      rw [htotals]
      exact sumCounts_map fun g hg => (hp g hg).deletions_eq
    counted := by
      rw [h.summary, Summary.of, changeTypeCounts, Table.sum_counts, List.length_map]
    counts := fun type => by
      rw [h.summary]
      exact getD_get?_changeTypeCounts f.files type
    level := by rw [h.summary]; rfl }

namespace Analysis

/-- A report with findings shows the counts of change types twice, the same each time. -/
theorem get?_changeTypes_toJson {r : Report} {f : Findings} (h : r.outcome = .success f) :
    r.toJson.get? "change_types" = some (Summary.changeTypesJson f.summary.changeTypes) ∧
      (r.toJson.get? "summary").bind (·.get? "change_types") =
        some (Summary.changeTypesJson f.summary.changeTypes) := by
  rw [Report.toJson, h]
  exact ⟨rfl, rfl⟩

/-- **All stages of a run agree.** Whatever the settings are, what is found on a text is about the
files that were read from it, and counts the same lines of them everywhere. -/
theorem run_agrees {s : Settings} {text : String} {f : Findings}
    (h : (run s (.standard s) text).value.outcome = .success f) :
    (∃ p, Patch.parse text = .ok p ∧ f.Agrees p) ∧
      (run s (.standard s) text).value.toJson.get? "change_types" =
        some (Summary.changeTypesJson f.summary.changeTypes) ∧
      ((run s (.standard s) text).value.toJson.get? "summary").bind (·.get? "change_types") =
        some (Summary.changeTypesJson f.summary.changeTypes) := by
  obtain ⟨-, p, hp, rfl⟩ := exists_of_success h
  have hconsistent := Patch.consistent_of_mem_parse hp
  have hdescribes : ∀ file ∈ p.files,
      ((Classifier.ofRules s.classifierRules).classifyFile file).value.Describes
        (Changes.of file) := by
    intro file hfile
    obtain ⟨hs, hhs⟩ := (hconsistent file hfile).hunks
    exact Classifier.describes_classifyFile s.sound_classifierRules
      (ClassifierRules.marking_standard s.languageStrategies) hhs
  exact ⟨⟨p, hp, (examined_examine s _ p).agrees hconsistent hdescribes⟩,
    get?_changeTypes_toJson h⟩

/-- A file with changes of both kinds and a file that was only renamed. -/
theorem run_agrees_two :
    ∃ f, (run {} (.standard {}) ("diff --git a/a.ts b/a.ts\n@@ -1 +1,2 @@\n+x\n-y\n+z\n" ++
        "diff --git a/b b/c\nrename from b\nrename to c")).value.outcome = .success f ∧
      f.Agrees
        { files := [
            { oldPath := "a.ts", newPath := "a.ts", additions := some 2, deletions := some 1
              hunks := some [⟨1, 1, 1, 2, ["+x", "-y", "+z"], ""⟩] },
            { oldPath := "b", newPath := "c", status := .renamed }] } := by
  have hparse : Patch.parse ("diff --git a/a.ts b/a.ts\n@@ -1 +1,2 @@\n+x\n-y\n+z\n" ++
      "diff --git a/b b/c\nrename from b\nrename to c") = .ok
        { files := [
            { oldPath := "a.ts", newPath := "a.ts", additions := some 2, deletions := some 1
              hunks := some [⟨1, 1, 1, 2, ["+x", "-y", "+z"], ""⟩] },
            { oldPath := "b", newPath := "c", status := .renamed }] } := by decide +kernel
  have hf := @outcome_of_parse {} (.standard {}) _ _ rfl (by decide +kernel) hparse
  obtain ⟨⟨p, hp, hagrees⟩, -⟩ := run_agrees hf
  rw [hparse] at hp
  obtain rfl := Except.ok.inj hp
  exact ⟨_, hf, hagrees⟩

end Analysis

end PatchTriage
