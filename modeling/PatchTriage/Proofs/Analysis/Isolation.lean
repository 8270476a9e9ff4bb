import PatchTriage.Proofs.Analysis.Outcome
import PatchTriage.Proofs.Change.Isolation

/-!
# A classifier that fails on some files

A run is repeated with a classifier that raises a fault on the files with some paths. It still finds
something (`Analysis.run_failingAt`): the files that are hit are unknown and listed as degraded, if
faults are kept, and every other file has the classification and the risk that it had before
(`Findings.Degrades`). An unknown file is assessed as any other, so the assessor adds no fault.
-/

namespace PatchTriage

/-- The pipeline whose classifier raises a fault on every file with one of some paths. -/
def Pipeline.failingAt (p : Pipeline) (P : String → Prop) [DecidablePred P] (e : Fault) :
    Pipeline :=
  { p with classifier := p.classifier.failingAt P e }

/-- Whether findings differ from others only by what a fault on the files with some paths does:
these files are unknown and degraded, and all others are as they were. -/
structure Findings.Degrades (P : String → Prop) [DecidablePred P] (e : Fault) (f f' : Findings) :
    Prop where
  files : f'.files = f.files.map fun c =>
    if P c.path then
      { c with classification :=
          { changeType := .unknown, confidence := 0, details := {}, language := none
            signals := [] } }
    else c
  risks : ∀ (i : Nat) (c : ClassifiedFile), f.files[i]? = some c → ¬P c.path →
    ∃ r, f.risk.details.files[i]? = some r ∧ f'.risk.details.files[i]? = some r
  errors : f'.degraded = (f.files.filter fun c => P c.path).map fun c =>
    { stage := .text "classify", path := .text c.path, error := .text s!"{e.label}: {e.message}" }

variable {s : Settings} {p : Patch} {f f' : Findings} (P : String → Prop) [DecidablePred P]
  (e : Fault)

/-- A fault of the classifier degrades what is found on a patch, if faults are kept. -/
theorem Findings.Examined.degrades
    (h : f.Examined s (.ofRules s.classifierRules) p)
    (h' : f'.Examined { s with errorTracking := true }
      ((Classifier.ofRules s.classifierRules).failingAt P e) p)
    (hp : ∀ file ∈ p.files, ∃ hs, file.hunks = some hs) : f.Degrades P e f' := by
  have hfiles : f'.files = f.files.map fun c =>
      if P c.path then { c with classification := .unknown } else c := by
    rw [h'.files, h.files, ← Classifier.value_classifyFiles, ← Classifier.value_classifyFiles]
    exact Classifier.value_classifyFiles_failingAt _ P e hp
  exact {
    files := hfiles
    risks := fun i c hi hc => by
      have hi' : f'.files[i]? = some c := by
        rw [hfiles, List.getElem?_map, hi, Option.map_some, if_neg hc]
      refine ⟨(s.riskRules.assessFile c.toCandidate).value, ?_, ?_⟩
      · rw [h.details_risk, List.getElem?_map, hi]
        rfl
      · rw [h'.details_risk, List.getElem?_map, hi']
        rfl
    errors := by
      have hclassify := (Classifier.ofRules s.classifierRules).faultsOf_classifyFiles_failingAt P e
        fun file hfile => by
          obtain ⟨hs, hhs⟩ := hp file hfile
          exact ⟨⟨hs, hhs⟩, (Classifier.sound_classifyFile s.sound_classifierRules hhs).2⟩
      have hassess : faultsOf (s.riskRules.assess
          (f'.files.map ClassifiedFile.toCandidate)).events = [] :=
        (s.sound_riskRules.assess (ClassifiedFile.exists_file_of_mem f'.files)).2
      have hkept : f'.degraded = (faultsOf
          (((Classifier.ofRules s.classifierRules).failingAt P e).classifyFiles p).events ++
            faultsOf (s.riskRules.assess (f'.files.map ClassifiedFile.toCandidate)).events).map
              DegradedFile.ofFault := h'.degraded
      rw [hkept, hclassify, hassess, List.append_nil, List.map_map, h.files, List.filter_map,
        List.map_map]
      rfl }

namespace Analysis

/-- **A fault of the classifier degrades only the files it hits.** The size check and the reader
look neither at the classifier nor at what is kept. -/
theorem run_failingAt {text : String}
    (h : (run s (.standard s) text).value.outcome = .success f) :
    ∃ f', f.Degrades P e f' ∧
      (run { s with errorTracking := true } ((Pipeline.standard s).failingAt P e) text).value =
        { digest := Digest.short text, outcome := .success f' } ∧
      (run { s with errorTracking := false } ((Pipeline.standard s).failingAt P e) text).value =
        { digest := Digest.short text, outcome := .success { f' with degraded := [] } } := by
  obtain ⟨hsize, p, hp, rfl⟩ := exists_of_success h
  have hhunks := Patch.hunks_of_mem_parse hp
  have hfound (tracking : Bool) :
      (run { s with errorTracking := tracking } ((Pipeline.standard s).failingAt P e) text).value =
        { digest := Digest.short text
          outcome := .success (examine { s with errorTracking := tracking }
            ((Classifier.ofRules s.classifierRules).failingAt P e) p).value } :=
    congrArg (Report.mk (Digest.short text)) (outcome_of_parse rfl hsize hp)
  refine ⟨_, ?_, hfound true, ?_⟩
  · exact (examined_examine s _ p).degrades P e (examined_examine _ _ p) hhunks
  · rw [hfound false]
    rfl

/-- A fault on two files in languages with rules of their own, with another file between them. -/
theorem run_failingAt_languages :
    ∃ f f', (run {} (.standard {}) ("diff --git a/a.ts b/a.ts\n@@ -1 +1 @@\n+x as any\n" ++
        "diff --git a/c b/c\ndiff --git a/b.go b/b.go")).value.outcome = .success f ∧
      f.Degrades (fun path => path = "a.ts" ∨ path = "b.go") ⟨"ValueError", "odd"⟩ f' ∧
      f'.degraded = [⟨.text "classify", .text "a.ts", .text "ValueError: odd"⟩,
        ⟨.text "classify", .text "b.go", .text "ValueError: odd"⟩] := by
  have hparse : Patch.parse ("diff --git a/a.ts b/a.ts\n@@ -1 +1 @@\n+x as any\n" ++
      "diff --git a/c b/c\ndiff --git a/b.go b/b.go") = .ok { files := [
        { oldPath := "a.ts", newPath := "a.ts", additions := some 1
          hunks := some [⟨1, 1, 1, 1, ["+x as any"], ""⟩] },
        { oldPath := "c", newPath := "c" }, { oldPath := "b.go", newPath := "b.go" }] } := by
    decide +kernel
  have hfound := @outcome_of_parse {} (.standard {}) _ _ rfl (by decide +kernel) hparse
  obtain ⟨f', hdegrades, -, -⟩ :=
    run_failingAt (fun path => path = "a.ts" ∨ path = "b.go") ⟨"ValueError", "odd"⟩ hfound
  exact ⟨_, f', hfound, hdegrades, hdegrades.errors.trans rfl⟩

end Analysis

end PatchTriage
