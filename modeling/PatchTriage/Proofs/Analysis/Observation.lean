import PatchTriage.Proofs.Analysis.Outcome
import PatchTriage.Report.Markdown

/-!
# Observing a run

Some settings only say how a run is observed: the environment, the level and the form of log lines,
and whether metrics and faults are kept. Under settings that agree on all others
(`Settings.SameAnalysis`) a run comes to the same report, but for the list of degraded files, which
is empty where faults are not kept (`Analysis.run_eq_keeping`). The list stands last in the JSON
form of a report and in a section of its own on its page (`Report.Shows`).
-/

namespace PatchTriage

/-- Whether two settings ask for the same analysis: they differ at most in how it is observed. -/
structure Settings.SameAnalysis (s s' : Settings) : Prop where
  maxDiffBytes : s.maxDiffBytes = s'.maxDiffBytes
  languageStrategies : s.languageStrategies = s'.languageStrategies
  highThreshold : s.highThreshold = s'.highThreshold
  mediumThreshold : s.mediumThreshold = s'.mediumThreshold
  largeDiffFiles : s.largeDiffFiles = s'.largeDiffFiles

/-- The pipeline with a fault in place of every text that is read, if one is given, and with a fault
in place of the classification of every file whose path has one. A fault of the reader makes a run
fail: it is never a refusal of the text for its size. -/
def Pipeline.withFaults (p : Pipeline) (reading : Option Fault)
    (classifying : String → Option Fault) : Pipeline where
  read := reading.elim p.read fun e _ => pure (.error e)
  classifier := { p.classifier with
    generic := fun f => (classifying f.path).elim (p.classifier.generic f) .error }

/-! ## Keeping the degraded files -/

/-- The findings with the degraded files if these are kept, and without them if not. -/
def Findings.keeping (f : Findings) (kept : Bool) : Findings :=
  { f with degraded := if kept then f.degraded else [] }

/-- The report with the degraded files if these are kept, and without them if not. -/
def Report.keeping (r : Report) (kept : Bool) : Report :=
  { r with outcome :=
      match r.outcome with
      | .success f => .success (f.keeping kept)
      | .failure error => .failure error }

/-- The degraded files of a report. -/
def Report.degraded (r : Report) : List DegradedFile :=
  match r.outcome with
  | .success f => f.degraded
  | .failure _ => []

/-- The section on degraded files. -/
def Markdown.partialLines (l : List DegradedFile) : List String :=
  if l.isEmpty then []
  else "## ⚠️ Partially Analyzed" :: l.map degradedLine ++ [""]

/-- Whether a report is made of parts that do not tell of degraded files, and of these in their
place. -/
structure Report.Shows (r : Report) (fields : Fields) (above below : List String)
    (degraded : List DegradedFile) : Prop where
  json : r.toJson = .object (fields ++ [("errors", .array (degraded.map DegradedFile.toJson))])
  page : r.markdown = "\n".intercalate (above ++ Markdown.partialLines degraded ++ below)

/-- The fields of a report in JSON but for the last one, which tells of degraded files. -/
def Report.mainFields (r : Report) : Fields :=
  match r.toJson with
  | .object fields => fields.dropLast
  | _ => []

/-- The lines of a page in front of the section on degraded files. -/
def Markdown.linesAbove : Outcome → List String
  | .success f =>
    ["# Diff Analysis", ""] ++ (summaryLines f ++ fileLines f ++ changeTypeLines f ++
      recommendationLines f)
  | .failure error => ["# Diff Analysis", ""] ++ body (.failure error)

/-- The lines of a page behind the section on degraded files. -/
def Markdown.linesBelow : Outcome → List String
  | .success _ => ["---", "*Generated by heuristic diff analysis. Verify before acting on it.*"]
  | .failure _ => []

/-- Degraded files are told of in their own places, and nowhere else. -/
theorem Report.shows_keeping (r : Report) (kept : Bool) :
    (r.keeping kept).Shows r.mainFields (Markdown.linesAbove r.outcome)
      (Markdown.linesBelow r.outcome) (if kept then r.degraded else []) := by
  obtain ⟨digest, outcome⟩ := r
  cases outcome with
  | success f =>
    refine ⟨rfl, ?_⟩
    rw [markdown, keeping]
    dsimp only
    rw [Markdown.body, Markdown.linesAbove, Markdown.linesBelow]
    simp only [List.append_assoc]
    rfl
  | failure error =>
    have hnone : Report.degraded ⟨digest, .failure error⟩ = [] := rfl
    have hpartial : Markdown.partialLines [] = [] := rfl
    rw [hnone, ite_self]
    refine ⟨rfl, ?_⟩
    rw [hpartial, List.append_nil, Markdown.linesBelow, List.append_nil]
    rfl

namespace Analysis

variable {s s' : Settings}

/-! ## Two runs -/

/-- The findings are those with all degraded files, without these if faults are not kept. -/
theorem value_examine_eq_keeping (s : Settings) (c : Classifier) (p : Patch) :
    (examine s c p).value =
      (examine { s with errorTracking := true } c p).value.keeping s.errorTracking := by
  suffices h : ∀ kept, (examine { s with errorTracking := kept } c p).value =
      (examine { s with errorTracking := true } c p).value.keeping kept from h s.errorTracking
  intro kept
  cases kept with
  | true => rfl
  | false => rfl

/-- What is found is what would be found with all degraded files, without these if faults are not
kept. -/
theorem value_find_eq_keeping (s : Settings) (p : Pipeline) (text : String) :
    (find s p text).value =
      (find { s with errorTracking := true } p text).value.map (·.keeping s.errorTracking) := by
  have hsize : checkSize { s with errorTracking := true } text = checkSize s text := rfl
  rw [find, find, hsize]
  cases checkSize s text with
  | error e => rfl
  | ok _ =>
    simp only [Traced.value_bind]
    cases (Traced.timed MetricName.parseDuration (p.read text)).value with
    | error e => rfl
    | ok patch => exact congrArg Except.ok (value_examine_eq_keeping s p.classifier patch)

/-- **A run comes to one report**, which goes without the degraded files if faults are not kept. -/
theorem run_eq_keeping (s : Settings) (p : Pipeline) (text : String) :
    (run s p text).value =
      (run { s with errorTracking := true } p text).value.keeping s.errorTracking := by
  refine congrArg (Report.mk (Digest.short text)) ((outcome_run s p text).trans ?_)
  rw [value_find_eq_keeping, outcome_run]
  cases (find { s with errorTracking := true } p text).value with
  | ok f => rfl
  | error e => rfl

/-- Settings that ask for the same analysis and keep the same lead to the same report. -/
theorem run_eq_of_sameAnalysis (h : s.SameAnalysis s') (hkept : s.errorTracking = s'.errorTracking)
    (p : Pipeline) (text : String) : (run s p text).value = (run s' p text).value := by
  have hs : s = { s' with
      environment := s.environment, logLevel := s.logLevel, logFormat := s.logFormat
      metrics := s.metrics } := by
    rw [← h.maxDiffBytes, ← h.languageStrategies, ← h.highThreshold, ← h.mediumThreshold,
      ← h.largeDiffFiles, ← hkept]
  rw [hs]
  rfl

/-- Settings that ask for the same analysis ask for the same pipeline. -/
theorem standard_eq_of_sameAnalysis (h : s.SameAnalysis s') :
    Pipeline.standard s = Pipeline.standard s' := by
  rw [Pipeline.standard, Pipeline.standard, Settings.classifierRules, Settings.classifierRules,
    h.languageStrategies]

end Analysis

end PatchTriage
