import PatchTriage.Analysis.Run
import PatchTriage.Proofs.Patch.Failure
import PatchTriage.Proofs.Risk.Isolation

/-!
# The outcome of a run

A run with the standard pipeline fails in two ways only (`Analysis.Fails`): the text is too large,
or a numeral behind the opener of a file is too long. Otherwise the patch is examined, and each part
of what is found is drawn from its own stage (`Findings.Examined`). No file is degraded
(`Findings.Sound`): nothing that is checked on the way is ever refused, whatever the settings are.
`Analysis.run_standard` puts the two together.
-/

namespace PatchTriage

/-- Whether a report shows nothing but an error. -/
def Report.IsBare (r : Report) : Prop :=
  ∃ error, r.toJson = .object [("success", .bool false), ("error", .text error),
    ("diff_digest", .text r.digest), ("summary", .null), ("files", .array []), ("risk", .null),
    ("change_types", .object []), ("recommendations", .array []), ("errors", .array [])]

/-- Whether the files of a patch are all classified and assessed in full. -/
structure Findings.Sound (s : Settings) (p : Patch) (f : Findings) : Prop where
  degraded : f.degraded = []
  files : f.files.map (·.file) = p.files
  classifications : ∀ c ∈ f.files, c.classification.Sound
  risk : s.riskRules.Assessed p.files.length f.risk

/-- Whether findings are those of a classifier on a patch: every file has its own classification,
the risk is that of the classified files, and the rest sums up the two. -/
structure Findings.Examined (s : Settings) (c : Classifier) (p : Patch) (f : Findings) : Prop where
  files : f.files = p.files.map fun file => ⟨file, (c.classifyFile file).value⟩
  risk : f.risk = (s.riskRules.assess (f.files.map ClassifiedFile.toCandidate)).value
  summary : f.summary = .of f.files (some f.risk)
  recommendations :
    f.recommendations = (Recommendation.generate s.largeDiffFiles f.files (some f.risk)).value
  /-- The files that the captured faults degrade, if faults are kept. -/
  degraded : f.degraded = if s.errorTracking then
      (faultsOf (c.classifyFiles p).events ++
        faultsOf (s.riskRules.assess (f.files.map ClassifiedFile.toCandidate)).events).map
          DegradedFile.ofFault
    else []

/-- The entries of the risk are those of the files, each on its own. -/
theorem Findings.Examined.details_risk {s : Settings} {c : Classifier} {p : Patch} {f : Findings}
    (h : f.Examined s c p) :
    f.risk.details =
      { files := f.files.map fun file => (s.riskRules.assessFile file.toCandidate).value
        total := f.files.length } := by
  rw [h.risk, RiskRules.details_assess, List.map_map, List.length_map]
  rfl

/-- Files that are classified are there. -/
theorem ClassifiedFile.exists_file_of_mem (files : List ClassifiedFile) :
    ∀ c ∈ files.map toCandidate, ∃ f, c.file = some f := by
  rw [List.forall_mem_map]
  exact fun file _ => ⟨file.file, rfl⟩

/-- Under all settings, the rules of the classifier are sound. -/
theorem Settings.sound_classifierRules (s : Settings) : s.classifierRules.Sound :=
  ClassifierRules.sound_standard s.languageStrategies

/-- Under all settings, the rules of risk are sound. -/
theorem Settings.sound_riskRules (s : Settings) : s.riskRules.Sound :=
  RiskRules.sound_standard s.highThreshold s.mediumThreshold

namespace Analysis

/-- Whether nothing is found on a text. -/
def Fails (s : Settings) (text : String) : Prop :=
  s.maxDiffBytes < text.utf8ByteSize ∨ Unreadable (Text.lines text.toList)

/-! ## Examining a patch -/

/-- The files that a trace degrades are those of its captured faults, if faults are kept. -/
theorem degraded_eq (s : Settings) (events : List Event) :
    degraded s events =
      if s.errorTracking then (faultsOf events).map DegradedFile.ofFault else [] := by
  rw [degraded, Keeping.tracker, Tracker.captureAll, Settings.keeping]
  cases s.errorTracking with
  | true => rfl
  | false => rfl

/-- Each part of what is found is drawn from its own stage. -/
theorem examined_examine (s : Settings) (c : Classifier) (p : Patch) :
    (examine s c p).value.Examined s c p where
  files := c.value_classifyFiles p
  risk := rfl
  summary := rfl
  recommendations := rfl
  degraded := by
    have hvalue : (examine s c p).value.degraded = degraded s
        ((Traced.timed MetricName.classifyDuration (c.classifyFiles p)).events ++
          (Traced.timed MetricName.assessDuration (s.riskRules.assess
            ((c.classifyFiles p).value.map ClassifiedFile.toCandidate))).events) := rfl
    have hfiles : (examine s c p).value.files = (c.classifyFiles p).value := rfl
    simp [hvalue, hfiles, degraded_eq]

/-- What is found on a patch whose files all have their hunks is sound. -/
theorem sound_examine (s : Settings) {p : Patch} (hp : ∀ f ∈ p.files, ∃ hs, f.hunks = some hs) :
    (examine s (.ofRules s.classifierRules) p).value.Sound s p := by
  have h := examined_examine s (.ofRules s.classifierRules) p
  obtain ⟨hfiles, hsound, hclean⟩ := Classifier.sound_classifyFiles s.sound_classifierRules hp
  rw [Classifier.value_classifyFiles, ← h.files] at hfiles hsound
  obtain ⟨hrisk, hclean'⟩ := s.sound_riskRules.assess <|
    ClassifiedFile.exists_file_of_mem (examine s (.ofRules s.classifierRules) p).value.files
  rw [← h.risk, List.length_map, ← List.length_map (·.file), hfiles] at hrisk
  refine ⟨?_, hfiles, hsound, hrisk⟩
  rw [h.degraded, hclean, hclean']
  split <;> rfl

/-! ## From the text to the report -/

/-- The standard reader parses, for the empty text has no files either. -/
theorem value_read (text : String) :
    (Reader.read text).value = (Patch.parse text).mapError Reader.fault := by
  rw [Reader.read]
  split
  · next h =>
    obtain rfl := String.isEmpty_iff.1 h
    rfl
  · cases Patch.parse text with
    | ok p => rfl
    | error e => rfl

/-- The outcome follows from what was found. -/
theorem outcome_run (s : Settings) (p : Pipeline) (text : String) :
    (run s p text).value.outcome =
      match (find s p text).value with
      | .ok f => .success f
      | .error e => .failure (some e.message) := by
  have hrun : (run s p text).value.outcome = (conclude (find s p text).value).value := rfl
  rw [hrun]
  cases (find s p text).value with
  | ok f => rfl
  | error e =>
    cases e with
    | refused e => rfl
    | failed f => rfl

/-- A text that is too large is refused. -/
theorem find_of_large {s : Settings} {text : String} (h : s.maxDiffBytes < text.utf8ByteSize)
    (p : Pipeline) : ∃ e, (find s p text).value = .error (.refused e) := by
  rw [find, checkSize, if_pos h]
  exact ⟨_, rfl⟩

/-- On a text of a permitted size, the reader decides. -/
theorem find_of_not_large {s : Settings} {p : Pipeline} {text : String}
    (hread : p.read = Reader.read) (h : ¬s.maxDiffBytes < text.utf8ByteSize) :
    (find s p text).value =
      match Patch.parse text with
      | .ok patch => .ok (examine s p.classifier patch).value
      | .error e => .error (.failed (Reader.fault e)) := by
  have hvalue : (Traced.timed MetricName.parseDuration (p.read text)).value =
      (Patch.parse text).mapError Reader.fault := by
    rw [hread]
    exact value_read text
  rw [find, checkSize, if_neg h]
  dsimp only
  rw [Traced.value_bind, hvalue]
  cases Patch.parse text with
  | ok patch => rfl
  | error e => rfl

/-- A text of a permitted size that is read is examined. -/
theorem outcome_of_parse {s : Settings} {p : Pipeline} {text : String} {patch : Patch}
    (hread : p.read = Reader.read) (h : ¬s.maxDiffBytes < text.utf8ByteSize)
    (hpatch : Patch.parse text = .ok patch) :
    (run s p text).value.outcome = .success (examine s p.classifier patch).value := by
  rw [outcome_run, find_of_not_large hread h, hpatch]

/-- What is found on a text was found by examining the patch that was read from it. -/
theorem exists_of_success {s : Settings} {text : String} {f : Findings}
    (h : (run s (.standard s) text).value.outcome = .success f) :
    ¬s.maxDiffBytes < text.utf8ByteSize ∧ ∃ p, Patch.parse text = .ok p ∧
      f = (examine s (.ofRules s.classifierRules) p).value := by
  rw [outcome_run] at h
  by_cases hlarge : s.maxDiffBytes < text.utf8ByteSize
  · obtain ⟨e, he⟩ := find_of_large hlarge (.standard s)
    rw [he] at h
    cases h
  · rw [find_of_not_large rfl hlarge] at h
    cases hp : Patch.parse text with
    | ok p =>
      rw [hp] at h
      exact ⟨hlarge, p, rfl, (Outcome.success.inj h).symm⟩
    | error e =>
      rw [hp] at h
      cases h

/-- A report without findings shows nothing but its error. -/
theorem isBare_of_failure {r : Report} {error : String} (h : r.outcome = .failure (some error)) :
    r.IsBare ∧ r.succeeded = false := by
  rw [Report.IsBare, Report.toJson, Report.succeeded, h]
  exact ⟨⟨error, rfl⟩, rfl⟩

/-- A text that is too large and one that cannot be read make the report a failure. -/
theorem outcome_of_fails {s : Settings} {text : String} (h : Fails s text) :
    ∃ error, (run s (.standard s) text).value.outcome = .failure (some error) := by
  rw [outcome_run]
  by_cases hlarge : s.maxDiffBytes < text.utf8ByteSize
  · obtain ⟨e, he⟩ := find_of_large hlarge (.standard s)
    exact ⟨_, by rw [he]⟩
  · obtain ⟨e, he⟩ := Patch.exists_parse_error_iff.2 (h.resolve_left hlarge)
    exact ⟨_, by rw [find_of_not_large rfl hlarge, he]⟩

/-- Any other text is read, and all its files are classified and assessed in full. -/
theorem outcome_of_not_fails {s : Settings} {text : String} (h : ¬Fails s text) :
    ∃ p f, Patch.parse text = .ok p ∧
      (run s (.standard s) text).value.outcome = .success f ∧ f.Sound s p := by
  obtain ⟨hlarge, hread⟩ := not_or.1 h
  obtain ⟨p, hp⟩ := Patch.exists_parse_ok_iff.2 hread
  exact ⟨p, _, hp, outcome_of_parse rfl hlarge hp, sound_examine s (Patch.hunks_of_mem_parse hp)⟩

/-- **A run fails in two ways only.** Else every file of the patch is classified and assessed in
full. -/
theorem run_standard (s : Settings) (text : String) :
    ((run s (.standard s) text).value.succeeded = false ↔ Fails s text) ∧
      (Fails s text → (run s (.standard s) text).value.IsBare) ∧
      (¬Fails s text → ∃ p f, Patch.parse text = .ok p ∧
        (run s (.standard s) text).value.outcome = .success f ∧ f.Sound s p) := by
  refine ⟨⟨fun hs => ?_, fun h => ?_⟩, fun h => ?_, outcome_of_not_fails⟩
  · by_contra hnot
    obtain ⟨p, f, -, hf, -⟩ := outcome_of_not_fails hnot
    rw [Report.succeeded, hf] at hs
    cases hs
  · obtain ⟨error, he⟩ := outcome_of_fails h
    exact (isBare_of_failure he).2
  · obtain ⟨error, he⟩ := outcome_of_fails h
    exact (isBare_of_failure he).1

end Analysis

end PatchTriage
