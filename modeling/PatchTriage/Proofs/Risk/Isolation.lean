import PatchTriage.Proofs.Risk.Json
import Mathlib.Tactic.ByContra

/-!
# Files that cannot be assessed

Rules may ask for anything, so a factor may be out of bounds, and a candidate may have no file at
all (`RiskRules.Unassessable`). Such a candidate gets the score zero without factors, with one
captured fault (`RiskRules.assessFile_of_unassessable`); every other one is scored from its factors
(`RiskRules.assessFile_of_assessable`). The candidates do not see each other, so a failure adds a
zero to the mean and nothing else: `RiskRules.assess_isolates`.
-/

namespace PatchTriage

open Binary64 (IsScore)

namespace RiskRules

/-- The name of a candidate in what is told of it. -/
def nameOf (c : Candidate) : String := c.file.elim unknownPath assessedPath

/-- Whether a candidate cannot be assessed: it has no file, or the factor of the type or of the size
of its file is out of bounds. -/
def Unassessable (r : RiskRules) (c : Candidate) : Prop :=
  match c.file with
  | none => True
  | some f =>
    ¬(r.fileTypeRisk (assessedPath f)).IsScore ∨ ¬(r.sizeRisk f.additions f.deletions).IsScore

instance (r : RiskRules) : DecidablePred r.Unassessable := fun ⟨file, _⟩ =>
  match file with
  | none => .isTrue trivial
  | some f => inferInstanceAs (Decidable (¬(r.fileTypeRisk (assessedPath f)).IsScore ∨
      ¬(r.sizeRisk f.additions f.deletions).IsScore))

/-- Why a candidate cannot be assessed. -/
def faultOf (r : RiskRules) (c : Candidate) : Fault :=
  match c.file with
  | none => .missingAttribute "path"
  | some f => OutOfBounds.fault RiskFactors.recordName
      (r.factors f (c.classification.getD .unknown)).outOfBounds

/-- The record of a candidate that cannot be assessed. -/
def recordOf (r : RiskRules) (c : Candidate) : CapturedFault where
  severity := .warning
  fault := r.faultOf c
  context := [("stage", .text stage), ("file_path", .text (nameOf c))]

variable (r : RiskRules)

/-! ## One candidate -/

/-- A file that is given up gets the score zero. -/
@[simp]
theorem value_giveUp (path : String) (fault : Fault) :
    (giveUp path fault).value = { path, score := 0 } := rfl

/-- The factor of the change type is clamped. -/
theorem isScore_changeType_factors (f : FileChange) (c : Classification) :
    (r.factors f c).changeType.IsScore := by
  rw [factors]
  dsimp only
  exact r.isScore_changeTypeRisk _ _

/-- So it keeps no file from being assessed: the other two factors decide. -/
theorem sound_factors_iff {c : Candidate} {f : FileChange} (hf : c.file = some f)
    (classification : Classification) :
    (r.factors f classification).Sound ↔ ¬r.Unassessable c := by
  have hchange := r.isScore_changeType_factors f classification
  obtain ⟨file, _⟩ := c
  obtain rfl : file = some f := hf
  rw [Unassessable, not_or, not_not, not_not]
  exact ⟨fun h => ⟨h.fileType, h.size⟩, fun ⟨htype, hsize⟩ => ⟨htype, hchange, hsize⟩⟩

/-- A candidate that cannot be assessed is given up on. -/
theorem assessFile_of_unassessable {c : Candidate} (h : r.Unassessable c) :
    r.assessFile c = giveUp (nameOf c) (r.faultOf c) := by
  cases hf : c.file with
  | none => rw [assessFile, nameOf, faultOf, hf]; rfl
  | some f =>
    have hnot := mt (r.sound_factors_iff hf (c.classification.getD .unknown)).1 (not_not.2 h)
    rw [assessFile, nameOf, faultOf, hf]
    dsimp only
    rw [RiskFactors.checked_of_not_sound hnot]
    rfl

/-- Any other candidate is scored from its factors, and no fault is captured. -/
theorem assessFile_of_assessable {c : Candidate} (h : ¬r.Unassessable c) :
    ∃ factors : RiskFactors, factors.Sound ∧ r.assessFile c =
      pure { path := nameOf c, score := factors.mean, factors := some factors } := by
  cases hf : c.file with
  | none =>
    obtain ⟨file, _⟩ := c
    obtain rfl : file = none := hf
    exact absurd trivial h
  | some f =>
    have hsound := (r.sound_factors_iff hf (c.classification.getD .unknown)).2 h
    refine ⟨_, hsound, ?_⟩
    rw [assessFile, nameOf, hf]
    dsimp only
    rw [hsound.checked]
    rfl

/-- The assessment of a file has the name of its candidate. -/
theorem path_assessFile (c : Candidate) : (r.assessFile c).value.path = nameOf c := by
  by_cases h : r.Unassessable c
  · rw [r.assessFile_of_unassessable h, value_giveUp]
  · obtain ⟨factors, -, he⟩ := r.assessFile_of_assessable h
    rw [he]
    rfl

/-- The assessment of a file is within its bounds. -/
theorem inBounds_assessFile (c : Candidate) : (r.assessFile c).value.InBounds := by
  by_cases h : r.Unassessable c
  · rw [r.assessFile_of_unassessable h, value_giveUp]
    exact ⟨Binary64.isScore_zero, nofun⟩
  · obtain ⟨factors, hsound, he⟩ := r.assessFile_of_assessable h
    rw [he, Traced.value_pure]
    refine ⟨?_, fun factors' hfactors => ?_⟩
    · dsimp only
      exact factors.isScore_mean
    · obtain rfl := Option.some.inj hfactors
      exact hsound

/-- The factors are missing exactly if the candidate cannot be assessed, and then the score is
zero. -/
theorem factors_assessFile (c : Candidate) :
    ((r.assessFile c).value.factors = none ∧ (r.assessFile c).value.score = 0) ↔
      r.Unassessable c := by
  constructor
  · rintro ⟨hfactors, -⟩
    by_contra h
    obtain ⟨factors, -, he⟩ := r.assessFile_of_assessable h
    rw [he] at hfactors
    cases hfactors
  · intro h
    simp [r.assessFile_of_unassessable h]

/-! ## Many candidates -/

/-- The entries of an assessment are those of the candidates, each on its own. -/
theorem details_assess (l : List Candidate) :
    (r.assess l).value.details =
      { files := l.map fun c => (r.assessFile c).value, total := l.length } := by
  rw [assess]
  split
  · next h =>
    obtain rfl := List.isEmpty_iff.1 h
    rfl
  · simp [aggregate]

/-- The score of some candidates is the mean of their scores. -/
theorem score_assess {l : List Candidate} (h : l ≠ []) :
    (r.assess l).value.score = meanScore (l.map fun c => (r.assessFile c).value) ∧
      (r.assess l).value.level = r.level (r.assess l).value.score := by
  have hvalue : (r.assess l).value = r.aggregate (l.map fun c => (r.assessFile c).value) := by
    simp [assess, h]
  rw [hvalue, aggregate]
  dsimp only
  exact ⟨rfl, rfl⟩

/-- So is that of a patch. -/
theorem inBounds_assess (l : List Candidate) : (r.assess l).value.InBounds := by
  constructor
  · by_cases h : l = []
    · subst h
      exact Binary64.isScore_zero
    · rw [(r.score_assess h).1]
      exact isScore_meanScore (l.map fun c => (r.assessFile c).value)
  · rw [details_assess]
    dsimp only
    rw [List.forall_mem_map]
    exact fun c _ => r.inBounds_assessFile c

/-- The captured faults are those of the candidates that cannot be assessed, in their order. -/
theorem faultsOf_assess (l : List Candidate) :
    faultsOf (r.assess l).events = (l.filter fun c => r.Unassessable c).map r.recordOf := by
  have heach : faultsOf (Traced.each r.assessFile l).events =
      (l.filter fun c => r.Unassessable c).map r.recordOf := by
    refine Traced.faultsOf_each (fun c _ h => ?_) fun c _ h => ?_
    · rw [r.assessFile_of_unassessable h]
      rfl
    · obtain ⟨factors, -, he⟩ := r.assessFile_of_assessable h
      rw [he]
      exact Traced.isClean_pure _
  rw [assess]
  split
  · next h =>
    obtain rfl := List.isEmpty_iff.1 h
    rfl
  · rw [Traced.events_bind, faultsOf_append, heach]
    simp

/-- What an assessment says of candidates, whatever the rules ask for. -/
structure Accounts (l : List Candidate) (a : RiskAssessment) : Prop where
  /-- None of the checks of a record refuses what it was made with. -/
  accepted : RiskAssessment.ofJson a.toJson = .valid a
  score : a.score.IsScore
  /-- The band of some candidates follows from their score. -/
  level : l ≠ [] → a.level =
    if r.highThreshold ≤ a.score then .high
    else if r.mediumThreshold ≤ a.score then .medium
    else .low
  /-- No candidates have no risk. -/
  nothing : l = [] → a.score = 0 ∧ a.level = .low
  total : a.details.total = l.length
  length : a.details.files.length = l.length
  /-- Every candidate has the entry that it has when it stands alone; it is the entry without
  factors exactly if the candidate cannot be assessed. -/
  entry : ∀ (i : Nat) (c : Candidate), l[i]? = some c → ∃ e, a.details.files[i]? = some e ∧
    (r.assess [c]).value.details.files = [e] ∧
    ((e.factors = none ∧ e.score = 0) ↔ r.Unassessable c)

/-- **An assessment accounts for its candidates**, whatever the rules are. -/
theorem accounts_assess (l : List Candidate) : r.Accounts l (r.assess l).value where
  accepted := RiskAssessment.ofJson_toJson (r.inBounds_assess l)
  score := (r.inBounds_assess l).score
  level h := by rw [(r.score_assess h).2, RiskRules.level]
  nothing h := by
    subst h
    exact ⟨rfl, rfl⟩
  total := by rw [details_assess]
  length := by rw [details_assess, List.length_map]
  entry i c hc := by
    refine ⟨(r.assessFile c).value, ?_, ?_, r.factors_assessFile c⟩
    · rw [details_assess, List.getElem?_map, hc]
      rfl
    · rw [details_assess]
      rfl

/-- **A failure is kept to the file it hits**, under all rules. Every list of candidates is
assessed; those that cannot be are the ones without factors, and each of them leaves one record, in
their order, in the innermost scope. The factor of the change type keeps no file from being
assessed, and a missing classification is as good as an unknown one. -/
theorem assess_isolates (l : List Candidate) (earlier : List CapturedFault) (outer : Scopes) :
    r.Accounts l (r.assess l).value ∧
    (∃ records, (faultsOf (r.assess l).events).foldl Scopes.capture
        ({ enabled := true, faults := earlier } :: outer) =
          { enabled := true, faults := earlier ++ records } :: outer ∧
      records.map (fun c => (c.stage, c.filePath)) =
        (l.filter fun c => r.Unassessable c).map fun c => (.text "assess", .text (nameOf c))) ∧
    (∀ f c, (r.factors f c).changeType.IsScore) ∧
    ∀ file, r.assessFile { file, classification := none } =
      r.assessFile
        { file, classification := some { changeType := .unknown, confidence := 0 } } := by
  refine ⟨r.accounts_assess l, ⟨(l.filter fun c => r.Unassessable c).map r.recordOf, ?_, ?_⟩,
    r.isScore_changeType_factors, fun file => rfl⟩
  · rw [r.faultsOf_assess, Scopes.foldl_capture, Tracker.captureAll, if_pos rfl]
  · rw [List.map_map]
    rfl

end RiskRules

end PatchTriage
