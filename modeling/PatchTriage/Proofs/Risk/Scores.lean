import PatchTriage.Proofs.Change.Confidence
import PatchTriage.Risk.Assess

/-!
# Scores of risk

A file may get no factors, for one of them may be out of bounds. Under rules that ask for nothing
odd (`RiskRules.Sound`) this never happens: every file that is there is scored from three factors
between zero and one (`RiskRules.Sound.assessFile`), and so is the patch (`RiskRules.Sound.assess`),
whose band follows from its score.
-/

namespace PatchTriage

open Binary64 (IsScore)

/-- Whether all factors lie between zero and one. -/
structure RiskFactors.Sound (f : RiskFactors) : Prop where
  fileType : f.fileType.IsScore
  changeType : f.changeType.IsScore
  size : f.size.IsScore

/-- No factor is out of bounds exactly if all of them lie between zero and one. -/
theorem RiskFactors.outOfBounds_eq_nil_iff {f : RiskFactors} : f.outOfBounds = [] ↔ f.Sound := by
  rw [outOfBounds, List.filterMap_eq_nil_iff]
  simp only [List.forall_mem_cons, OutOfBounds.score?_eq_none_iff]
  exact ⟨fun ⟨htype, hchange, hsize, _⟩ => ⟨htype, hchange, hsize⟩,
    fun h => ⟨h.fileType, h.changeType, h.size, nofun⟩⟩

/-- Factors between zero and one are not refused. -/
theorem RiskFactors.Sound.checked {f : RiskFactors} (h : f.Sound) : f.checked = .ok f := by
  rw [RiskFactors.checked, outOfBounds_eq_nil_iff.2 h]

/-- Other factors are refused with a fault that names all those out of bounds. -/
theorem RiskFactors.checked_of_not_sound {f : RiskFactors} (h : ¬f.Sound) :
    f.checked = .error (OutOfBounds.fault recordName f.outOfBounds) := by
  rw [RiskFactors.checked]
  split
  · next hnil => exact absurd (outOfBounds_eq_nil_iff.1 hnil) h
  · rfl

/-- The mean of factors is a score, whatever they are. -/
theorem RiskFactors.isScore_mean (f : RiskFactors) : f.mean.IsScore := by
  rw [mean]
  exact Binary64.isScore_clamp _

/-- Whether a file is scored between zero and one, from factors between zero and one. -/
structure FileRisk.Sound (f : FileRisk) : Prop where
  score : f.score.IsScore
  factors : ∃ factors, f.factors = some factors ∧ factors.Sound

/-- Whether rules give risks between zero and one only. The risk of a change type is clamped, so
nothing is asked of it. -/
structure RiskRules.Sound (r : RiskRules) : Prop where
  high : r.highFileRisk.IsScore
  medium : r.mediumFileRisk.IsScore
  low : r.lowFileRisk.IsScore
  other : r.defaultFileRisk.IsScore
  missing : r.missingPathRisk.IsScore
  steps : ∀ step ∈ r.sizeSteps, step.risk.IsScore
  size : r.maxSizeRisk.IsScore

namespace RiskRules

/-- The standard rules are sound, wherever the bands of risk begin. -/
theorem sound_standard (highThreshold mediumThreshold : Binary64) :
    ({ highThreshold, mediumThreshold } : RiskRules).Sound where
  high := (by decide +kernel : IsScore 0.8)
  medium := (by decide +kernel : IsScore 0.5)
  low := (by decide +kernel : IsScore 0.2)
  other := (by decide +kernel : IsScore 0.3)
  missing := (by decide +kernel : IsScore 0.1)
  steps := (by decide +kernel : ∀ step ∈ standardSizeSteps, step.risk.IsScore)
  size := (by decide +kernel : IsScore 0.9)

/-- So is the risk of a change type, whatever the confidence is. -/
theorem isScore_changeTypeRisk (r : RiskRules) (changeType : ChangeType) (confidence : Binary64) :
    (r.changeTypeRisk changeType confidence).IsScore := by
  rw [changeTypeRisk]
  exact Binary64.isScore_clamp _

/-- So is the mean of the scores of files. -/
theorem isScore_meanScore (files : List FileRisk) : (meanScore files).IsScore := by
  rw [meanScore]
  exact Binary64.isScore_clamp _

namespace Sound

variable {r : RiskRules} (hr : r.Sound)
include hr

/-- Under sound rules the risk of an extension is a score. -/
theorem extensionRisk (extension : String) : (r.extensionRisk extension).IsScore := by
  rw [RiskRules.extensionRisk]
  split
  · exact hr.high
  · split
    · exact hr.medium
    · split
      · exact hr.low
      · exact hr.other

/-- So is the risk of a path. -/
theorem fileTypeRisk (path : String) : (r.fileTypeRisk path).IsScore := by
  rw [RiskRules.fileTypeRisk]
  split
  · exact hr.missing
  · exact hr.extensionRisk _

/-- So is the risk of a number of lines. -/
theorem linesRisk (changed : Int) : (r.linesRisk changed).IsScore := by
  rw [RiskRules.linesRisk]
  split
  · next step h => exact hr.steps step (List.mem_of_find?_eq_some h)
  · exact hr.size

/-- The factors of every file lie between zero and one, whatever its classification is. -/
theorem factors (f : FileChange) (c : Classification) : (r.factors f c).Sound := by
  rw [RiskRules.factors, sizeRisk]
  constructor
  · exact hr.fileTypeRisk _
  · dsimp only
    exact r.isScore_changeTypeRisk _ _
  · exact hr.linesRisk _

/-- **The assessor does not give up.** A file that is there is scored from its factors, and no fault
is captured. -/
theorem assessFile {c : Candidate} {f : FileChange} (hf : c.file = some f) :
    (r.assessFile c).value.Sound ∧ (r.assessFile c).IsClean := by
  have hsound := hr.factors f (c.classification.getD .unknown)
  rw [RiskRules.assessFile, hf]
  dsimp only
  rw [hsound.checked]
  refine ⟨⟨?_, _, rfl, hsound⟩, rfl⟩
  rw [Traced.value_pure]
  dsimp only
  exact RiskFactors.isScore_mean _

end Sound

/-- An assessment of files in the bands of some rules. -/
structure Assessed (r : RiskRules) (count : Nat) (a : RiskAssessment) : Prop where
  length : a.details.files.length = count
  files : ∀ f ∈ a.details.files, f.Sound
  score : a.score.IsScore
  /-- The band of a patch with files follows from its score. -/
  level : 0 < count → a.level =
    if r.highThreshold ≤ a.score then .high
    else if r.mediumThreshold ≤ a.score then .medium
    else .low
  /-- A patch without files has no risk. -/
  nothing : count = 0 → a.score = 0 ∧ a.level = .low

/-- Scored files add up to an assessment. -/
theorem assessed_aggregate (r : RiskRules) {files : List FileRisk} (hne : files ≠ [])
    (hfiles : ∀ f ∈ files, f.Sound) : r.Assessed files.length (r.aggregate files) := by
  rw [aggregate]
  refine ⟨rfl, hfiles, ?_, fun _ => ?_, fun h0 => ?_⟩
  · dsimp only
    exact isScore_meanScore files
  · dsimp only
    generalize meanScore files = x
    rw [level]
  · exact absurd (List.eq_nil_of_length_eq_zero h0) hne

/-- Files that are all there are assessed one by one, and no fault is captured. -/
theorem Sound.assess {r : RiskRules} (hr : r.Sound) {l : List Candidate}
    (hl : ∀ c ∈ l, ∃ f, c.file = some f) :
    r.Assessed l.length (r.assess l).value ∧ (r.assess l).IsClean := by
  have hfile : ∀ c ∈ l, (r.assessFile c).value.Sound ∧ (r.assessFile c).IsClean := by
    intro c hc
    obtain ⟨f, hf⟩ := hl c hc
    exact hr.assessFile hf
  rw [RiskRules.assess]
  split
  · next h =>
    obtain rfl := List.isEmpty_iff.1 h
    exact ⟨⟨rfl, nofun, Binary64.isScore_zero, nofun, fun _ => ⟨rfl, rfl⟩⟩, rfl⟩
  · next h =>
    constructor
    · have hne : l.map (fun c => (r.assessFile c).value) ≠ [] := by simpa using h
      have hsound : ∀ f ∈ l.map (fun c => (r.assessFile c).value), f.Sound := by
        simpa using fun c hc => (hfile c hc).1
      have hassessed := r.assessed_aggregate hne hsound
      rw [List.length_map] at hassessed
      simpa using hassessed
    · exact (Traced.isClean_each fun c hc => (hfile c hc).2).bind
        ((Traced.isClean_log _).bind (Traced.isClean_pure _))

end RiskRules

end PatchTriage
