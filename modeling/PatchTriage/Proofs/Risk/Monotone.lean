import PatchTriage.Proofs.Binary64.Monotone
import PatchTriage.Proofs.Risk.Isolation
import Mathlib.Data.List.Forall2

/-!
# Riskier files

A file is at most as risky as another with its path and its change type if neither the confidence
nor the number of changed lines is greater (`ClassifiedFile.AtMost`). Under rules whose size steps
ascend and that give no change type a negative risk (`RiskRules.Ascending`) every part of the
assessment follows this order: each factor, each score, and their mean, whatever is rounded on the
way; and bands follow scores wherever they begin (`RiskRules.level_le_level`). The standard rules
ascend, so for them `RiskRules.assess_le_assess` says so of whole patches.
-/

namespace PatchTriage

/-- Whether a file is at most as risky as another one by what an assessment looks at. A count that
is left out is zero. -/
structure ClassifiedFile.AtMost (c c' : ClassifiedFile) : Prop where
  path : c.path = c'.path
  changeType : c.changeType = c'.changeType
  confidence : c.classification.confidence ≤ c'.classification.confidence
  changed : c.file.additions.getD 0 + c.file.deletions.getD 0 ≤
    c'.file.additions.getD 0 + c'.file.deletions.getD 0

namespace RiskRules

/-- Whether no change type has a negative risk and the risks of the size steps ascend in the order
of the steps, up to that of changes which no step takes in. Nothing is asked of the bounds. -/
structure Ascending (r : RiskRules) : Prop where
  changeTypes : ∀ type : ChangeType,
    0 ≤ (Table.get? r.changeTypeRisks type.name).getD r.defaultChangeTypeRisk
  steps : r.sizeSteps.Pairwise fun step later => step.risk ≤ later.risk
  last : ∀ step ∈ r.sizeSteps, step.risk ≤ r.maxSizeRisk

/-- The standard rules ascend, wherever the bands of risk begin. -/
theorem ascending_standard (highThreshold mediumThreshold : Binary64) :
    ({ highThreshold, mediumThreshold } : RiskRules).Ascending where
  changeTypes type := by
    have htable : ∀ type ∈ ChangeType.all,
        0 ≤ (Table.get? standardChangeTypeRisks type.name).getD (0.5 : Binary64) := by
      decide +kernel
    exact htable type type.mem_all
  steps := (by decide +kernel :
    standardSizeSteps.Pairwise fun step later => step.risk ≤ later.risk)
  last := (by decide +kernel : ∀ step ∈ standardSizeSteps, step.risk ≤ (0.9 : Binary64))

/-! ## Factors -/

/-- The first step that takes in a lesser number of lines stands no later, so its risk is not
greater: whatever comes after the first step is at least as risky. -/
theorem find?_step_le {steps : List SizeStep} {last : Binary64}
    (hsteps : steps.Pairwise fun step later => step.risk ≤ later.risk)
    (hlast : ∀ step ∈ steps, step.risk ≤ last) {n m : Int} (h : n ≤ m) :
    (steps.find? fun step => decide (n ≤ step.bound)).elim last (·.risk) ≤
      (steps.find? fun step => decide (m ≤ step.bound)).elim last (·.risk) := by
  induction steps with
  | nil => exact Binary64.le_refl last
  | cons step steps ih =>
    obtain ⟨hfirst, hrest⟩ := List.pairwise_cons.1 hsteps
    rw [List.find?_cons, List.find?_cons]
    by_cases hm : m ≤ step.bound
    · rw [decide_eq_true hm, decide_eq_true (Int.le_trans h hm)]
      exact Binary64.le_refl step.risk
    · rw [decide_eq_false hm]
      by_cases hn : n ≤ step.bound
      · rw [decide_eq_true hn]
        cases hfind : steps.find? fun step => decide (m ≤ step.bound) with
        | none => exact hlast step List.mem_cons_self
        | some later => exact hfirst later (List.mem_of_find?_eq_some hfind)
      · rw [decide_eq_false hn]
        exact ih hrest fun later hlater => hlast later (List.mem_cons_of_mem step hlater)

/-- The risk of a number of lines is that of the first step that takes it in. -/
theorem linesRisk_eq (r : RiskRules) (n : Int) : r.linesRisk n =
    (r.sizeSteps.find? fun step => decide (n ≤ step.bound)).elim r.maxSizeRisk (·.risk) := by
  rw [linesRisk]
  split
  · next h => rw [h, Option.elim_some]
  · next h => rw [h, Option.elim_none]

namespace Ascending

variable {r : RiskRules} (hr : r.Ascending)
include hr

/-- More lines are at least as risky. -/
theorem linesRisk_le_linesRisk {n m : Int} (h : n ≤ m) : r.linesRisk n ≤ r.linesRisk m := by
  rw [linesRisk_eq, linesRisk_eq]
  exact find?_step_le hr.steps hr.last h

/-- The risk of a change type grows with the confidence. -/
theorem changeTypeRisk_le_changeTypeRisk (type : ChangeType) {x y : Binary64} (h : x ≤ y) :
    r.changeTypeRisk type x ≤ r.changeTypeRisk type y := by
  have hhalf : (0 : Binary64) ≤ 0.5 := by decide +kernel
  have hweight : 0.5 + x * 0.5 ≤ 0.5 + y * 0.5 :=
    Binary64.add_le_add (Binary64.le_refl 0.5) (Binary64.mul_le_mul_right h hhalf)
  rw [changeTypeRisk, changeTypeRisk]
  exact Binary64.clamp_le_clamp (Binary64.mul_le_mul_left hweight (hr.changeTypes type))

/-- The mean of the factors follows the order of files. -/
theorem mean_le_mean {c c' : ClassifiedFile} (h : c.AtMost c') :
    (r.factors c.file c.classification).mean ≤ (r.factors c'.file c'.classification).mean := by
  have htype : (r.factors c.file c.classification).fileType =
      (r.factors c'.file c'.classification).fileType := by
    have hpath : c.file.path = c'.file.path := h.path
    rw [factors, factors, assessedPath, assessedPath, hpath]
  have hchange : (r.factors c.file c.classification).changeType ≤
      (r.factors c'.file c'.classification).changeType := by
    have hsame : c.classification.changeType = c'.classification.changeType := h.changeType
    rw [factors, factors, hsame]
    dsimp only
    exact hr.changeTypeRisk_le_changeTypeRisk _ h.confidence
  have hsize : (r.factors c.file c.classification).size ≤
      (r.factors c'.file c'.classification).size := by
    rw [factors, factors, sizeRisk, sizeRisk]
    dsimp only
    exact hr.linesRisk_le_linesRisk h.changed
  have hthree : (0 : Binary64) < 3 := by decide +kernel
  rw [RiskFactors.mean, RiskFactors.mean, htype]
  exact Binary64.clamp_le_clamp (Binary64.div_le_div
    (Binary64.add_le_add (Binary64.add_le_add (Binary64.le_refl _) hchange) hsize) hthree)

end Ascending

/-- A greater risk lies in no lower band, wherever the bands begin. -/
theorem level_le_level (r : RiskRules) {x y : Binary64} (h : x ≤ y) : r.level x ≤ r.level y := by
  have hlow (level : RiskLevel) : RiskLevel.low ≤ level := Nat.zero_le level.rank
  rw [level, level]
  by_cases hhigh : r.highThreshold ≤ x
  · rw [if_pos hhigh, if_pos (Binary64.le_trans hhigh h)]
    exact Nat.le_refl _
  · rw [if_neg hhigh]
    by_cases hmedium : r.mediumThreshold ≤ x
    · rw [if_pos hmedium, if_pos (Binary64.le_trans hmedium h)]
      split
      · decide
      · decide
    · rw [if_neg hmedium]
      exact hlow _

/-! ## Scores -/

/-- Under sound rules a classified file gets the mean of its factors. -/
theorem Sound.score_assessFile {r : RiskRules} (hr : r.Sound) (c : ClassifiedFile) :
    (r.assessFile c.toCandidate).value.score = (r.factors c.file c.classification).mean := by
  have hsound := hr.factors c.file c.classification
  rw [RiskRules.assessFile, ClassifiedFile.toCandidate]
  dsimp only
  rw [Option.getD_some, hsound.checked, Traced.value_pure]

/-- The mean of scores follows the order of files. -/
theorem meanScore_le_meanScore {files files' : List FileRisk} (hne : files ≠ [])
    (h : List.Forall₂ (fun e e' => e.score ≤ e'.score) files files') :
    meanScore files ≤ meanScore files' := by
  have hscores : List.Forall₂ (· ≤ ·) (files.map (·.score)) (files'.map (·.score)) := by
    rw [List.forall₂_map_left_iff, List.forall₂_map_right_iff]
    exact h
  have hcount : (0 : Int) < files'.length := by
    rw [← h.length_eq]
    exact Int.natCast_pos.2 (List.length_pos_of_ne_nil hne)
  rw [meanScore, meanScore, h.length_eq]
  exact Binary64.clamp_le_clamp
    (Binary64.div_le_div (Binary64.sum_le_sum hscores) (Binary64.ofInt_pos hcount))

/-- **Riskier files never make an assessment less risky.** Under the standard rules, wherever the
bands of risk begin, let two patches have the same paths and change types in the same places. If no
confidence and no number of changed lines is greater in the first one, then no score of a file, not
the score of the patch and not its band is greater either. -/
theorem assess_le_assess (highThreshold mediumThreshold : Binary64) {l l' : List ClassifiedFile}
    (h : List.Forall₂ ClassifiedFile.AtMost l l') :
    let r : RiskRules := { highThreshold, mediumThreshold }
    let a := (r.assess (l.map ClassifiedFile.toCandidate)).value
    let a' := (r.assess (l'.map ClassifiedFile.toCandidate)).value
    List.Forall₂ (fun e e' => e.score ≤ e'.score) a.details.files a'.details.files ∧
      a.details.files.length = l.length ∧ a.score ≤ a'.score ∧ a.level ≤ a'.level := by
  intro r a a'
  have hfile {c c' : ClassifiedFile} (hc : c.AtMost c') :
      (r.assessFile c.toCandidate).value.score ≤ (r.assessFile c'.toCandidate).value.score := by
    have hsound : r.Sound := sound_standard highThreshold mediumThreshold
    rw [hsound.score_assessFile, hsound.score_assessFile]
    exact (ascending_standard highThreshold mediumThreshold).mean_le_mean hc
  have hfiles : List.Forall₂ (fun e e' => e.score ≤ e'.score) a.details.files
      a'.details.files := by
    simp only [a, a', details_assess, List.map_map, List.forall₂_map_left_iff,
      List.forall₂_map_right_iff]
    exact h.imp fun _ _ => hfile
  have hlength : a.details.files.length = l.length := by
    simp only [a, details_assess, List.length_map]
  by_cases hl : l = []
  · subst hl
    cases h
    exact ⟨hfiles, hlength, Binary64.le_refl _, Nat.le_refl _⟩
  · have hl' : l' ≠ [] := by
      rintro rfl
      cases h
      exact hl rfl
    obtain ⟨hmean, hlevel⟩ := r.score_assess (mt List.map_eq_nil_iff.1 hl)
    obtain ⟨hmean', hlevel'⟩ := r.score_assess (mt List.map_eq_nil_iff.1 hl')
    have hne : a.details.files ≠ [] :=
      fun hnil => hl (List.eq_nil_of_length_eq_zero (hlength ▸ congrArg List.length hnil))
    have hscore : a.score ≤ a'.score := by
      have hle := meanScore_le_meanScore hne hfiles
      simp only [a, a', details_assess] at hle
      rw [← hmean, ← hmean'] at hle
      exact hle
    refine ⟨hfiles, hlength, hscore, ?_⟩
    simp only [a, a']
    rw [hlevel, hlevel']
    exact r.level_le_level hscore

/-- With ten times the lines and twice the confidence, one of two files lifts the patch by a
band. -/
theorem assess_le_assess_grown :
    let notes : ClassifiedFile :=
      ⟨{ oldPath := "notes.md", newPath := "notes.md", additions := none },
        { changeType := .documentation, confidence := 0.9 }⟩
    let small : ClassifiedFile :=
      ⟨{ oldPath := "a.py", newPath := "a.py", additions := some 8, deletions := none },
        { changeType := .feature, confidence := 0.4 }⟩
    let grown : ClassifiedFile :=
      ⟨{ oldPath := "a.py", newPath := "a.py", additions := some 3, deletions := some 77 },
        { changeType := .feature, confidence := 0.8 }⟩
    let r : RiskRules := { highThreshold := 0.4, mediumThreshold := 0.3 }
    let assessed (l : List ClassifiedFile) := (r.assess (l.map ClassifiedFile.toCandidate)).value
    List.Forall₂ ClassifiedFile.AtMost [notes, small] [notes, grown] ∧
      (assessed [notes, small]).score ≤ (assessed [notes, grown]).score ∧
      (assessed [notes, small]).level = .medium ∧ (assessed [notes, grown]).level = .high := by
  intro notes small grown r assessed
  have hsame : notes.AtMost notes := ⟨rfl, rfl, Binary64.le_refl _, Int.le_refl _⟩
  have hgrown : small.AtMost grown := ⟨rfl, rfl, by decide +kernel, by decide⟩
  have h : List.Forall₂ ClassifiedFile.AtMost [notes, small] [notes, grown] :=
    .cons hsame (.cons hgrown .nil)
  obtain ⟨-, -, hscore, -⟩ := assess_le_assess 0.4 0.3 h
  exact ⟨h, hscore, by decide +kernel, by decide +kernel⟩

end RiskRules

end PatchTriage
