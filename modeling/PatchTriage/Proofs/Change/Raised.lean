import PatchTriage.Proofs.Change.Isolation
import PatchTriage.Proofs.Change.Refinement

/-!
# Raised confidences

Patterns and idioms refuse a confidence that is no score (`ClassifierRules.isScore_generic`), and
the classifier then gives up on the file. What the rules of a language raise is not looked at again
(`Strategy.Raises`): the classifier hands out a confidence that is no score exactly if the boost and
the cap make one of it (`Classifier.isScore_classifyFile_iff`). A boost that is not negative and a
cap that is a score never do (`Classifier.isScore_classifyFile`).
-/

namespace PatchTriage

/-! ## What is checked -/

/-- The confidence of a classification that is checked is a score. -/
theorem Classification.isScore_of_checked {c g : Classification} (h : c.checked = .ok g) :
    g.confidence.IsScore := by
  obtain rfl := eq_of_checked h
  rw [checked] at h
  split at h
  · cases h
  · next hscore => exact OutOfBounds.score?_eq_none_iff.1 hscore

/-- What patterns and idioms give is a score, whatever the rules are. -/
theorem ClassifierRules.isScore_generic {r : ClassifierRules} {f : FileChange} {g : Classification}
    (h : r.generic f = .ok g) : g.confidence.IsScore := by
  rw [generic] at h
  dsimp only at h
  split at h
  · rw [← Except.ok.inj h]
    exact Binary64.isScore_one
  · exact Classification.isScore_of_checked h

/-! ## What is raised -/

/-- The confidences that a strategy raises in a classification. -/
inductive Strategy.Raises : Strategy → Classification → Binary64 → Prop
  /-- TypeScript raises every confidence, unless there is nothing to explain. -/
  | typescript {g : Classification} (hg : g.changeType.isTerminal = false) :
    Raises .typescript g g.confidence
  /-- Go raises the greater confidence where the first rule that applies agrees. -/
  | go {g : Classification} {rule : Go.Rule} (hg : g.changeType.isTerminal = false)
    (hrule : Go.firstRule? g.details.content.toList = some rule)
    (htype : rule.changeType = g.changeType) :
    Raises .go g (Binary64.max g.confidence rule.confidence)

/-- A raised confidence is a score before it is raised. -/
theorem Strategy.Raises.isScore {strategy : Strategy} {g : Classification} {x : Binary64}
    (h : strategy.Raises g x) (hg : g.confidence.IsScore) : x.IsScore := by
  cases h with
  | typescript _ => exact hg
  | go _ hrule _ =>
    exact Binary64.isScore_max hg (Go.sound_rules _ (List.mem_of_find?_eq_some hrule)).2

/-- When a raised confidence is a score, by the boost and the cap. -/
theorem ClassifierRules.isScore_boosted_iff {r : ClassifierRules} {x : Binary64} :
    (r.boosted x).IsScore ↔ 0 ≤ x + r.languageBoost ∧ 0 ≤ r.languageCap ∧
      (x + r.languageBoost ≤ 1 ∨ r.languageCap ≤ 1) :=
  Binary64.isScore_min_iff

section
variable {r : ClassifierRules} {g : Classification}

/-- The rules for TypeScript give what they raise, or leave the confidence alone. -/
theorem TypeScript.isScore_refine_iff (hg : g.confidence.IsScore) :
    (refine r g).confidence.IsScore ↔
      ∀ x, Strategy.typescript.Raises g x → (r.boosted x).IsScore := by
  rw [refine]
  dsimp only
  split
  · next hterminal =>
    refine iff_of_true hg fun x hx => ?_
    cases hx with
    | typescript hopen => rw [hterminal] at hopen; cases hopen
  · next hopen =>
    constructor
    · intro h x hx
      cases hx with
      | typescript _ => exact h
    · exact fun h => h _ (.typescript (Bool.eq_false_iff.2 hopen))

/-- The rules for Go give what they raise, or a confidence that is a score anyway. -/
theorem Go.isScore_refine_iff (hg : g.confidence.IsScore) :
    (refine r g).1.confidence.IsScore ↔ ∀ x, Strategy.go.Raises g x → (r.boosted x).IsScore := by
  rcases refine_cases r g with ⟨hterminal, hs⟩ | ⟨-, hnone, hs⟩ | ⟨hopen, rule, hrule, hs⟩
  · rw [hs]
    refine iff_of_true hg fun x hx => ?_
    cases hx with
    | go hopen _ _ => rw [hterminal] at hopen; cases hopen
  · rw [hs]
    refine iff_of_true hg fun x hx => ?_
    cases hx with
    | go _ hrule _ => rw [hnone] at hrule; cases hrule
  · rw [hs, weigh]
    split
    · next htype =>
      constructor
      · intro h x hx
        cases hx with
        | go _ hrule' _ =>
          rw [hrule] at hrule'
          cases hrule'
          exact h
      · exact fun h => h _ (.go hopen hrule htype)
    · next htype =>
      have hnone : ∀ x, Strategy.go.Raises g x → (r.boosted x).IsScore := by
        intro x hx
        cases hx with
        | go _ hrule' htype' =>
          rw [hrule] at hrule'
          cases hrule'
          exact absurd htype' htype
      split
      · exact iff_of_true (sound_rules rule (List.mem_of_find?_eq_some hrule)).2 hnone
      · exact iff_of_true hg hnone

end

/-! ## The classifier -/

namespace Classifier

variable {r : ClassifierRules}

/-- What a strategy gives is a score exactly if all that it raises stays one. It captures no
fault. -/
theorem isScore_refine_iff {f : FileChange} {g : Classification} (hg : g.confidence.IsScore)
    (strategy : Strategy) :
    (((ofRules r).refine f g strategy).value.confidence.IsScore ↔
      ∀ x, strategy.Raises g x → (r.boosted x).IsScore) ∧
    ((ofRules r).refine f g strategy).IsClean := by
  cases strategy with
  | generic => exact ⟨iff_of_true hg nofun, rfl⟩
  | typescript => exact ⟨TypeScript.isScore_refine_iff hg, rfl⟩
  | go =>
    obtain ⟨hvalue, hclean⟩ := (ofRules r).refine_go f g
    exact ⟨by rw [hvalue]; exact Go.isScore_refine_iff hg, hclean⟩

/-- **Only a boost and a cap lead out of bounds.** A file without its hunks is unknown. One that
patterns and idioms refuse is given up on, with one captured fault. Any other file captures no
fault, and its confidence is a score exactly if the boost and the cap keep all that is raised in
bounds. -/
theorem isScore_classifyFile_iff (r : ClassifierRules) (f : FileChange) :
    (f.hunks = none → ((ofRules r).classifyFile f).value = .unknown) ∧
    ∀ hs, f.hunks = some hs →
      (∀ e, r.generic f = .error e → ((ofRules r).classifyFile f).value = .unknown ∧
        faultsOf ((ofRules r).classifyFile f).events = [recordOf e f]) ∧
      ∀ g, r.generic f = .ok g → ((ofRules r).classifyFile f).IsClean ∧
        (((ofRules r).classifyFile f).value.confidence.IsScore ↔
          ∀ x, ((ofRules r).strategy f).Raises g x → 0 ≤ x + r.languageBoost ∧
            0 ≤ r.languageCap ∧ (x + r.languageBoost ≤ 1 ∨ r.languageCap ≤ 1)) := by
  refine ⟨fun hnone => ?_, fun hs hf => ⟨fun e he => ?_, fun g hg => ?_⟩⟩
  · rw [classifyFile, hnone]
    rfl
  · rw [classifyFile_of_error hf he]
    simp
  · obtain ⟨hscore, hclean⟩ := isScore_refine_iff (r := r) (f := f)
      (ClassifierRules.isScore_generic hg) ((ofRules r).strategy f)
    rw [classifyFile_of_ok hf hg, hscore]
    exact ⟨hclean, forall₂_congr fun _ _ => ClassifierRules.isScore_boosted_iff⟩

/-- Go agrees that an interface is a new feature, and a boost of one is not cut off by a cap of two:
0.8 becomes 1.8. -/
theorem isScore_classifyFile_iff_interface :
    ¬Binary64.IsScore ((ofRules { languageBoost := 1, languageCap := 2 }).classifyFile
      { oldPath := "a.go", newPath := "a.go"
        hunks := some [⟨1, 0, 1, 1, ["+type New interface \x7b"], ""⟩] }).value.confidence := by
  have hvalues : (ClassifierRules.generic { languageBoost := 1, languageCap := 2 }
      { oldPath := "a.go", newPath := "a.go"
        hunks := some [⟨1, 0, 1, 1, ["+type New interface \x7b"], ""⟩] }).map
          (fun g => (g.changeType, g.confidence, g.details.content)) =
            .ok (.feature, 0.5, "type New interface \x7b") := by decide +kernel
  cases hg : ClassifierRules.generic { languageBoost := 1, languageCap := 2 }
      { oldPath := "a.go", newPath := "a.go"
        hunks := some [⟨1, 0, 1, 1, ["+type New interface \x7b"], ""⟩] } with
  | error e =>
    rw [hg] at hvalues
    cases hvalues
  | ok g =>
    rw [hg] at hvalues
    obtain ⟨htype, hconfidence, hcontent⟩ : g.changeType = .feature ∧ g.confidence = 0.5 ∧
        g.details.content = "type New interface \x7b" := by
      simpa [Except.map] using hvalues
    have hrule : Go.firstRule? g.details.content.toList = some Go.rules[1] := by
      rw [hcontent]
      exact (List.find?_cons_of_neg (by decide +kernel)).trans
        (List.find?_cons_of_pos (by decide +kernel))
    have hopen : g.changeType.isTerminal = false := by
      rw [htype]
      rfl
    have hraises : Strategy.go.Raises g 0.8 := by
      have hmax : Binary64.max g.confidence Go.rules[1].confidence = 0.8 := by
        rw [hconfidence]
        decide +kernel
      exact hmax ▸ .go hopen hrule htype.symm
    rw [(((isScore_classifyFile_iff _ _).2 _ rfl).2 g hg).2]
    exact fun h => absurd (h 0.8 hraises) (by decide +kernel)

/-- A file in TypeScript is handed out with a confidence of 1.4, and no fault is captured. -/
theorem classifyFile_overshoots :
    ((ofRules { languageBoost := 1, languageCap := 2 }).classifyFile
      { oldPath := "a.ts", newPath := "a.ts"
        hunks := some [⟨1, 0, 1, 1, ["+x"], ""⟩] }).value.confidence = 1.4 ∧
    ¬Binary64.IsScore 1.4 ∧
    ((ofRules { languageBoost := 1, languageCap := 2 }).classifyFile
      { oldPath := "a.ts", newPath := "a.ts"
        hunks := some [⟨1, 0, 1, 1, ["+x"], ""⟩] }).IsClean :=
  ⟨by decide +kernel, by decide +kernel, List.eq_nil_of_length_eq_zero (by decide +kernel)⟩

/-- **Every confidence is a score** where the boost is not negative and the cap is a score, whatever
the tables and the other confidences are. -/
theorem isScore_classifyFile (hboost : 0 ≤ r.languageBoost) (hcap : r.languageCap.IsScore)
    (f : FileChange) : ((ofRules r).classifyFile f).value.confidence.IsScore := by
  cases hf : f.hunks with
  | none =>
    rw [classifyFile, hf]
    exact Binary64.isScore_zero
  | some hs =>
    cases hgeneric : (ofRules r).generic f with
    | error e =>
      rw [classifyFile_of_error hf hgeneric, value_giveUp]
      exact Binary64.isScore_zero
    | ok g =>
      have hg := ClassifierRules.isScore_generic hgeneric
      rw [classifyFile_of_ok hf hgeneric, (isScore_refine_iff hg _).1]
      exact fun x hx =>
        Binary64.isScore_min_left (Binary64.add_nonneg (hx.isScore hg).1 hboost) hcap

end Classifier

end PatchTriage
