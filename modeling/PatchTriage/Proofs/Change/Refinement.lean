import PatchTriage.Proofs.Binary64.Rounding
import PatchTriage.Proofs.Change.Details

/-!
# Rules of languages refine

The rules of a language start from what patterns and idioms say of a file. Where no confidence of
the rules exceeds the cap and the boost is not negative (`ClassifierRules.Capped`), they only refine
it (`ClassifierRules.Refines`): the details stay, the confidence does not sink and stays below the
cap, and a classification without anything to explain is left alone. Which other label a file may
get is said exactly, for TypeScript by `TypeScript.changeType_refine_eq_iff` and for Go by
`Go.changeType_refine_eq_iff`. `Classifier.refines_classifyFile` says all this of the classifier.
-/

namespace PatchTriage

/-- Whether no confidence of some rules exceeds their cap, which is at most one, and the rules of
languages do not lower it. -/
structure ClassifierRules.Capped (r : ClassifierRules) : Prop where
  boost : 0 ≤ r.languageBoost
  cap : r.languageCap ≤ 1
  pattern : 0 ≤ r.maxPatternConfidence ∧ r.maxPatternConfidence ≤ r.languageCap
  fallback : 0 ≤ r.fallbackConfidence ∧ r.fallbackConfidence ≤ r.languageCap
  other : 0 ≤ r.otherConfidence ∧ r.otherConfidence ≤ r.languageCap

/-- Whether a classification `s` refines a classification `g`, whatever the language is. -/
structure ClassifierRules.Refines (r : ClassifierRules) (g s : Classification) : Prop where
  details : s.details = g.details
  raised : g.confidence ≤ s.confidence
  bounded : g.changeType ≠ .noChange → s.confidence ≤ Binary64.max r.languageCap 0.9
  /-- Where nothing is to be explained, at most the language is added. -/
  terminal : g.changeType.isTerminal = true → s = { g with language := s.language }

namespace ClassifierRules

/-- The standard rules keep to their cap. -/
theorem capped_standard : ({} : ClassifierRules).Capped where
  boost := (by decide +kernel : (0 : Binary64) ≤ 0.2)
  cap := (by decide +kernel : (0.95 : Binary64) ≤ 1)
  pattern := (by decide +kernel : (0 : Binary64) ≤ 0.9 ∧ (0.9 : Binary64) ≤ 0.95)
  fallback := (by decide +kernel : (0 : Binary64) ≤ 0.4 ∧ (0.4 : Binary64) ≤ 0.95)
  other := (by decide +kernel : (0 : Binary64) ≤ 0.3 ∧ (0.3 : Binary64) ≤ 0.95)

variable {r : ClassifierRules} {g : Classification}

/-- A classification with a confidence up to the cap refines itself. -/
theorem refines_refl (hcap : g.changeType ≠ .noChange → g.confidence ≤ r.languageCap) :
    r.Refines g g where
  details := rfl
  raised := Binary64.le_refl _
  bounded h := Binary64.le_trans (hcap h) (Binary64.le_max_left _ _)
  terminal _ := rfl

/-- No raised confidence exceeds the cap. -/
theorem boosted_le (x : Binary64) : r.boosted x ≤ r.languageCap := Binary64.min_le_right _ _

namespace Capped

variable (hr : r.Capped)
include hr

/-! ## Patterns and idioms -/

/-- What scores and contents speak for has a confidence up to the cap. -/
theorem verdict (scores : Table ChangeType Nat) (changes : Changes) (content : String) :
    0 ≤ (r.verdict scores changes content).2 ∧
      (r.verdict scores changes content).2 ≤ r.languageCap := by
  rcases r.confidence_verdict_cases scores changes content with ⟨x, hx, hv⟩ | hv | hv
  · rw [hv]
    exact ⟨Binary64.le_min_iff.2 ⟨hr.pattern.1, hx⟩,
      Binary64.le_trans (Binary64.min_le_left _ _) hr.pattern.2⟩
  · rw [hv]
    exact hr.fallback
  · rw [hv]
    exact hr.other

/-- Patterns and idioms always give a classification. Unless nothing changed, its confidence does
not exceed the cap. -/
theorem generic (f : FileChange) : ∃ g, r.generic f = .ok g ∧ 0 ≤ g.confidence ∧
    (g.changeType ≠ .noChange → g.confidence ≤ r.languageCap) := by
  rw [ClassifierRules.generic]
  dsimp only
  split
  · exact ⟨.noChange, rfl, Binary64.zero_le_one, fun h => absurd rfl h⟩
  · obtain ⟨hnonneg, hcap⟩ := hr.verdict (r.scores (Changes.of f).content) (Changes.of f)
      (Changes.of f).content
    exact ⟨_, Classification.checked_of_isScore ⟨hnonneg, Binary64.le_trans hcap hr.cap⟩, hnonneg,
      fun _ => hcap⟩

/-- A confidence up to the cap is not lowered when it, or a greater one, is raised. -/
theorem le_boosted {x y : Binary64} (hx : 0 ≤ x) (hcap : x ≤ r.languageCap) (hxy : x ≤ y) :
    x ≤ r.boosted y :=
  Binary64.le_min_iff.2
    ⟨Binary64.le_trans hxy (Binary64.le_add (Binary64.le_trans hx hxy) hr.boost), hcap⟩

end Capped

end ClassifierRules

section
variable {r : ClassifierRules} {g : Classification}

/-! ## TypeScript -/

/-- The rules for TypeScript refine. -/
theorem TypeScript.refines_refine (hr : r.Capped) (hg : 0 ≤ g.confidence)
    (hcap : g.changeType ≠ .noChange → g.confidence ≤ r.languageCap) :
    r.Refines g (refine r g) := by
  rw [refine]
  dsimp only
  split
  · next hterminal => exact { r.refines_refl hcap with terminal := fun _ => rfl }
  · next hterminal =>
    have hchange := ChangeType.ne_noChange (Bool.eq_false_iff.2 hterminal)
    exact {
      details := rfl
      raised := hr.le_boosted hg (hcap hchange) (Binary64.le_refl _)
      bounded := fun _ => Binary64.le_trans
        (r.boosted_le g.confidence) (Binary64.le_max_left _ _)
      terminal := fun h => absurd h hterminal }

/-- **TypeScript relabels** a change that nothing else explains, where a type is given up in it, as
a security fix. It gives no other label. -/
theorem TypeScript.changeType_refine_eq_iff {type : ChangeType} (htype : type ≠ g.changeType) :
    (refine r g).changeType = type ↔ type = .securityFix ∧ g.changeType = .other ∧
      unsafeAnyPattern.occursIn g.details.content.toList = true := by
  rw [refine]
  dsimp only
  split
  · next hterminal =>
    refine iff_of_false (Ne.symm htype) fun h => ?_
    rw [h.2.1] at hterminal
    cases hterminal
  · dsimp only
    split
    · next h => exact ⟨fun he => ⟨he.symm, h⟩, fun he => he.1.symm⟩
    · next h => exact iff_of_false (Ne.symm htype) fun he => h he.2

/-! ## Go -/

namespace Go

/-- No rule for Go is more confident than 0.9. -/
theorem confidence_rules_le : ∀ rule ∈ rules, rule.confidence ≤ 0.9 := by decide +kernel

/-- A rule that decides does not lower the confidence. -/
theorem le_confidence_weigh (hr : r.Capped) (hg : 0 ≤ g.confidence)
    (hcap : g.confidence ≤ r.languageCap) (rule : Rule) :
    g.confidence ≤ (weigh r g rule).confidence := by
  rw [weigh]
  split
  · exact hr.le_boosted hg hcap (Binary64.le_max_left _ _)
  · split
    · next h => exact Binary64.le_of_lt h
    · exact Binary64.le_refl _

/-- A rule that decides gives a confidence up to the cap, or its own. -/
theorem confidence_weigh_le (hcap : g.confidence ≤ r.languageCap) {rule : Rule}
    (hrule : rule ∈ rules) : (weigh r g rule).confidence ≤ Binary64.max r.languageCap 0.9 := by
  rw [weigh]
  split
  · exact Binary64.le_trans (r.boosted_le _) (Binary64.le_max_left _ _)
  · split
    · exact Binary64.le_trans (confidence_rules_le rule hrule) (Binary64.le_max_right _ _)
    · exact Binary64.le_trans hcap (Binary64.le_max_left _ _)

/-- A rule gives its own label, where it is the more confident one. -/
theorem changeType_weigh_eq_iff {type : ChangeType} (htype : type ≠ g.changeType) (rule : Rule) :
    (weigh r g rule).changeType = type ↔
      rule.changeType = type ∧ g.confidence < rule.confidence := by
  rw [weigh]
  split
  · next h => exact iff_of_false (Ne.symm htype) fun he => htype (he.1.symm.trans h)
  · split
    · next h => exact ⟨fun he => ⟨he, h⟩, fun he => he.1⟩
    · next h => exact iff_of_false (Ne.symm htype) fun he => h he.2

/-- The rules for Go refine. -/
theorem refines_refine (hr : r.Capped) (hg : 0 ≤ g.confidence)
    (hcap : g.changeType ≠ .noChange → g.confidence ≤ r.languageCap) :
    r.Refines g (refine r g).1 := by
  have hrefl := r.refines_refl hcap
  rcases refine_cases r g with ⟨-, hs⟩ | ⟨hterminal, -, hs⟩ | ⟨hterminal, rule, hrule, hs⟩
  · rw [hs]
    exact { hrefl with terminal := fun _ => rfl }
  · rw [hs]
    exact { hrefl with terminal := fun h => by rw [h] at hterminal; cases hterminal }
  · have hcap' : (tagged g).confidence ≤ r.languageCap := hcap (ChangeType.ne_noChange hterminal)
    rw [hs]
    exact {
      details := details_weigh r (tagged g) rule
      raised := le_confidence_weigh hr (g := tagged g) hg hcap' rule
      bounded := fun _ => confidence_weigh_le hcap' (List.mem_of_find?_eq_some hrule)
      terminal := fun h => by rw [h] at hterminal; cases hterminal }

/-- **Go relabels** a change that is to be explained by the first rule that applies, where that rule
is the more confident one. A tie keeps the label. -/
theorem changeType_refine_eq_iff {type : ChangeType} (htype : type ≠ g.changeType) :
    (refine r g).1.changeType = type ↔ g.changeType.isTerminal = false ∧
      ∃ rule, firstRule? g.details.content.toList = some rule ∧ rule.changeType = type ∧
        g.confidence < rule.confidence := by
  rcases refine_cases r g with ⟨hterminal, hs⟩ | ⟨hterminal, hnone, hs⟩ |
    ⟨hterminal, rule, hrule, hs⟩
  · rw [hs]
    exact iff_of_false (Ne.symm htype) fun h => by rw [h.1] at hterminal; cases hterminal
  · rw [hs, hnone]
    exact iff_of_false (Ne.symm htype) nofun
  · rw [hs, hrule, changeType_weigh_eq_iff (g := tagged g) htype]
    constructor
    · exact fun h => ⟨hterminal, rule, rfl, h⟩
    · rintro ⟨-, rule, ⟨⟩, h⟩
      exact h

end Go

end

/-! ## The classifier -/

namespace Classifier

variable {r : ClassifierRules}

/-- A file whose language has no rules of its own is left to patterns and idioms. -/
theorem ofLanguage_eq_generic {language : Language} (hts : language ≠ .typescript)
    (hgo : language ≠ .go) : Strategy.ofLanguage language = .generic := by
  cases language <;> trivial

/-- **The rules of languages only refine.** Under rules that keep to their cap, every file that has
its hunks is classified by patterns and idioms, and the rules of its language only refine the
classification: they give another label for the reasons above alone. -/
theorem refines_classifyFile (hr : r.Capped) (hlanguages : r.languageStrategies = true)
    {f : FileChange} {hs : List Hunk} (hf : f.hunks = some hs) :
    ∃ g s, r.generic f = .ok g ∧ ((ofRules r).classifyFile f).value = s ∧ r.Refines g s ∧
      (Language.ofPath f.path ≠ .typescript → Language.ofPath f.path ≠ .go → s = g) ∧
      (Language.ofPath f.path = .typescript → ∀ type, type ≠ g.changeType →
        (s.changeType = type ↔ type = .securityFix ∧ g.changeType = .other ∧
          TypeScript.unsafeAnyPattern.occursIn g.details.content.toList = true)) ∧
      (Language.ofPath f.path = .go → ∀ type, type ≠ g.changeType →
        (s.changeType = type ↔ g.changeType.isTerminal = false ∧
          ∃ rule, Go.firstRule? g.details.content.toList = some rule ∧ rule.changeType = type ∧
            g.confidence < rule.confidence)) := by
  obtain ⟨g, hg, hnonneg, hcap⟩ := hr.generic f
  have hvalue : ((ofRules r).classifyFile f).value =
      ((ofRules r).refine f g (.ofLanguage (.ofPath f.path))).value := by
    have hstrategy : (ofRules r).strategy f = .ofLanguage (.ofPath f.path) := if_pos hlanguages
    rw [classifyFile_of_ok hf hg, hstrategy]
  refine ⟨g, _, hg, hvalue, ?_⟩
  by_cases hts : Language.ofPath f.path = .typescript
  · have hs : ((ofRules r).refine f g (.ofLanguage (.ofPath f.path))).value =
        TypeScript.refine r g := by
      rw [hts]
      rfl
    rw [hs, hts]
    exact ⟨TypeScript.refines_refine hr hnonneg hcap, fun h => absurd rfl h,
      fun _ type htype => TypeScript.changeType_refine_eq_iff htype, nofun⟩
  · by_cases hgo : Language.ofPath f.path = .go
    · have hs : ((ofRules r).refine f g (.ofLanguage (.ofPath f.path))).value =
          (Go.refine r g).1 := by
        rw [hgo]
        exact ((ofRules r).refine_go f g).1
      rw [hs, hgo]
      exact ⟨Go.refines_refine hr hnonneg hcap, fun _ h => absurd rfl h, nofun,
        fun _ type htype => Go.changeType_refine_eq_iff htype⟩
    · have hs : ((ofRules r).refine f g (.ofLanguage (.ofPath f.path))).value = g := by
        rw [ofLanguage_eq_generic hts hgo]
        rfl
      rw [hs]
      exact ⟨r.refines_refl hcap, fun _ _ => rfl, fun h => absurd h hts, fun h => absurd h hgo⟩

/-- Where a goroutine is started, an idiom alone sees a bug fixed with a confidence of 0.4, and the
rules for Go see what made the program faster with one of 0.7. -/
theorem refines_classifyFile_goroutine :
    ∃ g, ClassifierRules.generic {}
        { oldPath := "a.go", newPath := "a.go", hunks := some [⟨1, 0, 1, 1, ["+go f()"], ""⟩] } =
          .ok g ∧ g.changeType = .bugFix ∧
      ((ofRules {}).classifyFile
        { oldPath := "a.go", newPath := "a.go"
          hunks := some [⟨1, 0, 1, 1, ["+go f()"], ""⟩] }).value.changeType = .performance := by
  have htype : (ClassifierRules.generic {}
      { oldPath := "a.go", newPath := "a.go", hunks := some [⟨1, 0, 1, 1, ["+go f()"], ""⟩] }).map
        (fun g => (g.changeType, g.confidence, g.details.content)) =
          .ok (.bugFix, 0.4, "go f()") := by decide +kernel
  obtain ⟨g, s, hg, rfl, -, -, -, hgo⟩ := refines_classifyFile ClassifierRules.capped_standard rfl
    (f := { oldPath := "a.go", newPath := "a.go", hunks := some [⟨1, 0, 1, 1, ["+go f()"], ""⟩] })
    rfl
  rw [hg] at htype
  obtain ⟨hbug, hconfidence, hcontent⟩ : g.changeType = .bugFix ∧ g.confidence = 0.4 ∧
      g.details.content = "go f()" := by
    simpa [Except.map] using htype
  refine ⟨g, hg, hbug, (hgo (by decide +kernel) .performance (by rw [hbug]; nofun)).2 ?_⟩
  rw [hbug, hconfidence, hcontent]
  exact ⟨rfl, Go.rules[0], List.find?_cons_of_pos (by decide +kernel), rfl, by decide +kernel⟩

end Classifier

end PatchTriage
