import PatchTriage.Proofs.Change.Confidence
import PatchTriage.Proofs.Patch.Changes

/-!
# Details of classifications

The details of a classification are those of the changed lines that it was computed from
(`Classification.Describes`). Patterns and idioms give such a classification
(`ClassifierRules.describes_generic`), and the rules of the languages keep its details and whether
it says that nothing changed (`Classifier.details_refine`, `Classifier.noChange_refine`). The rules
must not use that type for anything else (`ClassifierRules.Marking`), as the standard ones do not.
-/

namespace PatchTriage

/-- Whether a classification was computed from changed lines: its details are drawn from them, and
it says that nothing changed exactly if there are none. -/
structure Classification.Describes (g : Classification) (c : Changes) : Prop where
  added : g.details.added = c.added
  removed : g.details.removed = c.removed
  total : g.details.total = c.total
  content : 0 < c.total → g.details.content = c.content
  noChange : g.changeType = .noChange ↔ c.total = 0

/-- Only the details count, and whether the type says that nothing changed. -/
theorem Classification.Describes.of_details {g g' : Classification} {c : Changes}
    (h : g.Describes c) (hdetails : g'.details = g.details)
    (hchange : g'.changeType = .noChange ↔ g.changeType = .noChange) : g'.Describes c where
  added := by rw [hdetails, h.added]
  removed := by rw [hdetails, h.removed]
  total := by rw [hdetails, h.total]
  content hpos := by rw [hdetails, h.content hpos]
  noChange := hchange.trans h.noChange

/-- Whether no category says that nothing changed. -/
def ClassifierRules.Marking (r : ClassifierRules) : Prop :=
  ∀ c ∈ r.categories, c.changeType ≠ .noChange

/-- The standard rules mark a change, with the strategies for languages or without. -/
theorem ClassifierRules.marking_standard (languageStrategies : Bool) :
    ({ languageStrategies } : ClassifierRules).Marking :=
  (by decide : ∀ c ∈ standardCategories, c.changeType ≠ .noChange)

/-- A type that is to be explained does not say that nothing changed. -/
theorem ChangeType.ne_noChange {type : ChangeType} (h : type.isTerminal = false) :
    type ≠ .noChange := by
  rintro rfl
  cases h

/-! ## Patterns and idioms -/

/-- A check hands on the classification it is given. -/
theorem Classification.eq_of_checked {c g : Classification} (h : c.checked = .ok g) : g = c := by
  rw [checked] at h
  split at h
  · cases h
  · exact (Except.ok.inj h).symm

namespace ClassifierRules

variable {r : ClassifierRules}

/-- The type that scores and contents speak for does not say that nothing changed. -/
theorem Marking.verdict (hr : r.Marking) (content : String) (changes : Changes) :
    (r.verdict (r.scores content) changes content).1 ≠ .noChange := by
  rcases r.verdict_cases (r.scores content) changes content with
    ⟨e, he, hv⟩ | ⟨type, htype, hv⟩ | hv
  · obtain ⟨c, hc, hce⟩ := mem_scores he
    rw [hv, ← hce]
    exact hr c hc
  · have hmarks : ∀ type ∈ [ChangeType.bugFix, .feature], type ≠ .noChange := by decide
    rw [hv]
    exact hmarks type htype
  · rw [hv]
    exact nofun

/-- A file without changes is told apart; any other one is given the type of the verdict, with the
changes in the details. -/
theorem generic_eq_ok {f : FileChange} {g : Classification} (h : r.generic f = .ok g) :
    ((Changes.of f).total = 0 ∧ g = .noChange) ∨
      (0 < (Changes.of f).total ∧
        g.changeType = (r.verdict (r.scores (Changes.of f).content) (Changes.of f)
          (Changes.of f).content).1 ∧
        g.details =
          { added := (Changes.of f).added, removed := (Changes.of f).removed
            total := (Changes.of f).total, content := (Changes.of f).content
            scores :=
              (r.scores (Changes.of f).content).map fun e => (e.1.name, (e.2 : Int)) }) := by
  rw [generic] at h
  dsimp only at h
  split at h
  · next hzero => exact .inl ⟨hzero, (Except.ok.inj h).symm⟩
  · next hzero =>
    obtain rfl := Classification.eq_of_checked h
    exact .inr ⟨Nat.pos_of_ne_zero hzero, rfl, rfl⟩

/-- **What patterns and idioms give describes the changed lines.** -/
theorem describes_generic (hr : r.Marking) {f : FileChange} {g : Classification}
    (h : r.generic f = .ok g) : g.Describes (Changes.of f) := by
  rcases generic_eq_ok h with ⟨hzero, rfl⟩ | ⟨hpos, htype, hdetails⟩
  · have hparts : (Changes.of f).added + (Changes.of f).removed = 0 := hzero
    obtain ⟨hadded, hremoved⟩ := Nat.add_eq_zero_iff.1 hparts
    exact ⟨hadded.symm, hremoved.symm, hzero.symm, fun hpos => absurd hzero (Nat.ne_of_gt hpos),
      fun _ => hzero, fun _ => rfl⟩
  · have hchange : g.changeType ≠ .noChange := by
      rw [htype]
      exact hr.verdict (Changes.of f).content (Changes.of f)
    exact ⟨by rw [hdetails], by rw [hdetails], by rw [hdetails], fun _ => by rw [hdetails],
      fun he => absurd he hchange, fun hzero => absurd hzero (Nat.ne_of_gt hpos)⟩

end ClassifierRules

/-! ## Languages -/

section
variable (r : ClassifierRules) (g : Classification)

/-- The rules for TypeScript leave the details as they are. -/
theorem TypeScript.details_refine : (refine r g).details = g.details := by
  rw [refine]
  dsimp only
  split <;> rfl

/-- The rules for TypeScript neither say nor take back that nothing changed. -/
theorem TypeScript.noChange_refine :
    (refine r g).changeType = .noChange ↔ g.changeType = .noChange := by
  rw [refine]
  dsimp only
  split
  · exact Iff.rfl
  · dsimp only
    split
    · next h => rw [h.1]; decide
    · exact Iff.rfl

/-- So does a rule for Go. -/
theorem Go.details_weigh (rule : Rule) : (weigh r g rule).details = g.details := by
  rw [weigh]
  split
  · rfl
  · split <;> rfl

/-- A rule for Go changes the type to its own, if at all. -/
theorem Go.changeType_weigh (rule : Rule) :
    (weigh r g rule).changeType = g.changeType ∨
      (weigh r g rule).changeType = rule.changeType := by
  rw [weigh]
  split
  · exact .inl rfl
  · split
    · exact .inr rfl
    · exact .inl rfl

/-- The rules for Go leave the details as they are. -/
theorem Go.details_refine : (refine r g).1.details = g.details := by
  rcases refine_cases r g with ⟨-, hs⟩ | ⟨-, -, hs⟩ | ⟨-, rule, -, hs⟩
  · rw [hs]
  · rw [hs]
    rfl
  · rw [hs]
    exact details_weigh r (tagged g) rule

/-- The rules for Go neither say nor take back that nothing changed: a type that says so is
terminal, so where the rules apply it has to come from a rule, and none gives it. -/
theorem Go.noChange_refine :
    (refine r g).1.changeType = .noChange ↔ g.changeType = .noChange := by
  rcases refine_cases r g with ⟨-, hs⟩ | ⟨-, -, hs⟩ | ⟨hopen, rule, hrule, hs⟩
  · rw [hs]
  · rw [hs]
    exact Iff.rfl
  · have hchange := ChangeType.ne_noChange hopen
    have hmarks : ∀ rule ∈ rules, rule.changeType ≠ .noChange := by decide
    rw [hs]
    refine iff_of_false ?_ hchange
    rcases changeType_weigh r (tagged g) rule with he | he
    · rw [he]
      exact hchange
    · rw [he]
      exact hmarks rule (List.mem_of_find?_eq_some hrule)

end

/-! ## The classifier -/

namespace Classifier

variable (c : Classifier) (f : FileChange) (g : Classification)

/-- No strategy touches the details. -/
theorem details_refine (strategy : Strategy) :
    (c.refine f g strategy).value.details = g.details := by
  cases strategy with
  | generic => rfl
  | typescript => exact TypeScript.details_refine c.rules g
  | go =>
    rw [(c.refine_go f g).1]
    exact Go.details_refine c.rules g

/-- No strategy says or takes back that nothing changed. -/
theorem noChange_refine (strategy : Strategy) :
    (c.refine f g strategy).value.changeType = .noChange ↔ g.changeType = .noChange := by
  cases strategy with
  | generic => exact Iff.rfl
  | typescript => exact TypeScript.noChange_refine c.rules g
  | go =>
    rw [(c.refine_go f g).1]
    exact Go.noChange_refine c.rules g

/-- The classification of a file that has its hunks describes its changed lines. -/
theorem describes_classifyFile {r : ClassifierRules} (hr : r.Sound) (hmark : r.Marking)
    {f : FileChange} {hs : List Hunk} (hf : f.hunks = some hs) :
    ((ofRules r).classifyFile f).value.Describes (Changes.of f) := by
  obtain ⟨g, hg, -⟩ := hr.generic f
  rw [classifyFile_of_ok hf hg]
  exact (ClassifierRules.describes_generic hmark hg).of_details
    (details_refine _ f g _) (noChange_refine _ f g _)

end Classifier

end PatchTriage
