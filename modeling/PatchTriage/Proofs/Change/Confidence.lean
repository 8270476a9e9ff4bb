import PatchTriage.Change.Classifier
import PatchTriage.Proofs.Binary64.Bounds
import PatchTriage.Proofs.Change.Scores
import PatchTriage.Proofs.Telemetry.Faults

/-!
# Confidences

A classification may be refused, for its confidence may be out of bounds. Under rules that ask for
nothing odd (`ClassifierRules.Sound`) this never happens: what the patterns and the idioms say is a
known type with a confidence between zero and one (`ClassifierRules.Sound.generic`), the rules of
the languages keep it so (`TypeScript.sound_refine`, `Go.sound_refine`), and the classifier gives up
on no file that has its hunks (`Classifier.sound_classifyFile`).
-/

namespace PatchTriage

open Binary64 (IsScore)

/-- A number is no problem as a score exactly if it lies between zero and one. -/
theorem scoreProblem?_eq_none_iff {x : Binary64} : scoreProblem? x = none ↔ x.IsScore := by
  rw [scoreProblem?]
  split
  · next h => exact ⟨nofun, fun hx => absurd hx.2 (Binary64.not_le.2 h)⟩
  · next h =>
    split
    · next h' => exact ⟨nofun, fun hx => absurd hx.1 (Binary64.not_le.2 h')⟩
    · next h' => exact ⟨fun _ => ⟨Binary64.not_lt.1 h', Binary64.not_lt.1 h⟩, fun _ => rfl⟩

/-- There is nothing wrong with a number as a score just if it is one. -/
theorem OutOfBounds.score?_eq_none_iff {field : String} {x : Binary64} :
    score? field x = none ↔ x.IsScore := by
  rw [score?, Option.map_eq_none_iff, scoreProblem?_eq_none_iff]

/-- A classification is only refused for its confidence. -/
theorem Classification.checked_of_isScore {c : Classification} (h : c.confidence.IsScore) :
    c.checked = .ok c := by
  rw [checked, OutOfBounds.score?_eq_none_iff.2 h]

/-- Whether a classification names a type, with a confidence between zero and one. -/
structure Classification.Sound (c : Classification) : Prop where
  known : c.changeType ≠ .unknown
  score : c.confidence.IsScore

/-- Whether rules give known types and confidences between zero and one only. -/
structure ClassifierRules.Sound (r : ClassifierRules) : Prop where
  known : ∀ c ∈ r.categories, c.changeType ≠ .unknown
  pattern : r.maxPatternConfidence.IsScore
  fallback : r.fallbackConfidence.IsScore
  other : r.otherConfidence.IsScore
  boost : 0 ≤ r.languageBoost
  cap : r.languageCap.IsScore

/-- The standard rules are sound, with the rules of languages or without them. -/
theorem ClassifierRules.sound_standard (languageStrategies : Bool) :
    ({ languageStrategies } : ClassifierRules).Sound where
  known := (by decide : ∀ c ∈ standardCategories, c.changeType ≠ .unknown)
  pattern := (by decide +kernel : IsScore 0.9)
  fallback := (by decide +kernel : IsScore 0.4)
  other := (by decide +kernel : IsScore 0.3)
  boost := (by decide +kernel : (0 : Binary64) ≤ 0.2)
  cap := (by decide +kernel : IsScore 0.95)

/-! ## Patterns and idioms -/

namespace ClassifierRules

/-- The verdict is that of a category with a score, or that of an idiom, or of neither. -/
theorem verdict_cases (r : ClassifierRules) (scores : Table ChangeType Nat) (changes : Changes)
    (content : String) :
    (∃ e ∈ scores, r.verdict scores changes content =
        (e.1, Binary64.min r.maxPatternConfidence (Binary64.ofInt e.2 / 2))) ∨
      (∃ type ∈ [ChangeType.bugFix, .feature],
        r.verdict scores changes content = (type, r.fallbackConfidence)) ∨
      r.verdict scores changes content = (.other, r.otherConfidence) := by
  rw [verdict]
  split
  · next type score h => exact .inl ⟨_, Table.mem_of_greatest? h, rfl⟩
  · split
    · exact .inr (.inl ⟨.bugFix, by decide, rfl⟩)
    · split
      · exact .inr (.inl ⟨.feature, by decide, rfl⟩)
      · exact .inr (.inr rfl)

/-- The confidence of a verdict is that of an idiom or of neither, or the one for patterns, cut off
by a number that is not negative. -/
theorem confidence_verdict_cases (r : ClassifierRules) (scores : Table ChangeType Nat)
    (changes : Changes) (content : String) :
    (∃ x, 0 ≤ x ∧ (r.verdict scores changes content).2 =
        Binary64.min r.maxPatternConfidence x) ∨
      (r.verdict scores changes content).2 = r.fallbackConfidence ∨
      (r.verdict scores changes content).2 = r.otherConfidence := by
  rcases r.verdict_cases scores changes content with ⟨e, -, hv⟩ | ⟨type, -, hv⟩ | hv
  · rw [hv]
    exact .inl ⟨_, Binary64.div_nonneg (Binary64.ofInt_nonneg e.2) (Binary64.ofInt_nonneg 2), rfl⟩
  · rw [hv]
    exact .inr (.inl rfl)
  · rw [hv]
    exact .inr (.inr rfl)

/-- Confidences that are scores make a verdict with one. -/
theorem isScore_verdict {r : ClassifierRules} (hpattern : r.maxPatternConfidence.IsScore)
    (hfallback : r.fallbackConfidence.IsScore) (hother : r.otherConfidence.IsScore)
    (scores : Table ChangeType Nat) (changes : Changes) (content : String) :
    (r.verdict scores changes content).2.IsScore := by
  rcases r.confidence_verdict_cases scores changes content with ⟨x, hx, hv⟩ | hv | hv
  · rw [hv]
    exact Binary64.isScore_min_right hpattern hx
  · rw [hv]
    exact hfallback
  · rw [hv]
    exact hother

namespace Sound

variable {r : ClassifierRules} (hr : r.Sound)
include hr

/-- What scores and contents speak for is a known type with a confidence in bounds. -/
theorem verdict {scores : Table ChangeType Nat} (hscores : ∀ e ∈ scores, e.1 ≠ .unknown)
    (changes : Changes) (content : String) :
    (r.verdict scores changes content).1 ≠ .unknown ∧
      (r.verdict scores changes content).2.IsScore := by
  refine ⟨?_, isScore_verdict hr.pattern hr.fallback hr.other scores changes content⟩
  rcases r.verdict_cases scores changes content with ⟨e, he, hv⟩ | ⟨type, htype, hv⟩ | hv
  · rw [hv]
    exact hscores e he
  · have hknown : ∀ type ∈ [ChangeType.bugFix, .feature], type ≠ .unknown := by decide
    rw [hv]
    exact hknown type htype
  · rw [hv]
    exact nofun

/-- **Patterns and idioms always give a classification**, and a sound one. -/
theorem generic (f : FileChange) : ∃ g, r.generic f = .ok g ∧ g.Sound := by
  rw [ClassifierRules.generic]
  dsimp only
  split
  · exact ⟨.noChange, rfl, nofun, Binary64.isScore_one⟩
  · have hscores : ∀ e ∈ r.scores (Changes.of f).content, e.1 ≠ .unknown := by
      intro e he
      obtain ⟨c, hc, hce⟩ := mem_scores he
      rw [← hce]
      exact hr.known c hc
    obtain ⟨hknown, hscore⟩ := hr.verdict hscores (Changes.of f) (Changes.of f).content
    exact ⟨_, Classification.checked_of_isScore hscore, ⟨hknown, hscore⟩⟩

/-- A raised confidence is in bounds if it was in bounds. -/
theorem boosted {x : Binary64} (hx : x.IsScore) : (r.boosted x).IsScore :=
  Binary64.isScore_min_left (Binary64.add_nonneg hx.1 hr.boost) hr.cap

end Sound

end ClassifierRules

/-! ## Languages -/

section
variable {r : ClassifierRules} {g : Classification}

/-- The rules for TypeScript keep a classification sound. -/
theorem TypeScript.sound_refine (hr : r.Sound) (hg : g.Sound) : (refine r g).Sound := by
  rw [refine]
  dsimp only
  split
  · exact ⟨hg.known, hg.score⟩
  · refine ⟨?_, hr.boosted hg.score⟩
    dsimp only
    split
    · exact nofun
    · exact hg.known

/-- Every rule for Go names a known type with a confidence in bounds. -/
theorem Go.sound_rules : ∀ rule ∈ rules, rule.changeType ≠ .unknown ∧ rule.confidence.IsScore := by
  decide +kernel

/-- A rule for Go that decides keeps a classification sound. -/
theorem Go.sound_weigh (hr : r.Sound) (hg : g.Sound) {rule : Rule} (hrule : rule ∈ rules) :
    (weigh r g rule).Sound := by
  obtain ⟨hknown, hscore⟩ := sound_rules rule hrule
  rw [weigh]
  split
  · exact ⟨hg.known, hr.boosted (Binary64.isScore_max hg.score hscore)⟩
  · split
    · exact ⟨hknown, hscore⟩
    · exact hg

/-- The classification that a rule for Go is weighed against. -/
def Go.tagged (g : Classification) : Classification :=
  { g with
    language := some Language.go.name
    signals := rules.map fun rule => (rule.name, .bool (rule.applies g.details.content.toList)) }

/-- What the rules for Go say, case by case. -/
theorem Go.refine_cases (r : ClassifierRules) (g : Classification) :
    (g.changeType.isTerminal = true ∧
        (refine r g).1 = { g with language := some Language.go.name }) ∨
      (g.changeType.isTerminal = false ∧ firstRule? g.details.content.toList = none ∧
        (refine r g).1 = tagged g) ∨
      (g.changeType.isTerminal = false ∧ ∃ rule, firstRule? g.details.content.toList = some rule ∧
        (refine r g).1 = weigh r (tagged g) rule) := by
  rw [refine]
  dsimp only
  split
  · next h => exact .inl ⟨h, rfl⟩
  · next h =>
    have h' : g.changeType.isTerminal = false := Bool.eq_false_iff.2 h
    split
    · next rule hrule => exact .inr (.inr ⟨h', rule, hrule, rfl⟩)
    · next hnone => exact .inr (.inl ⟨h', hnone, rfl⟩)

/-- The rules for Go keep a classification sound. -/
theorem Go.sound_refine (hr : r.Sound) (hg : g.Sound) : (refine r g).1.Sound := by
  have htagged : (tagged g).Sound := ⟨hg.known, hg.score⟩
  rcases refine_cases r g with ⟨-, hs⟩ | ⟨-, -, hs⟩ | ⟨-, rule, hrule, hs⟩
  · rw [hs]
    exact ⟨hg.known, hg.score⟩
  · rw [hs]
    exact htagged
  · rw [hs]
    exact sound_weigh hr htagged (List.mem_of_find?_eq_some hrule)

end

/-! ## The classifier -/

namespace Classifier

/-- The rules for Go decide alone, and what is left behind is at most a log entry. -/
theorem refine_go (c : Classifier) (f : FileChange) (g : Classification) :
    (c.refine f g .go).value = (Go.refine c.rules g).1 ∧ (c.refine f g .go).IsClean := by
  rw [refine]
  obtain ⟨refined, rule⟩ := Go.refine c.rules g
  cases rule with
  | none => exact ⟨rfl, rfl⟩
  | some rule => exact ⟨rfl, rfl⟩

/-- Each file is paired with its own classification. -/
theorem value_classifyFiles (c : Classifier) (p : Patch) :
    (c.classifyFiles p).value = p.files.map fun f => ⟨f, (c.classifyFile f).value⟩ := by
  simp [classifyFiles, pair]

/-- Where the patterns give a classification, the strategy of the file refines it. -/
theorem classifyFile_of_ok {c : Classifier} {f : FileChange} {hs : List Hunk} {g : Classification}
    (hf : f.hunks = some hs) (h : c.generic f = .ok g) :
    c.classifyFile f = c.refine f g (c.strategy f) := by
  rw [classifyFile, hf]
  dsimp only
  rw [h]

variable {r : ClassifierRules} (hr : r.Sound)
include hr

/-- **The classifier does not give up.** A file that has its hunks gets a sound classification, and
no fault is captured. -/
theorem sound_classifyFile {f : FileChange} {hs : List Hunk} (hf : f.hunks = some hs) :
    ((ofRules r).classifyFile f).value.Sound ∧ ((ofRules r).classifyFile f).IsClean := by
  obtain ⟨g, hgeneric, hg⟩ := hr.generic f
  rw [classifyFile_of_ok hf hgeneric]
  cases (ofRules r).strategy f with
  | generic => exact ⟨hg, rfl⟩
  | typescript => exact ⟨TypeScript.sound_refine hr hg, rfl⟩
  | go =>
    obtain ⟨hvalue, hclean⟩ := (ofRules r).refine_go f g
    exact ⟨by rw [hvalue]; exact Go.sound_refine hr hg, hclean⟩

/-- The files of a patch that all have their hunks get sound classifications one by one, and no
fault is captured. -/
theorem sound_classifyFiles {p : Patch} (hp : ∀ f ∈ p.files, ∃ hs, f.hunks = some hs) :
    ((ofRules r).classifyFiles p).value.map (·.file) = p.files ∧
      (∀ c ∈ ((ofRules r).classifyFiles p).value, c.classification.Sound) ∧
        ((ofRules r).classifyFiles p).IsClean := by
  have hfile : ∀ f ∈ p.files,
      ((ofRules r).classifyFile f).value.Sound ∧ ((ofRules r).classifyFile f).IsClean := by
    intro f hf
    obtain ⟨hs, hhs⟩ := hp f hf
    exact sound_classifyFile hr hhs
  rw [value_classifyFiles]
  refine ⟨?_, ?_, ?_⟩
  · rw [List.map_map]
    exact List.map_id p.files
  · intro c hc
    obtain ⟨f, hf, rfl⟩ := List.mem_map.1 hc
    exact (hfile f hf).1
  · have hpair : (Traced.each (ofRules r).pair p.files).IsClean :=
      Traced.isClean_each fun f hf => (hfile f hf).2.bind (Traced.isClean_pure _)
    exact hpair.bind ((Traced.isClean_log _).bind (Traced.isClean_pure _))

end Classifier

end PatchTriage
