import PatchTriage.Proofs.Change.Confidence

/-!
# Which label patterns and idioms give

Some rules decide about changed lines (`ClassifierRules.Decides`) by the scores of their types: if
any is positive, the label is the type with the greatest score, and of several the one whose first
category stands first. If all are zero, the idioms and the balance of added and removed lines decide
in turn. Rules whose confidences are scores decide so about every file with a changed line
(`ClassifierRules.generic_decides`), whatever their categories are.
-/

namespace PatchTriage

/-- Whether a text holds one of several idioms. -/
def Mentions (idioms : List String) (content : String) : Prop :=
  ∃ idiom ∈ idioms, idiom.toList <:+: content.toList

/-- A search finds an idiom just if the content mentions one. -/
theorem anyOccurs_iff {idioms : List String} {content : String} :
    Text.anyOccurs idioms content.toList = true ↔ Mentions idioms content := by
  rw [Text.anyOccurs, List.any_eq_true]
  exact exists_congr fun idiom => and_congr_right fun _ => Text.occurs_iff

namespace ClassifierRules

/-- Whether the changed lines look like a fix where no pattern speaks: a check is mentioned, or more
lines are added than removed. -/
def LooksLikeFix (r : ClassifierRules) (c : Changes) : Prop :=
  Mentions r.validationIdioms c.content ∨ c.removed < c.added

/-- Whether a classification is what some rules decide about changed lines. -/
structure Decides (r : ClassifierRules) (c : Changes) (g : Classification) : Prop where
  /-- If some type scores, the leading one is the label. -/
  scored : (∃ type, 0 < r.scoreOf c.content type) →
    Leads (r.scoreOf c.content) r.types g.changeType ∧
      g.confidence = Binary64.min r.maxPatternConfidence
        (Binary64.ofInt (r.scoreOf c.content g.changeType) / 2)
  bugFix : (∀ type, r.scoreOf c.content type = 0) →
    (g.changeType = .bugFix ∧ g.confidence = r.fallbackConfidence ↔ r.LooksLikeFix c)
  feature : (∀ type, r.scoreOf c.content type = 0) →
    (g.changeType = .feature ∧ g.confidence = r.fallbackConfidence ↔
      ¬ r.LooksLikeFix c ∧ Mentions r.declarationIdioms c.content)
  other : (∀ type, r.scoreOf c.content type = 0) →
    (g.changeType = .other ∧ g.confidence = r.otherConfidence ↔
      ¬ r.LooksLikeFix c ∧ ¬ Mentions r.declarationIdioms c.content)
  added : g.details.added = c.added
  removed : g.details.removed = c.removed
  total : g.details.total = c.added + c.removed
  content : g.details.content = c.content
  /-- The types are listed by their first category, each with its score. -/
  scores : ∃ order, FirstSeen r.types order ∧
    g.details.scores = order.map fun type => (type.name, (r.scoreOf c.content type : Int))

variable {r : ClassifierRules} {c : Changes}

/-- Just the types of categories score. -/
theorem mem_types_of_scoreOf_pos {content : String} {type : ChangeType}
    (h : 0 < r.scoreOf content type) : type ∈ r.types := by
  rw [scoreOf] at h
  cases hfind : r.categories.reverse.find? fun c => c.changeType == type with
  | none =>
    rw [hfind] at h
    exact absurd h (Nat.lt_irrefl 0)
  | some category =>
    have hmem := List.mem_reverse.1 (List.mem_of_find?_eq_some hfind)
    have htype := List.find?_some (p := fun c : Category => c.changeType == type) hfind
    exact List.mem_map.2 ⟨category, hmem, beq_iff_eq.1 htype⟩

/-- No entry is the greatest just if no type scores. -/
theorem greatest?_scores_eq_none_iff {content : String} :
    Table.greatest? (r.scores content) = none ↔ ∀ type, r.scoreOf content type = 0 := by
  rw [(lists_scores r content).greatest?_eq_none_iff]
  refine ⟨fun h type => ?_, fun h type _ => h type⟩
  by_contra hne
  exact hne (h type (mem_types_of_scoreOf_pos (Nat.pos_of_ne_zero hne)))

/-- The verdicts that the idioms and the balance of the lines make, each on its condition. -/
inductive Fallback (r : ClassifierRules) (c : Changes) : ChangeType × Binary64 → Prop
  | fix : r.LooksLikeFix c → Fallback r c (.bugFix, r.fallbackConfidence)
  | declaration : ¬ r.LooksLikeFix c → Mentions r.declarationIdioms c.content →
      Fallback r c (.feature, r.fallbackConfidence)
  | neither : ¬ r.LooksLikeFix c → ¬ Mentions r.declarationIdioms c.content →
      Fallback r c (.other, r.otherConfidence)

namespace Fallback

variable {v : ChangeType × Binary64} (h : r.Fallback c v)
include h

/-- The verdict is a fix just if the content looks like one. -/
theorem bugFix_iff : v.1 = .bugFix ∧ v.2 = r.fallbackConfidence ↔ r.LooksLikeFix c := by
  cases h with
  | fix hfix => simp [hfix]
  | declaration hfix | neither hfix => simp [hfix]

/-- The verdict is a feature just if the content declares something and does not look like a fix. -/
theorem feature_iff : v.1 = .feature ∧ v.2 = r.fallbackConfidence ↔
    ¬ r.LooksLikeFix c ∧ Mentions r.declarationIdioms c.content := by
  cases h with
  | fix hfix => simp [hfix]
  | declaration hfix hdeclares | neither hfix hdeclares => simp [hfix, hdeclares]

/-- The verdict is another change just if the content shows neither. -/
theorem other_iff : v.1 = .other ∧ v.2 = r.otherConfidence ↔
    ¬ r.LooksLikeFix c ∧ ¬ Mentions r.declarationIdioms c.content := by
  cases h with
  | fix hfix => simp [hfix]
  | declaration hfix hdeclares | neither hfix hdeclares => simp [hfix, hdeclares]

end Fallback

/-- The condition of the cascade is that the content looks like a fix. -/
theorem looksLikeFix_iff : (Text.anyOccurs r.validationIdioms c.content.toList ||
    decide (c.removed < c.added)) = true ↔ r.LooksLikeFix c := by
  rw [Bool.or_eq_true, anyOccurs_iff, decide_eq_true_iff, LooksLikeFix]

/-- If no type scores, the idioms and the balance of the lines make the verdict. -/
theorem verdict_of_no_score (hzero : ∀ type, r.scoreOf c.content type = 0) :
    r.Fallback c (r.verdict (r.scores c.content) c c.content) := by
  rw [verdict, greatest?_scores_eq_none_iff.2 hzero]
  dsimp only
  by_cases hfix : r.LooksLikeFix c
  · rw [if_pos (looksLikeFix_iff.2 hfix)]
    exact .fix hfix
  · rw [if_neg (mt looksLikeFix_iff.1 hfix)]
    by_cases hdeclares : Mentions r.declarationIdioms c.content
    · rw [if_pos (anyOccurs_iff.2 hdeclares)]
      exact .declaration hfix hdeclares
    · rw [if_neg (mt anyOccurs_iff.1 hdeclares)]
      exact .neither hfix hdeclares

/-- If some type scores, the verdict is for the leading one. -/
theorem verdict_of_score (h : ∃ type, 0 < r.scoreOf c.content type) :
    ∃ type, Leads (r.scoreOf c.content) r.types type ∧
      r.verdict (r.scores c.content) c c.content = (type,
        Binary64.min r.maxPatternConfidence (Binary64.ofInt (r.scoreOf c.content type) / 2)) := by
  cases hgreatest : Table.greatest? (r.scores c.content) with
  | none =>
    obtain ⟨type, hpos⟩ := h
    have hzero := greatest?_scores_eq_none_iff.1 hgreatest type
    omega
  | some e =>
    obtain ⟨hleads, hscore, -⟩ := (lists_scores r c.content).leads hgreatest
    refine ⟨e.1, hleads, ?_⟩
    rw [verdict, hgreatest, ← hscore]

/-- **Patterns decide first, and idioms where no pattern does.** Rules whose confidences are scores
give every file with a changed line the classification that they decide about its changes. -/
theorem generic_decides (hpattern : r.maxPatternConfidence.IsScore)
    (hfallback : r.fallbackConfidence.IsScore) (hother : r.otherConfidence.IsScore)
    {f : FileChange} (hf : 0 < (Changes.of f).total) :
    ∃ g, r.generic f = .ok g ∧ r.Decides (Changes.of f) g := by
  rw [generic]
  dsimp only
  rw [if_neg (Nat.ne_of_gt hf), Classification.checked_of_isScore
    (isScore_verdict hpattern hfallback hother _ _ _)]
  have hlists := lists_scores r (Changes.of f).content
  exact ⟨_, rfl, {
    scored := fun hscored => by
      obtain ⟨type, hleads, hverdict⟩ := verdict_of_score hscored
      rw [hverdict]
      exact ⟨hleads, rfl⟩
    bugFix := fun hzero => (verdict_of_no_score hzero).bugFix_iff
    feature := fun hzero => (verdict_of_no_score hzero).feature_iff
    other := fun hzero => (verdict_of_no_score hzero).other_iff
    added := rfl
    removed := rfl
    total := rfl
    content := rfl
    scores := by
      refine ⟨_, hlists.keys, ?_⟩
      rw [Table.keys, List.map_map]
      refine List.map_congr_left fun e he => ?_
      rw [hlists.measured e he]
      rfl }⟩

/-- A type with two categories has the place of the first, where it wins the draw, and the score of
the second. -/
theorem generic_decides_repeated :
    let r : ClassifierRules :=
      { categories :=
          [⟨.test, [.textAnyCase "add", .textAnyCase "spec"]⟩, ⟨.feature, [.textAnyCase "add"]⟩,
            ⟨.test, [.textAnyCase "spec"]⟩] }
    let f : FileChange :=
      { oldPath := "a.txt", newPath := "a.txt"
        hunks := some [⟨1, 1, 1, 2, [" a", "+Add a spec"], ""⟩] }
    (r.maxPatternConfidence.IsScore ∧ r.fallbackConfidence.IsScore ∧ r.otherConfidence.IsScore ∧
        0 < (Changes.of f).total) ∧
      ∃ g, r.generic f = .ok g ∧ r.Decides (Changes.of f) g ∧ g.changeType = .test := by
  intro r f
  have hpattern : r.maxPatternConfidence.IsScore := by decide +kernel
  have hfallback : r.fallbackConfidence.IsScore := by decide +kernel
  have hother : r.otherConfidence.IsScore := by decide +kernel
  have hf : 0 < (Changes.of f).total := by decide +kernel
  obtain ⟨g, hg, hdecides⟩ := generic_decides hpattern hfallback hother hf
  have hscore : 0 < r.scoreOf (Changes.of f).content .test := by decide +kernel
  have hleads : Leads (r.scoreOf (Changes.of f).content) r.types .test := by decide +kernel
  exact ⟨⟨hpattern, hfallback, hother, hf⟩, g, hg, hdecides,
    (hdecides.scored ⟨_, hscore⟩).1.eq hleads⟩

end ClassifierRules

end PatchTriage
