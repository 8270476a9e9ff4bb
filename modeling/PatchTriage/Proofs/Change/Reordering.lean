import PatchTriage.Proofs.Change.Details
import PatchTriage.Proofs.Pattern.Line
import Mathlib.Data.List.Perm.Basic

/-!
# Reordered lines

Patterns and idioms are looked for in the changed lines as one text, joined by line feeds. Where
none of them reaches over the end of a line (`ClassifierRules.LineWise`), as none of the standard
ones does, each is found in the text exactly if it is found in one of the lines
(`Changes.occursIn_content`, `Changes.anyOccurs_content`). Neither the order of the lines nor the
hunks that they stand in matter then: files with the same lines on either side are classified alike
(`ClassifierRules.generic_congr`, `ClassifierRules.generic_of_perm`).
-/

namespace PatchTriage

/-- Whether a line counts as a change on a side, the added or the removed one. A line that looks
like the name of a side counts on neither. -/
def Changes.onSide (added : Bool) (line : String) : Bool := (body? line).any (·.1 == added)

/-- The lines of a file that count as changes on a side, over all hunks. -/
def FileChange.countedLines (f : FileChange) (added : Bool) : List String :=
  f.markedLines.filter (Changes.onSide added)

/-- The classification without the text that it was computed from. -/
def Classification.withoutContent (c : Classification) : Classification :=
  { c with details := { c.details with content := "" } }

/-- Whether no pattern and no idiom of some rules reaches over the end of a line. -/
structure ClassifierRules.LineWise (r : ClassifierRules) : Prop where
  patterns : ∀ c ∈ r.categories, ∀ p ∈ c.patterns, p.staysInLine = true
  validation : ∀ idiom ∈ r.validationIdioms, '\n' ∉ idiom.toList
  declaration : ∀ idiom ∈ r.declarationIdioms, '\n' ∉ idiom.toList

/-- Whether rules look for the standard patterns and idioms. Their confidences may be any. -/
structure ClassifierRules.StandardTables (r : ClassifierRules) : Prop where
  categories : r.categories = standardCategories
  validation : r.validationIdioms = standardValidationIdioms
  declaration : r.declarationIdioms = standardDeclarationIdioms

/-- The standard patterns and idioms stay in their lines. -/
theorem ClassifierRules.StandardTables.lineWise {r : ClassifierRules} (h : r.StandardTables) :
    r.LineWise where
  patterns := by
    rw [h.categories]
    exact staysInLine_standard
  validation := by
    rw [h.validation]
    decide +kernel
  declaration := by
    rw [h.declaration]
    decide +kernel

/-! ## Looking line by line -/

namespace Changes

variable (f : FileChange)

/-- Every change has a body. -/
theorem length_bodies : (Changes.of f).bodies.length = (Changes.of f).total := by
  have hsides := List.length_eq_countP_add_countP (l := f.markedLines.filterMap body?) (·.1)
  simpa [Changes.of, total] using hsides

/-- The content is made of the bodies with line feeds between them. -/
theorem toList_content :
    (Changes.of f).content.toList =
      ['\n'].intercalate ((Changes.of f).bodies.map String.toList) := by
  rw [content, String.toList_intercalate]
  rfl

variable {f} (hf : (Changes.of f).total ≠ 0)
include hf

/-- The content has a body at least. -/
theorem bodies_ne_nil : (Changes.of f).bodies.map String.toList ≠ [] := by
  intro hnil
  rw [← length_bodies, List.map_eq_nil_iff.1 hnil] at hf
  exact hf rfl

/-- A pattern within a line is found in the content exactly if it is found in one body. -/
theorem occursIn_content {p : Pattern} (hp : p.staysInLine = true) :
    p.occursIn (Changes.of f).content.toList =
      (Changes.of f).bodies.any fun body => p.occursIn body.toList := by
  rw [toList_content, Pattern.occursIn_intercalate hp (bodies_ne_nil hf), List.any_map]
  rfl

/-- Idioms within a line are found in the content exactly if one of them is found in one body. -/
theorem anyOccurs_content {idioms : List String} (h : ∀ idiom ∈ idioms, '\n' ∉ idiom.toList) :
    Text.anyOccurs idioms (Changes.of f).content.toList =
      (Changes.of f).bodies.any fun body => Text.anyOccurs idioms body.toList := by
  have hone : ∀ idiom ∈ idioms, Text.occurs idiom.toList (Changes.of f).content.toList = true ↔
      ∃ body ∈ (Changes.of f).bodies, Text.occurs idiom.toList body.toList = true := by
    intro idiom hidiom
    rw [toList_content, Text.occurs_intercalate (h idiom hidiom) (bodies_ne_nil hf), List.any_map,
      List.any_eq_true]
    rfl
  rw [Bool.eq_iff_iff, List.any_eq_true]
  simp only [Text.anyOccurs, List.any_eq_true]
  constructor
  · rintro ⟨idiom, hidiom, h⟩
    obtain ⟨body, hbody, h⟩ := (hone idiom hidiom).1 h
    exact ⟨body, hbody, idiom, hidiom, h⟩
  · rintro ⟨body, hbody, idiom, hidiom, h⟩
    exact ⟨idiom, hidiom, (hone idiom hidiom).2 ⟨body, hbody, h⟩⟩

end Changes

/-! ## Lines on either side -/

/-- The changes on a side are those of the lines that count on it. -/
theorem filterMap_countedLines (f : FileChange) (added : Bool) :
    (f.countedLines added).filterMap Changes.body? =
      (f.markedLines.filterMap Changes.body?).filter (·.1 == added) := by
  rw [FileChange.countedLines, List.filterMap_filter, List.filter_filterMap]
  refine List.filterMap_congr fun line _ => ?_
  rw [Changes.onSide]
  cases Changes.body? line with
  | none => rfl
  | some change => simp [Option.filter]

section
variable {f g : FileChange} (hadded : (f.countedLines true).Perm (g.countedLines true))
  (hremoved : (f.countedLines false).Perm (g.countedLines false))
include hadded hremoved

/-- Files with the same lines on either side have the same changes, up to their order. -/
theorem changes_perm :
    (f.markedLines.filterMap Changes.body?).Perm (g.markedLines.filterMap Changes.body?) := by
  have hsides (h : FileChange) :
      ((h.countedLines true).filterMap Changes.body? ++
        (h.countedLines false).filterMap Changes.body?).Perm
          (h.markedLines.filterMap Changes.body?) := by
    have hother : (h.markedLines.filterMap Changes.body?).filter (·.1 == false) =
        (h.markedLines.filterMap Changes.body?).filter fun change => !(change.1 == true) :=
      List.filter_congr fun change _ => by cases change.1 <;> rfl
    rw [filterMap_countedLines, filterMap_countedLines, hother]
    exact List.filter_append_perm _ _
  have hboth := (hadded.filterMap Changes.body?).append (hremoved.filterMap Changes.body?)
  exact ((hsides f).symm.trans hboth).trans (hsides g)

/-- Reordered lines have as many added ones. -/
theorem added_of_perm : (Changes.of f).added = (Changes.of g).added :=
  (changes_perm hadded hremoved).countP_eq _

/-- They have as many removed ones. -/
theorem removed_of_perm : (Changes.of f).removed = (Changes.of g).removed :=
  (changes_perm hadded hremoved).countP_eq _

/-- Their bodies are the reordered ones. -/
theorem bodies_perm : (Changes.of f).bodies.Perm (Changes.of g).bodies :=
  (changes_perm hadded hremoved).map _

end

/-! ## Classifications -/

/-- The content has no part in whether a classification is refused. -/
theorem Classification.checked_withoutContent (c : Classification) :
    c.withoutContent.checked = c.checked.map withoutContent := by
  have hconfidence : c.withoutContent.confidence = c.confidence := rfl
  rw [checked, checked, hconfidence]
  cases OutOfBounds.score? "confidence" c.confidence with
  | none => rfl
  | some o => rfl

namespace ClassifierRules

variable {r : ClassifierRules}

/-- The scores of a text say which patterns are found in it. -/
theorem scores_congr {text other : String}
    (h : ∀ c ∈ r.categories, ∀ p ∈ c.patterns, p.occursIn text.toList = p.occursIn other.toList) :
    r.scores text = r.scores other := by
  rw [scores_eq, scores_eq]
  congr 1
  refine List.map_congr_left fun c hc => ?_
  rw [Category.score_congr (h c hc)]

/-- Under rules that look line by line, the counts of the sides and the bodies decide, whatever the
order of the bodies is. -/
theorem generic_congr (hr : r.LineWise) {f g : FileChange}
    (hadded : (Changes.of f).added = (Changes.of g).added)
    (hremoved : (Changes.of f).removed = (Changes.of g).removed)
    (hbodies : (Changes.of f).bodies.Perm (Changes.of g).bodies) :
    (r.generic f).map Classification.withoutContent =
      (r.generic g).map Classification.withoutContent := by
  have htotal : (Changes.of f).total = (Changes.of g).total := by
    rw [Changes.total, Changes.total, hadded, hremoved]
  by_cases hf : (Changes.of f).total = 0
  · have hnone {h : FileChange} (hh : (Changes.of h).total = 0) : r.generic h = .ok .noChange := by
      rw [generic]
      exact if_pos hh
    rw [hnone hf, hnone (htotal ▸ hf)]
  · have hg : (Changes.of g).total ≠ 0 := htotal ▸ hf
    have hscores : r.scores (Changes.of f).content = r.scores (Changes.of g).content := by
      refine scores_congr fun c hc p hp => ?_
      have hline := hr.patterns c hc p hp
      rw [Changes.occursIn_content hf hline, Changes.occursIn_content hg hline, hbodies.any_eq]
    have hverdict : r.verdict (r.scores (Changes.of f).content) (Changes.of f)
        (Changes.of f).content = r.verdict (r.scores (Changes.of g).content) (Changes.of g)
          (Changes.of g).content := by
      rw [verdict, verdict, hscores, hadded, hremoved, Changes.anyOccurs_content hf hr.validation,
        Changes.anyOccurs_content hg hr.validation, Changes.anyOccurs_content hf hr.declaration,
        Changes.anyOccurs_content hg hr.declaration, hbodies.any_eq, hbodies.any_eq]
    rw [generic, generic]
    dsimp only
    rw [if_neg hf, if_neg hg, hverdict, hscores, hadded, hremoved, htotal,
      ← Classification.checked_withoutContent, ← Classification.checked_withoutContent]
    rfl

/-- Each of the standard categories is scored once, in its place. -/
theorem StandardTables.scores (hr : r.StandardTables) (content : String) :
    r.scores content = standardCategories.map fun c => (c.changeType, c.score content.toList) :=
  scores_standard hr.categories content

/-- **The order of the lines does not matter.** Under the standard patterns and idioms, whatever the
confidences are, files with the same lines on either side are classified alike up to the order of
the content, or refused alike. A category scores the number of its patterns that are found in at
least one changed line, and neither a pattern nor an idiom ever takes in a line feed. -/
theorem generic_of_perm (hr : r.StandardTables) {f g : FileChange}
    (hadded : (f.countedLines true).Perm (g.countedLines true))
    (hremoved : (f.countedLines false).Perm (g.countedLines false)) :
    (r.generic f).map Classification.withoutContent =
        (r.generic g).map Classification.withoutContent ∧
      (∀ c, r.generic f = .ok c → 0 < c.details.total →
        c.details.scores = standardCategories.map fun category =>
          (category.changeType.name, ((category.patterns.countP fun p =>
            (Changes.of f).bodies.any fun body => p.occursIn body.toList : Nat) : Int))) ∧
      (∀ category ∈ standardCategories, ∀ p ∈ category.patterns, ∀ front piece back,
        (Changes.of f).content.toList = front ++ piece ++ back →
          p.Fits front.getLast? piece back → '\n' ∉ piece) ∧
      ∀ idiom ∈ standardValidationIdioms ++ standardDeclarationIdioms, '\n' ∉ idiom.toList := by
  have hline := hr.lineWise
  refine ⟨?_, fun c hc hpos => ?_, fun category hcategory p hp front piece back _ hfits => ?_, ?_⟩
  · exact generic_congr hline (added_of_perm hadded hremoved) (removed_of_perm hadded hremoved)
      (bodies_perm hadded hremoved)
  · rcases generic_eq_ok hc with ⟨-, rfl⟩ | ⟨htotal, -, hdetails⟩
    · exact absurd hpos (Nat.lt_irrefl 0)
    · rw [hdetails]
      dsimp only
      rw [hr.scores, List.map_map]
      refine List.map_congr_left fun category hcategory => ?_
      rw [Function.comp, Category.score, List.countP_congr fun p hp => by
        rw [Changes.occursIn_content (Nat.ne_of_gt htotal)
          (hline.patterns category (hr.categories ▸ hcategory) p hp)]]
  · exact hfits.feed_not_mem (hline.patterns category (hr.categories ▸ hcategory) p hp)
  · intro idiom hidiom
    rcases List.mem_append.1 hidiom with h | h
    · exact hline.validation idiom (hr.validation ▸ h)
    · exact hline.declaration idiom (hr.declaration ▸ h)

/-- Two hunks and one, with the lines the other way round. Where `handle` stands right above `null`,
the two words still make no match, so two patterns for a new feature are found each time. -/
theorem generic_of_perm_hunks :
    (ClassifierRules.generic {}
        { oldPath := "a", newPath := "a"
          hunks := some [⟨1, 1, 1, 2, [" x", "+create", "-handle"], ""⟩,
            ⟨9, 1, 9, 1, ["+add null", "+++ y"], "f"⟩] }).map Classification.withoutContent =
      (ClassifierRules.generic {}
        { oldPath := "b", newPath := "b"
          hunks := some [⟨1, 0, 1, 3, ["+add null", "-handle", "+create"], ""⟩] }).map
            Classification.withoutContent ∧
    (ClassifierRules.generic {}
        { oldPath := "b", newPath := "b"
          hunks := some [⟨1, 0, 1, 3, ["+add null", "-handle", "+create"], ""⟩] }).map
            Classification.changeType = .ok .feature :=
  ⟨(generic_of_perm ⟨rfl, rfl, rfl⟩ (by decide +kernel) (by decide +kernel)).1,
    by decide +kernel⟩

end ClassifierRules

end PatchTriage
