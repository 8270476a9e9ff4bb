import PatchTriage.Change.Generic
import PatchTriage.Proofs.Pattern.LetterCase
import PatchTriage.Proofs.Pattern.Line
import PatchTriage.Proofs.Table.Ranking
import Mathlib.Data.List.Forall2

/-!
# Scores of categories

A change type scores how many patterns of its category are found in a text. Where several categories
are of one type, the last of them counts (`ClassifierRules.scoreOf`), and the type keeps the place
of the first (`ClassifierRules.lists_scores`).

The standard patterns ignore case and stay in their line. So the case of ASCII letters does not
matter to the scores, and what is found in a text is still found with other text around it
(`ClassifierRules.scores_recase_and_grow`).
-/

namespace PatchTriage

variable {r : ClassifierRules} {l l' : List Char}

/-! ## The table of scores -/

namespace ClassifierRules

/-- The types of the categories, in the order of the categories. -/
def types (r : ClassifierRules) : List ChangeType := r.categories.map (·.changeType)

/-- The score of a type in a text: that of the last category of this type, or zero. -/
def scoreOf (r : ClassifierRules) (content : String) (type : ChangeType) : Nat :=
  (r.categories.reverse.find? fun c => c.changeType == type).elim 0 fun c =>
    c.score content.toList

/-- The scores are written one after another. -/
theorem scores_eq (r : ClassifierRules) (content : String) : r.scores content =
    Table.putAll [] (r.categories.map fun c => (c.changeType, c.score content.toList)) := by
  rw [scores, Table.putAll, List.foldl_map]

/-- **The table of scores** lists the types by their first category, each with the score of its last
one. -/
theorem lists_scores (r : ClassifierRules) (content : String) :
    Table.Lists (r.scoreOf content) r.types (r.scores content) := by
  have hseen := Table.firstSeen_putAll
    (r.categories.map fun c => (c.changeType, c.score content.toList))
  rw [Table.keys, List.map_map, ← scores_eq] at hseen
  refine ⟨hseen, fun e he => ?_⟩
  have hget := Table.get?_of_mem hseen.nodup he
  rw [scores_eq, Table.get?_putAll_nil, ← List.map_reverse, Table.get?, List.find?_map,
    Option.map_map] at hget
  obtain ⟨c, hc, hscore⟩ := Option.map_eq_some_iff.1 hget
  have hlast : r.categories.reverse.find? (fun c => c.changeType == e.1) = some c := hc
  rw [scoreOf, hlast]
  exact hscore.symm

/-- A type that is scored is the type of a category. -/
theorem mem_scores {content : String} {e : ChangeType × Nat} (h : e ∈ r.scores content) :
    ∃ c ∈ r.categories, c.changeType = e.1 :=
  List.mem_map.1 (((lists_scores r content).keys.mem_iff e.1).1 (List.mem_map_of_mem h))

/-- Each of the standard categories is scored once, in its place. -/
theorem scores_standard (hr : r.categories = standardCategories) (content : String) :
    r.scores content = standardCategories.map fun c => (c.changeType, c.score content.toList) := by
  rw [scores, hr]
  rfl

end ClassifierRules

/-! ## The score of a category -/

namespace Category

variable {c : Category}

/-- A score depends on which patterns occur and on nothing else. -/
theorem score_congr (h : ∀ p ∈ c.patterns, p.occursIn l = p.occursIn l') :
    c.score l = c.score l' :=
  List.countP_congr fun p hp => by rw [h p hp]

/-- Other letters make no difference to patterns that ignore case. -/
theorem score_recase (h : ∀ p ∈ c.patterns, p.ignoresCase = true) (places : Nat → Bool) :
    c.score (Text.recase places l) = c.score l :=
  score_congr fun p hp => Pattern.occursIn_congr (h p hp) (Text.map_toLower_recase places l)

/-- More text makes no pattern that stays in its line be lost. -/
theorem score_le_score (h : ∀ p ∈ c.patterns, p.staysInLine = true) (hl : l <:+: l') :
    c.score l ≤ c.score l' :=
  List.countP_mono_left fun p hp => Pattern.occursIn_of_infix (h p hp) hl

end Category

/-! ## The standard patterns -/

/-- No standard pattern tells capital from small letters. -/
theorem ignoresCase_standard :
    ∀ c ∈ standardCategories, ∀ p ∈ c.patterns, p.ignoresCase = true := by
  decide +kernel

/-- No standard pattern takes a line feed. -/
theorem staysInLine_standard :
    ∀ c ∈ standardCategories, ∀ p ∈ c.patterns, p.staysInLine = true := by
  decide +kernel

namespace ClassifierRules

/-- **The standard patterns ignore the case of ASCII letters, and more text never lowers a score.**
Whatever letters of a text are put in their other case, its scores stay the same, and whatever is
written in front of a text and behind it, no category scores less. -/
theorem scores_recase_and_grow (hr : r.categories = standardCategories) (text : String) :
    (∀ places, r.scores (String.ofList (Text.recase places text.toList)) = r.scores text) ∧
      ∀ front back : String, List.Forall₂ (fun a b => a.1 = b.1 ∧ a.2 ≤ b.2) (r.scores text)
        (r.scores (front ++ text ++ back)) := by
  simp only [scores_standard hr]
  refine ⟨fun places => List.map_congr_left fun c hc => ?_, fun front back => ?_⟩
  · rw [String.toList_ofList, Category.score_recase (ignoresCase_standard c hc)]
  · have hinfix : text.toList <:+: (front ++ text ++ back).toList := by
      rw [String.toList_append, String.toList_append]
      exact List.infix_append _ _ _
    rw [List.forall₂_map_left_iff, List.forall₂_map_right_iff, List.forall₂_same]
    exact fun c hc => ⟨rfl, Category.score_le_score (staysInLine_standard c hc) hinfix⟩

/-- Some letters in their other case, and a text that takes in another one. -/
theorem scores_recase_and_grow_fix :
    ({} : ClassifierRules).categories = standardCategories ∧
      ({} : ClassifierRules).scores "aDD a fIx" = ({} : ClassifierRules).scores "Add a fix" ∧
      List.Forall₂ (fun a b => a.1 = b.1 ∧ a.2 ≤ b.2) (({} : ClassifierRules).scores "Add a fix")
        (({} : ClassifierRules).scores ("re" ++ "Add a fix" ++ " for a bug")) := by
  obtain ⟨hcase, hgrow⟩ := scores_recase_and_grow (r := {}) rfl "Add a fix"
  exact ⟨rfl, hcase fun i => [0, 1, 2, 7].contains i, hgrow "re" " for a bug"⟩

end ClassifierRules

end PatchTriage
