import PatchTriage.Change.Json
import PatchTriage.Change.Rules
import PatchTriage.Patch.Totals
import PatchTriage.Text.Search

/-!
# Classification by patterns

The classification that every language shares. The category with the most patterns in the changed
lines wins; when no pattern occurs, idioms and the balance of added and removed lines decide. A
confidence out of bounds, which odd rules can ask for, is refused.
-/

namespace PatchTriage

/-- How many patterns of a category occur in a text. -/
def Category.score (c : Category) (content : List Char) : Nat :=
  c.patterns.countP fun p => p.occursIn content

namespace ClassifierRules

/-- The score of each category, in the order of the categories. A category that is listed twice
keeps its first place and its last score. -/
def scores (r : ClassifierRules) (content : String) : Table ChangeType Nat :=
  r.categories.foldl (fun t c => Table.put t c.changeType (c.score content.toList)) []

/-- The type and the confidence that scores and contents speak for. -/
def verdict (r : ClassifierRules) (scores : Table ChangeType Nat) (changes : Changes)
    (content : String) : ChangeType × Binary64 :=
  match Table.greatest? scores with
  | some (type, score) =>
    (type, Binary64.min r.maxPatternConfidence (Binary64.ofInt score / 2))
  | none =>
    if Text.anyOccurs r.validationIdioms content.toList || changes.removed < changes.added then
      (.bugFix, r.fallbackConfidence)
    else if Text.anyOccurs r.declarationIdioms content.toList then (.feature, r.fallbackConfidence)
    else (.other, r.otherConfidence)

end ClassifierRules

/-- A classification, unless its confidence is out of bounds. -/
def Classification.checked (c : Classification) : Except Fault Classification :=
  match OutOfBounds.score? "confidence" c.confidence with
  | some o => .error (OutOfBounds.fault recordName [o])
  | none => .ok c

/-- The classification of a file without changes. -/
def Classification.noChange : Classification := { changeType := .noChange, confidence := 1 }

/-- Classifies a file by patterns and idioms. -/
def ClassifierRules.generic (r : ClassifierRules) (f : FileChange) : Except Fault Classification :=
  let changes := Changes.of f
  if changes.total = 0 then .ok .noChange
  else
    let content := changes.content
    let scores := r.scores content
    let (changeType, confidence) := r.verdict scores changes content
    Classification.checked
      { changeType, confidence
        details :=
          { added := changes.added, removed := changes.removed, total := changes.total, content
            scores := scores.map fun e => (e.1.name, (e.2 : Int)) } }

end PatchTriage
