import PatchTriage.Change.Basic
import PatchTriage.Schema.Convert

/-!
# Classifications in JSON

Reading fills in the parts that may be left out and drops fields that are unknown; writing names
every part.
-/

namespace PatchTriage

/-- The hunk in JSON. -/
def Hunk.toJson (h : Hunk) : Json :=
  .object [("old_start", .int h.oldStart), ("old_count", .int h.oldCount),
    ("new_start", .int h.newStart), ("new_count", .int h.newCount),
    ("lines", .texts h.lines), ("header", .text h.header)]

/-- A count that may be left out, in JSON. -/
def Json.ofInt? : Option Int → Json
  | some n => .int n
  | none => .null

/-- The fields of a file change in JSON; hunks that are left out are written as none. -/
def FileChange.toFields (f : FileChange) : Fields :=
  [("old_path", .text f.oldPath), ("new_path", .text f.newPath), ("status", .text f.status.name),
    ("hunks", .array ((f.hunks.getD []).map Hunk.toJson)),
    ("additions", .ofInt? f.additions), ("deletions", .ofInt? f.deletions)]

namespace ChangeDetails

/-- The name of the record. -/
def recordName : String := "ClassificationDetails"

/-- Reads the details of a classification. -/
def ofJson : Json → Checked ChangeDetails :=
  Convert.record recordName fun fields =>
    ChangeDetails.mk <$> Convert.fieldOr fields "added_lines" 0 Convert.count
      <*> Convert.fieldOr fields "removed_lines" 0 Convert.count
      <*> Convert.fieldOr fields "total_changes" 0 Convert.count
      <*> Convert.fieldOr fields "content" "" Convert.text
      <*> Convert.fieldOr fields "category_scores" [] (Convert.table Convert.integer)

/-- The details in JSON. -/
def toJson (d : ChangeDetails) : Json :=
  .object [("added_lines", .nat d.added), ("removed_lines", .nat d.removed),
    ("total_changes", .nat d.total), ("content", .text d.content),
    ("category_scores", .object (d.scores.map fun e => (e.1, .int e.2)))]

end ChangeDetails

namespace Classification

/-- The name of the record. -/
def recordName : String := "Classification"

/-- Reads a classification. -/
def ofJson : Json → Checked Classification :=
  Convert.record recordName fun fields =>
    Classification.mk
      <$> Convert.field fields "change_type" (Convert.member ChangeType.all ChangeType.name)
      <*> Convert.field fields "confidence" Convert.score
      <*> Convert.fieldOr fields "details" {} ChangeDetails.ofJson
      <*> Convert.fieldOr fields "language" none (Convert.orNull Convert.text)
      <*> Convert.fieldOr fields "language_signals" [] Convert.object

/-- The classification in JSON. -/
def toJson (c : Classification) : Json :=
  .object [("change_type", .text c.changeType.name), ("confidence", .real c.confidence),
    ("details", c.details.toJson), ("language", .ofText? c.language),
    ("language_signals", .object c.signals)]

end Classification

/-- The fields of a classified file in JSON. -/
def ClassifiedFile.toFields (f : ClassifiedFile) : Fields :=
  f.file.toFields ++ [("classification", f.classification.toJson)]

end PatchTriage
