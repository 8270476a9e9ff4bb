import PatchTriage.Proofs.Text.Split
import PatchTriage.Report.Markdown

/-!
# The lines of a page

The page of a report that finds something has the lines of its sections, one section after another.
So a section whose lines are free of line feeds is found there as it was written
(`Report.exists_splitOn_markdown`), whatever the other sections are made of.
-/

namespace PatchTriage

/-- The lines of joined texts are those of each. -/
theorem Text.splitOn_intercalate_texts {texts : List String} (hne : texts ≠ []) :
    splitOn '\n' ("\n".intercalate texts).toList =
      (texts.map String.toList).flatMap (splitOn '\n') := by
  have hfeed : "\n".toList = ['\n'] := rfl
  rw [String.toList_intercalate, hfeed,
    splitOn_intercalate_eq_flatMap (mt List.map_eq_nil_iff.1 hne)]

namespace Markdown

/-- The lines in front of the sections. -/
def titleLines : List String := ["# Diff Analysis", ""]

/-- The name of a change type is within a line. -/
theorem feed_not_mem_typeName (type : ChangeType) : '\n' ∉ type.name.toList := by
  cases type <;> decide

end Markdown

/-- **A section without line feeds stands on the page as it was written**: behind the lines of the
sections above, and in front of all others. -/
theorem Report.exists_splitOn_markdown {r : Report} {above lines below : List String}
    (hbody : Markdown.body r.outcome = above ++ lines ++ below)
    (hlines : ∀ line ∈ lines, '\n' ∉ line.toList) :
    ∃ rest, Text.splitOn '\n' r.markdown.toList =
      Text.splitOn '\n' ("\n".intercalate (Markdown.titleLines ++ above)).toList ++
        lines.map String.toList ++ rest := by
  have hsection : (lines.map String.toList).flatMap (Text.splitOn '\n') =
      lines.map String.toList := Text.flatMap_splitOn (List.forall_mem_map.2 hlines)
  have hpage : r.markdown =
      "\n".intercalate (Markdown.titleLines ++ above ++ lines ++ below) := by
    rw [markdown, hbody, List.append_assoc, List.append_assoc, List.append_assoc]
    rfl
  refine ⟨(below.map String.toList).flatMap (Text.splitOn '\n'), ?_⟩
  rw [hpage, Text.splitOn_intercalate_texts (by simp [Markdown.titleLines]),
    Text.splitOn_intercalate_texts (by simp [Markdown.titleLines]), ← hsection]
  simp only [List.map_append, List.flatMap_append]

end PatchTriage
