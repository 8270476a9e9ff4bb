import PatchTriage.Report.Basic

/-!
# Reports in Markdown

The report as a page: the summary, a table of the files, the counts of change types from the
greatest down, the recommendations, and the files that were analysed only in part. A section
without content is left out.
-/

namespace PatchTriage

namespace Markdown

/-- The sign of a band of risk. -/
def riskSign : RiskLevel → String
  | .low => "🟢"
  | .medium => "🟡"
  | .high => "🔴"

/-- The sign of a priority. -/
def prioritySign : Priority → String
  | .high => "🚨"
  | .medium => "⚠️"
  | .low => "ℹ️"

/-- The sign of a status. -/
def statusSign : FileStatus → String
  | .added => "➕"
  | .deleted => "➖"
  | .modified => "✏️"
  | .renamed => "🔀"

/-- A text that may be left out. -/
def textOrNone (s : Option String) : String := s.getD "None"

/-- The summary. The counts of a parsed patch are no greater than its text is long; numerals that a
file is given by hand are written however long they are. -/
def summaryLines (f : Findings) : List String :=
  let totals := f.summary.totals
  ["## Summary",
    s!"**{totals.files}** files changed, **+{totals.additions}** / **-{totals.deletions}** lines",
    s!"**Primary change type:** {f.summary.primary.name}",
    s!"**Risk Assessment:** {riskSign f.risk.level} {f.risk.level.title} " ++
      s!"({f.risk.score.percentText})",
    ""]

/-- The risk shown for a path, from the assessed files with the last one first: of several files
under one path the last counts, and a path that was not assessed has none. -/
def shownRisk (lastFirst : List FileRisk) (path : String) : Binary64 :=
  (lastFirst.find? fun f => f.path == path).elim 0 (·.score)

/-- The row of a file. -/
def fileRow (lastFirst : List FileRisk) (f : ClassifiedFile) : String :=
  let c := f.classification
  let risk := shownRisk lastFirst f.path
  s!"| `{f.path}` | {statusSign f.file.status} {f.file.status.name} | {c.changeType.name} " ++
    s!"| {c.confidence.percentText} | {risk.twoPlaces} |"

/-- The head of the table of files. -/
def fileTableHead : List String :=
  ["| File | Status | Change | Confidence | Risk |",
    "|------|--------|--------|------------|------|"]

/-- The rows of the files. -/
def fileRows (f : Findings) : List String :=
  let lastFirst := f.risk.details.files.reverse
  f.files.map (fileRow lastFirst)

/-- The table of files. -/
def fileLines (f : Findings) : List String :=
  if f.files.isEmpty then []
  else ["## Files", ""] ++ fileTableHead ++ fileRows f ++ [""]

/-- The counts of change types from the greatest down, equal ones in the order of the table. -/
def descending (t : Table ChangeType Nat) : Table ChangeType Nat :=
  t.mergeSort fun a b => b.2 ≤ a.2

/-- The line on a change type. -/
def changeTypeLine (e : ChangeType × Nat) : String := s!"- {e.1.name}: {e.2}"

/-- The counts of change types. -/
def changeTypeLines (f : Findings) : List String :=
  if f.summary.changeTypes.isEmpty then []
  else "**By Change Type:**" :: (descending f.summary.changeTypes).map changeTypeLine ++ [""]

/-- How many files a recommendation names. -/
def shownFiles : Nat := 3

/-- A path as code. -/
def code (path : String) : String := "`" ++ path ++ "`"

/-- The files behind a recommendation. -/
def fileList (files : List String) : String :=
  if files.isEmpty then ""
  else
    let shown := ", ".intercalate ((files.take shownFiles).map code)
    let hidden := files.length - shownFiles
    let more := if hidden = 0 then "" else s!" and {hidden} more"
    s!" ({shown}{more})"

/-- The line on a recommendation. -/
def recommendationLine (r : Recommendation) : String :=
  s!"- {prioritySign r.priority} **{r.priority.title}** {r.message}{fileList r.files}"

/-- The recommendations. -/
def recommendationLines (f : Findings) : List String :=
  if f.recommendations.isEmpty then []
  else "## Recommendations" :: f.recommendations.map recommendationLine ++ [""]

/-- A value in a line. -/
def shown (v : Json) : String := String.ofList v.display

/-- The line on a degraded file. -/
def degradedLine (d : DegradedFile) : String :=
  s!"- `{shown d.path}` ({shown d.stage}): {shown d.error}"

/-- The degraded files. -/
def degradedLines (f : Findings) : List String :=
  if f.degraded.isEmpty then []
  else "## ⚠️ Partially Analyzed" :: f.degraded.map degradedLine ++ [""]

/-- The lines behind the title. -/
def body : Outcome → List String
  | .failure error => [s!"❌ **Analysis failed:** {textOrNone error}"]
  | .success f =>
    summaryLines f ++ fileLines f ++ changeTypeLines f ++ recommendationLines f ++
      degradedLines f ++
      ["---", "*Generated by heuristic diff analysis. Verify before acting on it.*"]

end Markdown

/-- The report as a page. -/
def Report.markdown (r : Report) : String :=
  "\n".intercalate (["# Diff Analysis", ""] ++ Markdown.body r.outcome)

end PatchTriage
