import PatchTriage.Proofs.Binary64.Text
import PatchTriage.Proofs.Report.Page
import PatchTriage.Proofs.Table.Ranking

/-!
# Change types on the page

Behind the summary and the files, the page of a report breaks the files down by their change types
(`Findings.HasBreakdown`). The entries are the counts of the summary, sorted from the greatest down.
Sorting is stable, and the counts come in the order in which the types first occur, so that order
decides between equal ones. The primary type of the summary is the first with the greatest count. So
the page and the summary name the same type first, whatever types the files have
(`Findings.breakdown_markdown`).
-/

namespace PatchTriage

/-- Whether the lines of a page are those of its title, its summary and its table of files, and then
a section on change types with a line for each of these entries. -/
def Findings.HasBreakdown (f : Findings) (entries : Table ChangeType Nat) (page : String) : Prop :=
  ∃ rest, Text.splitOn '\n' page.toList =
    Text.splitOn '\n' ("\n".intercalate
      (Markdown.titleLines ++ (Markdown.summaryLines f ++ Markdown.fileLines f))).toList ++
      ("**By Change Type:**" :: entries.map Markdown.changeTypeLine ++ [""]).map String.toList ++
        rest

/-- An entry of the breakdown is within a line. -/
theorem Markdown.feed_not_mem_changeTypeLine (e : ChangeType × Nat) :
    '\n' ∉ (changeTypeLine e).toList := by
  have hcount : '\n' ∉ (toString e.2).toList := by
    have hdigits : (toString e.2).toList = Text.decimal e.2 := digitsOf_eq e.2
    rw [hdigits]
    exact fun h => absurd (Text.isDigit_of_mem_decimal h) (by decide +kernel)
  have hsigns : '\n' ∉ "- ".toList ∧ '\n' ∉ ": ".toList := by decide
  unfold changeTypeLine
  simp only [String.toList_append, List.mem_append, not_or]
  exact ⟨⟨⟨hsigns.1, feed_not_mem_typeName e.1⟩, hsigns.2⟩, hcount⟩

/-- The counts of some files have a greatest one, which is that of the primary type. -/
theorem greatest?_changeTypeCounts {files : List ClassifiedFile} (hne : files ≠ []) :
    ∃ e, Table.greatest? (changeTypeCounts files) = some e ∧
      primaryType (changeTypeCounts files) = e.1 := by
  cases hgreatest : Table.greatest? (changeTypeCounts files) with
  | none =>
    obtain ⟨file, rest, rfl⟩ := List.exists_cons_of_ne_nil hne
    have hzero := (Table.lists_counts _).greatest?_eq_none_iff.1 hgreatest file.changeType
      List.mem_cons_self
    exact absurd List.mem_cons_self (List.count_eq_zero.1 hzero)
  | some e => exact ⟨e, rfl, by rw [primaryType, hgreatest]; rfl⟩

namespace Findings

variable {r : Report} {f : Findings} {risk : Option RiskAssessment}

/-- The page has the counts of the summary, from the greatest down. -/
theorem hasBreakdown_markdown (h : r.outcome = .success f) (hne : f.summary.changeTypes ≠ []) :
    f.HasBreakdown (Markdown.descending f.summary.changeTypes) r.markdown := by
  have hsection : Markdown.changeTypeLines f = "**By Change Type:**" ::
      (Markdown.descending f.summary.changeTypes).map Markdown.changeTypeLine ++ [""] := by
    rw [Markdown.changeTypeLines, if_neg (by simpa using hne)]
  have hbody : Markdown.body r.outcome =
      Markdown.summaryLines f ++ Markdown.fileLines f ++ Markdown.changeTypeLines f ++
        (Markdown.recommendationLines f ++ Markdown.degradedLines f ++
          ["---", "*Generated by heuristic diff analysis. Verify before acting on it.*"]) := by
    rw [h, Markdown.body]
    simp only [List.append_assoc]
  rw [HasBreakdown, ← hsection]
  refine Report.exists_splitOn_markdown hbody ?_
  rw [hsection]
  have hends : '\n' ∉ "**By Change Type:**".toList ∧ '\n' ∉ "".toList := by decide
  intro line hline
  rw [List.mem_append, List.mem_cons, List.mem_map, List.mem_singleton] at hline
  rcases hline with (rfl | ⟨e, -, rfl⟩) | rfl
  · exact hends.1
  · exact Markdown.feed_not_mem_changeTypeLine e
  · exact hends.2

/-- **The page and the summary agree on change types.** For some files, the page lists the counts of
the summary: one type is ahead of another if more files have it, or if as many have it and it comes
first among the files. The counts add up to the number of files, and the first type on the page is
the primary one of the summary, which is ahead of all others. -/
theorem breakdown_markdown (h : r.outcome = .success f) (hsummary : f.summary = .of f.files risk)
    (hne : f.files ≠ []) :
    let types := f.files.map (·.changeType)
    ∃ entries, f.HasBreakdown entries r.markdown ∧ entries.Perm f.summary.changeTypes ∧
      (∀ e ∈ entries, e.2 = types.count e.1) ∧
      entries.Pairwise (fun a b => Ahead (types.count ·) types a.1 b.1) ∧
      (entries.map (·.2)).sum = f.files.length ∧
      entries.head?.map (·.1) = some f.summary.primary ∧
      Leads (types.count ·) types f.summary.primary := by
  intro types
  have hcounts : f.summary.changeTypes = Table.counts types := by rw [hsummary]; rfl
  have hlists : Table.Lists (types.count ·) types f.summary.changeTypes :=
    hcounts ▸ Table.lists_counts types
  obtain ⟨e, hgreatest, hprimary⟩ : ∃ e, Table.greatest? f.summary.changeTypes = some e ∧
      f.summary.primary = e.1 := by
    rw [hsummary]
    exact greatest?_changeTypeCounts hne
  have hperm : (Markdown.descending f.summary.changeTypes).Perm f.summary.changeTypes :=
    List.mergeSort_perm _ _
  have hsome : f.summary.changeTypes ≠ [] := List.ne_nil_of_mem (Table.mem_of_greatest? hgreatest)
  have hsum : ((Markdown.descending f.summary.changeTypes).map (·.2)).sum = f.files.length := by
    rw [(hperm.map _).sum_nat, hcounts, Table.sum_counts, List.length_map]
  have hhead : (Markdown.descending f.summary.changeTypes).head? = some e :=
    hlists.head?_mergeSort hgreatest
  refine ⟨_, hasBreakdown_markdown h hsome, hperm, fun e he => ?_, hlists.pairwise_mergeSort, hsum,
    ?_, ?_⟩
  · exact hlists.measured e (hperm.mem_iff.1 he)
  · rw [hhead, hprimary]
    rfl
  · rw [hprimary]
    exact (hlists.leads hgreatest).1

/-- Of two types with two files each, the one that comes first leads on the page and in the
summary. -/
theorem breakdown_markdown_draw :
    let types : List ChangeType := [.test, .feature, .bugFix, .bugFix, .feature]
    let files : List ClassifiedFile := types.map fun changeType =>
      { file := { oldPath := "a", newPath := "a" }
        classification := { changeType, confidence := 1 } }
    let f : Findings :=
      { summary := .of files none, files, risk := { score := 0, level := .low }
        recommendations := [], degraded := [] }
    let r : Report := { digest := "", outcome := .success f }
    (r.outcome = .success f ∧ f.summary = .of f.files none ∧ f.files ≠ []) ∧
      ∃ entries, f.HasBreakdown entries r.markdown ∧ (entries.map (·.2)).sum = 5 ∧
        entries.head?.map (·.1) = some .feature ∧ f.summary.primary = .feature ∧
        Leads (types.count ·) types .feature := by
  intro types files f r
  have hne : f.files ≠ [] := List.cons_ne_nil _ _
  have hprimary : f.summary.primary = .feature := by decide +kernel
  have hsummary : f.summary = .of f.files none := rfl
  obtain ⟨entries, hpage, -, -, -, hsum, hhead, hleads⟩ :=
    breakdown_markdown (r := r) rfl hsummary hne
  rw [hprimary] at hhead hleads
  exact ⟨⟨rfl, hsummary, hne⟩, entries, hpage, hsum, hhead, hprimary, hleads⟩

end Findings

end PatchTriage
