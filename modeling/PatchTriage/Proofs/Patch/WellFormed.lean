import PatchTriage.Proofs.Patch.Changes

/-!
# Files that are read

Whatever a text is like, every file that is read from it is well formed (`FileChange.WellFormed`):
it is consistent, it names both of its sides, a side that its status calls missing is the missing
one, and the texts of its hunk headers are trimmed. Only a file header leaves open whether a file is
renamed or modified; a file that is opened by the name of its only side is added or deleted
(`Patch.parse_wellFormed`).
-/

namespace PatchTriage

/-- Whether a side that the status of a file calls missing is the missing one. -/
def Draft.Sided (d : Draft) : Prop :=
  (d.status = .added → d.oldPath = devNull.toList) ∧
    (d.status = .deleted → d.newPath = devNull.toList)

/-- What holds of every file that is read. -/
structure FileChange.WellFormed (f : FileChange) : Prop extends f.Consistent where
  oldPath : f.oldPath ≠ ""
  newPath : f.newPath ≠ ""
  added : f.status = .added → f.oldPath = devNull
  deleted : f.status = .deleted → f.newPath = devNull
  shown : f.path = if f.newPath = devNull then f.oldPath else f.newPath
  headers : ∀ hs, f.hunks = some hs → ∀ hunk ∈ hs, Text.trim hunk.header.toList = hunk.header.toList

/-! ## Sides -/

/-- A file that a header begins names the missing side as its status says. -/
theorem Draft.sided_ofGitHeader (h : GitHeader) (status : FileStatus) :
    (ofGitHeader h status).Sided := by
  cases status with
  | added => exact ⟨fun _ => rfl, nofun⟩
  | deleted => exact ⟨nofun, fun _ => rfl⟩
  | modified => exact ⟨nofun, nofun⟩
  | renamed => exact ⟨nofun, nofun⟩

/-- A file that is opened by the name of its only side is added or deleted. -/
theorem Draft.ofSideName?_cases {line : Line} {after : List Line} {d : Draft}
    (h : ofSideName? line after = some d) :
    (d.status = .added ∧ d.oldPath = devNull.toList) ∨
      (d.status = .deleted ∧ d.newPath = devNull.toList) := by
  unfold ofSideName? at h
  split at h
  · cases h
  · cases h
    exact .inl ⟨rfl, rfl⟩
  · split at h
    · cases h
    · cases h
    · split at h
      · cases h
        exact .inr ⟨rfl, rfl⟩
      · cases h

/-- So does a file that is opened by the name of its only side. -/
theorem Draft.sided_ofSideName? {line : Line} {after : List Line} {d : Draft}
    (h : ofSideName? line after = some d) : d.Sided := by
  rcases ofSideName?_cases h with ⟨hs, hp⟩ | ⟨hs, hp⟩
  · exact ⟨fun _ => hp, fun hdeleted => nomatch hs.symm.trans hdeleted⟩
  · exact ⟨fun hadded => (nomatch hs.symm.trans hadded), fun _ => hp⟩

section
variable {L : List Line}

/-- So does every file where it begins. -/
theorem sided_draftAt (o : Nat) : (draftAt L o).Sided := by
  rw [draftAt]
  split
  · exact Draft.sided_ofGitHeader _ _
  · split
    · next hd => exact Draft.sided_ofSideName? hd
    · exact ⟨fun hadded => by contradiction, fun hdeleted => by contradiction⟩

/-- A file whose status is neither added nor deleted is opened by a file header. -/
theorem opened_draftAt {o : Nat} (ho : o ∈ openers L) :
    FileHeaderAt L o ∨
      (SideNameAt L o ∧ ((draftAt L o).status = .added ∨ (draftAt L o).status = .deleted)) := by
  by_cases hf : FileHeaderAt L o
  · exact .inl hf
  · obtain ⟨hs, -⟩ := (mem_openers ho).resolve_left hf
    obtain ⟨d, hd⟩ := Option.isSome_iff_exists.1 (isSome_ofSideName?_iff_sideNameAt.2 hs)
    rw [draftAt_of_sideName hf hd]
    exact .inr ⟨hs, (Draft.ofSideName?_cases hd).imp And.left And.left⟩

/-- The text of a hunk header is trimmed. -/
theorem trim_header_hunkAt (line : Line) :
    Text.trim (hunkAt line).header.toList = (hunkAt line).header.toList := by
  rw [hunkAt]
  split
  · rw [HunkHeader.hunk, String.toList_ofList]
    exact Text.trimBy_trimBy _ _
  · rfl

/-- The file at a position that opens one is well formed, if it is consistent. -/
theorem wellFormed_fileAt {o : Nat} (ho : o ∈ openers L) (hc : (fileAt L o).Consistent) :
    (fileAt L o).WellFormed := by
  obtain ⟨hold, hnew⟩ := named_draftAt ho
  obtain ⟨hadded, hdeleted⟩ := sided_draftAt (L := L) o
  have hne {path : Line} (h : path ≠ []) : String.ofList path ≠ "" :=
    fun he => h (String.ofList_eq_empty_iff.1 he)
  have hnew' : (fileAt L o).newPath ≠ "" := hne hnew
  exact {
    hc with
    oldPath := hne hold
    newPath := hnew'
    added := fun hs => (congrArg String.ofList (hadded hs)).trans String.ofList_toList
    deleted := fun hs => (congrArg String.ofList (hdeleted hs)).trans String.ofList_toList
    shown := by
      rw [FileChange.path]
      by_cases hnull : (fileAt L o).newPath = devNull
      · rw [if_neg fun h => h.2 hnull, if_pos hnull]
      · rw [if_pos ⟨hnew', hnull⟩, if_neg hnull]
    headers := fun hs hhs hunk hmem => by
      obtain rfl : ((segment L o).filter fun h => HunkHeaderAt L h).map (hunkFrom L) = hs :=
        Option.some.inj hhs
      obtain ⟨h, -, rfl⟩ := List.mem_map.1 hmem
      exact trim_header_hunkAt (lineAt L h) }

end

/-! ## The files of a text -/

/-- **Every file that is read is well formed**, and it is the file of the line that opens it: a file
header, or the name of the only side of a file that is added or deleted. -/
theorem Patch.parse_wellFormed {text : String} {L : List Line} {patch : Patch}
    (hL : Text.lines text.toList = L) (h : Patch.parse text = .ok patch) {i : Nat} {f : FileChange}
    (hf : patch.files[i]? = some f) :
    f.WellFormed ∧ ∃ o, (openers L)[i]? = some o ∧ f = fileAt L o ∧
      (FileHeaderAt L o ∨ (SideNameAt L o ∧ (f.status = .added ∨ f.status = .deleted))) := by
  subst hL
  have hconsistent := consistent_of_mem_parse h f (List.mem_of_getElem? hf)
  rw [files_of_parse h, List.getElem?_map] at hf
  obtain ⟨o, ho, rfl⟩ := Option.map_eq_some_iff.1 hf
  have hmem := List.mem_of_getElem? ho
  exact ⟨wellFormed_fileAt hmem hconsistent, o, ho, rfl, opened_draftAt hmem⟩

/-- A file that is deleted without a header, and a renamed one that keeps two lines of its hunk. -/
theorem Patch.parse_wellFormed_renamed :
    ∃ L : List Line, (openers L)[1]? = some 6 ∧ ∃ f : FileChange, f.WellFormed ∧ f =
      { oldPath := "b", newPath := "c", status := .renamed, additions := some 1
        hunks := some [⟨1, 1, 1, 1, ["+z", " y"], "f()"⟩] } ∧
      FileHeaderAt L 6 := by
  have h : Patch.parse ("--- a/a\n+++ /dev/null\n@@ -1,2 +0,0 @@ \n-x\r\n---- y\n\n" ++
      "diff --git a/b b/c\nrename from b\n@@ -1 +1 @@\t f() \n+z\n+++i\n y\n?") =
      .ok { files := [
        { oldPath := "a", newPath := "/dev/null", status := .deleted, deletions := some 1
          hunks := some [⟨1, 2, 0, 0, ["-x"], ""⟩] },
        { oldPath := "b", newPath := "c", status := .renamed, additions := some 1
          hunks := some [⟨1, 1, 1, 1, ["+z", " y"], "f()"⟩] }] } := by decide +kernel
  obtain ⟨hf, o, ho, -, hopened⟩ := parse_wellFormed rfl h (i := 1) rfl
  have hsix : o = 6 := Option.some.inj (ho.symm.trans (by decide +kernel))
  subst hsix
  exact ⟨_, ho, _, hf, rfl, hopened.resolve_right fun hs => by simpa using hs.2⟩

end PatchTriage
