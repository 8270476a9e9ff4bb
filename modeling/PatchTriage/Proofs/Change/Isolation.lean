import PatchTriage.Proofs.Change.Confidence

/-!
# Files that cannot be classified

Every strategy starts from what the patterns say. Where these raise a fault instead, the classifier
gives up on the file (`Classifier.classifyFile_of_error`): it is unknown, and the fault is captured
once. A classifier whose patterns fail on some paths (`Classifier.failingAt`) therefore gives up on
the files with these paths alone, whatever their language is (`Classifier.classifyFile_failingAt`),
and leaves behind one record for each of them (`Classifier.faultsOf_classifyFiles_failingAt`).
-/

namespace PatchTriage.Classifier

/-- The classifier whose patterns raise a fault on every file with one of some paths. -/
def failingAt (c : Classifier) (P : String → Prop) [DecidablePred P] (e : Fault) : Classifier :=
  { c with generic := fun f => if P f.path then .error e else c.generic f }

/-- The record of a file that the classifier gives up on. -/
def recordOf (e : Fault) (f : FileChange) : CapturedFault where
  severity := .warning
  fault := e
  context := [("stage", .text stage), ("file_path", .text f.path)]

/-! ## One file -/

/-- A file that is given up is of an unknown type. -/
@[simp]
theorem value_giveUp (f : FileChange) (e : Fault) : (giveUp f e).value = .unknown := rfl

/-- The fault that a file is given up for is captured once. -/
@[simp]
theorem faultsOf_giveUp (f : FileChange) (e : Fault) :
    faultsOf (giveUp f e).events = [recordOf e f] := rfl

/-- Where the patterns raise a fault, the classifier gives up, before any strategy is looked at. -/
theorem classifyFile_of_error {c : Classifier} {f : FileChange} {hs : List Hunk} {e : Fault}
    (hf : f.hunks = some hs) (h : c.generic f = .error e) : c.classifyFile f = giveUp f e := by
  rw [classifyFile, hf]
  dsimp only
  rw [h]

/-- A file is classified by what the patterns say of it and by the rules. -/
theorem classifyFile_congr {c c' : Classifier} {f : FileChange} (hrules : c.rules = c'.rules)
    (hgeneric : c.generic f = c'.generic f) : c.classifyFile f = c'.classifyFile f := by
  have hrefine (g : Classification) (strategy : Strategy) :
      c.refine f g strategy = c'.refine f g strategy := by
    cases strategy with
    | generic => rfl
    | typescript => rw [refine, refine, hrules]
    | go => rw [refine, refine, hrules]
  have hstrategy : c.strategy f = c'.strategy f := by rw [strategy, strategy, hrules]
  rw [classifyFile, classifyFile, hgeneric, hstrategy]
  split
  · rfl
  · split
    · exact hrefine _ _
    · rfl

section
variable (c : Classifier) (P : String → Prop) [DecidablePred P] (e : Fault)

/-- **Only the files that are hit are given up on.** -/
theorem classifyFile_failingAt {f : FileChange} {hs : List Hunk} (hf : f.hunks = some hs) :
    (c.failingAt P e).classifyFile f = if P f.path then giveUp f e else c.classifyFile f := by
  split
  · next h => exact classifyFile_of_error hf (if_pos h)
  · next h => exact classifyFile_congr rfl (if_neg h)

/-! ## The files of a patch -/

/-- The files that are hit are unknown, and all others are classified as before. -/
theorem value_classifyFiles_failingAt {p : Patch} (hp : ∀ f ∈ p.files, ∃ hs, f.hunks = some hs) :
    ((c.failingAt P e).classifyFiles p).value = (c.classifyFiles p).value.map fun f =>
      if P f.path then { f with classification := .unknown } else f := by
  simp only [value_classifyFiles, List.map_map]
  refine List.map_congr_left fun f hf => ?_
  obtain ⟨hs, hhs⟩ := hp f hf
  have hpath : (ClassifiedFile.mk f (c.classifyFile f).value).path = f.path := rfl
  rw [Function.comp, c.classifyFile_failingAt P e hhs, hpath]
  split
  · simp
  · rfl

/-- The captured faults are those of the files that are hit, in their order. -/
theorem faultsOf_classifyFiles_failingAt {p : Patch}
    (hp : ∀ f ∈ p.files, (∃ hs, f.hunks = some hs) ∧ (c.classifyFile f).IsClean) :
    faultsOf ((c.failingAt P e).classifyFiles p).events =
      (p.files.filter fun f => P f.path).map (recordOf e) := by
  have hpair (f : FileChange) : faultsOf ((c.failingAt P e).pair f).events =
      faultsOf ((c.failingAt P e).classifyFile f).events := by
    simp [pair]
  have heach : faultsOf (Traced.each (c.failingAt P e).pair p.files).events =
      (p.files.filter fun f => P f.path).map (recordOf e) := by
    refine Traced.faultsOf_each (fun f hf h => ?_) fun f hf h => ?_
    · obtain ⟨⟨hs, hhs⟩, -⟩ := hp f hf
      simp [hpair, c.classifyFile_failingAt P e hhs, h]
    · obtain ⟨⟨hs, hhs⟩, hclean⟩ := hp f hf
      rw [Traced.IsClean, hpair, c.classifyFile_failingAt P e hhs, if_neg h, hclean]
  rw [classifyFiles, Traced.events_bind, faultsOf_append, heach]
  simp

end

end PatchTriage.Classifier
