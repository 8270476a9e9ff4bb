import PatchTriage.Proofs.Patch.Filling

/-!
# The pass over the lines

How the pass of `Patch.parse` goes over lines that stand together. A file header closes the file
before it and starts a fresh one (`Parsing.run_header`), and the lines behind it up to the next
header fill that file, whatever stands around them (`Parsing.run_fill`). So a header and its lines
come out as one file, and only the status of that file depends on the neighbours
(`Parsing.run_block`). An empty line behind all others changes nothing (`Parsing.run_concat_nil`).
-/

namespace PatchTriage

namespace Draft

/-- A file that a header begins is fresh. -/
theorem isFresh_ofGitHeader (h : GitHeader) (status : FileStatus) :
    (ofGitHeader h status).IsFresh := by
  cases status <;> exact ⟨rfl, rfl, rfl⟩

/-- So is one that the name of a side begins. -/
theorem isFresh_ofSideName? {line : Line} {after : List Line} {d : Draft}
    (h : ofSideName? line after = some d) : d.IsFresh := by
  unfold ofSideName? at h
  split at h
  · cases h
  · cases h
    exact ⟨rfl, rfl, rfl⟩
  · split at h
    · cases h
    · cases h
    · split at h
      · cases h
        exact ⟨rfl, rfl, rfl⟩
      · cases h

/-- An empty line behind all others names no side. -/
@[simp]
theorem ofSideName?_concat_nil (line : Line) (after : List Line) :
    ofSideName? line (after ++ [[]]) = ofSideName? line after := by
  cases after with
  | nil => rfl
  | cons next after => rfl

end Draft

/-- An empty line behind all others is no mark of a status. -/
@[simp]
theorem FileStatus.near_concat_nil (before : Option Line) (after : List Line) :
    near before (after ++ [[]]) = near before after := by
  have hrename : ((after ++ [[]]).take renameLookahead).any (Text.startsWith · "rename from ") =
      (after.take renameLookahead).any (Text.startsWith · "rename from ") := by
    rw [List.take_append, List.any_append]
    have hnil : ([[]].take (renameLookahead - after.length)).any
        (Text.startsWith · "rename from ") = false := by
      cases renameLookahead - after.length with
      | zero => rfl
      | succ n => rw [List.take_succ_cons, List.take_nil]; rfl
    rw [hnil, Bool.or_false]
  have hhead : (after ++ [[]]).head?.any (Text.startsWith · "deleted file mode") =
      after.head?.any (Text.startsWith · "deleted file mode") := by
    cases after with
    | nil => rfl
    | cons next after => rfl
  rw [near, near, hrename, hhead]

namespace Parsing

/-- Between files there are only the finished ones. -/
@[simp] theorem files_none (finished : List FileChange) :
    files { finished := finished, current := none } = finished := rfl

/-- The file that is being filled stands behind the finished ones. -/
@[simp] theorem files_some (finished : List FileChange) (d : Draft) :
    files { finished := finished, current := some d } = d.finish :: finished := rfl

/-- At the end of the lines the pass is over. -/
@[simp]
theorem run_nil (p : Parsing) (before : Option Line) : p.run before [] = .ok p := rfl

/-- The pass over lines is a step over the first and the pass over the others. -/
theorem run_cons_of_step {p p' : Parsing} {before : Option Line} {line : Line}
    {after : List Line} (h : p.step before line after = .ok p') :
    p.run before (line :: after) = p'.run (some line) after := by
  rw [run, h]

/-- A file header closes the file before it and starts a fresh one. -/
theorem run_header {line : Line} {h : GitHeader} (hr : GitHeader.read? line = some h)
    (p : Parsing) (before : Option Line) (after : List Line) :
    p.run before (line :: after) =
      run { finished := p.files, current := some (.ofGitHeader h (.near before after)) }
        (some line) after :=
  run_cons_of_step (by rw [step, hr])

/-- With an open file, a line that is no file header goes to that file. -/
@[simp]
theorem step_open {line : Line} (hf : ¬IsFileHeader line) (finished : List FileChange) (d : Draft)
    (before : Option Line) (after : List Line) :
    step { finished := finished, current := some d } before line after =
      (d.addLine line).map fun d => { finished := finished, current := some d } := by
  rw [step, GitHeader.read?_eq_none hf]

/-- Without an open file, a line that is no file header opens one if it names the only side. -/
@[simp]
theorem step_none {line : Line} (hf : ¬IsFileHeader line) (finished : List FileChange)
    (before : Option Line) (after : List Line) :
    step { finished := finished, current := none } before line after =
      .ok { finished := finished, current := Draft.ofSideName? line after } := by
  rw [step, GitHeader.read?_eq_none hf]

/-- The line that stands in front of what follows lines, `before` standing in front of these. -/
def lastOf (before : Option Line) (ls : List Line) : Option Line := ls.getLast?.or before

/-- Where no lines have been passed, the line in front of them is still the last one. -/
@[simp]
theorem lastOf_nil (before : Option Line) : lastOf before [] = before := rfl

/-- The line before lines that have been passed is the last of them. -/
@[simp]
theorem lastOf_cons (before : Option Line) (line : Line) (ls : List Line) :
    lastOf before (line :: ls) = lastOf (some line) ls := by
  cases ls with
  | nil => rfl
  | cons next ls => simp [lastOf, List.getLast?_cons]

/-- With an open file, lines that are no file headers fill that file. -/
theorem run_fill {d d' : Draft} {ls : List Line} (hls : ∀ line ∈ ls, ¬IsFileHeader line)
    (h : d.fill ls = .ok d') (finished : List FileChange) (before : Option Line)
    (rest : List Line) :
    run { finished := finished, current := some d } before (ls ++ rest) =
      run { finished := finished, current := some d' } (lastOf before ls) rest := by
  induction ls generalizing d before with
  | nil =>
    cases h
    rfl
  | cons line ls ih =>
    obtain ⟨d₁, h₁, h₂⟩ := Draft.fill_cons_eq_ok h
    have hstep : step { finished := finished, current := some d } before line (ls ++ rest) =
        .ok { finished := finished, current := some d₁ } := by
      simp [hls line List.mem_cons_self, h₁, Except.map]
    rw [List.cons_append, run_cons_of_step hstep,
      ih (fun l hl => hls l (List.mem_cons_of_mem line hl)) h₂, lastOf_cons]

/-- **A header and its lines are one file.** The lines up to the next header are the file's own;
only its status depends on what stands around them. -/
theorem run_block {line : Line} {h : GitHeader} {ls : List Line}
    (hr : GitHeader.read? line = some h) (hls : ∀ l ∈ ls, ¬IsFileHeader l)
    (hread : ∀ l ∈ ls, ReadableLine l) (p : Parsing) (before : Option Line) (rest : List Line) :
    ∃ d : Draft,
      d.finish = (Draft.ofGitHeader h (.near before (ls ++ rest))).fileOf (hunksOf ls) ∧
        p.run before (line :: ls ++ rest) =
          run { finished := p.files, current := some d } (lastOf (some line) ls) rest := by
  obtain ⟨d, hd⟩ := Draft.fill_isOk_iff
    (d := .ofGitHeader h (.near before (ls ++ rest))).2 hread
  refine ⟨d, Draft.finish_fill (Draft.isFresh_ofGitHeader _ _) hd, ?_⟩
  rw [List.cons_append, run_header hr, run_fill hls hd]

/-- An empty line behind all others changes nothing. -/
theorem run_concat_nil (p : Parsing) (before : Option Line) (ls : List Line) :
    p.run before (ls ++ [[]]) = p.run before ls := by
  induction ls generalizing p before with
  | nil =>
    obtain ⟨finished, current⟩ := p
    cases current with
    | none => rfl
    | some d =>
      have hnot : ∀ line ∈ ([[]] : List Line), ¬IsFileHeader line := by decide
      have hfill : d.fill [[]] = .ok d := by
        have hhunk : ¬IsHunkHeader [] := by decide
        have hbody : ¬IsBodyLine [] := by decide
        simp [Draft.fill, hhunk, hbody]
      exact run_fill hnot hfill finished before []
  | cons line ls ih =>
    have hstep : p.step before line (ls ++ [[]]) = p.step before line ls := by
      simp [step]
    rw [List.cons_append, run, run, hstep]
    cases p.step before line ls with
    | ok p' => exact ih p' (some line)
    | error e => rfl

end Parsing

/-- The patch of a text depends on its lines alone, and an empty line behind them makes no
difference. -/
theorem Patch.parse_of_lines {text : String} {ls : List Line} {p : Parsing}
    (hls : Text.lines text.toList = ls ∨ Text.lines text.toList = ls ++ [[]])
    (h : ({} : Parsing).run none ls = .ok p) :
    Patch.parse text = .ok { files := p.files.reverse } := by
  have hrun : ({} : Parsing).run none (Text.lines text.toList) = .ok p := by
    rcases hls with hls | hls
    · rw [hls, h]
    · rw [hls, Parsing.run_concat_nil, h]
  rw [Patch.parse, hrun]

end PatchTriage
