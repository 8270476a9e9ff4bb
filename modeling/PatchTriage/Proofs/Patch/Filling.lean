import PatchTriage.Patch.Parser
import PatchTriage.Proofs.Cut
import PatchTriage.Proofs.Patch.Header

/-!
# Filling a file

Behind the line that starts a file, its lines are taken in one by one without a look at their
neighbours. `Draft.closed_fill` says what becomes of the hunks: the lines are cut at the hunk
headers, each header with the lines behind it is one hunk, and of these lines the hunk keeps those
that have a marker and do not look like the name of a side (`IsBodyLine`). `Draft.fill_isOk_iff`
says when this fails, and `Draft.Counted` is the invariant that ties the counts to what is kept.
-/

namespace PatchTriage

/-- Whether a line belongs to the body of a hunk: it starts with a marker, and does not look like
the name of a side. -/
def IsBodyLine (line : Line) : Prop :=
  (Text.startsWith line "+" ∨ Text.startsWith line "-" ∨ Text.startsWith line " ") ∧
    ¬Text.startsWith line "+++" ∧ ¬Text.startsWith line "---"

instance (line : Line) : Decidable (IsBodyLine line) := by
  unfold IsBodyLine
  infer_instance

/-- The lines among `ls` that the body of a hunk keeps. -/
def bodyOf (ls : List Line) : List String :=
  (ls.filter fun line => IsBodyLine line).map String.ofList

/-- The hunk that a header line opens; other lines open none, and stand for an empty one. -/
def hunkAt (line : Line) : Hunk :=
  match HunkHeader.read? line with
  | some h => h.hunk
  | none => { oldStart := 0, oldCount := 0, newStart := 0, newCount := 0 }

/-- The hunk of a header line and the lines behind it. -/
def hunkOf (block : Line × List Line) : Hunk := { hunkAt block.1 with lines := bodyOf block.2 }

/-- The hunks of the lines of a file. -/
def hunksOf (ls : List Line) : List Hunk := (cut IsHunkHeader ls).2.map hunkOf

/-- Whether a stored line adds something. -/
def isAddition (line : String) : Bool := Text.startsWith line.toList "+"

/-- Whether a stored line deletes something. -/
def isDeletion (line : String) : Bool := Text.startsWith line.toList "-"

/-- All lines that hunks keep. -/
def storedLines (hs : List Hunk) : List String := hs.flatMap (·.lines)

/-- Whether the numerals of a line, if it is a hunk header, are not too long. -/
def ReadableLine (line : Line) : Prop :=
  ∀ h, HunkHeader.read? line = some h → h.Readable

/-- A line that is no hunk header has no numeral that could be too long. -/
theorem readableLine_of_not_header {line : Line} (h : ¬IsHunkHeader line) :
    ReadableLine line := by
  intro header hr
  rw [HunkHeader.read?_eq_none h] at hr
  cases hr

/-! ## One line -/

/-- A line starts with a text just if it is that text and some rest. -/
theorem startsWith_iff {line : Line} {start : String} :
    Text.startsWith line start = true ↔ ∃ rest, line = start.toList ++ rest := by
  rw [Text.startsWith, List.isPrefixOf_iff_prefix]
  exact exists_congr fun rest => eq_comm

/-- A file header starts with a letter of its own. -/
theorem IsFileHeader.head? {line : Line} (h : IsFileHeader line) : line.head? = some 'd' := by
  obtain ⟨header, -, -, rfl⟩ := h
  rfl

/-- So does a hunk header. -/
theorem IsHunkHeader.head? {line : Line} (h : IsHunkHeader line) : line.head? = some '@' := by
  obtain ⟨header, -, rfl⟩ := h
  rfl

/-- A line of a body starts with its marker. -/
theorem IsBodyLine.head? {line : Line} (h : IsBodyLine line) :
    line.head? = some '+' ∨ line.head? = some '-' ∨ line.head? = some ' ' := by
  rcases h.1 with h | h | h
  · obtain ⟨rest, rfl⟩ := startsWith_iff.1 h
    exact .inl rfl
  · obtain ⟨rest, rfl⟩ := startsWith_iff.1 h
    exact .inr (.inl rfl)
  · obtain ⟨rest, rfl⟩ := startsWith_iff.1 h
    exact .inr (.inr rfl)

/-- A line of a body is no file header. -/
theorem IsBodyLine.not_isFileHeader {line : Line} (h : IsBodyLine line) : ¬IsFileHeader line := by
  intro hf
  have := h.head?
  rw [hf.head?] at this
  simp at this

/-- It is no hunk header either. -/
theorem IsBodyLine.not_isHunkHeader {line : Line} (h : IsBodyLine line) : ¬IsHunkHeader line := by
  intro hf
  have := h.head?
  rw [hf.head?] at this
  simp at this

/-- A hunk header is no file header. -/
theorem IsHunkHeader.not_isFileHeader {line : Line} (h : IsHunkHeader line) :
    ¬IsFileHeader line := by
  intro hf
  have := h.head?
  rw [hf.head?] at this
  simp at this

/-- A line that does not belong to the body of a hunk has no marker. -/
theorem Mark.ofBodyLine?_eq_none {line : Line} (h : ¬IsBodyLine line) :
    ofBodyLine? line = none := by
  unfold ofBodyLine?
  split
  · rfl
  · next hside =>
    rw [Bool.not_eq_true, Bool.or_eq_false_iff] at hside
    split
    · exact absurd ⟨.inl rfl, by simp [hside.1], by simp [hside.2]⟩ h
    · exact absurd ⟨.inr (.inl rfl), by simp [hside.1], by simp [hside.2]⟩ h
    · exact absurd ⟨.inr (.inr rfl), by simp [hside.1], by simp [hside.2]⟩ h
    · rfl

/-- The marker of a line that belongs to the body of a hunk is its first character. -/
theorem Mark.ofBodyLine?_of_isBodyLine {line : Line} (h : IsBodyLine line) :
    ofBodyLine? line =
      some (if Text.startsWith line "+" then .added
        else if Text.startsWith line "-" then .removed else .context) := by
  obtain ⟨hmark, hplus, hminus⟩ := h
  have hside : (Text.startsWith line "+++" || Text.startsWith line "---") = false := by
    simp [hplus, hminus]
  unfold ofBodyLine?
  rw [hside]
  rcases hmark with hm | hm | hm
  · obtain ⟨rest, rfl⟩ := startsWith_iff.1 hm
    rfl
  · obtain ⟨rest, rfl⟩ := startsWith_iff.1 hm
    rfl
  · obtain ⟨rest, rfl⟩ := startsWith_iff.1 hm
    rfl

namespace Draft

/-- A line that does not belong to the body of a hunk leaves the file as it is. -/
@[simp]
theorem addBody_of_not_body {d : Draft} {line : Line} (h : ¬IsBodyLine line) :
    d.addBody line = d := by
  unfold addBody
  rw [Mark.ofBodyLine?_eq_none h]
  cases d.hunks <;> rfl

/-- Without an open hunk, a line leaves the file as it is. -/
@[simp]
theorem addBody_of_no_hunk {d : Draft} {line : Line} (h : d.hunks = []) :
    d.addBody line = d := by
  unfold addBody
  rw [h]

/-- A line of the body goes to the hunk that was opened last, and counts by its marker. -/
theorem addBody_of_body {d : Draft} {hunk : Hunk} {older : List Hunk} {line : Line}
    (hd : d.hunks = hunk :: older) (h : IsBodyLine line) :
    d.addBody line =
      { d with
        hunks := { hunk with lines := String.ofList line :: hunk.lines } :: older
        additions := d.additions + if Text.startsWith line "+" then 1 else 0
        deletions := d.deletions + if Text.startsWith line "-" then 1 else 0 } := by
  unfold addBody
  rw [hd, Mark.ofBodyLine?_of_isBodyLine h]
  rcases h.1 with hm | hm | hm
  · obtain ⟨rest, rfl⟩ := startsWith_iff.1 hm
    rfl
  · obtain ⟨rest, rfl⟩ := startsWith_iff.1 hm
    rfl
  · obtain ⟨rest, rfl⟩ := startsWith_iff.1 hm
    rfl

/-- A line that is no hunk header goes to the body of the open hunk. -/
@[simp]
theorem addLine_of_not_header {line : Line} (h : ¬IsHunkHeader line) (d : Draft) :
    d.addLine line = .ok (d.addBody line) := by
  rw [addLine, HunkHeader.read?_eq_none h]

/-- What a hunk header does to a file: it opens its hunk, unless a numeral is too long. -/
theorem addLine_of_header {line : Line} {h : HunkHeader} (hr : HunkHeader.read? line = some h)
    (d : Draft) :
    d.addLine line = h.toHunk.map fun hunk => { d with hunks := hunk :: d.hunks } := by
  rw [addLine, hr]

/-- A line that is taken in is a header whose hunk is opened, or goes to the open hunk. -/
theorem addLine_eq_ok {d d' : Draft} {line : Line} (h : d.addLine line = .ok d') :
    (∃ header, HunkHeader.read? line = some header ∧ header.Readable ∧
        d' = { d with hunks := header.hunk :: d.hunks }) ∨
      ¬IsHunkHeader line ∧ d' = d.addBody line := by
  by_cases hl : IsHunkHeader line
  · obtain ⟨header, hr⟩ := hl.exists_read?
    rw [addLine_of_header hr] at h
    by_cases hread : header.Readable
    · rw [HunkHeader.toHunk_of_readable hread] at h
      cases h
      exact .inl ⟨header, hr, hread, rfl⟩
    · obtain ⟨e, he⟩ := HunkHeader.toHunk_of_not_readable hread
      rw [he] at h
      cases h
  · rw [addLine_of_not_header hl] at h
    cases h
    exact .inr ⟨hl, rfl⟩

/-- A line is taken in exactly if its numerals are not too long. -/
theorem addLine_isOk_iff {d : Draft} {line : Line} :
    (∃ d', d.addLine line = .ok d') ↔ ReadableLine line := by
  constructor
  · rintro ⟨d', h⟩ header hr
    rcases addLine_eq_ok h with ⟨header', hr', hread, -⟩ | ⟨hl, -⟩
    · rw [hr] at hr'
      cases hr'
      exact hread
    · rw [HunkHeader.read?_eq_none hl] at hr
      cases hr
  · intro hread
    by_cases hl : IsHunkHeader line
    · obtain ⟨header, hr⟩ := hl.exists_read?
      rw [addLine_of_header hr, HunkHeader.toHunk_of_readable (hread header hr)]
      exact ⟨_, rfl⟩
    · exact ⟨_, addLine_of_not_header hl d⟩

/-! ### Hunks -/

/-- The hunks so far in their order, each with its lines in their order. -/
def closed (d : Draft) : List Hunk :=
  d.hunks.reverse.map fun hunk => { hunk with lines := hunk.lines.reverse }

/-- Without a hunk that was opened there is none so far. -/
@[simp]
theorem closed_eq_nil {d : Draft} (h : d.hunks = []) : d.closed = [] := by
  simp [closed, h]

/-- The hunk that was opened last stands behind the older ones. -/
theorem closed_cons {d : Draft} {hunk : Hunk} {older : List Hunk} (h : d.hunks = hunk :: older) :
    d.closed = { d with hunks := older }.closed ++ [{ hunk with lines := hunk.lines.reverse }] := by
  simp [closed, h]

/-- A hunk that is opened stands behind those so far. -/
@[simp]
theorem closed_open (d : Draft) (h : HunkHeader) :
    ({ d with hunks := h.hunk :: d.hunks } : Draft).closed = d.closed ++ [h.hunk] := by
  simp [closed, HunkHeader.hunk]

/-- The hunk that was opened last takes in a line of the body at its end. -/
theorem closed_addBody {d : Draft} {older : List Hunk} {hunk : Hunk}
    (hd : d.closed = older ++ [hunk]) (line : Line) :
    (d.addBody line).closed =
      older ++ [{ hunk with lines := hunk.lines ++ bodyOf [line] }] := by
  cases hh : d.hunks with
  | nil => simp [hh] at hd
  | cons last rest =>
    rw [closed_cons hh] at hd
    obtain ⟨hrest, hlast⟩ := List.append_inj' hd rfl
    obtain rfl := (List.cons.inj hlast).1
    by_cases hb : IsBodyLine line
    · simp [addBody_of_body hh hb, ← hrest, bodyOf, hb, closed]
    · simp [hb, closed_cons hh, hrest, bodyOf]

end Draft

/-- A line that is read as a hunk header opens its hunk. -/
theorem hunkAt_of_read? {line : Line} {h : HunkHeader} (hr : HunkHeader.read? line = some h) :
    hunkAt line = h.hunk := by
  rw [hunkAt, hr]

/-- The lines of two lists of hunks are those of the one and then those of the other. -/
@[simp]
theorem storedLines_append (hs hs' : List Hunk) :
    storedLines (hs ++ hs') = storedLines hs ++ storedLines hs' := List.flatMap_append

/-- What a body keeps of two lists of lines, it keeps of each. -/
@[simp]
theorem bodyOf_append (l l' : List Line) : bodyOf (l ++ l') = bodyOf l ++ bodyOf l' := by
  simp [bodyOf]

/-- No hunks keep no lines. -/
@[simp]
theorem storedLines_nil : storedLines [] = [] := rfl

/-- A body keeps nothing of no lines. -/
@[simp]
theorem bodyOf_nil : bodyOf [] = [] := rfl

/-! ## Many lines -/

namespace Draft

/-- Takes in lines behind the one that started the file. -/
def fill (d : Draft) : List Line → Except NumeralTooLong Draft
  | [] => .ok d
  | line :: ls =>
    match d.addLine line with
    | .ok d => d.fill ls
    | .error e => .error e

/-- Lines are taken in by way of the first. -/
theorem fill_cons_eq_ok {d d' : Draft} {line : Line} {ls : List Line}
    (h : d.fill (line :: ls) = .ok d') : ∃ d₁, d.addLine line = .ok d₁ ∧ d₁.fill ls = .ok d' := by
  rw [fill] at h
  split at h
  · next d₁ h₁ => exact ⟨d₁, h₁, h⟩
  · cases h

/-- Lines are taken in exactly if no numeral of a hunk header among them is too long. -/
theorem fill_isOk_iff {d : Draft} {ls : List Line} :
    (∃ d', d.fill ls = .ok d') ↔ ∀ line ∈ ls, ReadableLine line := by
  induction ls generalizing d with
  | nil => exact ⟨fun _ => nofun, fun _ => ⟨d, rfl⟩⟩
  | cons line ls ih =>
    rw [List.forall_mem_cons]
    constructor
    · rintro ⟨d', h⟩
      obtain ⟨d₁, h₁, h₂⟩ := fill_cons_eq_ok h
      exact ⟨addLine_isOk_iff.1 ⟨d₁, h₁⟩, ih.1 ⟨d', h₂⟩⟩
    · rintro ⟨hline, hls⟩
      obtain ⟨d₁, h₁⟩ := addLine_isOk_iff (d := d).2 hline
      obtain ⟨d', h₂⟩ := ih (d := d₁).2 hls
      exact ⟨d', by rw [fill, h₁]; exact h₂⟩

/-- With an open hunk, the lines before the first header go to that hunk, and every header opens
another one. -/
theorem closed_fill_open {d d' : Draft} {ls : List Line} {older : List Hunk} {hunk : Hunk}
    (hd : d.closed = older ++ [hunk]) (h : d.fill ls = .ok d') :
    d'.closed =
      older ++ { hunk with lines := hunk.lines ++ bodyOf (cut IsHunkHeader ls).1 } ::
        hunksOf ls := by
  induction ls generalizing d older hunk with
  | nil =>
    cases h
    simp [hd, hunksOf]
  | cons line ls ih =>
    obtain ⟨d₁, h₁, h₂⟩ := fill_cons_eq_ok h
    rcases addLine_eq_ok h₁ with ⟨header, hr, -, rfl⟩ | ⟨hl, rfl⟩
    · have hl : IsHunkHeader line := isHunkHeader_of_read? hr
      rw [ih (closed_open d header) h₂]
      simp [hd, hunksOf, hl, hunkOf, hunkAt_of_read? hr, HunkHeader.hunk]
    · rw [ih (closed_addBody hd line) h₂, hunksOf, hunksOf, cut_cons_of_not_head hl,
        List.append_assoc, ← bodyOf_append]
      rfl

/-- Without an open hunk, the lines before the first header are dropped. -/
theorem closed_fill {d d' : Draft} {ls : List Line} (hd : d.hunks = [])
    (h : d.fill ls = .ok d') : d'.closed = hunksOf ls := by
  induction ls generalizing d with
  | nil =>
    cases h
    exact closed_eq_nil hd
  | cons line ls ih =>
    obtain ⟨d₁, h₁, h₂⟩ := fill_cons_eq_ok h
    rcases addLine_eq_ok h₁ with ⟨header, hr, -, rfl⟩ | ⟨hl, rfl⟩
    · have hl : IsHunkHeader line := isHunkHeader_of_read? hr
      rw [closed_fill_open (closed_open d header) h₂]
      simp [hd, hunksOf, hl, hunkOf, hunkAt_of_read? hr, HunkHeader.hunk]
    · rw [addBody_of_no_hunk hd] at h₂
      simp [ih hd h₂, hunksOf, hl]

/-! ### Counts and sides -/

/-- The counts of a file are those of the lines that its hunks keep. -/
structure Counted (d : Draft) : Prop where
  additions : d.additions = (storedLines d.closed).countP isAddition
  deletions : d.deletions = (storedLines d.closed).countP isDeletion

/-- Two states of one file name the same sides. -/
structure SameSides (d d' : Draft) : Prop where
  oldPath : d'.oldPath = d.oldPath
  newPath : d'.newPath = d.newPath
  status : d'.status = d.status

/-- A third state names the same sides if each one does after the other. -/
theorem SameSides.trans {d₁ d₂ d₃ : Draft} (h : SameSides d₁ d₂) (h' : SameSides d₂ d₃) :
    SameSides d₁ d₃ :=
  ⟨h'.oldPath.trans h.oldPath, h'.newPath.trans h.newPath, h'.status.trans h.status⟩

/-- A line for the body of a hunk changes no side and keeps the counts right. -/
theorem addBody_keeps (d : Draft) (line : Line) :
    SameSides d (d.addBody line) ∧ (d.Counted → (d.addBody line).Counted) := by
  cases hh : d.hunks with
  | nil =>
    simp only [hh, addBody_of_no_hunk]
    exact ⟨⟨rfl, rfl, rfl⟩, id⟩
  | cons hunk older =>
    by_cases hb : IsBodyLine line
    · have hclosed := closed_addBody (closed_cons hh) line
      rw [addBody_of_body hh hb] at hclosed ⊢
      refine ⟨⟨rfl, rfl, rfl⟩, fun hc => ?_⟩
      obtain ⟨hadd, hdel⟩ := hc
      have hlast (q : String → Bool) (lines : List String) :
          (storedLines [{ hunk with lines := lines ++ bodyOf [line] }]).countP q =
            (storedLines [{ hunk with lines := lines }]).countP q +
              if q (String.ofList line) then 1 else 0 := by
        simp [storedLines, bodyOf, hb, List.countP_cons]
      have hplus : isAddition (String.ofList line) = Text.startsWith line "+" := by
        simp [isAddition]
      have hminus : isDeletion (String.ofList line) = Text.startsWith line "-" := by
        simp [isDeletion]
      simp only [closed_cons hh, storedLines_append, List.countP_append] at hadd hdel
      constructor
      · rw [hclosed, storedLines_append, List.countP_append, hlast, hplus, ← Nat.add_assoc,
          ← hadd]
      · rw [hclosed, storedLines_append, List.countP_append, hlast, hminus, ← Nat.add_assoc,
          ← hdel]
    · rw [addBody_of_not_body hb]
      exact ⟨⟨rfl, rfl, rfl⟩, id⟩

/-- Taking in a line changes no side and keeps the counts right. -/
theorem addLine_keeps {d d' : Draft} {line : Line} (h : d.addLine line = .ok d') :
    SameSides d d' ∧ (d.Counted → d'.Counted) := by
  rcases addLine_eq_ok h with ⟨header, -, -, rfl⟩ | ⟨-, rfl⟩
  · refine ⟨⟨rfl, rfl, rfl⟩, fun hc => ⟨?_, ?_⟩⟩
    · rw [closed_open]
      simpa [storedLines, HunkHeader.hunk] using hc.additions
    · rw [closed_open]
      simpa [storedLines, HunkHeader.hunk] using hc.deletions
  · exact addBody_keeps d line

/-- Taking in lines changes no side and keeps the counts right. -/
theorem fill_keeps {d d' : Draft} {ls : List Line} (h : d.fill ls = .ok d') :
    SameSides d d' ∧ (d.Counted → d'.Counted) := by
  induction ls generalizing d with
  | nil =>
    cases h
    exact ⟨⟨rfl, rfl, rfl⟩, id⟩
  | cons line ls ih =>
    obtain ⟨d₁, h₁, h₂⟩ := fill_cons_eq_ok h
    obtain ⟨hsides, hcounted⟩ := addLine_keeps h₁
    obtain ⟨hsides', hcounted'⟩ := ih h₂
    exact ⟨hsides.trans hsides', hcounted' ∘ hcounted⟩

/-- Whether nothing has been taken in behind the line that started the file. -/
def IsFresh (d : Draft) : Prop := d.hunks = [] ∧ d.additions = 0 ∧ d.deletions = 0

/-- Where nothing has been taken in, the counts are right. -/
theorem IsFresh.counted {d : Draft} (h : d.IsFresh) : d.Counted := by
  obtain ⟨hh, ha, hd⟩ := h
  constructor
  · rw [ha, closed_eq_nil hh]
    rfl
  · rw [hd, closed_eq_nil hh]
    rfl

/-- The file with the sides of a draft and some hunks, and the counts of what these keep. -/
def fileOf (d : Draft) (hs : List Hunk) : FileChange where
  oldPath := String.ofList d.oldPath
  newPath := String.ofList d.newPath
  status := d.status
  hunks := some hs
  additions := some ((storedLines hs).countP isAddition : Nat)
  deletions := some ((storedLines hs).countP isDeletion : Nat)

/-- **The file that lines fill.** A fresh file that has taken in lines has the sides it started
with, the hunks that the lines write, and the counts of what these hunks keep. -/
theorem finish_fill {d d' : Draft} {ls : List Line} (hd : d.IsFresh)
    (h : d.fill ls = .ok d') : d'.finish = d.fileOf (hunksOf ls) := by
  obtain ⟨hsides, hcounted⟩ := fill_keeps h
  obtain ⟨hadd, hdel⟩ := hcounted hd.counted
  have hclosed := closed_fill hd.1 h
  rw [hclosed] at hadd hdel
  calc d'.finish
      = { oldPath := String.ofList d'.oldPath, newPath := String.ofList d'.newPath,
          status := d'.status, hunks := some d'.closed, additions := some d'.additions,
          deletions := some d'.deletions } := rfl
    _ = d.fileOf (hunksOf ls) := by
      rw [hsides.oldPath, hsides.newPath, hsides.status, hclosed, hadd, hdel, fileOf]

end Draft

end PatchTriage
