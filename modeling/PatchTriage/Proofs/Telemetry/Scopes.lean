import PatchTriage.Proofs.Telemetry.Counts
import PatchTriage.Proofs.Telemetry.Faults
import PatchTriage.Telemetry.Work
import Mathlib.Logic.Relation

/-!
# Scopes and contexts of a run

At every point of a run the open scopes and the log context are what the open blocks say
(`Point.Faithful`): the tracker of a scope that is switched on holds the faults captured while the
scope was the innermost one, in their order, every other tracker holds nothing, and the context in
force is the merge of the fields of the open blocks. One step preserves this
(`Point.Faithful.step`).

Work that is begun comes to an end, in the frames it was begun in (`Point.exists_completes`). On the
way the scopes around it take in at most what it captures, and the contexts around it stay as they
are. So a block leaves behind what it found, whether a fault is raised in it or not
(`Point.Restores`). `Point.scopes_nest` puts this together for every piece of work.
-/

namespace PatchTriage

/-! ## What open blocks say -/

/-- The tracker that the captures so far give a scope. -/
def Scope.tracker (captures : List Capture) (scope : Scope) : Tracker where
  enabled := scope.enabled
  faults :=
    if scope.enabled then (captures.filter fun c => c.scope = some scope).map (·.fault) else []

/-- The contexts that blocks with fields lead to, the innermost one first. -/
def contextsOf (blocks : List Fields) : Log.Contexts :=
  blocks.foldr (fun fields contexts => contexts.enter fields) []

/-- The merge of the fields of blocks, the innermost one first: inner values win. -/
def mergedFields (blocks : List Fields) : Fields :=
  blocks.foldr (fun fields context => Table.putAll context fields) []

/-- The context in force is the merge of the fields of all open blocks. -/
@[simp]
theorem current_contextsOf (blocks : List Fields) :
    (contextsOf blocks).current = mergedFields blocks := by
  induction blocks with
  | nil => rfl
  | cons fields blocks ih =>
    have hcurrent : (contextsOf (fields :: blocks)).current =
        Table.putAll (contextsOf blocks).current fields := rfl
    rw [hcurrent, ih]
    rfl

/-- A name in the merge has the value that the innermost block with this name gives it. -/
theorem get?_mergedFields (blocks : List Fields) (name : String) :
    Table.get? (mergedFields blocks) name =
      blocks.findSome? fun fields => Table.get? (Table.putAll [] fields) name := by
  induction blocks with
  | nil => rfl
  | cons fields blocks ih =>
    have hmerged : mergedFields (fields :: blocks) =
        Table.putAll (mergedFields blocks) fields := rfl
    rw [hmerged, Table.get?_putAll, ih, List.findSome?_cons]
    cases Table.get? (Table.putAll [] fields) name <;> rfl

/-- Of a scope that captures a fault the tracker takes it; any other tracker stays as it is. -/
theorem Scope.tracker_concat (scope : Scope) (captures : List Capture) (c : Capture) :
    scope.tracker (captures ++ [c]) =
      if c.scope = some scope then (scope.tracker captures).capture c.fault
      else scope.tracker captures := by
  rw [tracker, tracker, List.filter_append, List.map_append, Tracker.capture]
  by_cases hscope : c.scope = some scope
  · rw [if_pos hscope, List.filter_cons_of_pos (by simpa using hscope)]
    cases scope.enabled <;> rfl
  · rw [if_neg hscope, List.filter_cons_of_neg (by simpa using hscope)]
    simp

namespace Point

/-- The scopes entered so far: those that are open and those that were left. -/
def known (p : Point) : List Scope := openScopes p.frames ++ p.left.map (·.1)

/-- Whether the scopes and the contexts of a point are what its open blocks say. -/
structure Faithful (p : Point) : Prop where
  /-- Each scope entered so far is open or was left, once. -/
  numbers : (p.known.map (·.number)).Perm (List.range p.entered)
  scopes : p.scopes = (openScopes p.frames).map (Scope.tracker p.captures)
  left : ∀ e ∈ p.left, e.2 = e.1.tracker p.captures
  /-- A fault is captured in a scope entered before, or in none. -/
  captured : ∀ c ∈ p.captures, ∀ scope, c.scope = some scope → scope ∈ p.known
  ids : ∀ c ∈ p.captures, c.id = if c.scope.any (·.enabled) then Keeping.faultId else ""
  contexts : p.contexts = contextsOf (openFields p.frames)

variable {p q : Point} {frames : List Frame} {scope : Scope}

/-- No scope is entered twice. -/
theorem Faithful.nodup_known (h : p.Faithful) : p.known.Nodup :=
  List.Nodup.of_map _ (h.numbers.nodup_iff.2 List.nodup_range)

/-- The number of the next scope is a new one. -/
theorem Faithful.not_mem_known (h : p.Faithful) {enabled : Bool} :
    ⟨p.entered, enabled⟩ ∉ p.known := fun hmem =>
  absurd (List.mem_range.1 (h.numbers.mem_iff.1 (List.mem_map_of_mem hmem))) (Nat.lt_irrefl _)

/-- Going on with other work in frames with the same open blocks changes nothing. -/
theorem Faithful.move (h : p.Faithful) (work : Work)
    (hscopes : openScopes frames = openScopes p.frames)
    (hfields : openFields frames = openFields p.frames) : Faithful { p with work, frames } := by
  obtain ⟨numbers, scopes, left, captured, ids, contexts⟩ := h
  refine ⟨?_, ?_, left, ?_, ids, ?_⟩
  · rwa [known, hscopes]
  · rwa [hscopes]
  · rwa [known, hscopes]
  · rwa [hfields]

/-- A capture goes to the tracker of the innermost scope and to no other one; a scope that was left
is not open. -/
theorem Faithful.capture (h : p.Faithful) (fault : CapturedFault) :
    Faithful { p with
      work := .ended none
      scopes := p.scopes.capture fault
      captures := p.captures ++ [{
        scope := (openScopes p.frames).head?
        fault
        id := if p.scopes.keeps then Keeping.faultId else "" }] } := by
  have hnodup := h.nodup_known
  obtain ⟨numbers, scopes, left, captured, ids, contexts⟩ := h
  have hid : p.scopes.keeps = (openScopes p.frames).head?.any (·.enabled) := by
    rw [scopes, Scopes.keeps, List.head?_map, Option.any_map]
    rfl
  refine ⟨numbers, ?_, fun e he => ?_, fun c hc scope hscope => ?_, fun c hc => ?_, contexts⟩
  · dsimp only
    rw [scopes]
    rw [known] at hnodup
    cases hopen : openScopes p.frames with
    | nil => rfl
    | cons innermost outer =>
      rw [hopen] at hnodup
      have hother : ∀ scope ∈ outer, some innermost ≠ some scope := by
        rintro scope hscope heq
        obtain rfl := Option.some.inj heq
        exact (List.nodup_cons.1 hnodup).1 (List.mem_append_left _ hscope)
      rw [List.map_cons, Scopes.capture, List.map_cons, Scope.tracker_concat, List.head?_cons,
        if_pos rfl]
      refine congrArg _ (List.map_congr_left fun scope hscope => ?_)
      rw [Scope.tracker_concat, if_neg (hother scope hscope)]
  · have hother : (openScopes p.frames).head? ≠ some e.1 := by
      intro hhead
      exact (List.nodup_append.1 hnodup).2.2 e.1 (List.mem_of_head? hhead) e.1
        (List.mem_map_of_mem he) rfl
    rw [left e he, Scope.tracker_concat, if_neg hother]
  · rcases List.mem_append.1 hc with hc | hc
    · exact captured c hc scope hscope
    · obtain rfl := List.mem_singleton.1 hc
      exact List.mem_append_left _ (List.mem_of_head? hscope)
  · rcases List.mem_append.1 hc with hc | hc
    · exact ids c hc
    · obtain rfl := List.mem_singleton.1 hc
      rw [hid]

/-- The new scope of a block is empty. -/
theorem Faithful.enterTracking (h : p.Faithful) (enabled : Bool) (body : Work) :
    Faithful { p with
      work := body
      frames := .leaving (.tracking ⟨p.entered, enabled⟩) :: p.frames
      scopes := p.scopes.enter enabled
      entered := p.entered + 1 } := by
  have hnew : ⟨p.entered, enabled⟩ ∉ p.known := h.not_mem_known
  obtain ⟨numbers, scopes, left, captured, ids, contexts⟩ := h
  have hempty : Scope.tracker p.captures ⟨p.entered, enabled⟩ = { enabled } := by
    have hnone : (p.captures.filter fun c => c.scope = some ⟨p.entered, enabled⟩) = [] := by
      refine List.filter_eq_nil_iff.2 fun c hc hscope => ?_
      exact hnew (captured c hc _ (by simpa using hscope))
    rw [Scope.tracker, hnone, List.map_nil, ite_self]
  refine ⟨?_, ?_, left, fun c hc scope hscope => ?_, ids, contexts⟩
  · have hcons := (numbers.cons p.entered).trans (List.perm_append_singleton _ _).symm
    rw [← List.range_succ] at hcons
    exact hcons
  · dsimp only
    rw [scopes, Scopes.enter, ← hempty]
    rfl
  · exact List.mem_cons_of_mem _ (captured c hc scope hscope)

/-- Entering a block with fields puts them in force. -/
theorem Faithful.enterContext (h : p.Faithful) (fields : Fields) (body : Work) :
    Faithful { p with
      work := body
      frames := .leaving (.context fields) :: p.frames
      contexts := p.contexts.enter fields } := by
  obtain ⟨numbers, scopes, left, captured, ids, contexts⟩ := h
  refine ⟨numbers, scopes, left, captured, ids, ?_⟩
  rw [contexts]
  rfl

/-- A scope that is left keeps its tracker. -/
theorem Faithful.leaveTracking (h : p.Faithful)
    (hframes : p.frames = .leaving (.tracking scope) :: frames) :
    Faithful { p with
      frames
      scopes := p.scopes.leave
      left := p.left ++ p.scopes.head?.toList.map (scope, ·) } := by
  obtain ⟨numbers, scopes, left, captured, ids, contexts⟩ := h
  have hopen : openScopes p.frames = scope :: openScopes frames := by
    rw [hframes]
    rfl
  rw [hopen] at scopes
  have hleft : p.scopes.head?.toList.map (scope, ·) = [(scope, scope.tracker p.captures)] := by
    rw [scopes]
    rfl
  have hknown : p.known.Perm (openScopes frames ++ (p.left ++
      [(scope, scope.tracker p.captures)]).map (·.1)) := by
    rw [known, hopen, List.map_append, ← List.append_assoc]
    exact (List.perm_append_singleton _ _).symm
  rw [hleft]
  refine ⟨(hknown.map _).symm.trans numbers, ?_, fun e he => ?_, fun c hc s hs => ?_, ids, ?_⟩
  · dsimp only
    rw [scopes]
    rfl
  · rcases List.mem_append.1 he with he | he
    · exact left e he
    · obtain rfl := List.mem_singleton.1 he
      rfl
  · exact hknown.mem_iff.1 (captured c hc s hs)
  · rw [contexts, hframes]
    rfl

/-- Leaving a block with fields brings back the context around it. -/
theorem Faithful.leaveContext (h : p.Faithful) {fields : Fields}
    (hframes : p.frames = .leaving (.context fields) :: frames) :
    Faithful { p with frames, contexts := p.contexts.leave } := by
  obtain ⟨numbers, scopes, left, captured, ids, contexts⟩ := h
  rw [hframes] at scopes contexts
  rw [known, hframes] at numbers
  simp only [known, hframes] at captured
  refine ⟨numbers, scopes, left, captured, ids, ?_⟩
  rw [contexts]
  rfl

/-- **One step keeps the scopes and the contexts what the open blocks say.** -/
theorem Faithful.step (h : p.Faithful) (hstep : p.step? = some q) : q.Faithful := by
  rw [step?] at hstep
  cases hwork : p.work with
  | capture fault =>
    rw [hwork] at hstep
    obtain rfl := Option.some.inj hstep
    exact h.capture fault
  | andThen first second =>
    rw [hwork] at hstep
    obtain rfl := Option.some.inj hstep
    exact h.move first rfl rfl
  | rescue body handler =>
    rw [hwork] at hstep
    obtain rfl := Option.some.inj hstep
    exact h.move body rfl rfl
  | within block body =>
    rw [hwork] at hstep
    cases block with
    | tracking enabled =>
      obtain rfl := Option.some.inj hstep
      exact h.enterTracking enabled body
    | context fields =>
      obtain rfl := Option.some.inj hstep
      exact h.enterContext fields body
  | ended raised =>
    rw [hwork] at hstep
    dsimp only at hstep
    cases hframes : p.frames with
    | nil =>
      rw [hframes] at hstep
      cases hstep
    | cons frame frames =>
      rw [hframes] at hstep
      obtain rfl := Option.some.inj hstep
      cases frame with
      | next second => exact h.move _ (by rw [hframes]; rfl) (by rw [hframes]; rfl)
      | handling handler => exact h.move _ (by rw [hframes]; rfl) (by rw [hframes]; rfl)
      | leaving block =>
        cases block with
        | tracking scope => exact h.leaveTracking hframes
        | context fields => exact h.leaveContext hframes

/-! ## Runs -/

/-- The point that work begins at. -/
def start (work : Work) : Point := { work }

/-- Whether a run goes from one point to another. -/
def Reaches : Point → Point → Prop := Relation.ReflTransGen fun p q => p.step? = some q

/-- Whether a run goes from one point to another without leaving frames. -/
def Inside (frames : List Frame) : Point → Point → Prop :=
  Relation.ReflTransGen fun p q => p.step? = some q ∧ frames <:+ q.frames

/-- Where work begins, no block is open and nothing has been captured. -/
theorem faithful_start (work : Work) : (start work).Faithful where
  numbers := .refl _
  scopes := rfl
  left := nofun
  captured := nofun
  ids := nofun
  contexts := rfl

/-- **At every point the scopes and the contexts are what the open blocks say.** -/
theorem Faithful.reaches (h : p.Faithful) (hrun : p.Reaches q) : q.Faithful := by
  induction hrun with
  | refl => exact h
  | tail _ hstep ih => exact ih.step hstep

/-- A run that leaves no frames is a run. -/
theorem Inside.reaches (h : Inside frames p q) : p.Reaches q :=
  Relation.ReflTransGen.mono (fun _ _ hstep => hstep.1) p q h

/-- A run that stays inside inner frames stays inside the outer ones. -/
theorem Inside.mono {inner : List Frame} (h : Inside inner p q) (hframes : frames <:+ inner) :
    Inside frames p q :=
  Relation.ReflTransGen.mono (fun _ _ hstep => ⟨hstep.1, hframes.trans hstep.2⟩) p q h

/-- Whether the work at one point comes to an end at another one. -/
structure Completes (p q : Point) : Prop where
  inside : Inside p.frames p q
  ended : ∃ raised, q.work = .ended raised
  frames : q.frames = p.frames
  contexts : q.contexts = p.contexts
  /-- The scopes around the work take in at most some faults that it captures. -/
  scopes : ∃ l : List CapturedFault, q.scopes = l.foldl Scopes.capture p.scopes

/-- Whether a block that is entered from one point and left to another one leaves behind what it
found. The fault that its body raises, if any, goes on being raised. -/
structure Restores (block : Block) (p q : Point) : Prop where
  body : ∃ opened inner last, p.step? = some inner ∧ inner.frames = .leaving opened :: p.frames ∧
    Inside inner.frames inner last ∧ last.frames = inner.frames ∧ last.step? = some q ∧
    ∃ raised, last.work = .ended raised ∧ q.work = .ended raised
  frames : q.frames = p.frames
  contexts : q.contexts = p.contexts
  /-- Only a block that opens no scope of its own lets faults go to the scope around it. -/
  scopes : match block with
    | .tracking _ => q.scopes = p.scopes
    | .context _ => ∃ l : List CapturedFault, q.scopes = l.foldl Scopes.capture p.scopes

variable {inner last : Point} {frame : Frame} {raised : Option Fault} {work : Work} {block : Block}

/-- Work that has ended goes on in the innermost frame. -/
theorem step?_of_ended (hwork : p.work = .ended raised) (hframes : p.frames = frame :: frames) :
    p.step? = some (p.resume raised frames frame) := by
  rw [step?, hwork, hframes]

/-- Work that has ended completes where it is. -/
theorem completes_of_ended (hwork : p.work = .ended raised) : p.Completes p :=
  ⟨.refl, ⟨raised, hwork⟩, rfl, rfl, [], rfl⟩

/-- A step opens a frame, work goes on inside it, and a step closes the frame. -/
theorem Inside.framed (h : Inside inner.frames inner last) (hopen : p.step? = some inner)
    (hframes : inner.frames = frame :: p.frames) (hclose : last.step? = some q)
    (hq : q.frames = p.frames) : Inside p.frames p q := by
  have hsuffix : p.frames <:+ inner.frames := hframes ▸ List.suffix_cons _ _
  exact .tail (.head ⟨hopen, hsuffix⟩ (h.mono hsuffix)) ⟨hclose, hq ▸ List.suffix_rfl⟩

/-- Work in a frame that is no block is followed by other work. -/
theorem Completes.followed {work' : Work} (h : inner.Completes last)
    (hopen : p.step? = some inner) (hinner : inner = { p with work, frames := frame :: p.frames })
    (hclose : last.step? = some { last with work := work', frames := p.frames })
    (h' : Completes { last with work := work', frames := p.frames } q) : p.Completes q := by
  have hframes : inner.frames = frame :: p.frames := by rw [hinner]
  obtain ⟨l, hl⟩ := h.scopes
  obtain ⟨l', hl'⟩ := h'.scopes
  refine ⟨(h.inside.framed hopen hframes hclose rfl).trans h'.inside, h'.ended, h'.frames, ?_,
    l ++ l', ?_⟩
  · rw [h'.contexts, h.contexts, hinner]
  · rw [hl', hl, hinner, List.foldl_append]

/-- A block is left when its body has ended, and leaves behind what it found. What is captured
inside of a new scope goes to this scope, which is left with it. -/
theorem Completes.restores {body : Work} (h : inner.Completes last)
    (hwork : p.work = .within block body) (hopen : p.step? = some inner) :
    ∃ q, Restores block p q := by
  obtain ⟨raised, hended⟩ := h.ended
  obtain ⟨l, hl⟩ := h.scopes
  have hinner := hopen
  rw [step?, hwork] at hinner
  cases block with
  | tracking enabled =>
    obtain rfl := Option.some.inj hinner
    have hclose := step?_of_ended hended h.frames
    have hscopes : last.scopes.leave = p.scopes := by
      rw [hl, Scopes.enter, Scopes.foldl_capture]
      rfl
    exact ⟨_, ⟨_, _, last, hopen, rfl, h.inside, h.frames, hclose, raised, hended, hended⟩, rfl,
      h.contexts, hscopes⟩
  | context fields =>
    obtain rfl := Option.some.inj hinner
    have hclose := step?_of_ended hended h.frames
    have hcontexts : last.contexts.leave = p.contexts := by
      rw [h.contexts]
      rfl
    exact ⟨_, ⟨_, _, last, hopen, rfl, h.inside, h.frames, hclose, raised, hended, hended⟩, rfl,
      hcontexts, l, hl⟩

/-- A block that restores what it found completes. -/
theorem Restores.completes (h : Restores block p q) : p.Completes q := by
  obtain ⟨opened, inner, last, hopen, hframes, hinside, -, hclose, raised, -, hended⟩ := h.body
  refine ⟨hinside.framed hopen hframes hclose h.frames, ⟨raised, hended⟩, h.frames, h.contexts, ?_⟩
  cases block with
  | tracking => exact ⟨[], h.scopes⟩
  | context => exact h.scopes

/-- **Work that is begun comes to an end in the frames it was begun in.** -/
theorem exists_completes (p : Point) : ∃ q, p.Completes q := by
  obtain ⟨work, frames, scopes, contexts, entered, captures, left⟩ := p
  induction work generalizing frames scopes contexts entered captures left with
  | ended raised => exact ⟨_, completes_of_ended rfl⟩
  | capture fault =>
    exact ⟨_, .single ⟨rfl, List.suffix_rfl⟩, ⟨none, rfl⟩, rfl, rfl, [fault], rfl⟩
  | andThen first second ihfirst ihsecond =>
    obtain ⟨last, h⟩ := ihfirst (.next second :: frames) scopes contexts entered captures left
    obtain ⟨raised, hended⟩ := h.ended
    have hclose := step?_of_ended hended h.frames
    cases raised with
    | some fault => exact ⟨_, h.followed rfl rfl hclose (completes_of_ended rfl)⟩
    | none =>
      obtain ⟨q, hq⟩ := ihsecond frames last.scopes last.contexts last.entered last.captures
        last.left
      exact ⟨q, h.followed rfl rfl hclose hq⟩
  | within block body ih =>
    cases block with
    | tracking enabled =>
      obtain ⟨last, h⟩ := ih (.leaving (.tracking ⟨entered, enabled⟩) :: frames)
        (scopes.enter enabled) contexts (entered + 1) captures left
      obtain ⟨q, hq⟩ := h.restores (p := ⟨.within (.tracking enabled) body, frames, scopes,
        contexts, entered, captures, left⟩) rfl rfl
      exact ⟨q, hq.completes⟩
    | context fields =>
      obtain ⟨last, h⟩ := ih (.leaving (.context fields) :: frames) scopes (contexts.enter fields)
        entered captures left
      obtain ⟨q, hq⟩ := h.restores (p := ⟨.within (.context fields) body, frames, scopes,
        contexts, entered, captures, left⟩) rfl rfl
      exact ⟨q, hq.completes⟩
  | rescue body handler ihbody ihhandler =>
    obtain ⟨last, h⟩ := ihbody (.handling handler :: frames) scopes contexts entered captures left
    obtain ⟨raised, hended⟩ := h.ended
    have hclose := step?_of_ended hended h.frames
    cases raised with
    | none => exact ⟨_, h.followed rfl rfl hclose (completes_of_ended rfl)⟩
    | some fault =>
      obtain ⟨q, hq⟩ := ihhandler fault frames last.scopes last.contexts last.entered
        last.captures last.left
      exact ⟨q, h.followed rfl rfl hclose hq⟩

/-- A block that is entered is left, whatever its body raises, and leaves behind what it found. -/
theorem exists_restores {body : Work} (hwork : p.work = .within block body) :
    ∃ q, Restores block p q := by
  obtain ⟨inner, hopen⟩ : ∃ inner, p.step? = some inner := by
    rw [step?, hwork]
    cases block <;> exact ⟨_, rfl⟩
  obtain ⟨last, h⟩ := inner.exists_completes
  exact h.restores hwork hopen

/-- **Scopes and contexts nest.** They are at every point what the open blocks say, every block
leaves behind what it found, and nothing is open at the end. A tracker can count its faults unless
the stage of one is a list or an object. -/
theorem scopes_nest (work : Work) :
    (∀ p, (start work).Reaches p → p.Faithful ∧
      p.contexts.current = mergedFields (openFields p.frames) ∧
      (∀ name, Table.get? p.contexts.current name =
        (openFields p.frames).findSome? fun fields => Table.get? (Table.putAll [] fields) name) ∧
      ∀ block body, p.work = .within block body → ∃ q, Restores block p q) ∧
    (∃ q, (start work).Reaches q ∧ (∃ raised, q.work = .ended raised) ∧ q.frames = [] ∧
      q.scopes = [] ∧ q.contexts = []) ∧
    ∀ t : Tracker,
      ((∃ c, t.counts = .ok c) ↔ ∀ r ∈ t.faults, r.countedStage.isCompound = false) ∧
        ∀ c, t.counts = .ok c → t.Counted c := by
  refine ⟨fun p hp => ?_, ?_, Tracker.counted⟩
  · have hfaithful := (faithful_start work).reaches hp
    have hcurrent : p.contexts.current = mergedFields (openFields p.frames) := by
      simp [hfaithful.contexts]
    refine ⟨hfaithful, hcurrent, fun name => ?_, fun block body hwork => exists_restores hwork⟩
    rw [hcurrent, get?_mergedFields]
  · obtain ⟨q, hq⟩ := (start work).exists_completes
    have hrun := hq.inside.reaches
    have hscopes := ((faithful_start work).reaches hrun).scopes
    rw [hq.frames] at hscopes
    exact ⟨q, hrun, hq.ended, hq.frames, hscopes, hq.contexts⟩

/-- A fault whose stage is a list. -/
def listedStage : CapturedFault where
  severity := .warning
  fault := { label := "ValueError", message := "x" }
  context := [("stage", .array [.text "classify"])]

/-- The tracker of a block that captures such a fault cannot count it. -/
theorem reaches_uncountable :
    ∃ q, (start (.within (.tracking true) (.capture listedStage))).Reaches q ∧
      ∃ scope t, q.left = [(scope, t)] ∧ t.faults = [listedStage] ∧
        t.counts = .error { label := "TypeError", message := "unhashable type: 'list'" } :=
  ⟨_, .head rfl (.head rfl (.single rfl)), _, _, rfl, rfl, rfl⟩

end Point

end PatchTriage
