import PatchTriage.Analysis.Measures

/-!
# Work without faults

Work that captures no fault (`Traced.IsClean`) may still write log entries and record metrics. Steps
put together from such work are of the same kind, so a run captures a fault only where one of its
steps does. Work on a list captures the faults of its elements in their order
(`Traced.faultsOf_each`), and of the open scopes the innermost one alone keeps them
(`Scopes.foldl_capture`).
-/

namespace PatchTriage

namespace Traced

variable {α β : Type}

/-- Whether no fault is captured on the way to a value. -/
def IsClean (x : Traced α) : Prop := faultsOf x.events = []

/-- A value alone is clean. -/
theorem isClean_pure (a : α) : IsClean (pure a) := rfl

/-- So is a log entry. -/
theorem isClean_log (r : Log.Record) : IsClean (log r) := rfl

/-- Clean work behind clean work is clean. -/
theorem IsClean.bind {x : Traced α} {f : α → Traced β} (hx : x.IsClean)
    (hf : (f x.value).IsClean) : (x >>= f).IsClean := by
  rw [IsClean] at hx hf ⊢
  simp [hx, hf]

/-- Work on a list is clean if it is clean on every element. -/
theorem isClean_each {f : α → Traced β} {l : List α} (h : ∀ a ∈ l, (f a).IsClean) :
    (each f l).IsClean := by
  rw [IsClean, events_each, faultsOf, List.filterMap_flatMap, List.flatMap_eq_nil_iff]
  exact h

/-- Work on a list that captures one fault on each element of a kind, and none on the others,
captures the faults of that kind in the order of the elements. -/
theorem faultsOf_each {f : α → Traced β} {p : α → Prop} [DecidablePred p] {g : α → CapturedFault}
    {l : List α} (hp : ∀ a ∈ l, p a → faultsOf (f a).events = [g a])
    (hn : ∀ a ∈ l, ¬p a → (f a).IsClean) :
    faultsOf (each f l).events = (l.filter fun a => p a).map g := by
  simp only [events_each]
  induction l with
  | nil => rfl
  | cons a l ih =>
    have hrest := ih (fun b hb => hp b (List.mem_cons_of_mem a hb))
      fun b hb => hn b (List.mem_cons_of_mem a hb)
    by_cases ha : p a
    · simp [hrest, hp a List.mem_cons_self ha, ha]
    · have hclean : faultsOf (f a).events = [] := hn a List.mem_cons_self ha
      simp [hrest, hclean, ha]

end Traced

/-- Faults go to the innermost scope, one behind the other. -/
theorem Scopes.foldl_capture (t : Tracker) (outer : Scopes) (l : List CapturedFault) :
    l.foldl Scopes.capture (t :: outer) = t.captureAll l :: outer := by
  obtain ⟨enabled, faults⟩ := t
  induction l generalizing faults with
  | nil =>
    cases enabled with
    | false => rfl
    | true => simp [Tracker.captureAll]
  | cons r l ih =>
    rw [List.foldl_cons, capture, Tracker.capture]
    cases enabled with
    | false => exact ih faults
    | true =>
      dsimp only
      rw [if_pos rfl, ih]
      simp [Tracker.captureAll]

end PatchTriage
