import Mathlib.Data.List.TakeWhile

/-!
# Cutting a list at its heads

A property of elements makes some of them heads. `cut` takes a list apart at its heads: what stands
before the first head, and each head with what follows it up to the next. The lines of a text are
cut at file headers, and those of a file at hunk headers. Where the elements are the positions of
lines, the parts are told by the positions of the heads (`cut_positions`, `cut_upTo`).
-/

namespace PatchTriage

section
variable {α : Type} (p : α → Prop) [DecidablePred p]

/-- The part of a list before its first head, and each head with what follows it. -/
def cut : List α → List α × List (α × List α)
  | [] => ([], [])
  | a :: l =>
    if p a then ([], (a, (cut l).1) :: (cut l).2) else (a :: (cut l).1, (cut l).2)

variable {p}

/-- There is nothing to cut in an empty list. -/
@[simp] theorem cut_nil : cut p [] = ([], []) := rfl

/-- A head begins a block, which takes what follows up to the next head. -/
@[simp]
theorem cut_cons_of_head {a : α} (h : p a) (l : List α) :
    cut p (a :: l) = ([], (a, (cut p l).1) :: (cut p l).2) := by
  rw [cut, if_pos h]

/-- An element that is no head stands in front of the first block. -/
@[simp]
theorem cut_cons_of_not_head {a : α} (h : ¬p a) (l : List α) :
    cut p (a :: l) = (a :: (cut p l).1, (cut p l).2) := by
  rw [cut, if_neg h]

/-- Elements that are no heads join what stands before the first head. -/
theorem cut_append {pre : List α} (h : ∀ a ∈ pre, ¬p a) (l : List α) :
    cut p (pre ++ l) = (pre ++ (cut p l).1, (cut p l).2) := by
  induction pre with
  | nil => rfl
  | cons a pre ih =>
    have ha : ¬p a := h a List.mem_cons_self
    rw [List.cons_append, cut_cons_of_not_head ha,
      ih fun b hb => h b (List.mem_cons_of_mem a hb)]
    rfl

/-- A list without heads is not cut. -/
theorem cut_of_forall_not {l : List α} (h : ∀ a ∈ l, ¬p a) : cut p l = (l, []) := by
  have := cut_append h []
  rwa [List.append_nil, cut_nil, List.append_nil] at this

/-- Nothing is lost or added by a cut. -/
theorem flatten_cut (l : List α) :
    (cut p l).1 ++ (cut p l).2.flatMap (fun b => b.1 :: b.2) = l := by
  induction l with
  | nil => rfl
  | cons a l ih =>
    by_cases h : p a
    · rw [cut_cons_of_head h]
      simpa using ih
    · rw [cut_cons_of_not_head h]
      simpa using ih

/-- The cut of an image is the image of the cut. -/
theorem cut_map {β : Type} (f : β → α) (l : List β) :
    cut p (l.map f) = ((cut (fun b => p (f b)) l).1.map f,
      (cut (fun b => p (f b)) l).2.map fun c => (f c.1, c.2.map f)) := by
  induction l with
  | nil => rfl
  | cons b l ih =>
    by_cases h : p (f b)
    · rw [List.map_cons, cut_cons_of_head h, cut_cons_of_head (p := fun b => p (f b)) h, ih]
      rfl
    · rw [List.map_cons, cut_cons_of_not_head h, cut_cons_of_not_head (p := fun b => p (f b)) h, ih]
      rfl

/-- A selection of elements that leaves out the heads and what stands before them is made from what
follows each head. -/
theorem filter_append_flatMap {q : α → Bool} {pre heads : List α} {rest kept : α → List α}
    (hpre : ∀ a ∈ pre, q a = false) (hheads : ∀ h ∈ heads, q h = false)
    (hrest : ∀ h ∈ heads, (rest h).filter q = kept h) :
    (pre ++ heads.flatMap fun h => h :: rest h).filter q = heads.flatMap kept := by
  have hnil : pre.filter q = [] := List.filter_eq_nil_iff.2 fun a ha => by simp [hpre a ha]
  rw [List.filter_append, hnil, List.nil_append]
  induction heads with
  | nil => rfl
  | cons h heads ih =>
    have hh : ¬q h = true := by simp [hheads h List.mem_cons_self]
    rw [List.flatMap_cons, List.flatMap_cons, List.filter_append, List.filter_cons_of_neg hh,
      hrest h List.mem_cons_self, ih (fun g hg => hheads g (List.mem_cons_of_mem h hg))
        (fun g hg => hrest g (List.mem_cons_of_mem h hg))]

end

/-! ## Positions

The heads of a text are named by their positions. The positions from one up to the end are
consecutive numbers, so what follows a head is told by the head alone (`cut_upTo`).
-/

/-- The positions from `k` up to `n`. -/
def positions (k n : Nat) : List Nat := List.range' k (n - k)

/-- The positions from one within the range begin with it. -/
theorem positions_of_lt {k n : Nat} (h : k < n) : positions k n = k :: positions (k + 1) n := by
  rw [positions, positions, show n - k = n - (k + 1) + 1 by omega, List.range'_succ]

/-- There are no positions behind the range. -/
@[simp]
theorem positions_of_le {k n : Nat} (h : n ≤ k) : positions k n = [] := by
  rw [positions, Nat.sub_eq_zero_of_le h]
  rfl

/-- The positions are those of the range. -/
@[simp]
theorem mem_positions {i k n : Nat} : i ∈ positions k n ↔ k ≤ i ∧ i < n := by
  rw [positions, List.mem_range'_1]
  omega

/-- The positions from one on are met one by one. -/
theorem positions_induction {n : Nat} {motive : Nat → Prop} (stop : ∀ k, n ≤ k → motive k)
    (step : ∀ k, k < n → motive (k + 1) → motive k) (k : Nat) : motive k := by
  rcases Nat.lt_or_ge k n with hk | hk
  · exact step k hk (positions_induction stop step (k + 1))
  · exact stop k hk
termination_by n - k

section
variable (p : Nat → Prop) [DecidablePred p]

/-- The positions from `k` on before the first one with a property. -/
def upTo (k n : Nat) : List Nat := (positions k n).takeWhile fun i => ¬p i

variable {p}

/-- Behind the range there is nothing to go through. -/
@[simp]
theorem upTo_of_le {k n : Nat} (h : n ≤ k) : upTo p k n = [] := by
  rw [upTo, positions_of_le h]
  rfl

/-- A head ends the positions in front of it. -/
theorem upTo_of_head {k n : Nat} (hk : p k) : upTo p k n = [] := by
  rcases Nat.lt_or_ge k n with h | h
  · rw [upTo, positions_of_lt h, List.takeWhile_cons_of_neg (by simpa using hk)]
  · exact upTo_of_le h

/-- A position that is no head is gone through. -/
theorem upTo_of_not_head {k n : Nat} (h : k < n) (hk : ¬p k) :
    upTo p k n = k :: upTo p (k + 1) n := by
  rw [upTo, positions_of_lt h, List.takeWhile_cons_of_pos (by simpa using hk)]
  rfl

/-- A position is before the first head if there is no head up to it. -/
theorem mem_upTo {i k n : Nat} :
    i ∈ upTo p k n ↔ k ≤ i ∧ i < n ∧ ∀ j, k ≤ j → j ≤ i → ¬p j := by
  induction k using positions_induction (n := n) with
  | stop k hk =>
    rw [upTo_of_le hk]
    simp
    omega
  | step k hk ih =>
    by_cases hp : p k
    · rw [upTo_of_head hp]
      simp only [List.not_mem_nil, false_iff, not_and]
      exact fun hki _ hno => hno k (Nat.le_refl k) hki hp
    · rw [upTo_of_not_head hk hp, List.mem_cons, ih]
      constructor
      · rintro (rfl | ⟨hki, hin, hno⟩)
        · exact ⟨Nat.le_refl i, hk, fun j hij hji => by rwa [Nat.le_antisymm hji hij]⟩
        · refine ⟨by omega, hin, fun j hkj hji => ?_⟩
          rcases Nat.eq_or_lt_of_le hkj with rfl | hkj
          · exact hp
          · exact hno j hkj hji
      · rintro ⟨hki, hin, hno⟩
        rcases Nat.eq_or_lt_of_le hki with rfl | hki
        · exact .inl rfl
        · exact .inr ⟨hki, hin, fun j hkj hji => hno j (by omega) hji⟩

/-- The positions before the first head of one kind are cut at the heads of another kind: each of
these is followed by the positions before the next head of either kind. -/
theorem cut_upTo (q : Nat → Prop) [DecidablePred q] (k n : Nat) :
    cut q (upTo p k n) =
      (upTo (fun i => p i ∨ q i) k n,
        ((upTo p k n).filter fun i => q i).map fun h =>
          (h, upTo (fun i => p i ∨ q i) (h + 1) n)) := by
  induction k using positions_induction (n := n) with
  | stop k hk =>
    rw [upTo_of_le hk, upTo_of_le hk]
    rfl
  | step k hk ih =>
    by_cases hp : p k
    · rw [upTo_of_head hp, upTo_of_head (.inl hp)]
      rfl
    · rw [upTo_of_not_head hk hp]
      by_cases hq : q k
      · rw [cut_cons_of_head hq, ih, upTo_of_head (k := k) (.inr hq),
          List.filter_cons_of_pos (by simpa using hq), List.map_cons]
      · rw [cut_cons_of_not_head hq, ih, upTo_of_not_head hk (not_or.2 ⟨hp, hq⟩),
          List.filter_cons_of_neg (by simpa using hq)]

/-- All positions are cut at their heads. -/
theorem cut_positions (k n : Nat) : cut p (positions k n) = (upTo p k n,
    ((positions k n).filter fun i => p i).map fun h => (h, upTo p (h + 1) n)) := by
  have hall : upTo (fun _ => False) k n = positions k n := by
    rw [upTo, List.takeWhile_eq_self_iff]
    simp
  have := cut_upTo (p := fun _ => False) p k n
  simpa only [hall, false_or] using this

end

end PatchTriage
