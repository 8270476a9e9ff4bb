/-!
# Sets of code points

A property of characters is kept as the closed ranges of code points that have it, in ascending
order. `CodeSet.find?` looks a code point up by halving, so a table of several hundred ranges
costs about ten comparisons. The ranges of a property whose members come in runs (the ten digits
of a script, a block of capitals) carry a meaning of their own, so the look-up returns the range.
-/

namespace PatchTriage

/-- A set of code points as closed ranges `(first, last)` in ascending order. -/
structure CodeSet where
  ranges : Array (Nat × Nat)

namespace CodeSet

/-- The range that holds `n`, if one does. -/
def find? (s : CodeSet) (n : Nat) : Option (Nat × Nat) :=
  go s.ranges.size 0 s.ranges.size
where
  /-- Searches the ranges with indices from `lo` up to but excluding `hi`; the first argument
  bounds the number of halvings. -/
  go : Nat → Nat → Nat → Option (Nat × Nat)
    | 0, _, _ => none
    | steps + 1, lo, hi =>
      if lo < hi then
        let mid := (lo + hi) / 2
        match s.ranges[mid]? with
        | none => none
        | some (first, last) =>
          if n < first then go steps lo mid
          else if last < n then go steps (mid + 1) hi
          else some (first, last)
      else none

/-- Whether some range holds `n`. -/
def contains (s : CodeSet) (n : Nat) : Bool := (s.find? n).isSome

/-- A range that a search returns does hold the code point. -/
theorem find?_go_bounds {s : CodeSet} {n : Nat} :
    ∀ {steps lo hi : Nat} {r : Nat × Nat}, find?.go s n steps lo hi = some r → r.1 ≤ n ∧ n ≤ r.2
  | 0, _, _, _, h => by simp [find?.go] at h
  | steps + 1, lo, hi, r, h => by
    simp only [find?.go] at h
    split at h
    · split at h
      · simp at h
      · split at h
        · exact find?_go_bounds h
        · split at h
          · exact find?_go_bounds h
          · simp only [Option.some.injEq] at h
            subst h
            constructor <;> omega
    · simp at h

/-- A number lies in the run that is found for it. -/
theorem find?_bounds {s : CodeSet} {n : Nat} {r : Nat × Nat} (h : s.find? n = some r) :
    r.1 ≤ n ∧ n ≤ r.2 :=
  find?_go_bounds h

end CodeSet

end PatchTriage
