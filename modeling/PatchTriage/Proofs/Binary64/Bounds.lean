import PatchTriage.Binary64.Basic

/-!
# Bounds of binary64 numbers

Rounding respects the sign, so sums and quotients of numbers that are not negative are not negative
(`add_nonneg`, `div_nonneg`), and a clamped number lies between zero and one whatever it was
(`isScore_clamp`). Confidences, factors and risks are of this kind: `IsScore`.
-/

namespace PatchTriage.Binary64

variable {x y z : Binary64}

/-! ## Order -/

/-- Every number is at most itself. -/
@[simp]
theorem le_refl (x : Binary64) : x ≤ x := Int.le_refl x.units

/-- The order is transitive. -/
theorem le_trans (h : x ≤ y) (h' : y ≤ z) : x ≤ z := Int.le_trans h h'

/-- What is less is at most as great. -/
theorem le_of_lt (h : x < y) : x ≤ y := Int.le_of_lt h

/-- The order is total: what is not less is at least as great. -/
theorem not_lt : ¬x < y ↔ y ≤ x := Int.not_lt

/-- What is not at most as great is greater. -/
theorem not_le : ¬x ≤ y ↔ y < x := Int.not_le

/-- The number zero is the point zero of the grid. -/
@[simp]
theorem units_zero : (0 : Binary64).units = 0 := by decide +kernel

/-- Zero is below one. -/
theorem zero_le_one : (0 : Binary64) ≤ 1 := by decide +kernel

/-! ## Signs -/

/-- A number is not negative if its sign is positive or nothing is left of it. -/
theorem nonneg_iff : 0 ≤ x ↔ x.negative = false ∨ x.magnitude = 0 := by
  rw [le_iff, units_zero, units]
  cases hx : x.negative with
  | false => simp
  | true => simp

/-- What is rounded without a sign is not negative. -/
theorem nonneg_ofUnits_false (num den : Nat) : 0 ≤ ofUnits false num den := by
  rw [nonneg_iff, ofUnits]
  split
  · exact .inl rfl
  · exact .inl rfl

/-- Zero is rounded to zero, whatever its sign. -/
theorem nonneg_ofUnits_zero (negative : Bool) (den : Nat) : 0 ≤ ofUnits negative 0 den := by
  have hround (d : Nat) : roundDiv 0 d = 0 := by
    simp [roundDiv]
  rw [nonneg_iff]
  right
  simp only [ofUnits, hround, magnitude]
  simp

/-- Rounding keeps a number from becoming negative. -/
theorem nonneg_ofUnits {negative : Bool} {num den : Nat} (h : negative = false ∨ num = 0) :
    0 ≤ ofUnits negative num den := by
  rcases h with rfl | rfl
  · exact nonneg_ofUnits_false num den
  · exact nonneg_ofUnits_zero negative den

/-- A natural number is not negative. -/
theorem ofInt_nonneg (n : Nat) : 0 ≤ ofInt n := by
  refine nonneg_ofUnits (.inl ?_)
  simp

/-- A sum of numbers that are not negative is not negative. -/
theorem add_nonneg (hx : 0 ≤ x) (hy : 0 ≤ y) : 0 ≤ x + y := by
  rw [le_iff, units_zero] at hx hy
  refine nonneg_ofUnits ?_
  by_cases hs : x.units + y.units = 0
  · exact .inr (by rw [hs]; rfl)
  · left
    rw [if_neg hs]
    exact decide_eq_false (by omega)

/-- The sign of a quotient of numbers that are not negative. -/
theorem bne_negative_of_nonneg (hx : 0 ≤ x) (hy : 0 ≤ y) (hx' : x.magnitude ≠ 0)
    (hy' : y.magnitude ≠ 0) : (x.negative != y.negative) = false := by
  rw [(nonneg_iff.1 hx).resolve_right hx', (nonneg_iff.1 hy).resolve_right hy']
  rfl

/-- A quotient of numbers that are not negative is not negative, one by zero included. -/
theorem div_nonneg (hx : 0 ≤ x) (hy : 0 ≤ y) : 0 ≤ x / y := by
  show 0 ≤ div x y
  rw [div]
  split
  · exact nonneg_ofUnits (.inr rfl)
  · next hy' =>
    refine nonneg_ofUnits ?_
    by_cases hx' : x.magnitude = 0
    · exact .inr (by rw [hx', Nat.zero_mul])
    · exact .inl (bne_negative_of_nonneg hx hy hx' hy')

/-! ## Scores -/

/-- Whether a number lies between zero and one. -/
def IsScore (x : Binary64) : Prop := 0 ≤ x ∧ x ≤ 1

instance (x : Binary64) : Decidable (IsScore x) := by
  unfold IsScore
  infer_instance

/-- Zero is a score. -/
@[simp]
theorem isScore_zero : IsScore 0 := ⟨le_refl 0, zero_le_one⟩

/-- One is a score. -/
@[simp]
theorem isScore_one : IsScore 1 := ⟨zero_le_one, le_refl 1⟩

/-- The lesser of two numbers is at most the first one. -/
theorem min_le_left (x y : Binary64) : Binary64.min x y ≤ x := by
  rw [Binary64.min]
  split
  · next h => exact le_of_lt h
  · exact le_refl x

/-- The lesser of two numbers is at most the second one. -/
theorem min_le_right (x y : Binary64) : Binary64.min x y ≤ y := by
  rw [Binary64.min]
  split
  · exact le_refl y
  · next h => exact not_lt.1 h

/-- The lesser of two numbers is one of them. -/
theorem min_eq_or (x y : Binary64) : Binary64.min x y = x ∨ Binary64.min x y = y := by
  rw [Binary64.min]
  split
  · exact .inr rfl
  · exact .inl rfl

/-- The greater of two numbers is one of them. -/
theorem max_eq_or (x y : Binary64) : Binary64.max x y = x ∨ Binary64.max x y = y := by
  rw [Binary64.max]
  split
  · exact .inr rfl
  · exact .inl rfl

/-- What is below the lesser of two numbers is below both. -/
theorem le_min_iff : z ≤ Binary64.min x y ↔ z ≤ x ∧ z ≤ y := by
  refine ⟨fun h => ⟨le_trans h (min_le_left x y), le_trans h (min_le_right x y)⟩, fun h => ?_⟩
  rcases min_eq_or x y with hmin | hmin
  · rw [hmin]
    exact h.1
  · rw [hmin]
    exact h.2

/-- The lesser of two numbers is below what one of them is below. -/
theorem min_le_iff : Binary64.min x y ≤ z ↔ x ≤ z ∨ y ≤ z := by
  constructor
  · intro h
    rcases min_eq_or x y with hmin | hmin
    · exact .inl (hmin ▸ h)
    · exact .inr (hmin ▸ h)
  · rintro (h | h)
    · exact le_trans (min_le_left x y) h
    · exact le_trans (min_le_right x y) h

/-- The greater of two numbers is at least the first one. -/
theorem le_max_left (x y : Binary64) : x ≤ Binary64.max x y := by
  rw [Binary64.max]
  split
  · next h => exact le_of_lt h
  · exact le_refl x

/-- The greater of two numbers is at least the second one. -/
theorem le_max_right (x y : Binary64) : y ≤ Binary64.max x y := by
  rw [Binary64.max]
  split
  · exact le_refl y
  · next h => exact not_lt.1 h

/-- The lesser of two numbers is a score exactly if neither is negative and one is at most one. -/
theorem isScore_min_iff :
    IsScore (Binary64.min x y) ↔ 0 ≤ x ∧ 0 ≤ y ∧ (x ≤ 1 ∨ y ≤ 1) := by
  rw [IsScore, le_min_iff, min_le_iff, and_assoc]

/-- A number that is not negative becomes a score when it is cut off at one. -/
theorem isScore_min_left (hx : 0 ≤ x) (hy : IsScore y) : IsScore (Binary64.min x y) := by
  refine ⟨?_, le_trans (min_le_right x y) hy.2⟩
  rcases min_eq_or x y with h | h
  · rw [h]
    exact hx
  · rw [h]
    exact hy.1

/-- A score stays one when it is held down by a number that is not negative. -/
theorem isScore_min_right (hx : IsScore x) (hy : 0 ≤ y) : IsScore (Binary64.min x y) := by
  refine ⟨?_, le_trans (min_le_left x y) hx.2⟩
  rcases min_eq_or x y with h | h
  · rw [h]
    exact hx.1
  · rw [h]
    exact hy

/-- The greater of two scores is a score. -/
theorem isScore_max (hx : IsScore x) (hy : IsScore y) : IsScore (Binary64.max x y) := by
  rcases max_eq_or x y with h | h
  · rw [h]
    exact hx
  · rw [h]
    exact hy

/-- **A clamped number is a score**, whatever it was. -/
@[simp]
theorem isScore_clamp (x : Binary64) : IsScore x.clamp := by
  rw [clamp, Binary64.max]
  split
  · next h => exact ⟨le_of_lt h, min_le_left 1 x⟩
  · exact isScore_zero

end PatchTriage.Binary64
