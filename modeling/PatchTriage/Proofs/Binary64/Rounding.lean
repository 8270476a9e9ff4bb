import PatchTriage.Proofs.Binary64.Bounds
import Mathlib.Algebra.Ring.Nat

/-!
# Rounding and the grid

The points of a binade are the multiples of one step, and rounding gives one of the two next to the
exact result. So rounding never falls below a point that the exact result does not fall below
(`le_magnitude_ofUnits`), and adding a number that is not negative does not make a score less
(`le_add`).
-/

namespace PatchTriage.Binary64

variable {x y : Binary64}

/-- A quotient is made up of fewer than `2 ^ 53` steps of its binade. -/
theorem div_lt_of_binade (num den : Nat) :
    num / (den <<< binade num den) < 9007199254740992 := by
  have hlog : num / den < 2 ^ ((num / den).log2 + 1) := Nat.lt_log2_self
  have hexp : 2 ^ ((num / den).log2 + 1) ≤ 2 ^ (53 + binade num den) :=
    Nat.pow_le_pow_right (by decide) (by simp only [binade]; omega)
  rw [Nat.shiftLeft_eq, ← Nat.div_div_eq_div_mul, Nat.div_lt_iff_lt_mul (Nat.two_pow_pos _)]
  calc num / den < 2 ^ (53 + binade num den) := Nat.lt_of_lt_of_le hlog hexp
    _ = 9007199254740992 * 2 ^ binade num den := Nat.pow_add 2 53 _

/-- Rounding keeps all the steps that a quotient is made up of, also where it rounds the mantissa up
to the first one of the next binade. -/
theorem div_mul_le_magnitude_ofUnits (negative : Bool) (num den : Nat) :
    num / (den <<< binade num den) * 2 ^ binade num den ≤ (ofUnits negative num den).magnitude := by
  rw [ofUnits]
  split
  · show _ ≤ roundDiv num (den <<< binade num den) <<< binade num den
    rw [Nat.shiftLeft_eq (roundDiv _ _)]
    exact Nat.mul_le_mul_right _ (div_le_roundDiv _ _)
  · show _ ≤ 4503599627370496 <<< (binade num den + 1)
    have hnext : 4503599627370496 <<< (binade num den + 1) =
        9007199254740992 * 2 ^ binade num den := by
      rw [Nat.shiftLeft_eq, Nat.pow_succ]
      omega
    rw [hnext]
    exact Nat.mul_le_mul_right _ (Nat.le_of_lt (div_lt_of_binade num den))

/-- A point that a quotient does not fall below lies on or below one of its steps: it is a multiple
of the step, or it lies in a lower binade. -/
theorem magnitude_le_div_mul {num den : Nat} (h : x.magnitude ≤ num / den) :
    x.magnitude ≤ num / (den <<< binade num den) * 2 ^ binade num den := by
  rw [magnitude, Nat.shiftLeft_eq] at h ⊢
  by_cases he : binade num den ≤ x.exponent
  · have hsteps : x.mantissa * 2 ^ x.exponent =
        x.mantissa * 2 ^ (x.exponent - binade num den) * 2 ^ binade num den := by
      rw [Nat.mul_assoc, ← Nat.pow_add, Nat.sub_add_cancel he]
    rw [hsteps] at h ⊢
    rw [Nat.shiftLeft_eq, ← Nat.div_div_eq_div_mul]
    exact Nat.mul_le_mul_right _ ((Nat.le_div_iff_mul_le (Nat.two_pow_pos _)).2 h)
  · have hnormal := @le_div_of_binade_pos num den (by omega)
    have hexp : 2 ^ x.exponent * 2 ≤ 2 ^ binade num den := by
      rw [← Nat.pow_succ]
      exact Nat.pow_le_pow_right (by decide) (by omega)
    calc x.mantissa * 2 ^ x.exponent
        ≤ 9007199254740992 * 2 ^ x.exponent :=
          Nat.mul_le_mul_right _ (Nat.le_of_lt x.mantissa_lt)
      _ = 4503599627370496 * (2 ^ x.exponent * 2) := by omega
      _ ≤ 4503599627370496 * 2 ^ binade num den := Nat.mul_le_mul_left _ hexp
      _ ≤ num / (den <<< binade num den) * 2 ^ binade num den := Nat.mul_le_mul_right _ hnormal

/-- **Rounding does not fall below a point** that the exact result does not fall below. -/
theorem le_magnitude_ofUnits {num den : Nat} (h : x.magnitude ≤ num / den) (negative : Bool) :
    x.magnitude ≤ (ofUnits negative num den).magnitude :=
  Nat.le_trans (magnitude_le_div_mul h) (div_mul_le_magnitude_ofUnits negative num den)

/-- A number that is not negative has its magnitude as its value. -/
theorem units_of_nonneg (hx : 0 ≤ x) : x.units = x.magnitude := by
  rw [units]
  rcases nonneg_iff.1 hx with h | h
  · rw [h]
    rfl
  · rw [h]
    simp

/-- Adding what is not negative does not make a number less. -/
theorem le_add (hx : 0 ≤ x) (hy : 0 ≤ y) : x ≤ x + y := by
  have hsum : x.magnitude ≤ (x.units + y.units).natAbs / 1 := by
    rw [units_of_nonneg hx, units_of_nonneg hy]
    omega
  rw [le_iff, units_of_nonneg hx, units_of_nonneg (add_nonneg hx hy)]
  exact Int.ofNat_le.2 (le_magnitude_ofUnits hsum _)

end PatchTriage.Binary64
