import PatchTriage.Proofs.Binary64.Rounding
import Mathlib.Algebra.Order.Ring.Int

/-!
# Arithmetic in order

Rounding keeps order: a greater quotient is not rounded to a lesser point
(`magnitude_ofUnits_le`), although the two may lie in different binades. With their signs, sums,
products and quotients are roundings of exact integers (`units_add`, `units_mul`, `units_div`), so
adding, multiplying by what is not negative and dividing by what is positive keep order as well,
and so do clamping and summing up (`clamp_le_clamp`, `sum_le_sum`).
-/

namespace PatchTriage

/-! ## Quotients -/

/-- A quotient is rounded up to the next integer at most. -/
theorem roundDiv_le_succ (num den : Nat) : roundDiv num den ≤ num / den + 1 := by
  rw [roundDiv]
  split
  · exact Nat.le_succ _
  · split
    · exact Nat.le_refl _
    · split
      · exact Nat.le_succ _
      · exact Nat.le_refl _

section
variable {a b c d : Nat}

/-- A greater quotient with the same integer part leaves the greater remainder. -/
theorem mod_mul_le_mod_mul (h : a * d ≤ c * b) (hquot : a / b = c / d) :
    a % b * d ≤ c % d * b := by
  have ha := Nat.div_add_mod a b
  have hc := Nat.div_add_mod c d
  have hcomm : d * (c / d) * b = b * (a / b) * d := by
    rw [← hquot]
    ac_rfl
  have hsides : b * (a / b) * d + a % b * d ≤ d * (c / d) * b + c % d * b := by
    rw [← Nat.add_mul, ← Nat.add_mul, ha, hc]
    exact h
  omega

variable (hb : 0 < b) (hd : 0 < d) (h : a * d ≤ c * b)
include hb hd h

/-- The integer parts of two quotients stand in the order of the quotients. -/
theorem div_le_div_of_mul_le : a / b ≤ c / d := by
  rw [Nat.le_div_iff_mul_le hd]
  refine Nat.le_of_mul_le_mul_right ?_ hb
  calc a / b * d * b = a / b * b * d := Nat.mul_right_comm _ _ _
    _ ≤ a * d := Nat.mul_le_mul_right d (Nat.div_mul_le_self a b)
    _ ≤ c * b := h

/-- A greater quotient is not rounded to a lesser natural number: with the same integer part, the
remainders decide. -/
theorem roundDiv_le_roundDiv : roundDiv a b ≤ roundDiv c d := by
  rcases Nat.lt_or_eq_of_le (div_le_div_of_mul_le hb hd h) with hlt | heq
  · exact Nat.le_trans (roundDiv_le_succ a b) (Nat.le_trans hlt (div_le_roundDiv c d))
  · have hrem := mod_mul_le_mod_mul h heq
    have hhalf (hle : b ≤ 2 * (a % b)) : d ≤ 2 * (c % d) := by
      refine Nat.le_of_mul_le_mul_right (c := b) ?_ hb
      calc d * b = b * d := Nat.mul_comm d b
        _ ≤ 2 * (a % b) * d := Nat.mul_le_mul_right d hle
        _ = 2 * (a % b * d) := Nat.mul_assoc 2 _ d
        _ ≤ 2 * (c % d * b) := Nat.mul_le_mul_left 2 hrem
        _ = 2 * (c % d) * b := (Nat.mul_assoc 2 _ b).symm
    have hmore (hlt : b < 2 * (a % b)) : d < 2 * (c % d) := by
      refine Nat.lt_of_mul_lt_mul_right (a := b) ?_
      calc d * b = b * d := Nat.mul_comm d b
        _ < 2 * (a % b) * d := Nat.mul_lt_mul_of_pos_right hlt hd
        _ = 2 * (a % b * d) := Nat.mul_assoc 2 _ d
        _ ≤ 2 * (c % d * b) := Nat.mul_le_mul_left 2 hrem
        _ = 2 * (c % d) * b := (Nat.mul_assoc 2 _ b).symm
    simp only [roundDiv, ← heq]
    grind

end

namespace Binary64

variable {x y z : Binary64}

/-! ## Rounding -/

/-- A quotient is rounded to at most the first step of the next binade. -/
theorem roundDiv_le_of_binade (num den : Nat) :
    roundDiv num (den <<< binade num den) ≤ 9007199254740992 :=
  Nat.le_trans (roundDiv_le_succ _ _) (div_lt_of_binade num den)

/-- Rounding gives a number of steps of the binade, also where it goes up into the next one. -/
theorem magnitude_ofUnits (negative : Bool) (num den : Nat) :
    (ofUnits negative num den).magnitude =
      roundDiv num (den <<< binade num den) * 2 ^ binade num den := by
  rw [ofUnits]
  split
  · exact Nat.shiftLeft_eq _ _
  · next h =>
    have hlast : roundDiv num (den <<< binade num den) = 9007199254740992 :=
      Nat.le_antisymm (roundDiv_le_of_binade num den) (Nat.not_lt.1 h)
    show 4503599627370496 <<< (binade num den + 1) = _
    rw [hlast, Nat.shiftLeft_eq, Nat.pow_succ]
    omega

/-- A greater quotient lies in no lower binade. -/
theorem binade_le_binade {a b c d : Nat} (h : a / b ≤ c / d) : binade a b ≤ binade c d := by
  refine Nat.sub_le_sub_right ?_ 52
  by_cases hzero : a / b = 0
  · rw [hzero]
    exact Nat.zero_le _
  · have hpos : c / d ≠ 0 := Nat.ne_of_gt (Nat.lt_of_lt_of_le (Nat.pos_of_ne_zero hzero) h)
    exact (Nat.le_log2 hpos).2 (Nat.le_trans (Nat.log2_self_le hzero) h)

/-- **Rounding keeps order.** In one binade both quotients are rounded to multiples of the same
step; otherwise the greater one lies above the first step of its binade, and the lesser one below.
-/
theorem magnitude_ofUnits_le {a b c d : Nat} (hb : 0 < b) (hd : 0 < d) (h : a * d ≤ c * b)
    (negative negative' : Bool) :
    (ofUnits negative a b).magnitude ≤ (ofUnits negative' c d).magnitude := by
  rw [magnitude_ofUnits, magnitude_ofUnits]
  rcases Nat.lt_or_eq_of_le (binade_le_binade (div_le_div_of_mul_le hb hd h)) with hlt | heq
  · have hfirst : 4503599627370496 ≤ roundDiv c (d <<< binade c d) :=
      Nat.le_trans (le_div_of_binade_pos (Nat.ne_of_gt (Nat.zero_lt_of_lt hlt)))
        (div_le_roundDiv _ _)
    calc roundDiv a (b <<< binade a b) * 2 ^ binade a b
        ≤ 9007199254740992 * 2 ^ binade a b := Nat.mul_le_mul_right _ (roundDiv_le_of_binade a b)
      _ = 4503599627370496 * 2 ^ (binade a b + 1) := by rw [Nat.pow_succ]; omega
      _ ≤ 4503599627370496 * 2 ^ binade c d :=
          Nat.mul_le_mul_left _ (Nat.pow_le_pow_right (by decide) hlt)
      _ ≤ roundDiv c (d <<< binade c d) * 2 ^ binade c d := Nat.mul_le_mul_right _ hfirst
  · rw [heq, Nat.shiftLeft_eq, Nat.shiftLeft_eq]
    have hstep : 0 < 2 ^ binade c d := Nat.two_pow_pos _
    refine Nat.mul_le_mul_right _
      (roundDiv_le_roundDiv (Nat.mul_pos hb hstep) (Nat.mul_pos hd hstep) ?_)
    rw [← Nat.mul_assoc, ← Nat.mul_assoc]
    exact Nat.mul_le_mul_right _ h

/-! ## Rounding with a sign -/

/-- The value of the point nearest to `num / den` units. -/
def rounded (num : Int) (den : Nat) : Int :=
  if num < 0 then -(ofUnits true num.natAbs den).magnitude
  else (ofUnits false num.natAbs den).magnitude

/-- A value that is not positive is rounded as its absolute value, below zero. -/
theorem rounded_of_nonpos {num : Int} (h : num ≤ 0) (negative : Bool) (den : Nat) :
    rounded num den = -(ofUnits negative num.natAbs den).magnitude := by
  rw [rounded, magnitude_ofUnits, magnitude_ofUnits, magnitude_ofUnits]
  split
  · rfl
  · obtain rfl : num = 0 := by omega
    simp [roundDiv]

/-- A value that is not negative is rounded as its absolute value. -/
theorem rounded_of_nonneg {num : Int} (h : 0 ≤ num) (negative : Bool) (den : Nat) :
    rounded num den = (ofUnits negative num.natAbs den).magnitude := by
  rw [rounded, if_neg (Int.not_lt.2 h), magnitude_ofUnits, magnitude_ofUnits]

/-- **Rounding to the grid follows the order of values**, across zero as well. -/
theorem rounded_le_rounded {m n : Int} {den : Nat} (hden : 0 < den) (h : m ≤ n) :
    rounded m den ≤ rounded n den := by
  have hmono {k l : Nat} (hkl : k ≤ l) :
      ((ofUnits false k den).magnitude : Int) ≤ (ofUnits false l den).magnitude :=
    Int.ofNat_le.2 (magnitude_ofUnits_le hden hden (Nat.mul_le_mul_right den hkl) false false)
  by_cases hm : 0 ≤ m
  · rw [rounded_of_nonneg hm false, rounded_of_nonneg (Int.le_trans hm h) false]
    exact hmono (by omega)
  · rw [rounded_of_nonpos (by omega) false]
    by_cases hn : 0 ≤ n
    · rw [rounded_of_nonneg hn false]
      omega
    · rw [rounded_of_nonpos (by omega) false]
      exact Int.neg_le_neg (hmono (by omega))

/-- The value of a rounded number whose sign is told apart. -/
theorem units_ofUnits {negative : Bool} {num : Int} (den : Nat)
    (hneg : negative = true → num ≤ 0) (hpos : negative = false → 0 ≤ num) :
    (ofUnits negative num.natAbs den).units = rounded num den := by
  have hsign : (ofUnits negative num.natAbs den).negative = negative := by
    rw [ofUnits]
    split <;> rfl
  rw [units, hsign]
  cases negative with
  | false => rw [rounded_of_nonneg (hpos rfl) false]; rfl
  | true => rw [rounded_of_nonpos (hneg rfl) true]; rfl

/-- The absolute value of a number is its magnitude. -/
theorem natAbs_units (x : Binary64) : x.units.natAbs = x.magnitude := by
  rw [units]
  split <;> omega

/-! ## Arithmetic -/

/-- A sum is the exact sum, rounded once. -/
theorem units_add (x y : Binary64) : (x + y).units = rounded (x.units + y.units) 1 := by
  refine units_ofUnits 1 ?_ ?_
  · split
    · omega
    · simp only [decide_eq_true_eq]
      omega
  · split
    · omega
    · simp only [decide_eq_false_iff_not]
      omega

/-- The sign of a product goes with its value. -/
theorem mul_units_sign (x y : Binary64) :
    ((x.negative != y.negative) = true → x.units * y.units ≤ 0) ∧
      ((x.negative != y.negative) = false → 0 ≤ x.units * y.units) := by
  have hnonneg : (0 : Int) ≤ x.magnitude * y.magnitude :=
    Int.mul_nonneg (Int.natCast_nonneg _) (Int.natCast_nonneg _)
  rw [units, units]
  cases x.negative <;> cases y.negative <;> simpa using hnonneg

/-- A product is the exact product, rounded once. -/
theorem units_mul (x y : Binary64) :
    (x * y).units = rounded (x.units * y.units) unitsPerOne := by
  obtain ⟨hneg, hpos⟩ := mul_units_sign x y
  have habs : (x.units * y.units).natAbs = x.magnitude * y.magnitude := by
    rw [Int.natAbs_mul, natAbs_units, natAbs_units]
  rw [← units_ofUnits unitsPerOne hneg hpos, habs]
  rfl

/-- One is made of units. -/
theorem unitsPerOne_pos : 0 < unitsPerOne := by decide +kernel

/-- A positive number has a positive magnitude. -/
theorem magnitude_pos (h : 0 < x) : 0 < x.magnitude := by
  rw [lt_iff, units_zero] at h
  rw [← natAbs_units]
  omega

/-- A quotient by a positive number is the exact quotient, rounded once. -/
theorem units_div (x : Binary64) (hy : 0 < y) :
    (x / y).units = rounded (x.units * unitsPerOne) y.magnitude := by
  have hmag : y.magnitude ≠ 0 := Nat.ne_of_gt (magnitude_pos hy)
  have hsign : y.negative = false := (nonneg_iff.1 (le_of_lt hy)).resolve_right hmag
  have habs : (x.units * unitsPerOne).natAbs = x.magnitude * unitsPerOne := by
    rw [Int.natAbs_mul, natAbs_units, Int.natAbs_natCast]
  have hone : (0 : Int) ≤ unitsPerOne := Int.natCast_nonneg unitsPerOne
  have hvalue : x / y = ofUnits x.negative (x.units * unitsPerOne).natAbs y.magnitude := by
    show div x y = _
    rw [div, if_neg hmag, habs, hsign, Bool.bne_false]
  rw [hvalue]
  refine units_ofUnits y.magnitude (fun hx => ?_) fun hx => ?_
  · have hx' : x.units ≤ 0 := by rw [units, hx]; simp
    exact Int.mul_nonpos_of_nonpos_of_nonneg hx' hone
  · have hx' : 0 ≤ x.units := by rw [units, hx]; simp
    exact Int.mul_nonneg hx' hone

/-- Sums follow the order of their terms. -/
theorem add_le_add {x' y' : Binary64} (hx : x ≤ x') (hy : y ≤ y') : x + y ≤ x' + y' := by
  rw [le_iff, units_add, units_add]
  exact rounded_le_rounded Nat.one_pos (Int.add_le_add hx hy)

/-- Products with a number that is not negative follow the order of the other factor. -/
theorem mul_le_mul_left (h : x ≤ y) (hz : 0 ≤ z) : z * x ≤ z * y := by
  rw [le_iff, units_zero] at hz
  rw [le_iff, units_mul, units_mul]
  exact rounded_le_rounded unitsPerOne_pos (Int.mul_le_mul_of_nonneg_left h hz)

/-- So they do if that number stands behind. -/
theorem mul_le_mul_right (h : x ≤ y) (hz : 0 ≤ z) : x * z ≤ y * z := by
  rw [le_iff, units_zero] at hz
  rw [le_iff, units_mul, units_mul]
  exact rounded_le_rounded unitsPerOne_pos (Int.mul_le_mul_of_nonneg_right h hz)

/-- Quotients by a positive number follow the order of the dividends. -/
theorem div_le_div (h : x ≤ y) (hz : 0 < z) : x / z ≤ y / z := by
  rw [le_iff, units_div x hz, units_div y hz]
  exact rounded_le_rounded (magnitude_pos hz)
    (Int.mul_le_mul_of_nonneg_right h (Int.natCast_nonneg unitsPerOne))

/-- An integer is rounded once. -/
theorem units_ofInt (n : Int) : (ofInt n).units = rounded (n * unitsPerOne) 1 := by
  have hone : (0 : Int) ≤ unitsPerOne := Int.natCast_nonneg unitsPerOne
  have habs : (n * unitsPerOne).natAbs = n.natAbs * unitsPerOne := by
    rw [Int.natAbs_mul, Int.natAbs_natCast]
  rw [ofInt, ← habs]
  refine units_ofUnits 1 (fun hn => ?_) fun hn => ?_
  · have hneg : n ≤ 0 := Int.le_of_lt (of_decide_eq_true hn)
    exact Int.mul_nonpos_of_nonpos_of_nonneg hneg hone
  · exact Int.mul_nonneg (Int.not_lt.1 (of_decide_eq_false hn)) hone

/-- The numbers nearest to integers follow the order of the integers. -/
theorem ofInt_le_ofInt {m n : Int} (h : m ≤ n) : ofInt m ≤ ofInt n := by
  rw [le_iff, units_ofInt, units_ofInt]
  exact rounded_le_rounded Nat.one_pos
    (Int.mul_le_mul_of_nonneg_right h (Int.natCast_nonneg unitsPerOne))

/-- The number nearest to a positive integer is positive. -/
theorem ofInt_pos {n : Int} (h : 0 < n) : 0 < ofInt n := by
  have hone : 0 < ofInt 1 := by decide +kernel
  rw [lt_iff] at hone ⊢
  exact Int.lt_of_lt_of_le hone (le_iff.1 (ofInt_le_ofInt h))

/-- Clamped numbers follow the order of the numbers. -/
theorem clamp_le_clamp (h : x ≤ y) : x.clamp ≤ y.clamp := by
  have hmin : Binary64.min 1 x ≤ Binary64.min 1 y :=
    le_min_iff.2 ⟨min_le_left 1 x, le_trans (min_le_right 1 x) h⟩
  rw [clamp, clamp]
  rcases max_eq_or 0 (Binary64.min 1 x) with hmax | hmax
  · rw [hmax]
    exact le_max_left 0 _
  · rw [hmax]
    exact le_trans hmin (le_max_right 0 _)

/-- Numbers that are not less, one by one, do not have a lesser sum. -/
theorem sum_le_sum {l l' : List Binary64} (h : List.Forall₂ (· ≤ ·) l l') : sum l ≤ sum l' := by
  have hfold : ∀ a a' : Binary64, a ≤ a' → l.foldl (· + ·) a ≤ l'.foldl (· + ·) a' := by
    induction h with
    | nil => exact fun a a' ha => ha
    | cons hx _ ih => exact fun a a' ha => ih _ _ (add_le_add ha hx)
  exact hfold 0 0 (le_refl 0)

end Binary64

end PatchTriage
