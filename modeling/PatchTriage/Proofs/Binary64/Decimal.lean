import PatchTriage.Binary64.Text
import PatchTriage.Proofs.Binary64.Monotone
import PatchTriage.Proofs.Binary64.Text

/-!
# Decimals that read back

A point of the grid is told by its sign and its magnitude (`eq_of_magnitude`). So what a quotient
is rounded to depends on its value alone (`ofUnits_congr`), a decimal may be written with any number
of zeros behind its digits (`ofDecimal_mul_tenPow`), and a point is rounded to itself
(`ofUnits_magnitude`). The decimal that a number is written as is rounded to that number
(`readsBack_shortest`), and its exponent keeps within bounds if the number is one of the interchange
format (`IsFinite`, `IsFinite.point_bounds`).
-/

namespace PatchTriage

/-- A multiple is divided without a rest to round. -/
theorem roundDiv_mul_self (k : Nat) {den : Nat} (h : 0 < den) : roundDiv (k * den) den = k := by
  have hlt : 2 * (k * den % den) < den := by
    rw [Nat.mul_mod_left]
    exact h
  rw [roundDiv, if_pos hlt, Nat.mul_div_cancel k h]

/-- A quotient is rounded to one of its two neighbours. -/
theorem roundDiv_cases (num den : Nat) :
    roundDiv num den = num / den ∨ roundDiv num den = num / den + 1 := by
  have hle := div_le_roundDiv num den
  have hge := roundDiv_le_succ num den
  omega

namespace Binary64

variable {x y : Binary64}

/-! ## Points by their values -/

/-- A point with a lesser exponent has a lesser magnitude than one whose exponent is greater. -/
theorem magnitude_lt_of_exponent_lt (h : x.exponent < y.exponent) : x.magnitude < y.magnitude := by
  have hy : 4503599627370496 ≤ y.mantissa := y.normal.resolve_left (Nat.ne_zero_of_lt h)
  rw [magnitude, magnitude, Nat.shiftLeft_eq, Nat.shiftLeft_eq]
  calc x.mantissa * 2 ^ x.exponent
      < 9007199254740992 * 2 ^ x.exponent :=
        Nat.mul_lt_mul_of_pos_right x.mantissa_lt (Nat.two_pow_pos _)
    _ = 4503599627370496 * 2 ^ (x.exponent + 1) := by rw [Nat.pow_succ]; omega
    _ ≤ 4503599627370496 * 2 ^ y.exponent :=
        Nat.mul_le_mul_left _ (Nat.pow_le_pow_right (by decide) h)
    _ ≤ y.mantissa * 2 ^ y.exponent := Nat.mul_le_mul_right _ hy

/-- A point of the grid is told by its sign and its magnitude. -/
theorem eq_of_magnitude (hsign : x.negative = y.negative) (h : x.magnitude = y.magnitude) :
    x = y := by
  have hexp : x.exponent = y.exponent := by
    rcases Nat.lt_trichotomy x.exponent y.exponent with hlt | heq | hgt
    · exact absurd h (Nat.ne_of_lt (magnitude_lt_of_exponent_lt hlt))
    · exact heq
    · exact absurd h (Nat.ne_of_gt (magnitude_lt_of_exponent_lt hgt))
  have hmantissa : x.mantissa = y.mantissa := by
    rw [magnitude, magnitude, Nat.shiftLeft_eq, Nat.shiftLeft_eq, hexp] at h
    exact Nat.eq_of_mul_eq_mul_right (Nat.two_pow_pos _) h
  obtain ⟨sign, m, e, _, _⟩ := x
  obtain ⟨sign', m', e', _, _⟩ := y
  simp only at hsign hmantissa hexp
  subst hsign hmantissa hexp
  rfl

/-- The magnitude of a point is bounded by its exponent. -/
theorem magnitude_lt_two_pow {n : Nat} (h : x.exponent ≤ n) :
    x.magnitude < 2 ^ (52 + (n + 1)) := by
  rw [magnitude, Nat.shiftLeft_eq]
  calc x.mantissa * 2 ^ x.exponent
      < 2 ^ 53 * 2 ^ x.exponent := Nat.mul_lt_mul_of_pos_right x.mantissa_lt (Nat.two_pow_pos _)
    _ ≤ 2 ^ 53 * 2 ^ n := Nat.mul_le_mul_left _ (Nat.pow_le_pow_right (by decide) h)
    _ = 2 ^ (52 + (n + 1)) := by rw [← Nat.pow_add, Nat.add_comm n 1, ← Nat.add_assoc]

/-- Rounding keeps the sign it is given. -/
@[simp]
theorem negative_ofUnits (negative : Bool) (num den : Nat) :
    (ofUnits negative num den).negative = negative := by
  rw [ofUnits]
  split <;> rfl

/-- What a quotient is rounded to depends on its value alone. -/
theorem ofUnits_congr {a b c d : Nat} (hb : 0 < b) (hd : 0 < d) (h : a * d = c * b)
    (negative : Bool) : ofUnits negative a b = ofUnits negative c d := by
  refine eq_of_magnitude ?_ (Nat.le_antisymm ?_ ?_)
  · rw [negative_ofUnits, negative_ofUnits]
  · exact magnitude_ofUnits_le hb hd (Nat.le_of_eq h) negative negative
  · exact magnitude_ofUnits_le hd hb (Nat.le_of_eq h.symm) negative negative

/-- A point is rounded to itself: the step of its binade is at most the one that it is a multiple
of. -/
theorem ofUnits_magnitude (x : Binary64) : ofUnits x.negative x.magnitude 1 = x := by
  refine eq_of_magnitude (negative_ofUnits _ _ _) ?_
  have hbinade : binade x.magnitude 1 ≤ x.exponent := by
    rw [binade, Nat.div_one]
    by_cases hzero : x.magnitude = 0
    · rw [hzero]
      exact Nat.zero_le _
    · have hlog := (Nat.log2_lt hzero).2 (magnitude_lt_two_pow (Nat.le_refl x.exponent))
      omega
  have hsteps : x.magnitude =
      x.mantissa * 2 ^ (x.exponent - binade x.magnitude 1) * 2 ^ binade x.magnitude 1 := by
    rw [Nat.mul_assoc, ← Nat.pow_add, Nat.sub_add_cancel hbinade, magnitude, Nat.shiftLeft_eq]
  rw [magnitude_ofUnits, Nat.shiftLeft_eq, Nat.one_mul]
  generalize binade x.magnitude 1 = e at hsteps
  rw [hsteps, roundDiv_mul_self _ (Nat.two_pow_pos e)]

/-! ## Decimals by their values -/

/-- A power of ten in the notation of powers. -/
theorem tenPow_eq (n : Nat) : tenPow n = 10 ^ n := rfl

/-- Powers of ten are positive. -/
@[simp]
theorem tenPow_pos (n : Nat) : 0 < tenPow n := Nat.pow_pos (by decide)

/-- Powers of ten are multiplied by adding the exponents. -/
theorem tenPow_add (m n : Nat) : tenPow (m + n) = tenPow m * tenPow n := Nat.pow_add 10 m n

/-- A decimal as a quotient: the power of ten of its scale stands above or below. -/
theorem ofDecimal_eq (negative : Bool) (digits : Nat) (scale : Int) :
    ofDecimal negative digits scale =
      ofUnits negative (digits * tenPow scale.toNat * unitsPerOne) (tenPow (-scale).toNat) := by
  rw [ofDecimal]
  split
  · next hscale =>
    have hneg : (-scale).toNat = 0 := by omega
    rw [hneg]
    rfl
  · next hscale =>
    have hpos : scale.toNat = 0 := by omega
    rw [hpos, tenPow_eq 0, Nat.pow_zero, Nat.mul_one]

/-- Zeros behind the digits of a decimal can be taken into its scale. -/
theorem ofDecimal_mul_tenPow (negative : Bool) (digits k : Nat) (scale : Int) :
    ofDecimal negative (digits * tenPow k) scale = ofDecimal negative digits (scale + k) := by
  have hexp : k + scale.toNat + (-(scale + k)).toNat = (scale + k).toNat + (-scale).toNat := by
    omega
  have hpow : tenPow k * tenPow scale.toNat * tenPow (-(scale + k)).toNat =
      tenPow (scale + k).toNat * tenPow (-scale).toNat := by
    rw [← tenPow_add, ← tenPow_add, ← tenPow_add, hexp]
  rw [ofDecimal_eq, ofDecimal_eq]
  refine ofUnits_congr (tenPow_pos _) (tenPow_pos _) ?_ negative
  calc digits * tenPow k * tenPow scale.toNat * unitsPerOne * tenPow (-(scale + k)).toNat
      = digits * unitsPerOne *
          (tenPow k * tenPow scale.toNat * tenPow (-(scale + k)).toNat) := by ac_rfl
    _ = digits * unitsPerOne * (tenPow (scale + k).toNat * tenPow (-scale).toNat) := by rw [hpow]
    _ = digits * tenPow (scale + k).toNat * unitsPerOne * tenPow (-scale).toNat := by ac_rfl

/-- Zero has no scale. -/
theorem ofDecimal_zero (negative : Bool) (scale scale' : Int) :
    ofDecimal negative 0 scale = ofDecimal negative 0 scale' := by
  rw [ofDecimal_eq, ofDecimal_eq]
  refine ofUnits_congr (tenPow_pos _) (tenPow_pos _) ?_ negative
  rw [Nat.zero_mul, Nat.zero_mul, Nat.zero_mul, Nat.zero_mul, Nat.zero_mul, Nat.zero_mul]

/-! ## The decimal that a number is written as -/

/-- The decimal with the exact value of a number is rounded to it. -/
theorem readsBack_exactDecimal (x : Binary64) : x.readsBack x.exactDecimal = true := by
  have hten : ∀ n : Nat, ofUnits x.negative (x.magnitude * Nat.pow 5 n * tenPow 0 * (1 <<< n))
      (tenPow n) = ofUnits x.negative x.magnitude 1 := by
    intro n
    refine ofUnits_congr (tenPow_pos n) Nat.one_pos ?_ x.negative
    have hpow : tenPow n = Nat.pow 5 n * 2 ^ n := Nat.mul_pow 5 2 n
    have hzero : tenPow 0 = 1 := rfl
    rw [hpow, hzero, Nat.shiftLeft_eq, Nat.one_mul, Nat.mul_one, Nat.mul_one]
    exact Nat.mul_assoc x.magnitude _ _
  have hpos : (-1074 : Int).toNat = 0 := rfl
  have hneg : (- -1074 : Int).toNat = 1074 := rfl
  rw [readsBack, exactDecimal, ofDecimal_eq, hpos, hneg, unitsPerOne]
  generalize 1074 = n
  rw [hten, ofUnits_magnitude, beq_self_eq_true]

/-- A decimal that is found on a scale is rounded to the number. -/
theorem readsBack_nearestOn? {x : Binary64} {scale : Int} {d : Decimal}
    (h : x.nearestOn? scale = some d) : x.readsBack d = true := by
  simp only [nearestOn?] at h
  split at h
  · next hlow hhigh =>
    obtain rfl := Option.some.inj h
    rcases roundDiv_cases (x.onGrid scale).1 (x.onGrid scale).2 with hr | hr
    · rw [hr]
      exact hlow
    · rw [hr]
      exact hhigh
  · next hlow _ =>
    obtain rfl := Option.some.inj h
    exact hlow
  · next _ hhigh =>
    obtain rfl := Option.some.inj h
    exact hhigh
  · cases h

/-- **The decimal that a number is written as is rounded to that number.** -/
theorem readsBack_shortest (x : Binary64) : x.readsBack x.shortest = true := by
  rw [shortest]
  split
  · next hzero =>
    have hnone : ofDecimal x.negative 0 0 = ofUnits x.negative x.magnitude 1 := by
      rw [ofDecimal_eq, hzero, Nat.zero_mul, Nat.zero_mul]
      rfl
    rw [readsBack, hnone, ofUnits_magnitude, beq_self_eq_true]
  · dsimp only
    split
    · next d hd =>
      obtain ⟨n, -, hn⟩ := List.exists_of_findSome?_eq_some hd
      exact readsBack_nearestOn? hn
    · exact readsBack_exactDecimal x

/-! ## Numbers of the interchange format -/

/-- A quotient that reaches the first point of a binade is not rounded to a lesser one. -/
theorem two_pow_le_magnitude_ofUnits {num den e : Nat} (h : 2 ^ (52 + e) ≤ num / den)
    (negative : Bool) : 2 ^ (52 + e) ≤ (ofUnits negative num den).magnitude := by
  let first : Binary64 :=
    { negative := false, mantissa := 4503599627370496, exponent := e, mantissa_lt := by decide
      normal := .inr (Nat.le_refl _) }
  have hfirst : first.magnitude = 2 ^ (52 + e) := by
    rw [magnitude, Nat.shiftLeft_eq, Nat.pow_add]
  rw [← hfirst] at h ⊢
  exact le_magnitude_ofUnits h negative

/-- A quotient of less than half a unit is rounded to zero. -/
theorem magnitude_ofUnits_eq_zero {num den : Nat} (h : 2 * num < den) (negative : Bool) :
    (ofUnits negative num den).magnitude = 0 := by
  have hlt : num < den := by omega
  have hbinade : binade num den = 0 := by
    rw [binade, Nat.div_eq_of_lt hlt]
    rfl
  rw [magnitude_ofUnits, hbinade, Nat.shiftLeft_zero, roundDiv, Nat.mod_eq_of_lt hlt, if_pos h,
    Nat.div_eq_of_lt hlt, Nat.zero_mul]

/-- A number is less than the power of ten with as many zeros as it has digits. -/
theorem lt_tenPow_length (n : Nat) : n < tenPow (digitsOf n).length := by
  rw [digitsOf_eq, Text.decimal, tenPow_eq]
  exact (Nat.length_toDigits_le_iff (by decide) Nat.length_toDigits_pos).1 (Nat.le_refl _)

/-- A positive number is at least the power of ten with as many digits. -/
theorem tenPow_le_of_pos {n : Nat} (h : 0 < n) : tenPow ((digitsOf n).length - 1) ≤ n := by
  rw [digitsOf_eq, Text.decimal, tenPow_eq]
  rcases Nat.eq_zero_or_pos ((Nat.toDigits 10 n).length - 1) with hzero | hpos
  · rw [hzero]
    exact h
  · refine Nat.not_lt.1 fun hlt => ?_
    have hle := (Nat.length_toDigits_le_iff (by decide) hpos).2 hlt
    omega

/-- A decimal reads back as a number just if it is rounded to the number. -/
theorem readsBack_iff {d : Decimal} :
    x.readsBack d = true ↔ ofDecimal x.negative d.digits d.scale = x := by
  rw [readsBack, beq_iff_eq]

/-- Powers of two are at most those of ten. -/
theorem two_pow_le_tenPow (n : Nat) : 2 ^ n ≤ tenPow n := Nat.pow_le_pow_left (by decide) n

/-- One has no more units than a power of ten. -/
theorem unitsPerOne_le : unitsPerOne ≤ tenPow 1074 := by
  rw [unitsPerOne]
  generalize 1074 = n
  rw [Nat.one_shiftLeft]
  exact two_pow_le_tenPow n

/-- A power of two has a power of two of units. -/
theorem two_pow_mul_unitsPerOne (n : Nat) : 2 ^ n * unitsPerOne = 2 ^ (n + 1074) := by
  rw [unitsPerOne]
  generalize 1074 = m
  rw [Nat.one_shiftLeft, Nat.pow_add]

/-- **The point of a decimal that is rounded to a finite number keeps within bounds**, if the number
is not zero: a lesser decimal is rounded to zero, and a greater one reaches the binade behind the
last one. -/
theorem IsFinite.point_bounds (hx : x.IsFinite) (hne : x.magnitude ≠ 0) {digits : Nat} {scale : Int}
    (h : ofDecimal x.negative digits scale = x) :
    -1100 ≤ ((digitsOf digits).length : Int) + scale ∧
      ((digitsOf digits).length : Int) + scale ≤ 1100 := by
  rw [ofDecimal_eq] at h
  constructor
  · refine Int.not_lt.1 fun hlow => hne ?_
    rw [← h]
    refine magnitude_ofUnits_eq_zero ?_ _
    have hscale : scale.toNat = 0 := by omega
    calc 2 * (digits * tenPow scale.toNat * unitsPerOne)
        = 2 * (digits * unitsPerOne) := by rw [hscale, tenPow_eq, Nat.pow_zero, Nat.mul_one]
      _ ≤ tenPow 1 * (digits * tenPow 1074) :=
          Nat.mul_le_mul (by decide) (Nat.mul_le_mul_left _ unitsPerOne_le)
      _ < tenPow 1 * (tenPow (digitsOf digits).length * tenPow 1074) :=
          Nat.mul_lt_mul_of_pos_left
            (Nat.mul_lt_mul_of_pos_right (lt_tenPow_length digits) (tenPow_pos _)) (tenPow_pos _)
      _ = tenPow (1 + ((digitsOf digits).length + 1074)) := by rw [tenPow_add, tenPow_add]
      _ ≤ tenPow (-scale).toNat := Nat.pow_le_pow_right (by decide) (by omega)
  · refine Int.not_lt.1 fun hhigh => ?_
    have hlt := magnitude_lt_two_pow hx
    have hpos : 0 < digits := by
      refine Nat.pos_of_ne_zero fun hzero => hne ?_
      rw [← h, hzero, Nat.zero_mul, Nat.zero_mul]
      exact magnitude_ofUnits_eq_zero (tenPow_pos _) _
    refine absurd (two_pow_le_magnitude_ofUnits ?_ x.negative) (Nat.not_le.2 (h ▸ hlt))
    rw [Nat.le_div_iff_mul_le (tenPow_pos _)]
    have hexp : 52 + (2045 + 1) = 1024 + 1074 := rfl
    calc 2 ^ (52 + (2045 + 1)) * tenPow (-scale).toNat
        = 2 ^ 1024 * tenPow (-scale).toNat * unitsPerOne := by
          rw [hexp, ← two_pow_mul_unitsPerOne, Nat.mul_right_comm]
      _ ≤ tenPow 1024 * tenPow (-scale).toNat * unitsPerOne :=
          Nat.mul_le_mul_right _
            (Nat.mul_le_mul_right _ (two_pow_le_tenPow 1024))
      _ = tenPow (1024 + (-scale).toNat) * unitsPerOne := by rw [tenPow_add]
      _ ≤ tenPow ((digitsOf digits).length - 1 + scale.toNat) * unitsPerOne :=
          Nat.mul_le_mul_right _ (Nat.pow_le_pow_right (by decide) (by omega))
      _ ≤ digits * tenPow scale.toNat * unitsPerOne := by
          rw [tenPow_add]
          exact Nat.mul_le_mul_right _ (Nat.mul_le_mul_right _ (tenPow_le_of_pos hpos))

end Binary64

end PatchTriage
