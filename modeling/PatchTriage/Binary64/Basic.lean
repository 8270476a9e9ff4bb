/-!
# Binary64 numbers

Scores and risks are numbers of the binary64 grid. An operation is the exact result
rounded once to the grid, to the nearest point and on a tie to the point with an even mantissa, so
everything is integer arithmetic: the view of a number is `Binary64.units`, its value as a
multiple of the least positive point `2 ^ -1074`, and sums, products and quotients are taken
there.

Zero keeps its sign, as the texts of numbers show it. Magnitudes have no upper bound: where the
interchange format would overflow to infinity, the grid goes on. Scores, which lie between zero and
one, never come near there; the measured values that may are of the type `Double`.
-/

namespace PatchTriage

/-- The quotient `num / den` rounded to a natural number; a tie goes to the even neighbour. -/
def roundDiv (num den : Nat) : Nat :=
  let q := num / den
  let r := num % den
  if 2 * r < den then q else if den < 2 * r then q + 1 else if q % 2 = 0 then q else q + 1

/-- A quotient is rounded down to its integer part at most. -/
theorem div_le_roundDiv (num den : Nat) : num / den ≤ roundDiv num den := by
  simp only [roundDiv]
  split
  · exact Nat.le_refl _
  · split
    · exact Nat.le_succ _
    · split
      · exact Nat.le_refl _
      · exact Nat.le_succ _

/-- A point of the binary64 grid: `mantissa * 2 ^ exponent` times the least positive point,
negated when `negative` holds. -/
structure Binary64 where
  negative : Bool
  mantissa : Nat
  exponent : Nat
  /-- A mantissa has at most 53 bits. -/
  mantissa_lt : mantissa < 9007199254740992
  /-- Only the numbers below `2 ^ -1021` may have fewer. -/
  normal : exponent = 0 ∨ 4503599627370496 ≤ mantissa
deriving DecidableEq, Repr

namespace Binary64

/-- Whether a point of the grid is a finite number of the interchange format: beyond the greatest of
them the grid goes on. -/
def IsFinite (x : Binary64) : Prop := x.exponent ≤ 2045

instance (x : Binary64) : Decidable x.IsFinite := inferInstanceAs (Decidable (x.exponent ≤ 2045))

/-- The number of units in one. -/
def unitsPerOne : Nat := 1 <<< 1074

/-- The absolute value in units of the least positive point. -/
def magnitude (x : Binary64) : Nat := x.mantissa <<< x.exponent

/-- The value in units of the least positive point. -/
def units (x : Binary64) : Int := if x.negative then -(x.magnitude : Int) else x.magnitude

/-- The exponent of the binade that holds `num / den`, counted from the lowest. -/
def binade (num den : Nat) : Nat := (num / den).log2 - 52

/-- Above the lowest binade a mantissa has 53 bits. -/
theorem le_div_of_binade_pos {num den : Nat} (h : binade num den ≠ 0) :
    4503599627370496 ≤ num / (den <<< binade num den) := by
  simp only [binade] at h ⊢
  have hq : num / den ≠ 0 := by
    intro h0
    rw [h0] at h
    simp at h
  have hlog : 2 ^ (num / den).log2 ≤ num / den := Nat.log2_self_le hq
  have h52 : 4503599627370496 = 2 ^ 52 := by decide
  rw [Nat.shiftLeft_eq, ← Nat.div_div_eq_div_mul, Nat.le_div_iff_mul_le (Nat.two_pow_pos _), h52,
    ← Nat.pow_add]
  exact Nat.le_trans (Nat.pow_le_pow_right (by decide) (by omega)) hlog

/-- The grid point nearest to `num / den` units, with the given sign. -/
def ofUnits (negative : Bool) (num den : Nat) : Binary64 :=
  let e := binade num den
  let m := roundDiv num (den <<< e)
  if h : m < 9007199254740992 then
    { negative := negative, mantissa := m, exponent := e, mantissa_lt := h
      normal := by
        by_cases he : e = 0
        · exact .inl he
        · exact .inr (Nat.le_trans (le_div_of_binade_pos he) (div_le_roundDiv _ _)) }
  else
    { negative := negative, mantissa := 4503599627370496, exponent := e + 1
      mantissa_lt := by decide, normal := .inr (Nat.le_refl _) }

/-- The grid point nearest to the integer `n`. -/
def ofInt (n : Int) : Binary64 := ofUnits (n < 0) (n.natAbs * unitsPerOne) 1

/-- The least natural number that rounds to none of the finite numbers. -/
def finiteLimit : Nat := (1 <<< 1024) - (1 <<< 970)

/-- The finite number nearest to the integer `n`, if there is one. -/
def ofInt? (n : Int) : Option Binary64 := if n.natAbs < finiteLimit then some (ofInt n) else none

/-- A power of ten. -/
def tenPow (n : Nat) : Nat := Nat.pow 10 n

/-- The grid point nearest to `digits * 10 ^ scale`, with the given sign. -/
def ofDecimal (negative : Bool) (digits : Nat) (scale : Int) : Binary64 :=
  if 0 ≤ scale then ofUnits negative (digits * tenPow scale.toNat * unitsPerOne) 1
  else ofUnits negative (digits * unitsPerOne) (tenPow (-scale).toNat)

instance (n : Nat) : OfNat Binary64 n := ⟨ofInt n⟩

instance : OfScientific Binary64 where
  ofScientific digits down scale := ofDecimal false digits (if down then -(scale : Int) else scale)

instance : Inhabited Binary64 := ⟨0⟩

/-- Sum. A sum that is exactly zero is positive unless both terms are negative. -/
def add (x y : Binary64) : Binary64 :=
  let s := x.units + y.units
  ofUnits (if s = 0 then x.negative && y.negative else s < 0) s.natAbs 1

/-- Product. -/
def mul (x y : Binary64) : Binary64 :=
  ofUnits (x.negative != y.negative) (x.magnitude * y.magnitude) unitsPerOne

/-- Quotient; dividing by zero gives zero. -/
def div (x y : Binary64) : Binary64 :=
  if y.magnitude = 0 then ofUnits (x.negative != y.negative) 0 1
  else ofUnits (x.negative != y.negative) (x.magnitude * unitsPerOne) y.magnitude

instance : Add Binary64 := ⟨add⟩
instance : Mul Binary64 := ⟨mul⟩
instance : Div Binary64 := ⟨div⟩

/-- The order of the values; the two zeros are equal in it. -/
instance : LE Binary64 := ⟨fun x y => x.units ≤ y.units⟩
instance : LT Binary64 := ⟨fun x y => x.units < y.units⟩

instance (x y : Binary64) : Decidable (x ≤ y) := inferInstanceAs (Decidable (x.units ≤ y.units))
instance (x y : Binary64) : Decidable (x < y) := inferInstanceAs (Decidable (x.units < y.units))

/-- The lesser of two numbers, the first of two equal ones. -/
protected def min (x y : Binary64) : Binary64 := if y < x then y else x

/-- The greater of two numbers, the first of two equal ones. -/
protected def max (x y : Binary64) : Binary64 := if x < y then y else x

/-- The nearest number between zero and one. -/
def clamp (x : Binary64) : Binary64 := Binary64.max 0 (Binary64.min 1 x)

/-- The sum of a list from left to right, starting at zero. -/
def sum (l : List Binary64) : Binary64 := l.foldl (· + ·) 0

/-- Whether the value is an integer. -/
def isWhole (x : Binary64) : Bool := x.magnitude % unitsPerOne == 0

/-- The integer part of the value. -/
def toInt (x : Binary64) : Int :=
  let n : Int := x.magnitude / unitsPerOne
  if x.negative then -n else n

/-- Numbers are ordered as their values in units. -/
theorem le_iff {x y : Binary64} : x ≤ y ↔ x.units ≤ y.units := Iff.rfl

/-- So it is for the strict order. -/
theorem lt_iff {x y : Binary64} : x < y ↔ x.units < y.units := Iff.rfl

end Binary64

end PatchTriage
