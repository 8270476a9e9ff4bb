import PatchTriage.Binary64.Basic

/-!
# Texts of binary64 numbers

`Binary64.text` is the shortest text that reads back: of all decimals with the fewest digits that
round to the number it is the nearest, an exact tie going to an even last digit. It is positional
from 0.0001 up to but excluding 10^16, and scientific with a signed exponent of two or more digits
beyond; a whole number keeps the digit zero behind the point.

`fixed` writes a set number of places of the exact value, and `percent` the whole percentage of
it.
-/

namespace PatchTriage

/-- The decimal digits of a natural number. -/
def digitsOf (n : Nat) : List Char := n.repr.toList

namespace Binary64

/-- The number `digits * 10 ^ scale`. -/
structure Decimal where
  digits : Nat
  scale : Int
deriving DecidableEq, Repr

/-- Whether `d` rounds to `x`. -/
def readsBack (x : Binary64) (d : Decimal) : Bool := ofDecimal x.negative d.digits d.scale == x

/-- The absolute value of `x` in units of `10 ^ scale`, as numerator and denominator. -/
def onGrid (x : Binary64) (scale : Int) : Nat × Nat :=
  if 0 ≤ scale then (x.magnitude, unitsPerOne * tenPow scale.toNat)
  else (x.magnitude * tenPow (-scale).toNat, unitsPerOne)

/-- Whether the absolute value of `x` is less than `10 ^ k`. -/
def belowPower (x : Binary64) (k : Int) : Bool :=
  let (num, den) := x.onGrid k
  num < den

/-- The least `k` with `x < 10 ^ k`: an estimate from the binary logarithm, put right by up to
three comparisons. -/
def decimalPoint (x : Binary64) : Int :=
  let k := ((x.magnitude.log2 : Int) - 1074) * 30103 / 100000
  if x.belowPower k then k
  else if x.belowPower (k + 1) then k + 1
  else if x.belowPower (k + 2) then k + 2
  else k + 3

/-- The decimal nearest to `x` among the two neighbours of `x` on the grid `10 ^ scale` that read
back. -/
def nearestOn? (x : Binary64) (scale : Int) : Option Decimal :=
  let (num, den) := x.onGrid scale
  let low : Decimal := ⟨num / den, scale⟩
  let high : Decimal := ⟨num / den + 1, scale⟩
  match x.readsBack low, x.readsBack high with
  | true, true => some ⟨roundDiv num den, scale⟩
  | true, false => some low
  | false, true => some high
  | false, false => none

/-- The exact value. -/
def exactDecimal (x : Binary64) : Decimal := ⟨x.magnitude * Nat.pow 5 1074, -1074⟩

/-- The shortest decimal that reads back. -/
def shortest (x : Binary64) : Decimal :=
  if x.magnitude = 0 then ⟨0, 0⟩
  else
    let point := x.decimalPoint
    match (List.range 17).findSome? fun (n : Nat) => x.nearestOn? (point - (n + 1)) with
    | some d => d
    | none => x.exactDecimal

/-- The exponent of a scientific form: a sign and at least two digits. -/
def exponentText (e : Int) : List Char :=
  let ds := digitsOf e.natAbs
  (if e < 0 then '-' else '+') :: (if ds.length < 2 then '0' :: ds else ds)

/-- Lays out significant digits whose decimal point stands behind the first `point` of them. -/
def layout (ds : List Char) (point : Int) : List Char :=
  if -4 < point ∧ point ≤ 16 then
    if point ≤ 0 then '0' :: '.' :: (List.replicate (-point).toNat '0' ++ ds)
    else
      let n := point.toNat
      if ds.length ≤ n then ds ++ List.replicate (n - ds.length) '0' ++ ['.', '0']
      else ds.take n ++ '.' :: ds.drop n
  else
    match ds with
    | [] => []
    | [d] => d :: 'e' :: exponentText (point - 1)
    | d :: rest => d :: '.' :: (rest ++ 'e' :: exponentText (point - 1))

/-- The text of a decimal: trailing zeros are no digits of it. -/
def Decimal.text (d : Decimal) : List Char :=
  let all := digitsOf d.digits
  let ds := (all.reverse.dropWhile (· == '0')).reverse
  if ds.isEmpty then ['0', '.', '0'] else layout ds (all.length + d.scale)

/-- The shortest text that reads back. -/
def text (x : Binary64) : List Char :=
  if x.negative then '-' :: x.shortest.text else x.shortest.text

instance : ToString Binary64 := ⟨fun x => String.ofList x.text⟩

/-- The value with a set number of places, a tie in the exact value going to the even digit. -/
def fixed (x : Binary64) (places : Nat) : List Char :=
  let ds := digitsOf (roundDiv (x.magnitude * tenPow places) unitsPerOne)
  let ds := List.replicate (places + 1 - ds.length) '0' ++ ds
  let whole := ds.take (ds.length - places)
  let body := if places = 0 then whole else whole ++ '.' :: ds.drop (ds.length - places)
  if x.negative then '-' :: body else body

/-- The value as a whole percentage. -/
def percent (x : Binary64) : List Char := (x * 100).fixed 0 ++ ['%']

/-- The value rounded to a set number of decimal places. -/
def roundTo (x : Binary64) (places : Nat) : Binary64 :=
  ofDecimal x.negative (roundDiv (x.magnitude * tenPow places) unitsPerOne) (-(places : Int))

/-- The text with two places, as reports show risks. -/
def twoPlaces (x : Binary64) : String := String.ofList (x.fixed 2)

/-- The text as a whole percentage, as reports show confidences. -/
def percentText (x : Binary64) : String := String.ofList x.percent

end Binary64

end PatchTriage
