import PatchTriage.Binary64.Text

/-!
# Notations of binary64 numbers

Three ways to write a number with a precision that is asked for: with a set number of places, with
an exponent behind a set number of significant places, and whichever of the two is shorter for a
set number of significant digits. Every one rounds the exact value once, a tie going to the even
digit.
-/

namespace PatchTriage.Binary64

/-- The value rounded to a number of significant digits, and the power of ten of its first digit. -/
def significant (x : Binary64) (count : Nat) : Nat × Int :=
  if x.magnitude = 0 then (0, 0)
  else
    let exponent := x.decimalPoint - 1
    let (num, den) := x.onGrid (exponent + 1 - count)
    let digits := roundDiv num den
    if digits < tenPow count then (digits, exponent) else (digits / 10, exponent + 1)

/-- Digits with a point behind the first; without further digits the point is there only if it is
asked for. -/
def pointed (keepPoint : Bool) : List Char → List Char
  | [] => []
  | [d] => if keepPoint then [d, '.'] else [d]
  | d :: rest => d :: '.' :: rest

/-- A minus sign in front of a negative number. -/
def signed (x : Binary64) (l : List Char) : List Char := if x.negative then '-' :: l else l

/-- The value with a set number of places. -/
def withPlaces (keepPoint : Bool) (x : Binary64) (places : Nat) : List Char :=
  if keepPoint && places == 0 then x.fixed 0 ++ ['.'] else x.fixed places

/-- The digits of a rounded value, `count` of them. -/
def paddedDigits (count digits : Nat) : List Char :=
  let ds := digitsOf digits
  List.replicate (count - ds.length) '0' ++ ds

/-- The value with an exponent, and a set number of places behind the first digit. -/
def scientific (keepPoint : Bool) (x : Binary64) (places : Nat) : List Char :=
  let (digits, exponent) := x.significant (places + 1)
  x.signed (pointed keepPoint (paddedDigits (places + 1) digits) ++ 'e' :: exponentText exponent)

/-- Drops the zeros at the end of a number with a point, and the point if it comes to stand last. -/
def dropZeros (l : List Char) : List Char :=
  if l.contains '.' then
    let l := l.reverse.dropWhile (· == '0')
    (if l.head? == some '.' then l.drop 1 else l).reverse
  else l

/-- The value with a set number of significant digits, at least one: positional if the exponent is
at least -4 and less than that number. Zeros at the end are dropped unless they are to be kept. -/
def general (keepZeros : Bool) (x : Binary64) (count : Nat) : List Char :=
  let count := max 1 count
  let trimmed := fun l => if keepZeros then l else dropZeros l
  let (digits, exponent) := x.significant count
  if -4 ≤ exponent ∧ exponent < count then
    trimmed (x.withPlaces keepZeros (count - 1 - exponent).toNat)
  else
    x.signed (trimmed (pointed keepZeros (paddedDigits count digits)) ++
      'e' :: exponentText exponent)

end PatchTriage.Binary64
