import PatchTriage.Binary64.Text

/-!
# Numbers with an infinity

Measured values are numbers of the interchange format: finite points of the binary64 grid, the two
infinities, and what is no number. The grid rounds as if there were no greatest point, so a result
overflows just if the point that it is rounded to is beyond the finite ones (`Double.ofGrid`).
-/

namespace PatchTriage

/-- A number of the interchange format, or what is no number. -/
inductive Double where
  | finite (x : Binary64) (h : x.IsFinite)
  | infinite (negative : Bool)
  | nan
deriving DecidableEq, Repr

namespace Double

/-- The number that a point of the grid stands for: beyond the finite ones it is infinite. -/
def ofGrid (x : Binary64) : Double := if h : x.IsFinite then finite x h else infinite x.negative

instance (n : Nat) : OfNat Double n := ⟨ofGrid (.ofInt n)⟩

/-- Sum. Infinities of different signs make no number. -/
def add : Double → Double → Double
  | finite x _, finite y _ => ofGrid (x + y)
  | finite _ _, infinite negative => infinite negative
  | infinite negative, finite _ _ => infinite negative
  | infinite negative, infinite negative' =>
    if negative = negative' then infinite negative else nan
  | nan, _ | _, nan => nan

instance : Add Double := ⟨add⟩

/-- Quotient by a positive point of the grid. -/
def dividedBy (x : Double) (y : Binary64) : Double :=
  match x with
  | finite x _ => ofGrid (x / y)
  | infinite negative => infinite negative
  | nan => nan

/-- Whether one number is less than another; what is no number is neither less nor greater than
anything. -/
def less : Double → Double → Bool
  | finite x _, finite y _ => x < y
  | finite _ _, infinite negative => !negative
  | infinite negative, finite _ _ => negative
  | infinite negative, infinite negative' => negative && !negative'
  | nan, _ | _, nan => false

instance : LT Double := ⟨fun x y => x.less y = true⟩

instance (x y : Double) : Decidable (x < y) := inferInstanceAs (Decidable (x.less y = true))

/-- The greater of two numbers, the first unless the second is greater. -/
protected def max (x y : Double) : Double := if x < y then y else x

/-- The sum of a list from left to right, starting at zero. -/
def sum (l : List Double) : Double := l.foldl (· + ·) 0

/-- The text of a number in a line for people. -/
def text : Double → List Char
  | finite x _ => x.text
  | infinite negative => if negative then "-inf".toList else "inf".toList
  | nan => "nan".toList

/-- The word for a number in a JSON text, where only finite numbers have numerals. -/
def word : Double → List Char
  | finite x _ => x.text
  | infinite negative => if negative then "-Infinity".toList else "Infinity".toList
  | nan => "NaN".toList

end Double

end PatchTriage
