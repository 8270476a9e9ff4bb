import PatchTriage.Template.Misfit
import PatchTriage.Template.Value

/-!
# Directives

A directive says how a value is laid out: as text, as an integer in base ten, eight or sixteen, as
a number with a point, or as one character; in what width and precision, and on which side. A
number keeps its sign and the marker of its base in front of zeros that fill the width.
-/

namespace PatchTriage.Template

/-- How a value is laid out. -/
structure Directive where
  leftAligned : Bool := false
  plusSign : Bool := false
  blankSign : Bool := false
  alternative : Bool := false
  zeroFilled : Bool := false
  width : Nat := 0
  precision : Option Nat := none
  letter : Char

/-- The text of a number in its parts. -/
structure NumberText where
  negative : Bool
  /-- The marker of the base. -/
  marker : List Char := []
  digits : List Char

namespace Directive

/-- Blanks that bring a text to the width. -/
def blanks (d : Directive) (l : List Char) : List Char := List.replicate (d.width - l.length) ' '

/-- A text brought to the width with blanks. -/
def aligned (d : Directive) (l : List Char) : List Char :=
  if d.leftAligned then l ++ d.blanks l else d.blanks l ++ l

/-- A text cut off at the precision and brought to the width. -/
def layText (d : Directive) (l : List Char) : List Char :=
  d.aligned (d.precision.elim l fun count => l.take count)

/-- The sign of a number. -/
def sign (d : Directive) (negative : Bool) : List Char :=
  if negative then ['-'] else if d.plusSign then ['+'] else if d.blankSign then [' '] else []

/-- A number brought to the width. -/
def layNumber (d : Directive) (n : NumberText) : List Char :=
  let front := d.sign n.negative ++ n.marker
  if d.zeroFilled && !d.leftAligned then
    front ++ List.replicate (d.width - (front.length + n.digits.length)) '0' ++ n.digits
  else d.aligned (front ++ n.digits)

/-- The base of an integer. -/
def base (d : Directive) : Nat :=
  if d.letter = 'o' then 8 else if d.letter = 'x' ∨ d.letter = 'X' then 16 else 10

/-- The marker of the base, where it is asked for. -/
def marker (d : Directive) : List Char :=
  if d.alternative && d.base != 10 then ['0', d.letter] else []

/-- The digits of a natural number in the base, at least as many as the precision says. -/
def wholeDigits (d : Directive) (n : Nat) : List Char :=
  let ds := Nat.toDigits d.base n
  let ds := if d.letter = 'X' then ds.map Char.toUpper else ds
  List.replicate (d.precision.getD 0 - ds.length) '0' ++ ds

/-- The greatest precision of an integer. -/
def maxPrecision : Nat := 2147483644

/-- An integer laid out. -/
def layWhole (d : Directive) (n : Int) : Except Misfit (List Char) :=
  if maxPrecision < d.precision.getD 0 then .error .precisionTooLarge
  else .ok (d.layNumber ⟨n < 0, d.marker, d.wholeDigits n.natAbs⟩)

/-- The digits of a number with a point; six places or digits unless the precision says otherwise.
Capital letters ask for a capital exponent. -/
def realDigits (d : Directive) (x : Binary64) : List Char :=
  let precision := d.precision.getD 6
  match d.letter.toLower with
  | 'f' => x.withPlaces d.alternative precision
  | 'e' => x.scientific d.alternative precision
  | _ => x.general d.alternative precision

/-- A number with a point laid out. -/
def layReal (d : Directive) (x : Binary64) : List Char :=
  let digits := d.realDigits { x with negative := false }
  let digits := if d.letter.isUpper then digits.map Char.toUpper else digits
  d.layNumber { negative := x.negative, digits }

/-- The number with a point that a value is. -/
def real (v : Value) : Except Misfit Binary64 :=
  match v with
  | .json (.real x) => .ok x
  | v =>
    match v.whole? with
    | some n => (Binary64.ofInt? n).elim (.error .tooLargeForReal) .ok
    | none => .error (.notReal v.kind)

/-- The character that a value is, or whose code it is. -/
def character (v : Value) : Except Misfit Char :=
  match v with
  | .json (.text s) =>
    match s.toList with
    | [c] => .ok c
    | _ => .error .notCharacter
  | v =>
    match v.whole? with
    | some n => if 0 ≤ n ∧ n < 0x110000 then .ok (Char.ofNat n.toNat) else .error .noCharacter
    | none => .error .notCharacter

/-- A value laid out; `position` is the place of the letter in the template. -/
def lay (d : Directive) (position : Nat) (v : Value) : Except Misfit (List Char) :=
  match d.letter with
  | 's' => .ok (d.layText v.plain)
  | 'r' => .ok (d.layText v.quoted)
  | 'a' => .ok (d.layText v.ascii)
  | 'd' | 'i' | 'u' =>
    match v.truncated? with
    | some n => d.layWhole n
    | none => .error (.notNumber d.letter v.kind)
  | 'o' | 'x' | 'X' =>
    match v.whole? with
    | some n => d.layWhole n
    | none => .error (.notInteger d.letter v.kind)
  | 'e' | 'E' | 'f' | 'F' | 'g' | 'G' => (real v).map d.layReal
  | 'c' => (character v).map fun c => d.aligned [c]
  | c => .error (.unknownLetter c position)

end Directive

end PatchTriage.Template
