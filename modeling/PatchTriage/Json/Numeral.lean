import PatchTriage.Json.Basic

/-!
# Numerals

A numeral is taken apart into its sign, its digits and its exponent before it is given a value, so
that integers stay exact and every other number is rounded once. Numerals of JSON are a part of
what is taken apart here: other readers allow an empty side of the point and a plus sign.
-/

namespace PatchTriage.Json

/-- A decimal numeral taken apart: its sign, its digits before and behind the point, and its
exponent. -/
structure Numeral where
  negative : Bool
  whole : List Char
  /-- The digits behind the point, if there is a point. -/
  fraction : Option (List Char)
  /-- The exponent, if there is one. -/
  exponent : Option Int

/-- Whether `c` is one of the ten ASCII digits. -/
def isAsciiDigit (c : Char) : Bool := 48 ≤ c.toNat && c.toNat ≤ 57

/-- The value of ASCII digits. -/
def asciiValue (ds : List Char) : Nat := ds.foldl (fun n c => 10 * n + (c.toNat - 48)) 0

/-- Splits off a sign. -/
def splitSign : List Char → Bool × List Char
  | '-' :: rest => (true, rest)
  | '+' :: rest => (false, rest)
  | l => (false, l)

/-- Reads what follows the letter of an exponent. -/
def readExponent? (l : List Char) : Option Int :=
  let (negative, ds) := splitSign l
  if ds.isEmpty || !ds.all isAsciiDigit then none
  else some (if negative then -(asciiValue ds : Int) else asciiValue ds)

/-- Takes a numeral apart; either side of the point may be empty here, but not both. -/
def readNumeral? (l : List Char) : Option Numeral :=
  let (negative, l) := splitSign l
  let whole := l.takeWhile isAsciiDigit
  let l := l.dropWhile isAsciiDigit
  let (fraction, l) :=
    match l with
    | '.' :: rest => (some (rest.takeWhile isAsciiDigit), rest.dropWhile isAsciiDigit)
    | _ => (none, l)
  if whole.isEmpty && (fraction.getD []).isEmpty then none
  else
    match l with
    | [] => some ⟨negative, whole, fraction, none⟩
    | c :: rest =>
      if c = 'e' ∨ c = 'E' then
        (readExponent? rest).map fun e => ⟨negative, whole, fraction, some e⟩
      else none

/-- The grid point nearest to a numeral. An exponent far beyond the digits cannot bring the value
back into the range of the grid, so it is cut off there. -/
def Numeral.toBinary64 (n : Numeral) : Binary64 :=
  let fraction := n.fraction.getD []
  let digits := asciiValue (n.whole ++ fraction)
  let room : Int := (n.whole ++ fraction).length + 2000
  let scale := (max (-room) (min room (n.exponent.getD 0))) - fraction.length
  .ofDecimal n.negative digits scale

/-- The value of a number's text. -/
def number? (l : List Char) : Option Json :=
  match readNumeral? l with
  | some ⟨negative, whole, none, none⟩ =>
    if l.head? = some '+' then none
    else some (int (if negative then -(asciiValue whole : Int) else asciiValue whole))
  | some n =>
    if l.head? = some '+' || n.whole.isEmpty || n.fraction == some [] then none
    else some (real n.toBinary64)
  | none => none

/-- The value of an unquoted word. -/
def word? (l : List Char) : Option Json :=
  if l = ['n', 'u', 'l', 'l'] then some null
  else if l = ['t', 'r', 'u', 'e'] then some (bool true)
  else if l = ['f', 'a', 'l', 's', 'e'] then some (bool false)
  else number? l

end PatchTriage.Json
