/-!
# Similar texts

How much two texts have in common: the longest block that occurs in both counts, and so do the
common parts in front of it and behind it. Two texts are similar when what they have in common
makes up at least three fifths of them.
-/

namespace PatchTriage.Text

/-- How many characters two texts have in common at their start. -/
def commonStart : List Char → List Char → Nat
  | c :: l, d :: m => if c = d then commonStart l m + 1 else 0
  | _, _ => 0

/-- A block that occurs in two texts: where it begins in either, and its length. -/
structure Block where
  first : Nat := 0
  second : Nat := 0
  length : Nat := 0
deriving DecidableEq, Repr

/-- The longest block that two texts have in common: the first in the one text, and then in the
other. -/
def longestBlock (l m : List Char) : Block :=
  (List.range l.length).foldl (fun best i =>
    (List.range m.length).foldl (fun best j =>
      let length := commonStart (l.drop i) (m.drop j)
      if best.length < length then ⟨i, j, length⟩ else best) best) {}

/-- How many characters two texts have in common, in blocks; the first argument bounds their
number. -/
def commonIn : Nat → List Char → List Char → Nat
  | 0, _, _ => 0
  | steps + 1, l, m =>
    let b := longestBlock l m
    if b.length = 0 then 0
    else
      b.length + commonIn steps (l.take b.first) (m.take b.second) +
        commonIn steps (l.drop (b.first + b.length)) (m.drop (b.second + b.length))

/-- How many characters two texts have in common. -/
def common (l m : List Char) : Nat := commonIn l.length l m

/-- Whether at least three of five characters of two texts are common to both. -/
def areSimilar (l m : List Char) : Bool := 3 * (l.length + m.length) ≤ 10 * common l m

/-- The texts that are similar to `s`. -/
def similarTo (s : String) (options : List String) : List String :=
  options.filter fun option => areSimilar option.toList s.toList

end PatchTriage.Text
