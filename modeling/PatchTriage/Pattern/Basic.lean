import PatchTriage.Text.Blank
import PatchTriage.Text.Case
import PatchTriage.Text.Digit
import PatchTriage.Text.Word

/-!
# Text patterns

A pattern describes pieces of a text: characters of a class, sequences, choices and repetitions,
and conditions on the place such as a word boundary. `Pattern.occursIn` says whether some piece of
a text fits. The search carries the set of patterns that the rest of a piece still has to fit, so
one pass over the text is enough, and no choice is ever taken back.
-/

namespace PatchTriage

/-- A class of characters. -/
inductive CharClass where
  /-- One character. -/
  | exactly (c : Char)
  /-- The characters whose small letter is listed. -/
  | letterOf (group : List Char)
  /-- The word characters. -/
  | word
  /-- The white space. -/
  | blank
  /-- The decimal digits of all scripts. -/
  | digit
  /-- Everything but the line feed. -/
  | any
deriving DecidableEq, Repr

/-- Whether a character is in the class. -/
def CharClass.accepts : CharClass → Char → Bool
  | exactly c, d => c == d
  | letterOf group, d => group.contains (Text.lowerChar d)
  | word, d => Text.isWord d
  | blank, d => Text.isBlank d
  | digit, d => Text.isDigit d
  | any, d => d != '\n'

/-- A pattern for pieces of a text. -/
inductive Pattern where
  /-- The empty piece. -/
  | empty
  /-- One character. -/
  | one (k : CharClass)
  /-- The empty piece between a word character and a character or an end that is none. -/
  | wordBoundary
  /-- The empty piece at the start of the text. -/
  | textStart
  /-- The empty piece at the end of the text or before the line feed that ends it. -/
  | textEnd
  /-- A piece that fits `p` with a piece behind it that fits `q`. -/
  | seq (p q : Pattern)
  | alt (p q : Pattern)
  /-- Any number of pieces that fit `p`, one behind another. -/
  | star (p : Pattern)
deriving DecidableEq, Repr

namespace Pattern

instance : Append Pattern := ⟨seq⟩

/-- One or more pieces that fit `p`. -/
def plus (p : Pattern) : Pattern := seq p (star p)

/-- At most one piece that fits `p`. -/
def opt (p : Pattern) : Pattern := alt p empty

/-- One word character. -/
def word : Pattern := one .word

/-- One blank. -/
def blank : Pattern := one .blank

/-- Any characters but line feeds. -/
def anything : Pattern := star (one .any)

/-- The pattern of a sequence of characters. -/
def ofChars (f : Char → CharClass) : List Char → Pattern
  | [] => empty
  | [c] => one (f c)
  | c :: rest => seq (one (f c)) (ofChars f rest)

/-- The characters of a text as they stand. -/
def text (s : String) : Pattern := ofChars .exactly s.toList

/-- The class of a letter in either case. -/
def anyCase (c : Char) : CharClass := .letterOf (Text.letterGroup (Text.lowerChar c))

/-- The characters of a text in either case. -/
def textAnyCase (s : String) : Pattern := ofChars anyCase s.toList

/-- Whether the character at an end of a place is a word character. -/
def touchesWord (c : Option Char) : Bool := c.any Text.isWord

/-- Whether the empty piece fits between the character `before` and the text `after`. -/
def fitsEmpty (before : Option Char) (after : List Char) : Pattern → Bool
  | empty => true
  | one _ => false
  | wordBoundary => touchesWord before != touchesWord after.head?
  | textStart => before.isNone
  | textEnd => after == [] || after == ['\n']
  | seq p q => p.fitsEmpty before after && q.fitsEmpty before after
  | alt p q => p.fitsEmpty before after || q.fitsEmpty before after
  | star _ => true

/-- The sequence of two patterns, without an empty first part. -/
def followedBy (p q : Pattern) : Pattern :=
  match p with
  | empty => q
  | p => seq p q

/-- What the rest of a piece may have to fit once its first character `c` is taken; the character
`before` and the text `after` stand around `c`. -/
def afterChar (before : Option Char) (c : Char) (after : List Char) : Pattern → List Pattern
  | one k => if k.accepts c then [empty] else []
  | seq p q =>
    let first := (p.afterChar before c after).map fun p => p.followedBy q
    if p.fitsEmpty before (c :: after) then first ++ q.afterChar before c after else first
  | alt p q => p.afterChar before c after ++ q.afterChar before c after
  | star p => (p.afterChar before c after).map fun q => q.followedBy (star p)
  | _ => []

/-- Adds a pattern to a set of patterns kept as a list. -/
def insertNew (p : Pattern) (l : List Pattern) : List Pattern := if p ∈ l then l else p :: l

/-- What may remain to be fitted behind `c`. -/
def advance (before : Option Char) (c : Char) (after : List Char) (live : List Pattern) :
    List Pattern :=
  live.foldl (fun next p => (p.afterChar before c after).foldl (fun l q => insertNew q l) next) []

/-- Whether a piece that has begun, and has one of `begun` left to fit, or a piece that begins
later fits `p`. -/
def search (p : Pattern) (begun : List Pattern) (before : Option Char) : List Char → Bool
  | [] => (insertNew p begun).any fun q => q.fitsEmpty before []
  | c :: after =>
    let live := insertNew p begun
    if live.any fun q => q.fitsEmpty before (c :: after) then true
    else search p (advance before c after live) (some c) after

/-- Whether some piece of the text fits. -/
def occursIn (p : Pattern) (l : List Char) : Bool := p.search [] none l

end Pattern

end PatchTriage
