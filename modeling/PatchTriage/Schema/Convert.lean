import PatchTriage.Json.Reader
import PatchTriage.Schema.Checked
import PatchTriage.Text.Blank
import PatchTriage.Text.Lines

/-!
# Conversions

The values of fields are converted leniently: a number may be written as a text, a whole number as
a number with a point, a truth value as a number or a word. Only texts are never made of other
values. A conversion that fails says whether the value was of a wrong kind or could not be read.
-/

namespace PatchTriage.Convert

/-- A text. -/
def text : Json → Checked String
  | .text s => .valid s
  | _ => .refuse .notText

/-! ### Integers -/

/-- Whether underscores stand between other characters only, one at a time. -/
def underscoresSeparate (l : List Char) : Bool :=
  (Text.splitOn '_' l).all fun piece => !piece.isEmpty

/-- The text without its underscores. -/
def withoutUnderscores (l : List Char) : List Char := l.filter (· != '_')

/-- Drops the zeros in front, with the underscores among them, but for the last zero of a numeral
that has no other digit before its point. A minus sign may stand behind such zeros. -/
def dropLeadingZeros (l : List Char) : Option (List Char) :=
  let isStart := fun c => Json.isAsciiDigit c || c == '-'
  match l with
  | '0' :: _ =>
    let zeros := l.takeWhile fun c => c == '0' || c == '_'
    match l.dropWhile fun c => c == '0' || c == '_' with
    | [] => zeros.getLast?.map ([·])
    | '.' :: rest => zeros.getLast?.map (· :: '.' :: rest)
    | c :: rest => if isStart c then some (c :: rest) else none
  | c :: _ => if isStart c then some l else none
  | [] => none

/-- Drops a point with zeros, and nothing but zeros, behind it. -/
def dropEmptyFraction (l : List Char) : List Char :=
  match l.dropWhile (· != '.') with
  | _ :: c :: fraction =>
    if (c :: fraction).all (· == '0') then l.takeWhile (· != '.') else l
  | _ => l

/-- The greatest number of digits of a numeral that is read. -/
def maxDigits : Nat := 4300

/-- The outcome of reading a bare numeral. -/
inductive BareNumeral where
  | value (n : Int)
  | oversized
  | malformed

/-- Reads a bare numeral: an optional minus sign and digits, the first of which is no zero unless
it stands alone or behind the sign. Digits that are too many are noticed before anything behind
them is. -/
def readBare (l : List Char) : BareNumeral :=
  let (negative, l) := match l with
    | '-' :: rest => (true, rest)
    | l => (false, l)
  let digits := l.takeWhile Json.isAsciiDigit
  let leadingZero := digits.head? == some '0' && digits.length != 1
  if leadingZero && !negative then .malformed
  else if maxDigits < digits.length then .oversized
  else if digits.isEmpty || digits.length < l.length then .malformed
  else .value (if negative then -(Json.asciiValue digits : Int) else Json.asciiValue digits)

/-- The bare numeral that a text stands for: blanks around it, a plus sign, zeros in front, an
empty fraction and underscores that separate digits are dropped. -/
def bareNumeral? (l : List Char) : Option (List Char) := do
  let l := Text.trimBy Text.isUnicodeSpace l
  let l := if l.head? == some '+' && l[1]? != some '-' then l.drop 1 else l
  let l := dropEmptyFraction (← dropLeadingZeros l)
  some (if underscoresSeparate l then withoutUnderscores l else l)

/-- The integer that a text stands for. -/
def integerOfText (l : List Char) : Checked Int :=
  match readBare l with
  | .value n => .valid n
  | .oversized => .refuse .oversizedInteger
  | .malformed =>
    match (bareNumeral? l).map readBare with
    | some (.value n) => .valid n
    | _ => .refuse .unreadableInteger

/-- Whether a number stands for an integer of 64 bits; the limits themselves do not. -/
def fitsWord (x : Binary64) : Bool :=
  x.isWhole && x.magnitude < (Binary64.ofInt 9223372036854775808).magnitude

/-- An integer. -/
def integer : Json → Checked Int
  | .int n => .valid n
  | .bool b => .valid (if b then 1 else 0)
  | .real x =>
    if !x.isWhole then .refuse .fractional
    else if fitsWord x then .valid x.toInt
    else .refuse .oversizedInteger
  | .text s => integerOfText s.toList
  | _ => .refuse .notInteger

/-! ### Numbers -/

/-- A value that stands for infinity: beyond every bound. -/
def beyondBounds (negative : Bool) : Binary64 := .ofDecimal negative 1 400

/-- The number that a word stands for. What is no number at all is taken for the greatest one, as
it is not at most any bound. -/
def wordValue? (l : List Char) : Option Binary64 :=
  let (negative, word) := Json.splitSign l
  match String.ofList (word.map Char.toLower) with
  | "inf" | "infinity" => some (beyondBounds negative)
  | "nan" => some (beyondBounds false)
  | _ => none

/-- The number that a plain text stands for. -/
def plainNumber? (l : List Char) : Option Binary64 :=
  ((Json.readNumeral? l).map Json.Numeral.toBinary64).orElse fun _ => wordValue? l

/-- The number that a text stands for: blanks around it are dropped, or else underscores inside
it. -/
def numberOfText (l : List Char) : Checked Binary64 :=
  let trimmed := Text.trimBy Text.isUnicodeSpace l
  let found := (plainNumber? trimmed).orElse fun _ =>
    if underscoresSeparate l then plainNumber? (withoutUnderscores l) else none
  match found with
  | some x => .valid x
  | none => .refuse .unreadableNumber

/-- A number. -/
def number : Json → Checked Binary64
  | .real x => .valid x
  | .int n => (Binary64.ofInt? n).elim (.refuse .notNumber) .valid
  | .bool b => .valid (if b then 1 else 0)
  | .text s => numberOfText s.toList
  | _ => .refuse .notNumber

/-- A score between zero and one. -/
def score (v : Json) : Checked Binary64 := (number v).require scoreProblem?

/-! ### Truth values -/

/-- The words for true. -/
def trueWords : List String := ["1", "on", "t", "true", "y", "yes"]

/-- The words for false. -/
def falseWords : List String := ["0", "off", "f", "false", "n", "no"]

/-- The truth value that a text stands for, in ASCII letters of either case. -/
def booleanOfText (s : String) : Checked Bool :=
  let word := String.ofList (s.toList.map Char.toLower)
  if trueWords.contains word then .valid true
  else if falseWords.contains word then .valid false
  else .refuse .unreadableBoolean

/-- Whether an integer has 64 bits. -/
def isWord (n : Int) : Bool := -9223372036854775808 ≤ n && n ≤ 9223372036854775807

/-- The truth value that an integer stands for. -/
def booleanOfInteger (n : Int) : Checked Bool :=
  if n = 0 then .valid false else if n = 1 then .valid true else .refuse .unreadableBoolean

/-- A truth value. -/
def boolean : Json → Checked Bool
  | .bool b => .valid b
  | .int n => if isWord n then booleanOfInteger n else .refuse .notBoolean
  | .real x => if fitsWord x then booleanOfInteger x.toInt else .refuse .notBoolean
  | .text s => booleanOfText s
  | _ => .refuse .notBoolean

/-! ### Bounds and members -/

/-- An integer from `bound` up. -/
def atLeast (bound : Int) (v : Json) : Checked Int :=
  (integer v).require fun n => if n < bound then some (.notAtLeast bound) else none

/-- An integer above `bound`. -/
def above (bound : Int) (v : Json) : Checked Int :=
  (integer v).require fun n => if n ≤ bound then some (.notAbove bound) else none

/-- A natural number. -/
def count (v : Json) : Checked Nat := Int.toNat <$> atLeast 0 v

/-- One of several named values. -/
def member {α : Type} (options : List α) (name : α → String) (v : Json) : Checked α :=
  let found :=
    match v with
    | .text s => options.find? fun option => name option == s
    | _ => none
  match found with
  | some option => .valid option
  | none => .refuse (.notMember (options.map name))

/-! ### Containers -/

/-- An object, its values as they are. -/
def object : Json → Checked Fields
  | .object fields => .valid fields
  | _ => .refuse .notObject

/-- An object whose values are converted. -/
def table {α : Type} (convert : Json → Checked α) (v : Json) : Checked (Table String α) :=
  (object v).andThen fun fields =>
    .all (fields.map fun e => (e.1, ·) <$> (convert e.2).within e.1)

/-- A list whose items are converted. -/
def list {α : Type} (convert : Json → Checked α) : Json → Checked (List α)
  | .array items =>
    .all (items.zipIdx.map fun (v, position) => (convert v).within (toString position))
  | _ => .refuse .notList

/-- A value that may be null. -/
def orNull {α : Type} (convert : Json → Checked α) : Json → Checked (Option α)
  | .null => .valid none
  | v => some <$> convert v

/-- A record of a name. -/
def record {α : Type} (name : String) (convert : Fields → Checked α) : Json → Checked α
  | .object fields => convert fields
  | _ => .refuse (.notRecord name)

/-- A field that has to be there. -/
def field {α : Type} (fields : Fields) (name : String) (convert : Json → Checked α) : Checked α :=
  match Table.get? fields name with
  | some v => (convert v).within name
  | none => (Checked.refuse .missing).within name

/-- A field with a value for when it is not there. -/
def fieldOr {α : Type} (fields : Fields) (name : String) (default : α)
    (convert : Json → Checked α) : Checked α :=
  match Table.get? fields name with
  | some v => (convert v).within name
  | none => .valid default

end PatchTriage.Convert
