import PatchTriage.Json.Numeral
import PatchTriage.Template.Directive

/-!
# Filling templates

A template is a text with directives: a percent sign, perhaps a name in brackets, flags, a width, a
precision and a letter. A doubled percent sign is a percent sign. Values are either taken one after
another, and then every one has to be used, or looked up by the names in the directives; an
asterisk takes a width or a precision from the next value. A template is filled from left to right,
and the first misfit ends it.
-/

namespace PatchTriage.Template

/-- What a template is filled from. -/
structure Supply where
  /-- The values to be taken next. -/
  next : List Value
  /-- Looks up the value of a name, where values have names. -/
  named? : Option (String → Option Value) := none

namespace Supply

/-- Values to be taken one after another. -/
def inOrder (l : List Value) : Supply := { next := l }

/-- Values with names. Taken as one, they are the value `all`. -/
def byName (all : Value) (lookUp : String → Option Value) : Supply :=
  { next := [all], named? := some lookUp }

end Supply

/-- What is left while a template is being filled. -/
structure Rest where
  text : List Char
  supply : Supply

/-- A step in filling a template. -/
abbrev Step := StateT Rest (Except Misfit)

namespace Step

/-- Takes the next value. -/
def value : Step Value := do
  let rest ← get
  match rest.supply.next with
  | [] => throw .tooFew
  | v :: next =>
    set { rest with supply := { rest.supply with next } }
    return v

/-- The characters of a class that come next. -/
def span (p : Char → Bool) : Step (List Char) := do
  let rest ← get
  set { rest with text := rest.text.dropWhile p }
  return rest.text.takeWhile p

/-- Takes a character if it comes next. -/
def accept (p : Char → Bool) : Step Bool := do
  let rest ← get
  match rest.text with
  | c :: text =>
    if p c then
      set { rest with text }
      return true
    else return false
  | [] => return false

/-- The name up to the bracket that closes it; brackets in it are paired. -/
def closing? (depth : Nat) : List Char → Option (List Char × List Char)
  | [] => none
  | ')' :: rest =>
    match depth with
    | 0 => some ([], rest)
    | depth + 1 => (closing? depth rest).map fun (name, rest) => (')' :: name, rest)
  | '(' :: rest => (closing? (depth + 1) rest).map fun (name, rest) => ('(' :: name, rest)
  | c :: rest => (closing? depth rest).map fun (name, rest) => (c :: name, rest)

/-- Takes the name of a value, if there is one, and makes its value the only one to be taken. -/
def name : Step Unit := do
  if ← accept (· == '(') then
    let rest ← get
    match rest.supply.named?, closing? 0 rest.text with
    | none, _ => throw .unnamed
    | some _, none => throw .cutOffName
    | some lookUp, some (name, text) =>
      let name := String.ofList name
      match lookUp name with
      | some v => set { rest with text, supply := { rest.supply with next := [v] } }
      | none => throw (.missing name)

/-- The greatest machine integers for widths and for precisions. -/
def maxWidth : Nat := 9223372036854775807

/-- The greatest machine integer for precisions. -/
def maxPrecision : Nat := 2147483647

/-- Takes a number: an asterisk that stands for the next value, or digits. -/
def number (limit : Nat) (word : String) (tooBig : Misfit) : Step (Option Int) := do
  if ← accept (· == '*') then
    match (← value).whole? with
    | none => throw .starNotInteger
    | some n =>
      if -(limit : Int) - 1 ≤ n ∧ n ≤ limit then return some n else throw (.starTooLarge word)
  else
    let digits ← span Json.isAsciiDigit
    if digits.isEmpty then return none
    else if limit < Json.asciiValue digits then throw tooBig
    else return some (Json.asciiValue digits)

/-- Whether a character is a flag. -/
def isFlag (c : Char) : Bool := c == '-' || c == '+' || c == ' ' || c == '#' || c == '0'

/-- Whether a character says how wide a number is in memory, which makes no difference. -/
def isLength (c : Char) : Bool := c == 'h' || c == 'l' || c == 'L'

/-- Takes a directive behind its percent sign. -/
def directive : Step Directive := do
  name
  let flags ← span isFlag
  let width := (← number maxWidth "ssize_t" .widthTooBig).getD 0
  let precision ←
    if ← accept (· == '.') then
      pure (some ((← number maxPrecision "int" .precisionTooBig).getD 0).toNat)
    else pure none
  let _ ← accept isLength
  let rest ← get
  match rest.text with
  | [] => throw .cutOff
  | letter :: text =>
    set { rest with text }
    return {
      leftAligned := flags.contains '-' || width < 0
      plusSign := flags.contains '+', blankSign := flags.contains ' '
      alternative := flags.contains '#', zeroFilled := flags.contains '0'
      width := width.natAbs, precision, letter }

end Step

/-- Fills a template of `total` characters; `done` holds the text so far, newest first, and the
first argument bounds the number of steps. -/
def fillFrom (total : Nat) : Nat → List Char → Rest → Except Misfit (List Char × Supply)
  | 0, done, rest => .ok (done, rest.supply)
  | steps + 1, done, rest =>
    match rest.text with
    | [] => .ok (done, rest.supply)
    | ['%'] => .error .cutOff
    | '%' :: '%' :: text => fillFrom total steps ('%' :: done) { rest with text }
    | '%' :: text =>
      let filled : Step (List Char) := do
        let d ← Step.directive
        let position := total - (← get).text.length - 1
        d.lay position (← Step.value)
      match filled.run { rest with text } with
      | .ok (l, rest) => fillFrom total steps (l.reverse ++ done) rest
      | .error e => .error e
    | c :: text => fillFrom total steps (c :: done) { rest with text }

/-- Fills a template. Values that are taken in order have to be used up. -/
def fill (template : String) (supply : Supply) : Except Misfit String :=
  let text := template.toList
  match fillFrom text.length text.length [] { text, supply } with
  | .ok (done, rest) =>
    if rest.named?.isNone && !rest.next.isEmpty then .error .tooMany
    else .ok (String.ofList done.reverse)
  | .error e => .error e

end PatchTriage.Template
