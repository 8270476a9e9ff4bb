import PatchTriage.Json.Numeral
import PatchTriage.Text.Hex

/-!
# Tokens of JSON

The first pass over a JSON text: a fold over its characters that cuts them into marks, texts and
words. Escaped 16-bit units are put together in pairs, and one without its partner is replaced.
-/

namespace PatchTriage.Json

/-- A token of a JSON text. -/
inductive Token where
  | leftBrace
  | rightBrace
  | leftBracket
  | rightBracket
  | colon
  | comma
  | value (v : Json)

/-- Where the first pass stands. Characters and tokens read so far are kept newest first, and
`high` is a leading 16-bit unit that waits for its partner. -/
inductive Scan where
  | between
  | inText (high : Option Nat) (done : List Char)
  | escape (high : Option Nat) (done : List Char)
  | inUnit (high : Option Nat) (digits value : Nat) (done : List Char)
  | inWord (done : List Char)
  | failed

/-- The replacement for a 16-bit unit without its partner. -/
def replacement : Char := Char.ofNat 0xFFFD

/-- The characters read so far once no partner comes for `high`. -/
def settle (high : Option Nat) (done : List Char) : List Char :=
  if high.isSome then replacement :: done else done

/-- Takes in a complete 16-bit unit. -/
def takeUnit (high : Option Nat) (n : Nat) (done : List Char) : Scan :=
  if 0xD800 ≤ n ∧ n < 0xDC00 then .inText (some n) (settle high done)
  else if 0xDC00 ≤ n ∧ n < 0xE000 then
    match high with
    | some h => .inText none (Char.ofNat (0x10000 + (h - 0xD800) * 0x400 + (n - 0xDC00)) :: done)
    | none => .inText none (replacement :: done)
  else .inText none (Char.ofNat n :: settle high done)

/-- The character that a letter behind a backslash stands for. -/
def escapeLetter? (c : Char) : Option Char :=
  match c with
  | '"' => some '"'
  | '\\' => some '\\'
  | '/' => some '/'
  | 'b' => some (Char.ofNat 8)
  | 'f' => some (Char.ofNat 12)
  | 'n' => some '\n'
  | 'r' => some '\r'
  | 't' => some '\t'
  | _ => none

/-- A character that is a token by itself. -/
def mark? (c : Char) : Option Token :=
  match c with
  | '{' => some .leftBrace
  | '}' => some .rightBrace
  | '[' => some .leftBracket
  | ']' => some .rightBracket
  | ':' => some .colon
  | ',' => some .comma
  | _ => none

/-- Whether a character separates tokens. -/
def isGap (c : Char) : Bool := c == ' ' || c == '\n' || c == '\r' || c == '\t'

/-- Reads a character between tokens. -/
def scanBetween (tokens : List Token) (c : Char) : Scan × List Token :=
  if isGap c then (.between, tokens)
  else if c = '"' then (.inText none [], tokens)
  else
    match mark? c with
    | some t => (.between, t :: tokens)
    | none => (.inWord [c], tokens)

/-- Closes the word that ends here. -/
def closeWord (tokens : List Token) (done : List Char) : Option (List Token) :=
  (word? done.reverse).map fun v => .value v :: tokens

/-- One step of the first pass. -/
def scanStep : Scan × List Token → Char → Scan × List Token
  | (.between, tokens), c => scanBetween tokens c
  | (.inText high done, tokens), c =>
    if c = '"' then (.between, .value (text (String.ofList (settle high done).reverse)) :: tokens)
    else if c = '\\' then (.escape high done, tokens)
    else (.inText none (c :: settle high done), tokens)
  | (.escape high done, tokens), c =>
    if c = 'u' then (.inUnit high 0 0 done, tokens)
    else
      match escapeLetter? c with
      | some d => (.inText none (d :: settle high done), tokens)
      | none => (.failed, tokens)
  | (.inUnit high digits value done, tokens), c =>
    match Text.hexValue? c with
    | some d =>
      if digits = 3 then (takeUnit high (16 * value + d) done, tokens)
      else (.inUnit high (digits + 1) (16 * value + d) done, tokens)
    | none => (.failed, tokens)
  | (.inWord done, tokens), c =>
    if isGap c || c == '"' || (mark? c).isSome then
      match closeWord tokens done with
      | some tokens => scanBetween tokens c
      | none => (.failed, tokens)
    else (.inWord (c :: done), tokens)
  | (.failed, tokens), _ => (.failed, tokens)

/-- The tokens of a text. -/
def tokens? (l : List Char) : Option (List Token) :=
  match l.foldl scanStep (.between, []) with
  | (.between, tokens) => some tokens.reverse
  | (.inWord done, tokens) => (closeWord tokens done).map List.reverse
  | _ => none

end PatchTriage.Json
