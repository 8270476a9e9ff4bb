/-!
# Reading bytes as text

Bytes are read as UTF-8. Where they are none, a replacement character stands for each longest run
of bytes that begins a character and is then broken off, and for each byte that begins none. A
carriage return, alone or before a line feed, is a line feed.
-/

namespace PatchTriage.Text

/-- A character that has begun. -/
structure Pending where
  /-- How many bytes are due. -/
  due : Nat
  /-- The least value of the next byte. -/
  low : Nat
  /-- The greatest value of the next byte. -/
  high : Nat
  /-- The bits so far. -/
  bits : Nat

/-- What the first byte of a character of several bytes says. -/
def Pending.ofLead? (b : Nat) : Option Pending :=
  if b < 0xC2 then none
  else if b < 0xE0 then some ⟨1, 0x80, 0xBF, b - 0xC0⟩
  else if b = 0xE0 then some ⟨2, 0xA0, 0xBF, 0⟩
  else if b = 0xED then some ⟨2, 0x80, 0x9F, 0xD⟩
  else if b < 0xF0 then some ⟨2, 0x80, 0xBF, b - 0xE0⟩
  else if b = 0xF0 then some ⟨3, 0x90, 0xBF, 0⟩
  else if b < 0xF4 then some ⟨3, 0x80, 0xBF, b - 0xF0⟩
  else if b = 0xF4 then some ⟨3, 0x80, 0x8F, 4⟩
  else none

/-- The state of reading: the character that has begun, if one has, and the characters so far,
newest first. -/
structure Decoding where
  pending : Option Pending := none
  done : List Char := []

namespace Decoding

/-- The character that stands for bytes that are no character. -/
def replacement : Char := Char.ofNat 0xFFFD

/-- Takes in a byte that begins a character. -/
def start (done : List Char) (b : Nat) : Decoding :=
  if b < 0x80 then { done := Char.ofNat b :: done }
  else
    match Pending.ofLead? b with
    | some p => { pending := some p, done }
    | none => { done := replacement :: done }

/-- Takes in a byte. -/
def step (d : Decoding) (byte : UInt8) : Decoding :=
  let b := byte.toNat
  match d.pending with
  | none => start d.done b
  | some p =>
    if p.low ≤ b ∧ b ≤ p.high then
      let bits := 64 * p.bits + (b - 0x80)
      if p.due ≤ 1 then { done := Char.ofNat bits :: d.done }
      else { d with pending := some ⟨p.due - 1, 0x80, 0xBF, bits⟩ }
    else start (replacement :: d.done) b

/-- The characters read, newest first, once no byte follows. -/
def finish (d : Decoding) : List Char :=
  match d.pending with
  | some _ => replacement :: d.done
  | none => d.done

end Decoding

/-- The characters of bytes. -/
def decode (bytes : List UInt8) : List Char :=
  (bytes.foldl Decoding.step {}).finish.reverse

/-- Adds a character to a text kept newest first, `afterReturn` saying whether the last one was a
carriage return. -/
def feedStep (state : Bool × List Char) (c : Char) : Bool × List Char :=
  if c = '\r' then (true, '\n' :: state.2)
  else if c = '\n' ∧ state.1 then (false, state.2)
  else (false, c :: state.2)

/-- The text with a line feed for every carriage return, alone or before a line feed. -/
def uniformFeeds (l : List Char) : List Char := (l.foldl feedStep (false, [])).2.reverse

/-- The text of a file with these bytes. -/
def ofBytes (bytes : List UInt8) : String := String.ofList (uniformFeeds (decode bytes))

end PatchTriage.Text
