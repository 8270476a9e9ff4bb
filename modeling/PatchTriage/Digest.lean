import PatchTriage.Text.Hex

/-!
# Digests of texts

A diff is named in logs and reports by the first twelve hexadecimal digits of the SHA-256 digest
of its UTF-8 text.
-/

namespace PatchTriage.Digest

/-- The round constants: the fractional parts of the cube roots of the first 64 primes. -/
def roundConstants : Array UInt32 := #[
  0x428a2f98, 0x71374491, 0xb5c0fbcf, 0xe9b5dba5, 0x3956c25b, 0x59f111f1, 0x923f82a4, 0xab1c5ed5,
  0xd807aa98, 0x12835b01, 0x243185be, 0x550c7dc3, 0x72be5d74, 0x80deb1fe, 0x9bdc06a7, 0xc19bf174,
  0xe49b69c1, 0xefbe4786, 0x0fc19dc6, 0x240ca1cc, 0x2de92c6f, 0x4a7484aa, 0x5cb0a9dc, 0x76f988da,
  0x983e5152, 0xa831c66d, 0xb00327c8, 0xbf597fc7, 0xc6e00bf3, 0xd5a79147, 0x06ca6351, 0x14292967,
  0x27b70a85, 0x2e1b2138, 0x4d2c6dfc, 0x53380d13, 0x650a7354, 0x766a0abb, 0x81c2c92e, 0x92722c85,
  0xa2bfe8a1, 0xa81a664b, 0xc24b8b70, 0xc76c51a3, 0xd192e819, 0xd6990624, 0xf40e3585, 0x106aa070,
  0x19a4c116, 0x1e376c08, 0x2748774c, 0x34b0bcb5, 0x391c0cb3, 0x4ed8aa4a, 0x5b9cca4f, 0x682e6ff3,
  0x748f82ee, 0x78a5636f, 0x84c87814, 0x8cc70208, 0x90befffa, 0xa4506ceb, 0xbef9a3f7, 0xc67178f2]

/-- The eight words of a running digest. -/
structure Chain where
  a : UInt32
  b : UInt32
  c : UInt32
  d : UInt32
  e : UInt32
  f : UInt32
  g : UInt32
  h : UInt32

/-- The chain before the first block: the fractional parts of the square roots of the first eight
primes. -/
def Chain.start : Chain :=
  ⟨0x6a09e667, 0xbb67ae85, 0x3c6ef372, 0xa54ff53a, 0x510e527f, 0x9b05688c, 0x1f83d9ab, 0x5be0cd19⟩

/-- Rotates the bits of a word to the right. -/
def rotate (x : UInt32) (n : UInt32) : UInt32 := (x >>> n) ||| (x <<< (32 - n))

/-- One round on a word of the message and its constant. -/
def Chain.round (s : Chain) (word constant : UInt32) : Chain :=
  let mixE := rotate s.e 6 ^^^ rotate s.e 11 ^^^ rotate s.e 25
  let choice := (s.e &&& s.f) ^^^ (~~~s.e &&& s.g)
  let first := s.h + mixE + choice + constant + word
  let mixA := rotate s.a 2 ^^^ rotate s.a 13 ^^^ rotate s.a 22
  let majority := (s.a &&& s.b) ^^^ (s.a &&& s.c) ^^^ (s.b &&& s.c)
  ⟨first + (mixA + majority), s.a, s.b, s.c, s.d + first, s.e, s.f, s.g⟩

/-- The wordwise sum of two chains. -/
def Chain.add (s t : Chain) : Chain :=
  ⟨s.a + t.a, s.b + t.b, s.c + t.c, s.d + t.d, s.e + t.e, s.f + t.f, s.g + t.g, s.h + t.h⟩

/-- The 32-bit word that starts at a byte. -/
def wordAt (bytes : ByteArray) (i : Nat) : UInt32 :=
  let byte (k : Nat) : UInt32 := ((bytes[i + k]?).getD 0).toUInt32
  (byte 0 <<< 24) ||| (byte 1 <<< 16) ||| (byte 2 <<< 8) ||| byte 3

/-- Extends the sixteen words of a block by one more word. -/
def extend (words : Array UInt32) : Array UInt32 :=
  let back (k : Nat) : UInt32 := words.getD (words.size - k) 0
  let x := back 15
  let y := back 2
  let s0 := rotate x 7 ^^^ rotate x 18 ^^^ (x >>> 3)
  let s1 := rotate y 17 ^^^ rotate y 19 ^^^ (y >>> 10)
  words.push (back 16 + s0 + back 7 + s1)

/-- The message schedule of the block that starts at a byte. -/
def schedule (bytes : ByteArray) (start : Nat) : Array UInt32 :=
  let first := (List.range 16).foldl (fun words k => words.push (wordAt bytes (start + 4 * k))) #[]
  (List.range 48).foldl (fun words _ => extend words) first

/-- Takes one block into the digest. -/
def Chain.block (s : Chain) (bytes : ByteArray) (start : Nat) : Chain :=
  let words := schedule bytes start
  let final := (List.range 64).foldl
    (fun s k => Chain.round s (words.getD k 0) (roundConstants.getD k 0)) s
  s.add final

/-- The message with its end mark, zeros up to a block less eight bytes, and its length in bits. -/
def padded (bytes : ByteArray) : ByteArray :=
  let zeros := (119 - bytes.size % 64) % 64
  let bits := 8 * bytes.size
  let bytes := (List.range zeros).foldl (fun b _ => b.push 0) (bytes.push 0x80)
  (List.range 8).foldl (fun b k => b.push (UInt8.ofNat (bits >>> (8 * (7 - k))))) bytes

/-- The digest of a message. -/
def sha256 (bytes : ByteArray) : Chain :=
  let message := padded bytes
  (List.range (message.size / 64)).foldl (fun s k => s.block message (64 * k)) Chain.start

/-- The words of a digest in order. -/
def Chain.words (s : Chain) : List UInt32 := [s.a, s.b, s.c, s.d, s.e, s.f, s.g, s.h]

/-- The digest in hexadecimal. -/
def Chain.hex (s : Chain) : List Char := s.words.flatMap fun w => Text.hex 8 w.toNat

/-- The short name of a text: the first twelve digits of its digest. -/
def short (text : String) : String := String.ofList ((sha256 text.toUTF8).hex.take 12)

end PatchTriage.Digest
