import PatchTriage.Proofs.Text.Split
import PatchTriage.Proofs.Text.Written
import PatchTriage.Text.Utf8

/-!
# Texts read from their bytes

The bytes of a text are read back as its characters (`decode_flatMap_utf8EncodeChar`), and then its
line ends are made uniform (`ofBytes_toUTF8`). A carriage return does not survive that
(`return_not_mem_uniformBehind`), so a text is read back as it is exactly if it holds none
(`asRead_eq_iff`). Where every carriage return stands right before a line feed
(`ReturnsBeforeFeeds`), the lines stay what they are (`lines_asRead`); one that stands alone becomes
the end of a line.
-/

namespace PatchTriage.Text

/-! ## Characters and their bytes -/

namespace Decoding

/-- A byte that begins a character of several bytes says how many are due. -/
theorem step_lead {p : Pending} {b : Nat} (hascii : 0x80 ≤ b) (hb : b < 256)
    (h : Pending.ofLead? b = some p) (done : List Char) :
    step { done } (UInt8.ofNat b) = { pending := some p, done } := by
  simp only [step, start]
  rw [UInt8.toNat_ofNat_of_lt' hb, if_neg (Nat.not_lt.2 hascii), h]

section
variable {low high bits x : Nat} (hx : x < 64) (hlow : low ≤ x + 128) (hhigh : x + 128 ≤ high)
include hx hlow hhigh

/-- A byte in the middle of a character adds its bits. -/
theorem step_more (due : Nat) (done : List Char) :
    step { pending := some ⟨due + 2, low, high, bits⟩, done } (UInt8.ofNat (x + 128)) =
      { pending := some ⟨due + 1, 0x80, 0xBF, 64 * bits + x⟩, done } := by
  simp only [step]
  rw [UInt8.toNat_ofNat_of_lt' (by omega : x + 128 < 256), if_pos ⟨hlow, hhigh⟩, if_neg (by omega),
    Nat.add_sub_cancel]
  rfl

/-- The last byte of a character completes it. -/
theorem step_last (done : List Char) :
    step { pending := some ⟨1, low, high, bits⟩, done } (UInt8.ofNat (x + 128)) =
      { done := Char.ofNat (64 * bits + x) :: done } := by
  simp only [step]
  rw [UInt8.toNat_ofNat_of_lt' (by omega : x + 128 < 256), if_pos ⟨hlow, hhigh⟩,
    if_pos (Nat.le_refl 1), Nat.add_sub_cancel]

end

end Decoding

/-- The first of two bytes. -/
theorem Pending.ofLead?_two {n : Nat} (h : 0x80 ≤ n) (h' : n ≤ 0x7FF) :
    ofLead? (n / 64 % 32 + 192) = some ⟨1, 0x80, 0xBF, n / 64⟩ := by
  have hbits : n / 64 % 32 + 192 - 0xC0 = n / 64 := by omega
  rw [ofLead?, if_neg (by omega), if_pos (by omega), hbits]

/-- The first of three bytes bounds the second one, so that no character is written with more bytes
than it needs, and none stands for half of a pair. -/
theorem Pending.ofLead?_three {n : Nat} (h : 0x800 ≤ n) (h' : n ≤ 0xFFFF)
    (hpair : n < 0xD800 ∨ 0xDFFF < n) :
    ∃ low high, ofLead? (n / 4096 % 16 + 224) = some ⟨2, low, high, n / 4096⟩ ∧
      low ≤ n / 64 % 64 + 128 ∧ n / 64 % 64 + 128 ≤ high := by
  rw [ofLead?, if_neg (by omega), if_neg (by omega)]
  by_cases hfirst : n / 4096 % 16 + 224 = 0xE0
  · have hbits : n / 4096 = 0 := by omega
    rw [if_pos hfirst, hbits]
    exact ⟨_, _, rfl, by omega, by omega⟩
  · rw [if_neg hfirst]
    by_cases hpairs : n / 4096 % 16 + 224 = 0xED
    · have hbits : n / 4096 = 0xD := by omega
      rw [if_pos hpairs, hbits]
      exact ⟨_, _, rfl, by omega, by omega⟩
    · have hbits : n / 4096 % 16 + 224 - 0xE0 = n / 4096 := by omega
      rw [if_neg hpairs, if_pos (by omega), hbits]
      exact ⟨_, _, rfl, by omega, by omega⟩

/-- The first of four bytes bounds the second one, so that no character lies beyond the last. -/
theorem Pending.ofLead?_four {n : Nat} (h : 0x10000 ≤ n) (h' : n < 0x110000) :
    ∃ low high, ofLead? (n / 262144 % 8 + 240) = some ⟨3, low, high, n / 262144⟩ ∧
      low ≤ n / 4096 % 64 + 128 ∧ n / 4096 % 64 + 128 ≤ high := by
  rw [ofLead?, if_neg (by omega), if_neg (by omega), if_neg (by omega), if_neg (by omega),
    if_neg (by omega)]
  by_cases hfirst : n / 262144 % 8 + 240 = 0xF0
  · have hbits : n / 262144 = 0 := by omega
    rw [if_pos hfirst, hbits]
    exact ⟨_, _, rfl, by omega, by omega⟩
  · rw [if_neg hfirst]
    by_cases hlast : n / 262144 % 8 + 240 < 0xF4
    · have hbits : n / 262144 % 8 + 240 - 0xF0 = n / 262144 := by omega
      rw [if_pos hlast, hbits]
      exact ⟨_, _, rfl, by omega, by omega⟩
    · have hbits : n / 262144 = 4 := by omega
      rw [if_neg hlast, if_pos (by omega), hbits]
      exact ⟨_, _, rfl, by omega, by omega⟩

/-- The bytes of a character are read as that character. -/
theorem foldl_step_utf8EncodeChar (c : Char) (done : List Char) :
    (String.utf8EncodeChar c).foldl Decoding.step { done } = { done := c :: done } := by
  have hvalid : c.toNat < 0xD800 ∨ 0xDFFF < c.toNat ∧ c.toNat < 0x110000 := c.valid
  have hchar : Char.ofNat c.toNat = c := Char.ofNat_toNat c
  have hencode : String.utf8EncodeChar c =
      if c.toNat ≤ 127 then [UInt8.ofNat c.toNat]
      else if c.toNat ≤ 2047 then
        [UInt8.ofNat (c.toNat / 64 % 32 + 192), UInt8.ofNat (c.toNat % 64 + 128)]
      else if c.toNat ≤ 65535 then
        [UInt8.ofNat (c.toNat / 4096 % 16 + 224), UInt8.ofNat (c.toNat / 64 % 64 + 128),
          UInt8.ofNat (c.toNat % 64 + 128)]
      else
        [UInt8.ofNat (c.toNat / 262144 % 8 + 240), UInt8.ofNat (c.toNat / 4096 % 64 + 128),
          UInt8.ofNat (c.toNat / 64 % 64 + 128), UInt8.ofNat (c.toNat % 64 + 128)] := rfl
  rw [hencode]
  generalize c.toNat = n at hvalid hchar
  by_cases hone : n ≤ 127
  · rw [if_pos hone, List.foldl_cons, List.foldl_nil]
    simp only [Decoding.step, Decoding.start]
    rw [UInt8.toNat_ofNat_of_lt' (by omega : n < 256), if_pos (by omega), hchar]
  rw [if_neg hone]
  by_cases htwo : n ≤ 2047
  · have hbits : 64 * (n / 64) + n % 64 = n := Nat.div_add_mod n 64
    rw [if_pos htwo, List.foldl_cons, List.foldl_cons, List.foldl_nil,
      Decoding.step_lead (by omega) (by omega) (Pending.ofLead?_two (by omega) htwo),
      Decoding.step_last (by omega) (by omega) (by omega), hbits, hchar]
  rw [if_neg htwo]
  by_cases hthree : n ≤ 65535
  · obtain ⟨low, high, hlead, hlow, hhigh⟩ :=
      Pending.ofLead?_three (by omega) hthree (hvalid.imp_right And.left)
    have hbits : 64 * (64 * (n / 4096) + n / 64 % 64) + n % 64 = n := by omega
    rw [if_pos hthree, List.foldl_cons, List.foldl_cons, List.foldl_cons, List.foldl_nil,
      Decoding.step_lead (by omega) (by omega) hlead, Decoding.step_more (by omega) hlow hhigh,
      Decoding.step_last (by omega) (by omega) (by omega), hbits, hchar]
  · obtain ⟨low, high, hlead, hlow, hhigh⟩ := Pending.ofLead?_four (n := n) (by omega) (by omega)
    have hbits : 64 * (64 * (64 * (n / 262144) + n / 4096 % 64) + n / 64 % 64) + n % 64 = n := by
      omega
    rw [if_neg hthree, List.foldl_cons, List.foldl_cons, List.foldl_cons, List.foldl_cons,
      List.foldl_nil, Decoding.step_lead (by omega) (by omega) hlead,
      Decoding.step_more (by omega) hlow hhigh,
      Decoding.step_more (by omega) (by omega) (by omega),
      Decoding.step_last (by omega) (by omega) (by omega), hbits, hchar]

/-- **The bytes of characters are read as these.** -/
theorem decode_flatMap_utf8EncodeChar (l : List Char) :
    decode (l.flatMap String.utf8EncodeChar) = l := by
  have hfold (done : List Char) :
      (l.flatMap String.utf8EncodeChar).foldl Decoding.step { done } =
        { done := l.reverse ++ done } := by
    induction l generalizing done with
    | nil => rfl
    | cons c l ih =>
      rw [List.flatMap_cons, List.foldl_append, foldl_step_utf8EncodeChar, ih, List.reverse_cons,
        List.append_assoc]
      rfl
  rw [decode, hfold, Decoding.finish, List.append_nil, List.reverse_reverse]

/-- The bytes of a text are those of its characters. -/
theorem toList_toUTF8 (text : String) :
    text.toUTF8.data.toList = text.toList.flatMap String.utf8EncodeChar := by
  rw [String.toUTF8, ← String.utf8Encode_toList, List.utf8Encode]
  simp

/-! ## Line ends -/

/-- The text with uniform line ends, `afterReturn` saying whether a carriage return stands in front
of it. -/
def uniformBehind (afterReturn : Bool) : List Char → List Char
  | [] => []
  | c :: l =>
    if c = '\r' then '\n' :: uniformBehind true l
    else if c = '\n' ∧ afterReturn then uniformBehind false l
    else c :: uniformBehind false l

/-- Line ends are made uniform from left to right, with no carriage return in front. -/
theorem uniformFeeds_eq (l : List Char) : uniformFeeds l = uniformBehind false l := by
  have hfold (state : Bool × List Char) :
      (l.foldl feedStep state).2.reverse = state.2.reverse ++ uniformBehind state.1 l := by
    induction l generalizing state with
    | nil => exact (List.append_nil _).symm
    | cons c l ih =>
      rw [List.foldl_cons, ih, feedStep, uniformBehind]
      split
      · simp
      · split
        · rfl
        · simp
  exact hfold (false, [])

/-- No carriage return is left where line ends are uniform. -/
theorem return_not_mem_uniformBehind (l : List Char) (afterReturn : Bool) :
    '\r' ∉ uniformBehind afterReturn l := by
  induction l generalizing afterReturn with
  | nil => exact List.not_mem_nil
  | cons c l ih =>
    rw [uniformBehind]
    split
    · exact List.not_mem_cons_of_ne_of_not_mem (by decide) (ih true)
    · next hc =>
      split
      · exact ih false
      · exact List.not_mem_cons_of_ne_of_not_mem (Ne.symm hc) (ih false)

/-- A text without carriage returns has uniform line ends. -/
theorem uniformBehind_of_not_mem {l : List Char} (h : '\r' ∉ l) : uniformBehind false l = l := by
  induction l with
  | nil => rfl
  | cons c l ih =>
    obtain ⟨hc, hl⟩ := not_or.1 (mt List.mem_cons.2 h)
    have hfeed : ¬(c = '\n' ∧ false = true) := fun hand => Bool.false_ne_true hand.2
    rw [uniformBehind, if_neg (Ne.symm hc), if_neg hfeed, ih hl]

/-- A text as it is read from its bytes. -/
def asRead (text : String) : String := String.ofList (uniformFeeds text.toList)

/-- The bytes of a text are read as the text with uniform line ends. -/
theorem ofBytes_toUTF8 (text : String) : ofBytes text.toUTF8.data.toList = asRead text := by
  rw [ofBytes, toList_toUTF8, decode_flatMap_utf8EncodeChar, asRead]

/-- **A text is read as it is** exactly if it holds no carriage return. -/
theorem asRead_eq_iff {text : String} : asRead text = text ↔ '\r' ∉ text.toList := by
  have hlist : asRead text = text ↔ uniformBehind false text.toList = text.toList := by
    rw [asRead, uniformFeeds_eq, ← String.toList_inj, String.toList_ofList]
  rw [hlist]
  constructor
  · intro h
    rw [← h]
    exact return_not_mem_uniformBehind text.toList false
  · exact uniformBehind_of_not_mem

/-! ## What stays of the lines -/

/-- Whether every carriage return stands right before a line feed. -/
def ReturnsBeforeFeeds (l : List Char) : Prop :=
  ∀ front back, l = front ++ '\r' :: back → back.head? = some '\n'

/-- Carriage returns stand before line feeds in a text just if they do at its start and behind. -/
theorem returnsBeforeFeeds_cons {c : Char} {l : List Char} :
    ReturnsBeforeFeeds (c :: l) ↔ (c = '\r' → l.head? = some '\n') ∧ ReturnsBeforeFeeds l := by
  constructor
  · refine fun h => ⟨fun hc => h [] l (by rw [hc, List.nil_append]), fun front back heq => ?_⟩
    exact h (c :: front) back (by rw [heq, List.cons_append])
  · rintro ⟨hfirst, hrest⟩ front back heq
    cases front with
    | nil =>
      obtain ⟨hc, rfl⟩ := List.cons.inj heq
      exact hfirst hc
    | cons d front => exact hrest front back (List.cons.inj heq).2

instance : (l : List Char) → Decidable (ReturnsBeforeFeeds l)
  | [] => isTrue fun front back heq =>
    absurd heq.symm (List.append_ne_nil_of_right_ne_nil front (List.cons_ne_nil '\r' back))
  | _ :: l =>
    have : Decidable (ReturnsBeforeFeeds l) := instDecidableReturnsBeforeFeeds l
    decidable_of_iff' _ returnsBeforeFeeds_cons

/-- A line that does not begin with a carriage return begins with the same character when its last
one is dropped. -/
theorem dropReturn_cons {c : Char} (hc : c ≠ '\r') (line : List Char) :
    dropReturn (c :: line) = c :: dropReturn line := by
  cases line with
  | nil =>
    have hlast : [c].getLast? ≠ some '\r' := fun h => hc (Option.some.inj h)
    exact dropReturn_of_getLast?_ne hlast
  | cons d line =>
    have hdrop : dropReturn ([c] ++ d :: line) = [c] ++ dropReturn (d :: line) :=
      dropReturn_append (List.cons_ne_nil d line)
    exact hdrop

/-- A character that takes no part in an end of a line stands in front of the first line. -/
theorem lines_cons {c : Char} (hreturn : c ≠ '\r') (hfeed : c ≠ '\n') (l : List Char) :
    lines (c :: l) = consFirst c (lines l) := by
  rw [lines, lines, splitOn_cons hfeed]
  cases hl : splitOn '\n' l with
  | nil => exact absurd hl (splitOn_ne_nil '\n' l)
  | cons piece pieces =>
    rw [consFirst, List.map_cons, List.map_cons, consFirst, dropReturn_cons hreturn]

/-- Uniform line ends are ends of the same lines: a carriage return and the line feed that follows
it both become that one. -/
theorem lines_uniformBehind {l : List Char} (h : ReturnsBeforeFeeds l) :
    lines (uniformBehind false l) = lines l := by
  induction l with
  | nil => rfl
  | cons c l ih =>
    obtain ⟨hfirst, hrest⟩ := returnsBeforeFeeds_cons.1 h
    have hl := ih hrest
    by_cases hreturn : c = '\r'
    · obtain rfl := hreturn
      obtain ⟨back, rfl⟩ := List.head?_eq_some_iff.1 (hfirst rfl)
      have hone : uniformBehind false ('\r' :: '\n' :: back) = uniformBehind false ('\n' :: back) :=
        rfl
      have hboth : lines ('\r' :: '\n' :: back) = lines ('\n' :: back) :=
        (lines_append_feed ['\r'] back).trans (lines_append_feed [] back).symm
      rw [hone, hl, hboth]
    · have hkept : uniformBehind false (c :: l) = c :: uniformBehind false l := by
        rw [uniformBehind, if_neg hreturn, if_neg fun hand => Bool.false_ne_true hand.2]
      rw [hkept]
      by_cases hfeed : c = '\n'
      · obtain rfl := hfeed
        rw [← List.nil_append ('\n' :: uniformBehind false l), lines_append_feed, hl,
          ← lines_append_feed, List.nil_append]
      · rw [lines_cons hreturn hfeed, lines_cons hreturn hfeed, hl]

/-- **A text is read with its own lines** if every carriage return stands right before a line
feed. -/
theorem lines_asRead {text : String} (h : ReturnsBeforeFeeds text.toList) :
    lines (asRead text).toList = lines text.toList := by
  rw [asRead, String.toList_ofList, uniformFeeds_eq, lines_uniformBehind h]

/-- Uniform line ends take up no more bytes. -/
theorem utf8ByteSize_uniformBehind_le (l : List Char) (afterReturn : Bool) :
    (String.ofList (uniformBehind afterReturn l)).utf8ByteSize ≤
      (String.ofList l).utf8ByteSize := by
  induction l generalizing afterReturn with
  | nil => exact Nat.le_refl _
  | cons c l ih =>
    have hcons (d : Char) (m : List Char) :
        (String.ofList (d :: m)).utf8ByteSize = d.utf8Size + (String.ofList m).utf8ByteSize := by
      rw [String.ofList_cons, String.utf8ByteSize_append, String.utf8ByteSize_singleton]
    rw [uniformBehind, hcons c l]
    split
    · next hc =>
      obtain rfl := hc
      rw [hcons]
      exact Nat.add_le_add_left (ih true) 1
    · split
      · exact Nat.le_add_left_of_le (ih false)
      · rw [hcons]
        exact Nat.add_le_add_left (ih false) _

/-- A text is read with no more bytes than it has. -/
theorem utf8ByteSize_asRead_le (text : String) :
    (asRead text).utf8ByteSize ≤ text.utf8ByteSize := by
  have hle := utf8ByteSize_uniformBehind_le text.toList false
  rwa [String.ofList_toList, ← uniformFeeds_eq] at hle

end PatchTriage.Text
