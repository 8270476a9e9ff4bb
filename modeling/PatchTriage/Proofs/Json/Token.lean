import PatchTriage.Json.Token
import PatchTriage.Proofs.Json.Numeral

/-!
# The tokens of pieces of a line

The first pass over a line cuts it into tokens. A quoted text is one token, whatever characters it
holds (`tells_quotedText`): each of them is put together again from its escape, from two 16-bit
units where it takes a pair (`scan_escapedChar`). A word ends only where something else begins, so a
piece of the line is judged by the tokens that it leaves once it is closed there (`Tells`), and
pieces are put together at the marks between them (`Tells.mark`).
-/

namespace PatchTriage

/-! ## Hexadecimal digits -/

namespace Text

/-- A hexadecimal digit has the value it was written for. -/
theorem hexValue?_hexDigit {d : Nat} (h : d < 16) : hexValue? (hexDigit d) = some d := by
  have all : ∀ d : Fin 16, hexValue? (hexDigit d.val) = some d.val := by decide
  exact all ⟨d, h⟩

end Text

namespace Json

/-! ## Characters of a quoted text -/

variable {tokens : List Token}

/-- A digit of a 16-bit unit that is not the last one. -/
theorem scanStep_digit {high : Option Nat} {digits value d : Nat} {done : List Char} (hd : d < 16)
    (h : digits ≠ 3) : scanStep (.inUnit high digits value done, tokens) (Text.hexDigit d) =
      (.inUnit high (digits + 1) (16 * value + d) done, tokens) := by
  simp only [scanStep, Text.hexValue?_hexDigit hd, if_neg h]

/-- The last digit of a 16-bit unit. -/
theorem scanStep_lastDigit {high : Option Nat} {value d : Nat} {done : List Char} (hd : d < 16) :
    scanStep (.inUnit high 3 value done, tokens) (Text.hexDigit d) =
      (takeUnit high (16 * value + d) done, tokens) := by
  simp only [scanStep, Text.hexValue?_hexDigit hd, if_true]

/-- The escape of a 16-bit unit takes in that unit. -/
theorem scan_unitEscape {n : Nat} (hn : n < 0x10000) (high : Option Nat) (done : List Char) :
    (unitEscape n).foldl scanStep (.inText high done, tokens) = (takeUnit high n done, tokens) := by
  have hdigits : unitEscape n = ['\\', 'u', Text.hexDigit (n / 16 / 16 / 16 % 16),
      Text.hexDigit (n / 16 / 16 % 16), Text.hexDigit (n / 16 % 16), Text.hexDigit (n % 16)] := rfl
  have hvalue : 16 * (16 * (16 * (16 * 0 + n / 16 / 16 / 16 % 16) + n / 16 / 16 % 16) +
      n / 16 % 16) + n % 16 = n := by omega
  have hstart : scanStep (scanStep (.inText high done, tokens) '\\') 'u' =
      (.inUnit high 0 0 done, tokens) := rfl
  have hlt : ∀ m : Nat, m % 16 < 16 := fun m => Nat.mod_lt m (by decide)
  rw [hdigits, List.foldl_cons, List.foldl_cons, hstart, List.foldl_cons, List.foldl_cons,
    List.foldl_cons, List.foldl_cons, List.foldl_nil, scanStep_digit (hlt _) (by decide),
    scanStep_digit (hlt _) (by decide), scanStep_digit (hlt _) (by decide),
    scanStep_lastDigit (hlt _), hvalue]

/-- A unit that is no half of a pair is a character. -/
theorem takeUnit_char {c : Char} (h : c.toNat < 0x10000) (done : List Char) :
    takeUnit none c.toNat done = .inText none (c :: done) := by
  have hvalid : c.toNat < 0xD800 ∨ 0xDFFF < c.toNat ∧ c.toNat < 0x110000 := c.valid
  rw [takeUnit, if_neg (by omega), if_neg (by omega), Char.ofNat_toNat]
  rfl

/-- The two units of a character beyond sixteen bits are put together. -/
theorem scan_pair {c : Char} (h : 0x10000 ≤ c.toNat) (done : List Char) :
    List.foldl scanStep (.inText none done, tokens)
        (unitEscape (0xD800 + (c.toNat - 0x10000) / 0x400) ++
          unitEscape (0xDC00 + (c.toNat - 0x10000) % 0x400)) =
      (.inText none (c :: done), tokens) := by
  have hvalid : c.toNat < 0xD800 ∨ 0xDFFF < c.toNat ∧ c.toNat < 0x110000 := c.valid
  have hchar : 0x10000 + (0xD800 + (c.toNat - 0x10000) / 0x400 - 0xD800) * 0x400 +
      (0xDC00 + (c.toNat - 0x10000) % 0x400 - 0xDC00) = c.toNat := by omega
  have hfirst : takeUnit none (0xD800 + (c.toNat - 0x10000) / 0x400) done =
      .inText (some (0xD800 + (c.toNat - 0x10000) / 0x400)) done := by
    rw [takeUnit, if_pos (by omega)]
    rfl
  rw [List.foldl_append, scan_unitEscape (by omega), hfirst, scan_unitEscape (by omega), takeUnit,
    if_neg (by omega), if_pos (by omega)]
  simp only [hchar, Char.ofNat_toNat]

/-- The letters of the short escapes. -/
def shortLetters : List Char := ['"', '\\', 'n', 'r', 't', 'b', 'f']

/-- What the escape of a character can be: a short one, the character itself, or one or two 16-bit
units. -/
theorem escapedChar_cases (c : Char) :
    (∃ letter ∈ shortLetters, escapedChar c = ['\\', letter] ∧ escapeLetter? letter = some c) ∨
    (escapedChar c = [c] ∧ c ≠ '"' ∧ c ≠ '\\' ∧ 0x20 ≤ c.toNat ∧ c.toNat < 0x7F) ∨
    (escapedChar c = unitEscape c.toNat ∧ c.toNat < 0x10000) ∨
    escapedChar c = unitEscape (0xD800 + (c.toNat - 0x10000) / 0x400) ++
        unitEscape (0xDC00 + (c.toNat - 0x10000) % 0x400) ∧ 0x10000 ≤ c.toNat := by
  have hofNat : ∀ {n : Nat}, c.toNat = n → c = Char.ofNat n := by
    rintro n rfl
    exact (Char.ofNat_toNat c).symm
  have hshort : ∀ {letter d : Char}, letter ∈ shortLetters → escapedChar d = ['\\', letter] →
      escapeLetter? letter = some d → c = d → ∃ letter ∈ shortLetters,
        escapedChar c = ['\\', letter] ∧ escapeLetter? letter = some c := by
    rintro letter d hmem htext hletter rfl
    exact ⟨letter, hmem, htext, hletter⟩
  by_cases hquote : c = '"'
  · exact .inl (hshort (by decide : '"' ∈ shortLetters) rfl rfl hquote)
  by_cases hslash : c = '\\'
  · exact .inl (hshort (by decide : '\\' ∈ shortLetters) rfl rfl hslash)
  by_cases hfeed : c = '\n'
  · exact .inl (hshort (by decide : 'n' ∈ shortLetters) rfl rfl hfeed)
  by_cases hreturn : c = '\r'
  · exact .inl (hshort (by decide : 'r' ∈ shortLetters) rfl rfl hreturn)
  by_cases htab : c = '\t'
  · exact .inl (hshort (by decide : 't' ∈ shortLetters) rfl rfl htab)
  by_cases hback : c.toNat = 0x08
  · exact .inl (hshort (by decide : 'b' ∈ shortLetters) rfl rfl (hofNat hback))
  by_cases hform : c.toNat = 0x0C
  · exact .inl (hshort (by decide : 'f' ∈ shortLetters) rfl rfl (hofNat hform))
  rw [escapedChar, if_neg hquote, if_neg hslash, if_neg hfeed, if_neg hreturn, if_neg htab,
    if_neg hback, if_neg hform]
  by_cases hplain : 0x20 ≤ c.toNat ∧ c.toNat < 0x7F
  · rw [if_pos hplain]
    exact .inr (.inl ⟨rfl, hquote, hslash, hplain⟩)
  rw [if_neg hplain]
  by_cases hunit : c.toNat < 0x10000
  · rw [if_pos hunit]
    exact .inr (.inr (.inl ⟨rfl, hunit⟩))
  · rw [if_neg hunit]
    exact .inr (.inr (.inr ⟨rfl, Nat.le_of_not_lt hunit⟩))

/-- **A character of a text is read from its escape.** -/
theorem scan_escapedChar (c : Char) (done : List Char) :
    (escapedChar c).foldl scanStep (.inText none done, tokens) =
      (.inText none (c :: done), tokens) := by
  rcases escapedChar_cases c with ⟨letter, hmem, htext, hletter⟩ | ⟨htext, hquote, hslash, -⟩ |
    ⟨htext, hunit⟩ | ⟨htext, hpair⟩
  · have hne : letter ≠ 'u' := fun heq => absurd (heq ▸ hmem) (by decide)
    have hescape : scanStep (.inText none done, tokens) '\\' = (.escape none done, tokens) := rfl
    rw [htext, List.foldl_cons, hescape, List.foldl_cons, List.foldl_nil, scanStep, if_neg hne,
      hletter]
    rfl
  · rw [htext, List.foldl_cons, List.foldl_nil, scanStep, if_neg hquote, if_neg hslash]
    rfl
  · rw [htext, scan_unitEscape hunit, takeUnit_char hunit]
  · rw [htext]
    exact scan_pair hpair done

/-- Escaped characters inside a text are scanned as the characters. -/
theorem scan_escapedChars (l done : List Char) :
    (l.flatMap escapedChar).foldl scanStep (.inText none done, tokens) =
      (.inText none (l.reverse ++ done), tokens) := by
  induction l generalizing done with
  | nil => rfl
  | cons c l ih =>
    rw [List.flatMap_cons, List.foldl_append, scan_escapedChar, ih, List.reverse_cons,
      List.append_assoc]
    rfl

/-! ## Pieces of a line -/

/-- The tokens once the pass is closed where it stands, unless it stands inside a text. -/
def closed? : Scan × List Token → Option (List Token)
  | (.between, tokens) => some tokens
  | (.inWord done, tokens) => closeWord tokens done
  | _ => none

/-- The tokens of a text are those of its scan, if nothing is left open. -/
theorem tokens?_eq (l : List Char) :
    tokens? l = (closed? (l.foldl scanStep (.between, []))).map List.reverse := by
  rw [tokens?]
  rcases l.foldl scanStep (.between, []) with ⟨scan, tokens⟩
  cases scan <;> rfl

/-- A gap or a mark closes the word in front of it. -/
theorem scanStep_of_closed {s : Scan × List Token} (h : closed? s = some tokens) {c : Char}
    (hc : isGap c = true ∨ (mark? c).isSome = true) : scanStep s c = scanBetween tokens c := by
  have hends : (isGap c || c == '"' || (mark? c).isSome) = true := by
    rcases hc with hc | hc <;> simp [hc]
  rcases s with ⟨scan, before⟩
  cases scan with
  | between =>
    obtain rfl := Option.some.inj h
    rfl
  | inWord done =>
    have h : closeWord before done = some tokens := h
    rw [scanStep, if_pos hends, h]
  | _ => cases h

/-- Whether a piece of a line is cut into tokens, once it is closed where it ends. -/
def Tells (l : List Char) (ts : List Token) : Prop :=
  ∀ tokens, closed? (l.foldl scanStep (.between, tokens)) = some (ts.reverse ++ tokens)

/-- An empty text tells nothing. -/
theorem tells_nil : Tells [] [] := fun _ => rfl

/-- A blank in front of a piece does not count. -/
theorem Tells.blank {l : List Char} {ts : List Token} (h : Tells l ts) : Tells (' ' :: l) ts :=
  fun tokens => h tokens

/-- Pieces are put together at a mark between them. -/
theorem Tells.mark {l l' : List Char} {ts ts' : List Token} {c : Char} {t : Token} (h : Tells l ts)
    (hc : mark? c = some t) (h' : Tells l' ts') : Tells (l ++ c :: l') (ts ++ t :: ts') := by
  intro tokens
  have hmark : scanBetween (ts.reverse ++ tokens) c = (.between, t :: (ts.reverse ++ tokens)) := by
    have hgap : isGap c = false ∧ c ≠ '"' := by
      unfold mark? at hc
      split at hc <;> first | exact ⟨rfl, by decide⟩ | cases hc
    rw [scanBetween, hgap.1, if_neg (by decide), if_neg hgap.2, hc]
  rw [List.foldl_append, List.foldl_cons, scanStep_of_closed (h tokens) (.inr (by rw [hc]; rfl)),
    hmark, h', List.reverse_append, List.reverse_cons, List.append_assoc, List.append_assoc]
  rfl

/-- **A quoted text is one token**, whatever characters it holds. -/
theorem tells_quotedText (s : String) : Tells (quotedText s) [.value (text s)] := by
  intro tokens
  have hquote : scanStep (.between, tokens) '"' = (.inText none [], tokens) := rfl
  have hclose : ∀ done, scanStep (.inText none done, tokens) '"' =
      (.between, .value (text (String.ofList done.reverse)) :: tokens) := fun _ => rfl
  rw [quotedText, List.foldl_cons, hquote, List.foldl_append, scan_escapedChars, List.append_nil,
    List.foldl_cons, List.foldl_nil, hclose, List.reverse_reverse, String.ofList_toList]
  rfl

/-! ## Words -/

/-- Whether a character goes on with a word in front of it. -/
def isWordChar (c : Char) : Bool := !(isGap c || c == '"' || (mark? c).isSome)

/-- The characters of a word are scanned as one word. -/
theorem scan_word {l : List Char} (h : ∀ c ∈ l, isWordChar c = true) (done : List Char) :
    l.foldl scanStep (.inWord done, tokens) = (.inWord (l.reverse ++ done), tokens) := by
  induction l generalizing done with
  | nil => rfl
  | cons c l ih =>
    obtain ⟨hc, hl⟩ := List.forall_mem_cons.1 h
    have hends : (isGap c || c == '"' || (mark? c).isSome) = false := by
      simpa only [isWordChar, Bool.not_eq_true'] using hc
    have hstep : scanStep (.inWord done, tokens) c = (.inWord (c :: done), tokens) :=
      if_neg (Bool.eq_false_iff.1 hends)
    rw [List.foldl_cons, hstep, ih hl, List.reverse_cons, List.append_assoc]
    rfl

/-- A word is one token. -/
theorem tells_word {l : List Char} {v : Json} (hl : l ≠ []) (hword : ∀ c ∈ l, isWordChar c = true)
    (h : word? l = some v) : Tells l [.value v] := by
  intro tokens
  obtain ⟨c, rest, rfl⟩ := List.exists_cons_of_ne_nil hl
  obtain ⟨hc, hrest⟩ := List.forall_mem_cons.1 hword
  have hstart : scanStep (.between, tokens) c = (.inWord [c], tokens) := by
    simp only [isWordChar, Bool.not_eq_true', Bool.or_eq_false_iff, beq_eq_false_iff_ne] at hc
    obtain ⟨⟨hgap, hquote⟩, hmark⟩ := hc
    have hmark : mark? c = none := by simpa using hmark
    rw [scanStep, scanBetween, hgap, if_neg (by decide), if_neg hquote, hmark]
  rw [List.foldl_cons, hstart, scan_word hrest, closed?, closeWord, List.reverse_append,
    List.reverse_reverse, List.reverse_singleton, List.singleton_append, h]
  rfl

end Json

end PatchTriage
