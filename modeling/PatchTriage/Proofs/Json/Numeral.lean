import PatchTriage.Json.Printer
import PatchTriage.Json.Numeral
import PatchTriage.Proofs.Binary64.Decimal
import Mathlib.Data.List.TakeWhile

/-!
# Numerals are read as they are written

A numeral is taken apart into the parts that it was written with (`Numeral.readNumeral?_text`). The
texts of integers and of binary64 numbers are numerals, whichever way a number is laid out
(`exists_layout`), and so they are read as the numbers that they were written for
(`word?_intText`, `word?_text`). This holds of the finite numbers of the interchange format: an
exponent far beyond its digits is cut off by the reader.
-/

namespace PatchTriage.Json

/-! ## Digits -/

/-- Whether a text is made of ASCII digits, of which there is at least one. -/
def IsDigits (ds : List Char) : Prop := ds ≠ [] ∧ ∀ c ∈ ds, isAsciiDigit c = true

/-- The character of a digit is an ASCII digit, with the value of the digit. -/
theorem isAsciiDigit_digitChar {d : Nat} (h : d < 10) :
    isAsciiDigit d.digitChar = true ∧ d.digitChar.toNat - 48 = d := by
  have all : ∀ d : Fin 10, isAsciiDigit d.val.digitChar = true ∧
      d.val.digitChar.toNat - 48 = d.val := by decide
  exact all ⟨d, h⟩

/-- Digits behind a value shift it by a power of ten for each of them. -/
theorem foldl_asciiValue (n : Nat) (ds : List Char) :
    ds.foldl (fun n c => 10 * n + (c.toNat - 48)) n =
      n * Binary64.tenPow ds.length + asciiValue ds := by
  induction ds generalizing n with
  | nil => exact (Nat.mul_one n).symm
  | cons c ds ih =>
    rw [asciiValue, List.foldl_cons, List.foldl_cons, ih, ih, List.length_cons, Binary64.tenPow_add]
    have hone : Binary64.tenPow 1 = 10 := rfl
    rw [hone]
    grind

/-- Digits in front of others are worth a power of ten for each of these. -/
theorem asciiValue_append (ds ds' : List Char) :
    asciiValue (ds ++ ds') = asciiValue ds * Binary64.tenPow ds'.length + asciiValue ds' := by
  rw [asciiValue, List.foldl_append, foldl_asciiValue]
  rfl

/-- Zeros are worth nothing. -/
@[simp]
theorem asciiValue_replicate (k : Nat) : asciiValue (List.replicate k '0') = 0 := by
  induction k with
  | zero => rfl
  | succ k ih =>
    rw [List.replicate_succ', asciiValue_append, ih, Nat.zero_mul]
    rfl

/-- Zeros in front of digits do not count. -/
theorem asciiValue_zeros_append (k : Nat) (ds : List Char) :
    asciiValue (List.replicate k '0' ++ ds) = asciiValue ds := by
  simp [asciiValue_append]

/-- Zeros behind digits are powers of ten. -/
theorem asciiValue_append_zeros (ds : List Char) (k : Nat) :
    asciiValue (ds ++ List.replicate k '0') = asciiValue ds * Binary64.tenPow k := by
  simp [asciiValue_append]

/-- The digits of a number are worth the number. -/
@[simp]
theorem asciiValue_digitsOf (n : Nat) : asciiValue (digitsOf n) = n := by
  rw [digitsOf_eq]
  induction n using Nat.strongRecOn with
  | ind n ih =>
    rcases Nat.lt_or_ge n 10 with hn | hn
    · rw [Text.decimal_of_lt hn]
      exact (Nat.zero_add _).trans (isAsciiDigit_digitChar hn).2
    · rw [Text.decimal_of_le hn, asciiValue_append, ih (n / 10) (by omega)]
      have hlast : asciiValue [(n % 10).digitChar] = n % 10 :=
        (Nat.zero_add _).trans (isAsciiDigit_digitChar (by omega)).2
      have hone : Binary64.tenPow [(n % 10).digitChar].length = 10 := rfl
      rw [hlast, hone]
      omega

/-- The digits of a number are ASCII digits. -/
theorem isDigits_digitsOf (n : Nat) : IsDigits (digitsOf n) := by
  rw [digitsOf_eq]
  refine ⟨Text.decimal_ne_nil n, ?_⟩
  induction n using Nat.strongRecOn with
  | ind n ih =>
    intro c hc
    rcases Nat.lt_or_ge n 10 with hn | hn
    · rw [Text.decimal_of_lt hn, List.mem_singleton] at hc
      rw [hc]
      exact (isAsciiDigit_digitChar hn).1
    · rw [Text.decimal_of_le hn, List.mem_append, List.mem_singleton] at hc
      rcases hc with hc | hc
      · exact ih (n / 10) (by omega) c hc
      · rw [hc]
        exact (isAsciiDigit_digitChar (by omega)).1

/-- Digits with further ones behind them are digits. -/
theorem IsDigits.append {ds ds' : List Char} (h : IsDigits ds)
    (h' : ∀ c ∈ ds', isAsciiDigit c = true) : IsDigits (ds ++ ds') :=
  ⟨List.append_ne_nil_of_left_ne_nil h.1 ds', fun c hc =>
    (List.mem_append.1 hc).elim (h.2 c) (h' c)⟩

/-- Zeros are ASCII digits. -/
theorem isAsciiDigit_of_mem_replicate {k : Nat} :
    ∀ c ∈ List.replicate k '0', isAsciiDigit c = true := by
  intro c hc
  rw [List.eq_of_mem_replicate hc]
  rfl

/-! ## Numerals in writing -/

/-- The text of an exponent, if there is one. -/
def exponentPart : Option Int → List Char
  | some e => 'e' :: Binary64.exponentText e
  | none => []

/-- The text of the digits behind the point, if there is a point. -/
def fractionPart : Option (List Char) → List Char
  | some ds => '.' :: ds
  | none => []

namespace Numeral

/-- The numeral without its sign. -/
def unsigned (n : Numeral) : List Char :=
  n.whole ++ (fractionPart n.fraction ++ exponentPart n.exponent)

/-- The text that writes a numeral. -/
def text (n : Numeral) : List Char := if n.negative then '-' :: n.unsigned else n.unsigned

/-- Whether a numeral has digits wherever it has to. -/
structure Writable (n : Numeral) : Prop where
  whole : IsDigits n.whole
  fraction : ∀ ds, n.fraction = some ds → IsDigits ds

end Numeral

/-- Digits are split off in front of anything else. -/
theorem takeWhile_digits {ds rest : List Char} (h : ∀ c ∈ ds, isAsciiDigit c = true)
    (hrest : rest.head?.any isAsciiDigit = false) :
    (ds ++ rest).takeWhile isAsciiDigit = ds ∧ (ds ++ rest).dropWhile isAsciiDigit = rest := by
  rw [List.takeWhile_append_of_pos h, List.dropWhile_append_of_pos h]
  cases rest with
  | nil => exact ⟨List.append_nil ds, rfl⟩
  | cons c rest =>
    have hc : ¬isAsciiDigit c = true := by simpa using hrest
    rw [List.takeWhile_cons_of_neg hc, List.dropWhile_cons_of_neg hc, List.append_nil]
    exact ⟨rfl, rfl⟩

/-- A text that begins with a digit has no sign. -/
theorem splitSign_digits {ds rest : List Char} (h : IsDigits ds) :
    splitSign (ds ++ rest) = (false, ds ++ rest) := by
  obtain ⟨hne, hdigits⟩ := h
  obtain ⟨d, ds, rfl⟩ := List.exists_cons_of_ne_nil hne
  have hd := hdigits d List.mem_cons_self
  rw [List.cons_append]
  unfold splitSign
  split
  · next heq =>
    rw [(List.cons.inj heq).1] at hd
    cases hd
  · next heq =>
    rw [(List.cons.inj heq).1] at hd
    cases hd
  · rfl

/-- The digits of an exponent: at least two of them. -/
theorem exponentText_eq (e : Int) : ∃ ds, IsDigits ds ∧ asciiValue ds = e.natAbs ∧
    Binary64.exponentText e = (if e < 0 then '-' else '+') :: ds := by
  rw [Binary64.exponentText]
  by_cases hshort : (digitsOf e.natAbs).length < 2
  · refine ⟨'0' :: digitsOf e.natAbs, ?_, ?_, by rw [if_pos hshort]⟩
    · refine ⟨List.cons_ne_nil _ _, List.forall_mem_cons.2 ⟨rfl, (isDigits_digitsOf _).2⟩⟩
    · exact (asciiValue_zeros_append 1 _).trans (asciiValue_digitsOf _)
  · exact ⟨digitsOf e.natAbs, isDigits_digitsOf _, asciiValue_digitsOf _, by rw [if_neg hshort]⟩

/-- An exponent is read as it is written. -/
theorem readExponent?_exponentText (e : Int) :
    readExponent? (Binary64.exponentText e) = some e := by
  obtain ⟨ds, ⟨hne, hdigits⟩, hvalue, htext⟩ := exponentText_eq e
  have hall : ds.all isAsciiDigit = true := List.all_eq_true.2 hdigits
  have hempty : ds.isEmpty = false := List.isEmpty_eq_false_iff.2 hne
  rw [htext, readExponent?]
  by_cases hneg : e < 0
  · have hsign : splitSign ('-' :: ds) = (true, ds) := rfl
    rw [if_pos hneg, hsign]
    simp only [hall, hempty, hvalue, Bool.not_true, Bool.or_false, Bool.false_eq_true, if_true,
      if_false]
    exact congrArg some (by omega)
  · have hsign : splitSign ('+' :: ds) = (false, ds) := rfl
    rw [if_neg hneg, hsign]
    simp only [hall, hempty, hvalue, Bool.not_true, Bool.or_false, Bool.false_eq_true, if_false]
    exact congrArg some (by omega)

/-- The sign of a numeral is taken off. -/
theorem Numeral.splitSign_text {n : Numeral} (h : n.Writable) :
    splitSign n.text = (n.negative, n.unsigned) := by
  rw [text]
  cases n.negative with
  | true => rfl
  | false => exact splitSign_digits h.whole

/-- What stands behind the digits of a numeral in front of its point is no digit. -/
theorem head?_parts (fraction : Option (List Char)) (exponent : Option Int) :
    (fractionPart fraction ++ exponentPart exponent).head?.any isAsciiDigit = false ∧
      (exponentPart exponent).head?.any isAsciiDigit = false := by
  rcases fraction with _ | ds <;> rcases exponent with _ | e <;> exact ⟨rfl, rfl⟩

/-- **A numeral is taken apart into the parts that it was written with.** -/
theorem Numeral.readNumeral?_text {n : Numeral} (h : n.Writable) :
    readNumeral? n.text = some n := by
  obtain ⟨htake, hdrop⟩ := takeWhile_digits h.whole.2 (head?_parts n.fraction n.exponent).1
  have hwhole : n.whole.isEmpty = false := List.isEmpty_eq_false_iff.2 h.whole.1
  rw [readNumeral?, splitSign_text h, unsigned]
  dsimp only
  rw [htake, hdrop, hwhole]
  obtain ⟨negative, whole, fraction, exponent⟩ := n
  cases fraction with
  | none =>
    cases exponent with
    | none => rfl
    | some e =>
      show (readExponent? (Binary64.exponentText e)).map _ = _
      rw [readExponent?_exponentText]
      rfl
  | some ds =>
    obtain ⟨hfraction, hbehind⟩ :=
      takeWhile_digits (h.fraction ds rfl).2 (head?_parts (some ds) exponent).2
    simp only [fractionPart, List.cons_append, hfraction, hbehind]
    cases exponent with
    | none => rfl
    | some e =>
      show (readExponent? (Binary64.exponentText e)).map _ = _
      rw [readExponent?_exponentText]
      rfl

/-! ## The characters of a numeral -/

/-- Whether a character may stand in a numeral. -/
def isNumeralChar (c : Char) : Bool :=
  isAsciiDigit c || c == '-' || c == '+' || c == '.' || c == 'e'

/-- Digits are characters of numerals. -/
theorem isNumeralChar_of_digits {ds : List Char} (h : IsDigits ds) :
    ∀ c ∈ ds, isNumeralChar c = true := by
  intro c hc
  rw [isNumeralChar, h.2 c hc]
  rfl

/-- All characters of a numeral are characters of numerals. -/
theorem Numeral.isNumeralChar_text {n : Numeral} (h : n.Writable) :
    ∀ c ∈ n.text, isNumeralChar c = true := by
  have hfraction : ∀ c ∈ fractionPart n.fraction, isNumeralChar c = true := by
    cases hf : n.fraction with
    | none => exact nofun
    | some ds => exact List.forall_mem_cons.2 ⟨rfl, isNumeralChar_of_digits (h.fraction ds hf)⟩
  have hexponent : ∀ c ∈ exponentPart n.exponent, isNumeralChar c = true := by
    cases n.exponent with
    | none => exact nofun
    | some e =>
      obtain ⟨ds, hds, -, htext⟩ := exponentText_eq e
      rw [exponentPart, htext]
      refine List.forall_mem_cons.2 ⟨rfl, List.forall_mem_cons.2 ⟨?_, isNumeralChar_of_digits hds⟩⟩
      split <;> rfl
  have hunsigned : ∀ c ∈ n.unsigned, isNumeralChar c = true :=
    List.forall_mem_append.2 ⟨isNumeralChar_of_digits h.whole,
      List.forall_mem_append.2 ⟨hfraction, hexponent⟩⟩
  rw [text]
  split
  · exact List.forall_mem_cons.2 ⟨rfl, hunsigned⟩
  · exact hunsigned

/-- A numeral begins with a minus sign or a digit. -/
theorem Numeral.text_eq_cons {n : Numeral} (h : n.Writable) :
    ∃ c l, n.text = c :: l ∧ (c = '-' ∨ isAsciiDigit c = true) := by
  rw [text]
  split
  · exact ⟨'-', n.unsigned, rfl, .inl rfl⟩
  · obtain ⟨d, ds, hds⟩ := List.exists_cons_of_ne_nil h.whole.1
    refine ⟨d, _, by rw [unsigned, hds, List.cons_append], .inr (h.whole.2 d ?_)⟩
    rw [hds]
    exact List.mem_cons_self

/-! ## The values of numerals -/

/-- The grid point nearest to a numeral, whatever its exponent. -/
def Numeral.nearest (n : Numeral) : Binary64 :=
  .ofDecimal n.negative (asciiValue (n.whole ++ n.fraction.getD []))
    (n.exponent.getD 0 - (n.fraction.getD []).length)

/-- An exponent that is not far beyond the digits is not cut off. -/
theorem Numeral.toBinary64_eq {n : Numeral} (h : ∀ e, n.exponent = some e → -2000 ≤ e ∧ e ≤ 2000) :
    n.toBinary64 = n.nearest := by
  rw [toBinary64, nearest]
  have hexponent : -2000 ≤ n.exponent.getD 0 ∧ n.exponent.getD 0 ≤ 2000 := by
    cases he : n.exponent with
    | none => exact ⟨by decide, by decide⟩
    | some e => exact h e he
  have hclamp : ∀ room : Nat, max (-((room : Int) + 2000)) (min (room + 2000) (n.exponent.getD 0)) =
      n.exponent.getD 0 := by omega
  rw [hclamp]

/-- An unquoted word that begins as a numeral does is read as a number. -/
theorem word?_of_numeral {n : Numeral} (h : n.Writable) : word? n.text = number? n.text := by
  obtain ⟨c, l, htext, hc⟩ := n.text_eq_cons h
  have hne : ∀ d : Char, (d = 'n' ∨ d = 't' ∨ d = 'f') → c ≠ d := by
    rintro d hd rfl
    rcases hc with rfl | hc
    · rcases hd with hd | hd | hd <;> cases hd
    · rcases hd with rfl | rfl | rfl <;> cases hc
  rw [word?, htext, if_neg, if_neg, if_neg]
  · exact fun he => hne 'f' (by simp) (List.cons.inj he).1
  · exact fun he => hne 't' (by simp) (List.cons.inj he).1
  · exact fun he => hne 'n' (by simp) (List.cons.inj he).1

/-- No numeral begins with a plus. -/
theorem Numeral.head?_text {n : Numeral} (h : n.Writable) : n.text.head? ≠ some '+' := by
  obtain ⟨c, l, htext, hc⟩ := n.text_eq_cons h
  rw [htext, List.head?_cons]
  rintro he
  obtain rfl := Option.some.inj he
  rcases hc with hc | hc <;> cases hc

/-- Digits alone are read as an integer. -/
theorem number?_of_whole {n : Numeral} (h : n.Writable) (hf : n.fraction = none)
    (he : n.exponent = none) : number? n.text =
      some (int (if n.negative then -(asciiValue n.whole : Int) else asciiValue n.whole)) := by
  have hread := n.readNumeral?_text h
  have hhead := n.head?_text h
  obtain ⟨negative, whole, fraction, exponent⟩ := n
  obtain rfl : fraction = none := hf
  obtain rfl : exponent = none := he
  rw [number?, hread]
  exact if_neg hhead

/-- A numeral with a point or an exponent is read as the grid point nearest to it. -/
theorem number?_of_parts {n : Numeral} (h : n.Writable)
    (hparts : n.fraction.isSome = true ∨ n.exponent.isSome = true) :
    number? n.text = some (real n.toBinary64) := by
  have hread := n.readNumeral?_text h
  have hwhole : n.whole.isEmpty = false := List.isEmpty_eq_false_iff.2 h.whole.1
  have hfraction : (n.fraction == some []) = false := by
    refine beq_eq_false_iff_ne.2 fun hf => (h.fraction [] hf).1 rfl
  rw [number?, hread]
  split
  · next heq =>
    obtain rfl := Option.some.inj heq
    rcases hparts with hparts | hparts <;> cases hparts
  · next heq =>
    obtain rfl := Option.some.inj heq
    simp [hwhole, hfraction, n.head?_text h]
  · next heq => cases heq

/-- The numeral of an integer. -/
def intNumeral (i : Int) : Numeral := ⟨i < 0, digitsOf i.natAbs, none, none⟩

/-- The numeral of an integer can be written. -/
theorem intNumeral_writable (i : Int) : (intNumeral i).Writable := ⟨isDigits_digitsOf _, nofun⟩

/-- The text of an integer is its numeral. -/
theorem intText_eq (i : Int) : intText i = (intNumeral i).text := by
  have hunsigned : (intNumeral i).unsigned = digitsOf i.natAbs := List.append_nil _
  rw [intText, Numeral.text, hunsigned]
  simp only [intNumeral, decide_eq_true_eq]

/-- An integer is read from its text. -/
theorem word?_intText (i : Int) : word? (intText i) = some (int i) := by
  have hn := intNumeral_writable i
  rw [intText_eq, word?_of_numeral hn, number?_of_whole hn rfl rfl]
  simp only [intNumeral, asciiValue_digitsOf, decide_eq_true_eq]
  refine congrArg (fun i => some (int i)) ?_
  split <;> omega

/-! ## The layouts of binary64 numbers -/

/-- Whether a numeral is the layout of significant digits whose decimal point stands behind the
first `point` of them. -/
structure Numeral.LaysOut (n : Numeral) (negative : Bool) (ds : List Char) (point : Int) : Prop
    extends n.Writable where
  sign : n.negative = negative
  parts : n.fraction.isSome = true ∨ n.exponent.isSome = true
  exponent : ∀ e, n.exponent = some e → e = point - 1
  value : n.nearest = .ofDecimal negative (asciiValue ds) (point - ds.length)
  text : Binary64.layout ds point = n.unsigned

/-- The digit zero alone is made of digits. -/
theorem isDigits_zero : IsDigits ['0'] := ⟨List.cons_ne_nil _ _, List.forall_mem_singleton.2 rfl⟩

section
variable {ds : List Char} {point : Int}

/-- The point stands in front of all digits, with zeros between. -/
theorem exists_layout_front (hds : IsDigits ds) (negative : Bool) (hlow : -4 < point)
    (hhigh : point ≤ 0) : ∃ n : Numeral, n.LaysOut negative ds point := by
  let fraction := List.replicate (-point).toNat '0' ++ ds
  have hfraction : IsDigits fraction :=
    ⟨List.append_ne_nil_of_right_ne_nil _ hds.1, fun c hc =>
      (List.mem_append.1 hc).elim (isAsciiDigit_of_mem_replicate c) (hds.2 c)⟩
  have hvalue : asciiValue (['0'] ++ fraction) = asciiValue ds :=
    (asciiValue_zeros_append 1 fraction).trans (asciiValue_zeros_append (-point).toNat ds)
  refine ⟨⟨negative, ['0'], some fraction, none⟩, ⟨isDigits_zero, ?_⟩, rfl, .inl rfl, nofun, ?_, ?_⟩
  · exact fun f hf => Option.some.inj hf ▸ hfraction
  · rw [Numeral.nearest, Option.getD_some, hvalue]
    refine congrArg (Binary64.ofDecimal _ _) ?_
    rw [Option.getD_none, List.length_append, List.length_replicate]
    omega
  · rw [Binary64.layout.eq_def, if_pos ⟨hlow, by omega⟩, if_pos hhigh, Numeral.unsigned,
      fractionPart, exponentPart, List.append_nil]
    rfl

/-- The point stands behind all digits, with zeros between. -/
theorem exists_layout_behind (hds : IsDigits ds) (negative : Bool) (hlow : 0 < point)
    (hhigh : point ≤ 16) (hlength : ds.length ≤ point.toNat) :
    ∃ n : Numeral, n.LaysOut negative ds point := by
  let zeros := List.replicate (point.toNat - ds.length) '0'
  have hvalue : asciiValue (ds ++ zeros ++ ['0']) =
      asciiValue ds * Binary64.tenPow (point.toNat - ds.length + 1) := by
    rw [← asciiValue_append_zeros, List.append_assoc, List.replicate_succ']
  refine ⟨⟨negative, ds ++ zeros, some ['0'], none⟩,
    ⟨hds.append isAsciiDigit_of_mem_replicate, ?_⟩, rfl, .inl rfl, nofun, ?_, ?_⟩
  · exact fun f hf => Option.some.inj hf ▸ isDigits_zero
  · rw [Numeral.nearest, Option.getD_some, hvalue, Binary64.ofDecimal_mul_tenPow]
    refine congrArg (Binary64.ofDecimal _ _) ?_
    rw [Option.getD_none, List.length_singleton]
    omega
  · rw [Binary64.layout.eq_def, if_pos ⟨by omega, hhigh⟩, if_neg (by omega)]
    dsimp only
    rw [if_pos hlength, Numeral.unsigned, fractionPart, exponentPart, List.append_nil]

/-- The point stands between two digits. -/
theorem exists_layout_between (hds : IsDigits ds) (negative : Bool) (hlow : 0 < point)
    (hhigh : point ≤ 16) (hlength : point.toNat < ds.length) :
    ∃ n : Numeral, n.LaysOut negative ds point := by
  have htake : IsDigits (ds.take point.toNat) :=
    ⟨List.ne_nil_of_length_pos (by rw [List.length_take]; omega),
      fun c hc => hds.2 c (List.mem_of_mem_take hc)⟩
  have hdrop : IsDigits (ds.drop point.toNat) :=
    ⟨List.ne_nil_of_length_pos (by rw [List.length_drop]; omega),
      fun c hc => hds.2 c (List.mem_of_mem_drop hc)⟩
  refine ⟨⟨negative, ds.take point.toNat, some (ds.drop point.toNat), none⟩, ⟨htake, ?_⟩, rfl,
    .inl rfl, nofun, ?_, ?_⟩
  · exact fun f hf => Option.some.inj hf ▸ hdrop
  · rw [Numeral.nearest, Option.getD_some, List.take_append_drop]
    refine congrArg (Binary64.ofDecimal _ _) ?_
    rw [Option.getD_none, List.length_drop]
    omega
  · rw [Binary64.layout.eq_def, if_pos ⟨by omega, hhigh⟩, if_neg (by omega)]
    dsimp only
    rw [if_neg (by omega), Numeral.unsigned, fractionPart, exponentPart, List.append_nil]

/-- The point stands behind the first digit, and an exponent follows the digits. -/
theorem exists_layout_scientific (hds : IsDigits ds) (negative : Bool)
    (h : ¬(-4 < point ∧ point ≤ 16)) : ∃ n : Numeral, n.LaysOut negative ds point := by
  obtain ⟨d, rest, rfl⟩ := List.exists_cons_of_ne_nil hds.1
  have hd : IsDigits [d] :=
    ⟨List.cons_ne_nil _ _, List.forall_mem_singleton.2 (hds.2 d List.mem_cons_self)⟩
  have hexponent : ∀ e, some (point - 1) = some e → e = point - 1 :=
    fun e he => (Option.some.inj he).symm
  cases rest with
  | nil =>
    refine ⟨⟨negative, [d], none, some (point - 1)⟩, ⟨hd, nofun⟩, rfl, .inr rfl, hexponent, ?_, ?_⟩
    · exact congrArg (Binary64.ofDecimal _ _) (Int.sub_zero (point - 1))
    · rw [Binary64.layout.eq_def, if_neg h]
      rfl
  | cons d' rest =>
    have hrest : IsDigits (d' :: rest) :=
      ⟨List.cons_ne_nil _ _, fun c hc => hds.2 c (List.mem_cons_of_mem d hc)⟩
    refine ⟨⟨negative, [d], some (d' :: rest), some (point - 1)⟩, ⟨hd, ?_⟩, rfl, .inl rfl,
      hexponent, ?_, ?_⟩
    · exact fun f hf => Option.some.inj hf ▸ hrest
    · refine congrArg (Binary64.ofDecimal _ _) ?_
      rw [Option.getD_some, Option.getD_some, List.length_cons (a := d)]
      omega
    · rw [Binary64.layout.eq_def, if_neg h]
      rfl

/-- **Every layout of significant digits is a numeral.** -/
theorem exists_layout (hds : IsDigits ds) (negative : Bool) (point : Int) :
    ∃ n : Numeral, n.LaysOut negative ds point := by
  by_cases hplain : -4 < point ∧ point ≤ 16
  · rcases lt_or_ge 0 point with hpos | hnonpos
    · rcases Nat.lt_or_ge point.toNat ds.length with hlength | hlength
      · exact exists_layout_between hds negative hpos hplain.2 hlength
      · exact exists_layout_behind hds negative hpos hplain.2 hlength
    · exact exists_layout_front hds negative hplain.1 hnonpos
  · exact exists_layout_scientific hds negative hplain

end

/-- Without its trailing zeros a row of digits ends earlier, and zeros are all that it loses. -/
theorem exists_trailing_zeros (l : List Char) :
    ∃ k, l = (l.reverse.dropWhile (· == '0')).reverse ++ List.replicate k '0' := by
  let zeros := l.reverse.takeWhile (· == '0')
  have hzeros : zeros = List.replicate zeros.length '0' := by
    refine List.eq_replicate_iff.2 ⟨rfl, fun c hc => ?_⟩
    have hc : (c == '0') = true := List.mem_takeWhile_imp (p := (· == '0')) hc
    exact eq_of_beq hc
  refine ⟨zeros.length, ?_⟩
  rw [← List.reverse_replicate, ← hzeros, ← List.reverse_append,
    List.takeWhile_append_dropWhile, List.reverse_reverse]

/-- The text of a decimal is a numeral for it, if its point is not far from its digits. Of zero no
digit is left, and its text is written apart. -/
theorem exists_unsigned (negative : Bool) {d : Binary64.Decimal}
    (hpoint : -1100 ≤ ((digitsOf d.digits).length : Int) + d.scale ∧
      ((digitsOf d.digits).length : Int) + d.scale ≤ 1100) :
    ∃ n : Numeral, n.negative = negative ∧ n.Writable ∧
      (n.fraction.isSome = true ∨ n.exponent.isSome = true) ∧ d.text = n.unsigned ∧
        n.toBinary64 = .ofDecimal negative d.digits d.scale := by
  obtain ⟨k, hall⟩ := exists_trailing_zeros (digitsOf d.digits)
  have hvalue := asciiValue_digitsOf d.digits
  have hdigits := isDigits_digitsOf d.digits
  simp only [Binary64.Decimal.text]
  generalize (List.dropWhile (· == '0') (digitsOf d.digits).reverse).reverse = ds at hall
  generalize digitsOf d.digits = all at hpoint hall hvalue hdigits
  subst hall
  rw [asciiValue_append_zeros] at hvalue
  by_cases hempty : ds = []
  · subst hempty
    have hzero : d.digits = 0 := hvalue.symm.trans (Nat.zero_mul _)
    refine ⟨⟨negative, ['0'], some ['0'], none⟩, rfl,
      ⟨isDigits_zero, fun f hf => Option.some.inj hf ▸ isDigits_zero⟩, .inl rfl, rfl, ?_⟩
    rw [Numeral.toBinary64_eq (by rintro e ⟨⟩), hzero]
    exact Binary64.ofDecimal_zero negative _ _
  · have hds : IsDigits ds :=
      ⟨hempty, fun c hc => hdigits.2 c (List.mem_append_left _ hc)⟩
    rw [if_neg (by simpa using hempty)]
    obtain ⟨n, hlayout⟩ := exists_layout hds negative
      (((ds ++ List.replicate k '0').length : Int) + d.scale)
    refine ⟨n, hlayout.sign, hlayout.toWritable, hlayout.parts, hlayout.text, ?_⟩
    have hexponent : ∀ e, n.exponent = some e → -2000 ≤ e ∧ e ≤ 2000 := by
      intro e he
      rw [hlayout.exponent e he]
      omega
    rw [Numeral.toBinary64_eq hexponent, hlayout.value, ← hvalue,
      Binary64.ofDecimal_mul_tenPow, List.length_append, List.length_replicate]
    refine congrArg (Binary64.ofDecimal _ _) ?_
    omega

/-- **The text of a finite number is a numeral to which that number is the nearest.** -/
theorem exists_numeral {x : Binary64} (hx : x.IsFinite) : ∃ n : Numeral, n.Writable ∧
    (n.fraction.isSome = true ∨ n.exponent.isSome = true) ∧ x.text = n.text ∧
      n.toBinary64 = x := by
  have hback := Binary64.readsBack_iff.1 x.readsBack_shortest
  have hpoint : -1100 ≤ ((digitsOf x.shortest.digits).length : Int) + x.shortest.scale ∧
      ((digitsOf x.shortest.digits).length : Int) + x.shortest.scale ≤ 1100 := by
    by_cases hzero : x.magnitude = 0
    · rw [Binary64.shortest, if_pos hzero]
      decide
    · exact hx.point_bounds hzero hback
  obtain ⟨n, hn, hwritable, hparts, htext, hvalue⟩ := exists_unsigned x.negative hpoint
  refine ⟨n, hwritable, hparts, ?_, hvalue.trans hback⟩
  rw [Binary64.text, Numeral.text, hn, htext]

/-- A finite number is read from its text. -/
theorem word?_text {x : Binary64} (hx : x.IsFinite) : word? x.text = some (real x) := by
  obtain ⟨n, hn, hparts, htext, hvalue⟩ := exists_numeral hx
  rw [htext, word?_of_numeral hn, number?_of_parts hn hparts, hvalue]

end PatchTriage.Json
