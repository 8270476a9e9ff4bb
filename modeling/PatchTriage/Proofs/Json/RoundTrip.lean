import PatchTriage.Json.Reader
import PatchTriage.Proofs.Json.Token
import PatchTriage.Proofs.Table

/-!
# Written values are read back

The line that `Json.compact` writes is read as the value that was written (`read?_compact`), for
every value that such a line can carry (`Proper`): its numbers are finite, and no object has a name
twice. The first pass finds the tokens of the value (`tells_compact`), and the second one puts them
together (`foldl_tokensOf`), both by induction on the value. The line itself is printable ASCII
(`isPrintableAscii_compact`), so that no text in the value can end it.
-/

namespace PatchTriage.Json

/-! ## Values that a line can carry -/

/-- Whether the numbers in a value are finite and the names in each of its objects differ. -/
inductive Proper : Json → Prop where
  | null : Proper null
  | bool (b : Bool) : Proper (bool b)
  | int (n : Int) : Proper (int n)
  | real {x : Binary64} (h : x.IsFinite) : Proper (real x)
  | text (s : String) : Proper (text s)
  | array {items : List Json} (h : ∀ v ∈ items, Proper v) : Proper (array items)
  | object {fields : List (String × Json)} (hnames : (Table.keys fields).Nodup)
      (h : ∀ e ∈ fields, Proper e.2) : Proper (object fields)

/-! ## The first pass -/

/-- Rows of tokens with commas between them. -/
def commaSeparated : List (List Token) → List Token
  | [] => []
  | first :: rest => first ++ rest.flatMap fun ts => .comma :: ts

/-- The tokens of a value. -/
def tokensOf : Json → List Token
  | array items =>
    .leftBracket :: (commaSeparated (items.map fun v => tokensOf v) ++ [.rightBracket])
  | object fields =>
    .leftBrace ::
      (commaSeparated (fields.map fun e => .value (text e.1) :: .colon :: tokensOf e.2) ++
        [.rightBrace])
  | v => [.value v]
termination_by v => v
decreasing_by
  · exact sizeOf_item_lt ‹_›
  · exact sizeOf_field_lt ‹_›

/-- A value that is neither a list nor an object is one token. -/
theorem tokensOf_of_not_compound {v : Json} (h : v.isCompound = false) :
    tokensOf v = [.value v] := by
  cases v with
  | array | object => cases h
  | _ => rw [tokensOf] <;> nofun

section
variable {α : Type} {l : List α} {write : α → List Char} {tokens : α → List Token}

/-- Further pieces follow a piece, each behind a comma and a blank. -/
theorem Tells.commas {piece : List Char} {ts : List Token} (h : Tells piece ts)
    (hl : ∀ a ∈ l, Tells (write a) (tokens a)) :
    Tells (piece ++ (l.map write).flatMap fun p => [',', ' '] ++ p)
      (ts ++ (l.map tokens).flatMap fun ts => .comma :: ts) := by
  induction l generalizing piece ts with
  | nil =>
    rw [List.map_nil, List.map_nil, List.flatMap_nil, List.flatMap_nil, List.append_nil,
      List.append_nil]
    exact h
  | cons a l ih =>
    obtain ⟨ha, hl⟩ := List.forall_mem_cons.1 hl
    have hnext := ih (h.mark (c := ',') rfl ha.blank) hl
    rw [List.append_assoc, List.append_assoc] at hnext
    exact hnext

/-- Texts with commas between them tell their tokens with commas between them. -/
theorem tells_joinWith (hl : ∀ a ∈ l, Tells (write a) (tokens a)) :
    Tells (joinWith [',', ' '] (l.map write)) (commaSeparated (l.map tokens)) := by
  cases l with
  | nil => exact tells_nil
  | cons a l =>
    obtain ⟨ha, hl⟩ := List.forall_mem_cons.1 hl
    exact ha.commas hl

end

/-- A piece between two marks. -/
theorem Tells.enclosed {l : List Char} {ts : List Token} (h : Tells l ts) {c c' : Char}
    {t t' : Token} (hc : mark? c = some t) (hc' : mark? c' = some t') :
    Tells (c :: (l ++ [c'])) (t :: (ts ++ [t'])) :=
  tells_nil.mark hc (h.mark hc' tells_nil)

/-- No numeral is ended by a character of its own. -/
theorem isWordChar_of_isNumeralChar {c : Char} (h : isNumeralChar c = true) :
    isWordChar c = true := by
  refine not_not.1 fun hends => ?_
  simp only [isWordChar, isGap, Bool.not_eq_true', Bool.not_eq_false, Bool.or_eq_true,
    beq_iff_eq] at hends
  rcases hends with ((((rfl | rfl) | rfl) | rfl) | rfl) | hmark
  case inr =>
    unfold mark? at hmark
    split at hmark
    case h_7 => cases hmark
    all_goals cases h
  all_goals cases h

/-- A numeral tells the value it is read as. -/
theorem tells_numeral {l : List Char} {n : Numeral} {v : Json} (hn : n.Writable) (hl : l = n.text)
    (h : word? l = some v) : Tells l [.value v] := by
  obtain ⟨c, rest, htext, -⟩ := n.text_eq_cons hn
  refine tells_word ?_ (fun d hd => isWordChar_of_isNumeralChar (n.isNumeralChar_text hn d ?_)) h
  · rw [hl, htext]
    exact List.cons_ne_nil c rest
  · rw [← hl]
    exact hd

/-- **The first pass finds the tokens of a value.** -/
theorem Proper.tells_compact {v : Json} (h : v.Proper) : Tells v.compact (tokensOf v) := by
  induction h with
  | null =>
    rw [compact, tokensOf_of_not_compound rfl]
    exact tells_word (List.cons_ne_nil _ _) (List.all_eq_true.1 rfl) rfl
  | bool b =>
    rw [tokensOf_of_not_compound rfl]
    cases b with
    | true =>
      rw [compact]
      exact tells_word (List.cons_ne_nil _ _) (List.all_eq_true.1 rfl) rfl
    | false =>
      rw [compact]
      exact tells_word (List.cons_ne_nil _ _) (List.all_eq_true.1 rfl) rfl
  | int n =>
    rw [compact, tokensOf_of_not_compound rfl]
    exact tells_numeral (intNumeral_writable n) (intText_eq n) (word?_intText n)
  | real hx =>
    rw [compact, tokensOf_of_not_compound rfl]
    obtain ⟨n, hn, -, htext, -⟩ := exists_numeral hx
    exact tells_numeral hn htext (word?_text hx)
  | text s =>
    rw [compact, tokensOf_of_not_compound rfl]
    exact tells_quotedText s
  | array h ih =>
    rw [compact, tokensOf]
    exact (tells_joinWith ih).enclosed rfl rfl
  | object hnames h ih =>
    rw [compact, tokensOf]
    refine (tells_joinWith fun e he => ?_).enclosed rfl rfl
    exact (tells_quotedText e.1).mark rfl (ih e he).blank

/-! ## The second pass -/

/-- A value inside a container that has just been opened. -/
theorem foldl_firstItem (v : Json) (outer : List Frame) :
    (tokensOf v).foldl readStep (.firstItem outer) =
      (tokensOf v).foldl readStep (.value (.items [] :: outer)) := by
  cases v <;> rw [tokensOf] <;> first | rfl | nofun

/-- What is left of a list behind one of its items. -/
theorem foldl_items {items : List Json} (h : ∀ v ∈ items, ∀ outer,
      (tokensOf v).foldl readStep (.value outer) = finish v outer)
    (done : List Json) (last : Json) (outer : List Frame) :
    List.foldl readStep (.next (.items done) last outer)
        ((items.map fun v => tokensOf v).flatMap (fun ts => .comma :: ts) ++ [.rightBracket]) =
      finish (array ((last :: done).reverse ++ items)) outer := by
  induction items generalizing done last with
  | nil =>
    rw [List.append_nil]
    rfl
  | cons v items ih =>
    obtain ⟨hv, hitems⟩ := List.forall_mem_cons.1 h
    have hcomma : readStep (.next (.items done) last outer) .comma =
        .value (.items (last :: done) :: outer) := rfl
    have hdone : (v :: last :: done).reverse ++ items = (last :: done).reverse ++ v :: items := by
      rw [List.reverse_cons, List.append_assoc]
      rfl
    rw [List.map_cons, List.flatMap_cons, List.cons_append, List.cons_append, List.foldl_cons,
      hcomma, List.append_assoc, List.foldl_append, hv, finish, ih hitems, hdone]

/-- What is left of an object behind one of its fields. -/
theorem foldl_fields {fields : List (String × Json)} (h : ∀ e ∈ fields, ∀ outer,
      (tokensOf e.2).foldl readStep (.value outer) = finish e.2 outer)
    (done : Fields) (name : String) (last : Json) (outer : List Frame) :
    List.foldl readStep (.next (.fields done name) last outer)
        ((fields.map fun e => .value (text e.1) :: .colon :: tokensOf e.2).flatMap
          (fun ts => .comma :: ts) ++ [.rightBrace]) =
      finish (object (Table.putAll (Table.put done name last) fields)) outer := by
  induction fields generalizing done name last with
  | nil => rfl
  | cons e fields ih =>
    obtain ⟨he, hfields⟩ := List.forall_mem_cons.1 h
    have hname : List.foldl readStep (.next (.fields done name) last outer)
          (.comma :: .value (text e.1) :: .colon :: tokensOf e.2) =
        (tokensOf e.2).foldl readStep (.value (.fields (Table.put done name last) e.1 :: outer)) :=
      rfl
    rw [List.map_cons, List.flatMap_cons, List.append_assoc, List.foldl_append, hname, he, finish,
      ih hfields]
    rfl

/-- **The second pass puts the tokens of a value together.** -/
theorem Proper.foldl_tokensOf {v : Json} (h : v.Proper) (outer : List Frame) :
    (tokensOf v).foldl readStep (.value outer) = finish v outer := by
  induction h generalizing outer with
  | @array items h ih =>
    rw [tokensOf]
    cases items with
    | nil => rfl
    | cons v items =>
      obtain ⟨hv, hitems⟩ := List.forall_mem_cons.1 ih
      have hopen : readStep (.value outer) .leftBracket = .firstItem outer := rfl
      rw [List.map_cons, commaSeparated, List.foldl_cons, hopen, List.append_assoc,
        List.foldl_append, foldl_firstItem, hv, finish, foldl_items hitems]
      rfl
  | @object fields hnames h ih =>
    rw [tokensOf]
    cases fields with
    | nil => rfl
    | cons e fields =>
      obtain ⟨he, hfields⟩ := List.forall_mem_cons.1 ih
      have hname : List.foldl readStep (.value outer)
            (.leftBrace :: .value (Json.text e.1) :: .colon :: tokensOf e.2) =
          (tokensOf e.2).foldl readStep (.value (.fields [] e.1 :: outer)) := rfl
      rw [List.map_cons, commaSeparated, List.append_assoc, ← List.cons_append, List.foldl_append,
        hname, he, finish, foldl_fields hfields]
      refine congrArg (fun fields => finish (Json.object fields) outer) ?_
      exact Table.putAll_of_nodup hnames
  | _ =>
    rw [tokensOf_of_not_compound rfl]
    rfl

/-- **A written value is read back.** -/
theorem Proper.read?_compact {v : Json} (h : v.Proper) : read? v.compact = some v := by
  have htokens : tokens? v.compact = some (tokensOf v) := by
    rw [tokens?_eq, h.tells_compact, Option.map_some, List.append_nil, List.reverse_reverse]
  have hread := h.foldl_tokensOf []
  simp only [read?, htokens, Option.bind_eq_bind, Option.bind_some, hread, finish]

/-! ## The characters of a line -/

/-- Whether a character is of ASCII and no control character. -/
def isPrintableAscii (c : Char) : Bool := 0x20 ≤ c.toNat && c.toNat < 0x7F

/-- The characters of numerals are printable ASCII. -/
theorem isPrintableAscii_of_isNumeralChar {c : Char} (h : isNumeralChar c = true) :
    isPrintableAscii c = true := by
  simp only [isNumeralChar, isAsciiDigit, Bool.or_eq_true, Bool.and_eq_true, decide_eq_true_eq,
    beq_iff_eq] at h
  rcases h with (((⟨hlow, hhigh⟩ | rfl) | rfl) | rfl) | rfl
  · rw [isPrintableAscii, Bool.and_eq_true, decide_eq_true_eq, decide_eq_true_eq]
    omega
  all_goals rfl

/-- So is a hexadecimal digit. -/
theorem isPrintableAscii_hexDigit {d : Nat} (h : d < 16) :
    isPrintableAscii (Text.hexDigit d) = true := by
  have all : ∀ d : Fin 16, isPrintableAscii (Text.hexDigit d.val) = true := by decide
  exact all ⟨d, h⟩

/-- So are all digits of a hexadecimal text. -/
theorem isPrintableAscii_hex {width n : Nat} :
    ∀ c ∈ Text.hex width n, isPrintableAscii c = true := by
  induction width generalizing n with
  | zero => exact nofun
  | succ width ih =>
    refine List.forall_mem_append.2 ⟨ih, List.forall_mem_singleton.2 ?_⟩
    exact isPrintableAscii_hexDigit (Nat.mod_lt n (by decide))

/-- So is the escape of a code unit. -/
theorem isPrintableAscii_unitEscape {n : Nat} :
    ∀ c ∈ unitEscape n, isPrintableAscii c = true :=
  List.forall_mem_cons.2 ⟨rfl, List.forall_mem_cons.2 ⟨rfl, isPrintableAscii_hex⟩⟩

/-- Whatever a character is, its escape is printable ASCII. -/
theorem isPrintableAscii_escapedChar (c : Char) :
    ∀ d ∈ escapedChar c, isPrintableAscii d = true := by
  rcases escapedChar_cases c with ⟨letter, hmem, htext, -⟩ | ⟨htext, -, -, hlow, hhigh⟩ |
    ⟨htext, -⟩ | ⟨htext, -⟩
  · have hletters : shortLetters.all isPrintableAscii = true := rfl
    rw [htext]
    exact List.forall_mem_cons.2 ⟨rfl,
      List.forall_mem_singleton.2 (List.all_eq_true.1 hletters letter hmem)⟩
  · rw [htext]
    refine List.forall_mem_singleton.2 ?_
    rw [isPrintableAscii, decide_eq_true hlow, decide_eq_true hhigh]
    rfl
  · rw [htext]
    exact isPrintableAscii_unitEscape
  · rw [htext]
    exact List.forall_mem_append.2 ⟨isPrintableAscii_unitEscape, isPrintableAscii_unitEscape⟩

/-- **A quoted text is printable ASCII**, whatever the text is. -/
theorem isPrintableAscii_quotedText (s : String) :
    ∀ c ∈ quotedText s, isPrintableAscii c = true := by
  refine List.forall_mem_cons.2 ⟨rfl, List.forall_mem_append.2 ⟨fun c hc => ?_,
    List.forall_mem_singleton.2 rfl⟩⟩
  obtain ⟨d, -, hd⟩ := List.mem_flatMap.1 hc
  exact isPrintableAscii_escapedChar d c hd

/-- Pieces are put together by printable characters. -/
theorem isPrintableAscii_joinWith {pieces : List (List Char)}
    (h : ∀ l ∈ pieces, ∀ c ∈ l, isPrintableAscii c = true) :
    ∀ c ∈ joinWith [',', ' '] pieces, isPrintableAscii c = true := by
  cases pieces with
  | nil => exact nofun
  | cons l pieces =>
    obtain ⟨hl, hpieces⟩ := List.forall_mem_cons.1 h
    refine List.forall_mem_append.2 ⟨hl, fun c hc => ?_⟩
    obtain ⟨l', hl', hc⟩ := List.mem_flatMap.1 hc
    rcases List.mem_append.1 hc with hc | hc
    · exact List.all_eq_true.1 (rfl : [',', ' '].all isPrintableAscii = true) c hc
    · exact hpieces l' hl' c hc

/-- **A value is written in printable ASCII**, so that its text is one line. -/
theorem Proper.isPrintableAscii_compact {v : Json} (h : v.Proper) :
    ∀ c ∈ v.compact, isPrintableAscii c = true := by
  have hnumeral : ∀ {n : Numeral}, n.Writable → ∀ c ∈ n.text, isPrintableAscii c = true :=
    fun hn c hc => isPrintableAscii_of_isNumeralChar (Numeral.isNumeralChar_text hn c hc)
  induction h with
  | null =>
    rw [compact]
    exact List.all_eq_true.1 rfl
  | bool b => cases b <;> rw [compact] <;> exact List.all_eq_true.1 rfl
  | int n =>
    rw [compact, intText_eq]
    exact hnumeral (intNumeral_writable n)
  | real hx =>
    obtain ⟨n, hn, -, htext, -⟩ := exists_numeral hx
    rw [compact, htext]
    exact hnumeral hn
  | text s =>
    rw [compact]
    exact isPrintableAscii_quotedText s
  | array h ih =>
    rw [compact]
    refine List.forall_mem_cons.2 ⟨rfl, List.forall_mem_append.2
      ⟨isPrintableAscii_joinWith (List.forall_mem_map.2 ih), List.forall_mem_singleton.2 rfl⟩⟩
  | object hnames h ih =>
    rw [compact]
    refine List.forall_mem_cons.2 ⟨rfl, List.forall_mem_append.2
      ⟨isPrintableAscii_joinWith (List.forall_mem_map.2 fun e he => ?_),
        List.forall_mem_singleton.2 rfl⟩⟩
    exact List.forall_mem_append.2 ⟨isPrintableAscii_quotedText e.1,
      List.forall_mem_cons.2 ⟨rfl, List.forall_mem_cons.2 ⟨rfl, ih e he⟩⟩⟩

end PatchTriage.Json
