/-!
# White space

Blank characters are the 25 characters with the Unicode property White_Space together with the
four information separators U+001C to U+001F. Trimming a text drops blanks at both ends and
nothing else.
-/

namespace PatchTriage.Text

/-- Whether `c` is white space, the information separators included. -/
def isBlank (c : Char) : Bool :=
  let n := c.toNat
  (0x09 ≤ n && n ≤ 0x0D) || (0x1C ≤ n && n ≤ 0x20) || n == 0x85 || n == 0xA0 || n == 0x1680 ||
    (0x2000 ≤ n && n ≤ 0x200A) || n == 0x2028 || n == 0x2029 || n == 0x202F || n == 0x205F ||
    n == 0x3000

/-- Whether `c` has the Unicode property White_Space. -/
def isUnicodeSpace (c : Char) : Bool :=
  isBlank c && !(0x1C ≤ c.toNat && c.toNat ≤ 0x1F)

/-- Drops the characters with property `p` at both ends. -/
def trimBy (p : Char → Bool) (l : List Char) : List Char :=
  ((l.dropWhile p).reverse.dropWhile p).reverse

/-- Drops the white space at both ends. -/
def trim (l : List Char) : List Char := trimBy isBlank l

/-- Trimming leaves nothing at the end that it would drop. -/
theorem getLast?_trimBy {p : Char → Bool} {l : List Char} {c : Char}
    (h : (trimBy p l).getLast? = some c) : p c = false := by
  rw [trimBy, List.getLast?_reverse] at h
  have hhead := List.head?_dropWhile_not p (l.dropWhile p).reverse
  rw [h] at hhead
  simpa using hhead

/-- Trimming leaves nothing in front that it would drop: what the second pass leaves is a start of
what the first one left. -/
theorem head?_trimBy {p : Char → Bool} {l : List Char} {c : Char}
    (h : (trimBy p l).head? = some c) : p c = false := by
  have hstart : trimBy p l <+: l.dropWhile p := by
    rw [trimBy, ← List.reverse_suffix, List.reverse_reverse]
    exact List.dropWhile_suffix p
  obtain ⟨rest, hrest⟩ := hstart
  have hhead := List.head?_dropWhile_not p l
  rw [← hrest, List.head?_append, h] at hhead
  simpa using hhead

/-- A text without anything to drop at its ends stays as it is. -/
theorem trimBy_of_ends {p : Char → Bool} {l : List Char}
    (hhead : ∀ c, l.head? = some c → p c = false)
    (hlast : ∀ c, l.getLast? = some c → p c = false) : trimBy p l = l := by
  have hkeep {m : List Char} (hm : ∀ c, m.head? = some c → p c = false) : m.dropWhile p = m := by
    cases m with
    | nil => rfl
    | cons c m => exact List.dropWhile_cons_of_neg (by simp [hm c rfl])
  rw [trimBy, hkeep hhead, hkeep (by simpa using hlast), List.reverse_reverse]

/-- Trimming a second time drops nothing. -/
theorem trimBy_trimBy (p : Char → Bool) (l : List Char) : trimBy p (trimBy p l) = trimBy p l :=
  trimBy_of_ends (fun _ => head?_trimBy) fun _ => getLast?_trimBy

end PatchTriage.Text
