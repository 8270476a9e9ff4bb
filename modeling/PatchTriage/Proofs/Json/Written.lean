import PatchTriage.Json.Written
import PatchTriage.Proofs.Binary64.Decimal

/-!
# Values that can be written

A value fits where it is to be written if no integer in it is too long and it is nested no deeper
than there is room for (`Json.Fits`). Such a value is written as `Json.compact`, and no other value
is written at all (`Json.written_eq_ok_iff`).
-/

namespace PatchTriage.Json

/-- Whether a value fits where `room` lists and objects may be entered one in another. -/
inductive Fits : Nat → Json → Prop where
  | null {room : Nat} : Fits room null
  | bool {room : Nat} (b : Bool) : Fits room (bool b)
  /-- The integer is not too long. -/
  | int {room : Nat} {n : Int} (h : HasNumeral n) : Fits room (int n)
  | real {room : Nat} (x : Binary64) : Fits room (real x)
  | text {room : Nat} (s : String) : Fits room (text s)
  | array {room : Nat} {items : List Json} (h : ∀ v ∈ items, Fits room v) :
      Fits (room + 1) (array items)
  | object {room : Nat} {fields : List (String × Json)} (h : ∀ e ∈ fields, Fits room e.2) :
      Fits (room + 1) (object fields)

variable {room : Nat}

/-- Items that are all written are written one after another. -/
theorem writtenItems_of_forall {items : List Json}
    (h : ∀ v ∈ items, written room v = .ok v.compact) :
    writtenItems room items = .ok (items.map fun v => v.compact) := by
  induction items with
  | nil => rfl
  | cons v items ih =>
    obtain ⟨hv, hitems⟩ := List.forall_mem_cons.1 h
    rw [writtenItems, hv, ih hitems]
    rfl

/-- So are fields. -/
theorem writtenFields_of_forall {fields : List (String × Json)}
    (h : ∀ e ∈ fields, written room e.2 = .ok e.2.compact) :
    writtenFields room fields =
      .ok (fields.map fun e => quotedText e.1 ++ ':' :: ' ' :: e.2.compact) := by
  induction fields with
  | nil => rfl
  | cons e fields ih =>
    obtain ⟨he, hfields⟩ := List.forall_mem_cons.1 h
    rw [writtenFields, he, ih hfields]
    rfl

/-- A value that fits is written. -/
theorem Fits.written_eq {v : Json} (h : v.Fits room) : written room v = .ok v.compact := by
  induction h with
  | null | bool | real | text => rfl
  | int h => rw [written, if_pos h, compact]
  | array _ ih =>
    rw [written, writtenItems_of_forall ih, compact]
    rfl
  | object _ ih =>
    rw [written, writtenFields_of_forall ih, compact]
    rfl

mutual

/-- A value that is written fits. -/
theorem fits_of_written {room : Nat} :
    ∀ {v : Json} {l : List Char}, written room v = .ok l → v.Fits room
  | null, _, _ => .null
  | bool b, _, _ => .bool b
  | real x, _, _ => .real x
  | text s, _, _ => .text s
  | int n, _, h => by
    rw [written] at h
    split at h
    · next hn => exact .int hn
    · cases h
  | array items, _, h => by
    cases room with
    | zero =>
      rw [written] at h
      cases h
    | succ room =>
      cases hitems : writtenItems room items with
      | error e =>
        rw [written, hitems] at h
        cases h
      | ok texts => exact .array (fits_of_writtenItems hitems)
  | object fields, _, h => by
    cases room with
    | zero =>
      rw [written] at h
      cases h
    | succ room =>
      cases hfields : writtenFields room fields with
      | error e =>
        rw [written, hfields] at h
        cases h
      | ok texts => exact .object (fits_of_writtenFields hfields)

/-- Items that are written fit, one by one. -/
theorem fits_of_writtenItems {room : Nat} : ∀ {items : List Json} {texts : List (List Char)},
    writtenItems room items = .ok texts → ∀ v ∈ items, v.Fits room
  | [], _, _ => List.forall_mem_nil _
  | v :: items, _, h => by
    rw [writtenItems] at h
    cases hv : written room v with
    | error e =>
      rw [hv] at h
      cases h
    | ok first =>
      cases hitems : writtenItems room items with
      | error e =>
        rw [hv, hitems] at h
        cases h
      | ok rest =>
        exact List.forall_mem_cons.2 ⟨fits_of_written hv, fits_of_writtenItems hitems⟩

/-- So do fields. -/
theorem fits_of_writtenFields {room : Nat} :
    ∀ {fields : List (String × Json)} {texts : List (List Char)},
      writtenFields room fields = .ok texts → ∀ e ∈ fields, e.2.Fits room
  | [], _, _ => List.forall_mem_nil _
  | (name, v) :: fields, _, h => by
    rw [writtenFields] at h
    cases hv : written room v with
    | error e =>
      rw [hv] at h
      cases h
    | ok first =>
      cases hfields : writtenFields room fields with
      | error e =>
        rw [hv, hfields] at h
        cases h
      | ok rest =>
        exact List.forall_mem_cons.2 ⟨fits_of_written hv, fits_of_writtenFields hfields⟩

end

/-- **A value is written just if it fits**, and then as `Json.compact`. -/
theorem written_eq_ok_iff {v : Json} {l : List Char} :
    written room v = .ok l ↔ v.Fits room ∧ l = v.compact := by
  constructor
  · intro h
    have hfits := fits_of_written h
    exact ⟨hfits, Except.ok.inj (h.symm.trans hfits.written_eq)⟩
  · rintro ⟨hfits, rfl⟩
    exact hfits.written_eq

/-- A power of ten has more digits than its exponent. -/
theorem not_hasNumeral_tenPow {n : Nat} (h : maxNumeralDigits ≤ n) :
    ¬HasNumeral (10 ^ n : Nat) := by
  intro hshort
  have hlt : Binary64.tenPow n < Binary64.tenPow (digitsOf (10 ^ n)).length :=
    Binary64.lt_tenPow_length (10 ^ n)
  have hn : n < (digitsOf (10 ^ n)).length := (Nat.pow_lt_pow_iff_right (by decide)).1 hlt
  exact absurd (Nat.le_trans hshort h) (Nat.not_le.2 hn)

/-- Lists in each other, `n` of them around an empty one. -/
def nested : Nat → Json
  | 0 => array []
  | n + 1 => array [nested n]

/-- They are not written where no more than `n` may be entered. -/
theorem written_nested {n : Nat} (h : room ≤ n) : written room (nested n) = .error .depth := by
  induction n generalizing room with
  | zero => rw [nested, Nat.le_zero.1 h, written]
  | succ n ih =>
    cases room with
    | zero => rw [nested, written]
    | succ room =>
      rw [nested, written, writtenItems, ih (Nat.le_of_succ_le_succ h)]
      rfl

end PatchTriage.Json
