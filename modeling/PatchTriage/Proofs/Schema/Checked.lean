import PatchTriage.Schema.Convert

/-!
# Outcomes of checks

A record is valid if all its parts are (`Checked.apply_eq_valid_iff`), and else it has the
violations of its parts, one part after the other (`Checked.violations_apply`). A conversion that
refuses a value has one problem with it (`Checked.Single`), so that a field has at most one
violation, which bears the name of the field (`Convert.violations_fieldOr`).
-/

namespace PatchTriage

namespace Checked

variable {α β : Type}

/-- What is wrong; nothing is wrong with a valid value. -/
def violations : Checked α → List Violation
  | valid _ => []
  | invalid l => l

/-- Whether a value is valid unless something is wrong with it. -/
def Reasoned (x : Checked α) : Prop := x.violations = [] → ∃ a, x = .valid a

/-! ## Parts -/

/-- A mapped result is valid just if the result is, with a value that is mapped to this one. -/
theorem map_eq_valid_iff {f : α → β} {x : Checked α} {b : β} :
    f <$> x = .valid b ↔ ∃ a, x = .valid a ∧ f a = b := by
  cases x with
  | valid a =>
    refine ⟨fun h => ⟨a, rfl, valid.inj h⟩, ?_⟩
    rintro ⟨_, ⟨⟩, rfl⟩
    rfl
  | invalid l => exact ⟨nofun, nofun⟩

/-- Two parts give a valid value if both are valid. -/
theorem apply_eq_valid_iff {f : Checked (α → β)} {x : Checked α} {b : β} :
    f <*> x = .valid b ↔ ∃ g a, f = .valid g ∧ x = .valid a ∧ g a = b := by
  cases f with
  | invalid l => cases x <;> exact ⟨nofun, nofun⟩
  | valid g =>
    cases x with
    | invalid l => exact ⟨nofun, nofun⟩
    | valid a =>
      refine ⟨fun h => ⟨g, a, rfl, rfl, valid.inj h⟩, ?_⟩
      rintro ⟨_, _, ⟨⟩, ⟨⟩, rfl⟩
      rfl

/-- To map a result changes none of its violations. -/
@[simp]
theorem violations_map (f : α → β) (x : Checked α) : (f <$> x).violations = x.violations := by
  cases x <;> rfl

/-- What is wrong with the first part comes before what is wrong with the second. -/
theorem violations_apply (f : Checked (α → β)) (x : Checked α) :
    (f <*> x).violations = f.violations ++ x.violations := by
  cases f with
  | valid g => cases x <;> rfl
  | invalid l =>
    cases x with
    | valid a => exact (List.append_nil l).symm
    | invalid l' => rfl

/-- A mapped result is reasoned if the result is. -/
theorem Reasoned.map {f : α → β} {x : Checked α} (h : x.Reasoned) : (f <$> x).Reasoned := by
  intro hnone
  rw [violations_map] at hnone
  obtain ⟨a, rfl⟩ := h hnone
  exact ⟨f a, rfl⟩

/-- Two reasoned results are put together to a reasoned one. -/
theorem Reasoned.apply {f : Checked (α → β)} {x : Checked α} (hf : f.Reasoned) (hx : x.Reasoned) :
    (f <*> x).Reasoned := by
  intro hnone
  rw [violations_apply, List.append_eq_nil_iff] at hnone
  obtain ⟨g, rfl⟩ := hf hnone.1
  obtain ⟨a, rfl⟩ := hx hnone.2
  exact ⟨g a, rfl⟩

/-- A check succeeds just if its result is valid. -/
@[simp]
theorem toExcept_eq_ok_iff {x : Checked α} {a : α} : x.toExcept = .ok a ↔ x = .valid a := by
  cases x with
  | valid b =>
    constructor
    · rintro ⟨⟩
      rfl
    · rintro ⟨⟩
      rfl
  | invalid l => exact ⟨nofun, nofun⟩

/-! ## One problem -/

/-- Whether an outcome is a value or one problem with what was checked as a whole. -/
inductive Single : Checked α → Prop
  | valid (a : α) : Single (.valid a)
  | refuse (p : Problem) : Single (.refuse p)

/-- What is wrong first. -/
def problem? (x : Checked α) : Option Problem := x.violations.head?.map (·.problem)

/-- A further condition on a value adds at most one problem, where there is none yet. -/
theorem Single.require {x : Checked α} (h : x.Single) (problem? : α → Option Problem) :
    (x.require problem?).Single := by
  cases h with
  | refuse p => exact .refuse p
  | valid a =>
    rw [Checked.require]
    split
    · exact .refuse _
    · exact .valid a

/-- One check behind another has at most one problem if both have. -/
theorem Single.andThen {x : Checked α} {f : α → Checked β} (h : x.Single)
    (hf : ∀ a, (f a).Single) : (x.andThen f).Single := by
  cases h with
  | refuse p => exact .refuse p
  | valid a => exact hf a

/-- A valid value meets what was required of it. -/
theorem require_eq_valid_iff {x : Checked α} {problem? : α → Option Problem} {a : α} :
    x.require problem? = .valid a ↔ x = .valid a ∧ problem? a = none := by
  cases x with
  | invalid l => exact ⟨nofun, nofun⟩
  | valid b =>
    rw [require]
    constructor
    · intro h
      split at h
      · cases h
      · next hb =>
        obtain rfl := valid.inj h
        exact ⟨rfl, hb⟩
    · rintro ⟨⟨⟩, hb⟩
      rw [hb]

/-- A result is valid inside a field just if it is valid. -/
@[simp]
theorem within_eq_valid_iff {step : String} {x : Checked α} {a : α} :
    x.within step = .valid a ↔ x = .valid a := by
  cases x with
  | valid b => exact Iff.rfl
  | invalid l => exact ⟨nofun, nofun⟩

/-- Seen from further out, a problem has its place. -/
theorem Single.violations_within {x : Checked α} (h : x.Single) (step : String) :
    (x.within step).violations = (x.problem?.map fun p => (⟨[step], p⟩ : Violation)).toList := by
  cases h with
  | valid a => rfl
  | refuse p => rfl

/-- A result with at most one problem is reasoned inside a field. -/
theorem Single.reasoned_within {x : Checked α} (h : x.Single) (step : String) :
    (x.within step).Reasoned := by
  cases h with
  | valid a => exact fun _ => ⟨a, rfl⟩
  | refuse p => exact nofun

end Checked

namespace Convert

open Checked (Single)

/-! ## Conversions -/

/-- A text is refused for one reason. -/
theorem single_text (v : Json) : (text v).Single := by
  cases v with
  | text s => exact .valid s
  | _ => exact .refuse _

/-- An integer in a text is refused for one reason. -/
theorem single_integerOfText (l : List Char) : (integerOfText l).Single := by
  rw [integerOfText]
  split
  · exact .valid _
  · exact .refuse _
  · split
    · exact .valid _
    · exact .refuse _

/-- So is an integer. -/
theorem single_integer (v : Json) : (integer v).Single := by
  cases v with
  | int n => exact .valid n
  | bool b => exact .valid _
  | text s => exact single_integerOfText s.toList
  | real x =>
    rw [integer]
    split
    · exact .refuse _
    · split
      · exact .valid _
      · exact .refuse _
  | _ => exact .refuse _

/-- So is a number. -/
theorem single_number (v : Json) : (number v).Single := by
  cases v with
  | real x => exact .valid x
  | bool b => exact .valid _
  | int n =>
    rw [number]
    cases Binary64.ofInt? n with
    | none => exact .refuse _
    | some x => exact .valid x
  | text s =>
    rw [number, numberOfText]
    split
    · exact .valid _
    · exact .refuse _
  | _ => exact .refuse _

/-- So is a truth value. -/
theorem single_boolean (v : Json) : (boolean v).Single := by
  have hinteger (n : Int) : (booleanOfInteger n).Single := by
    rw [booleanOfInteger]
    split
    · exact .valid _
    · split
      · exact .valid _
      · exact .refuse _
  cases v with
  | bool b => exact .valid b
  | int n =>
    rw [boolean]
    split
    · exact hinteger n
    · exact .refuse _
  | real x =>
    rw [boolean]
    split
    · exact hinteger x.toInt
    · exact .refuse _
  | text s =>
    rw [boolean, booleanOfText]
    split
    · exact .valid _
    · split
      · exact .valid _
      · exact .refuse _
  | _ => exact .refuse _

/-- So is a score. -/
theorem single_score (v : Json) : (score v).Single := (single_number v).require _

/-- So is an integer above a bound. -/
theorem single_above (bound : Int) (v : Json) : (above bound v).Single :=
  (single_integer v).require _

/-- So is an integer from a bound up. -/
theorem single_atLeast (bound : Int) (v : Json) : (atLeast bound v).Single :=
  (single_integer v).require _

/-- An integer above a bound is one. -/
theorem above_eq_valid_iff {bound n : Int} {v : Json} :
    above bound v = .valid n ↔ integer v = .valid n ∧ bound < n := by
  rw [above, Checked.require_eq_valid_iff]
  simp

/-- An integer from a bound up is one. -/
theorem atLeast_eq_valid_iff {bound n : Int} {v : Json} :
    atLeast bound v = .valid n ↔ integer v = .valid n ∧ bound ≤ n := by
  rw [atLeast, Checked.require_eq_valid_iff]
  simp

/-! ## Fields -/

section
variable {α : Type} {fields : Fields} {name : String} {default : α} {convert : Json → Checked α}

/-- A field is read if its value is, or it is not there and has its default. -/
theorem fieldOr_eq_valid_iff {a : α} :
    fieldOr fields name default convert = .valid a ↔
      (∃ v, Table.get? fields name = some v ∧ convert v = .valid a) ∨
        (Table.get? fields name = none ∧ default = a) := by
  rw [fieldOr]
  cases Table.get? fields name with
  | none => simp
  | some v => simp

/-- A field whose value is refused has one violation, which bears its name. -/
theorem violations_fieldOr (h : ∀ v, (convert v).Single) :
    (fieldOr fields name default convert).violations =
      (((Table.get? fields name).bind fun v => (convert v).problem?).map fun p =>
        (⟨[name], p⟩ : Violation)).toList := by
  rw [fieldOr]
  cases Table.get? fields name with
  | none => rfl
  | some v => exact (h v).violations_within name

/-- A field with a default is refused for reasons if its value has at most one problem. -/
theorem reasoned_fieldOr (h : ∀ v, (convert v).Single) :
    (fieldOr fields name default convert).Reasoned := by
  rw [fieldOr]
  cases Table.get? fields name with
  | none => exact fun _ => ⟨default, rfl⟩
  | some v => exact (h v).reasoned_within name

end

end Convert

end PatchTriage
