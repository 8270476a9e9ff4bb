/-!
# Tables

A table maps keys to values and remembers the order in which the keys first arrived. Writing to a
key that is present keeps its place and replaces its value.
-/

namespace PatchTriage

/-- Entries by key, in the order of arrival. -/
abbrev Table (κ α : Type) := List (κ × α)

namespace Table

variable {κ α : Type}

/-- The keys, in the order of arrival. -/
def keys (t : Table κ α) : List κ := t.map (·.1)

/-- An empty table has no keys. -/
@[simp] theorem keys_nil : Table.keys ([] : Table κ α) = [] := rfl

/-- The key of the first entry stands first. -/
@[simp] theorem keys_cons (e : κ × α) (t : Table κ α) : Table.keys (e :: t) = e.1 :: Table.keys t :=
  rfl

/-- The keys of a table stand before those of what is put behind it. -/
@[simp] theorem keys_append (t u : Table κ α) :
    Table.keys (t ++ u) = Table.keys t ++ Table.keys u := List.map_append

/-- The keys of a table whose entries are made of the elements of a list. -/
@[simp] theorem keys_map {β : Type} (f : β → κ × α) (l : List β) :
    Table.keys (l.map f) = l.map fun b => (f b).1 := List.map_map

/-- The entry with the greatest positive count, the earliest of equals. -/
def greatest? (t : Table κ Nat) : Option (κ × Nat) :=
  t.foldl (fun best e => if best.elim 0 (·.2) < e.2 then some e else best) none

variable [BEq κ]

/-- The value written under a key. -/
def get? (t : Table κ α) (key : κ) : Option α := (t.find? fun e => e.1 == key).map (·.2)

/-- Writes a value under a key. -/
def put (t : Table κ α) (key : κ) (value : α) : Table κ α :=
  if t.any (fun e => e.1 == key) then t.map fun e => if e.1 == key then (e.1, value) else e
  else t ++ [(key, value)]

/-- Writes the entries of `u` into `t`, one after another. -/
def putAll (t u : Table κ α) : Table κ α := u.foldl (fun t e => Table.put t e.1 e.2) t

/-- Changes the value under a key, which starts from `initial`. -/
def alter (t : Table κ α) (key : κ) (initial : α) (f : α → α) : Table κ α :=
  Table.put t key (f ((Table.get? t key).getD initial))

/-- Gathers values by their keys: the entry under a key starts from `initial` and takes in one value
after another. -/
def gather {β : Type} (initial : α) (f : α → β → α) (l : List (κ × β)) : Table κ α :=
  l.foldl (fun t e => Table.alter t e.1 initial fun a => f a e.2) []

/-- How often each key occurs in a list, in the order of first occurrence. -/
def counts (l : List κ) : Table κ Nat := l.foldl (fun t key => Table.alter t key 0 (· + 1)) []

/-- The keys after a write: a new key goes to the end and a present one keeps its place. -/
theorem keys_put [LawfulBEq κ] (t : Table κ α) (key : κ) (value : α) :
    Table.keys (Table.put t key value) =
      if t.any (fun e => e.1 == key) then Table.keys t else Table.keys t ++ [key] := by
  simp only [put, keys]
  split
  · rw [List.map_map]
    apply List.map_congr_left
    intro e _
    simp only [Function.comp]
    split <;> rfl
  · simp

/-- Nothing is found in an empty table. -/
@[simp] theorem get?_nil (key : κ) : Table.get? ([] : Table κ α) key = none := rfl

/-- The first entry under a key is the one that is found. -/
@[simp] theorem get?_cons (e : κ × α) (t : Table κ α) (key : κ) :
    Table.get? (e :: t) key = if e.1 == key then some e.2 else Table.get? t key := by
  simp only [get?, List.find?_cons]
  split <;> simp_all

/-- An entry of a first table is found before those of a second one. -/
@[simp] theorem get?_append (t u : Table κ α) (key : κ) :
    Table.get? (t ++ u) key = (Table.get? t key).or (Table.get? u key) := by
  induction t with
  | nil => rfl
  | cons e t ih =>
    by_cases h : (e.1 == key) = true
    · simp [h]
    · simp [h, ih]

/-- Nothing is found under a key that is not present. -/
theorem get?_eq_none {t : Table κ α} {key : κ} (h : t.any (fun e => e.1 == key) = false) :
    Table.get? t key = none := by
  rw [get?, Option.map_eq_none_iff, List.find?_eq_none]
  intro e he
  have := List.any_eq_false.1 h e he
  exact this

/-- Replacing the values under one key leaves what is found under another. -/
theorem get?_replace_of_ne [LawfulBEq κ] {key other : κ} (h : key ≠ other) (t : Table κ α)
    (value : α) :
    Table.get? (t.map fun e => if e.1 == key then (e.1, value) else e) other =
      Table.get? t other := by
  induction t with
  | nil => rfl
  | cons e t ih =>
    by_cases he : e.1 = key
    · simp [he, h, ih]
    · simp [he, ih]

/-- Replacing the values under a key that is present makes the new value the one found. -/
theorem get?_replace_self [LawfulBEq κ] {key : κ} {t : Table κ α}
    (h : t.any (fun e => e.1 == key) = true) (value : α) :
    Table.get? (t.map fun e => if e.1 == key then (e.1, value) else e) key = some value := by
  induction t with
  | nil => simp at h
  | cons e t ih =>
    by_cases he : e.1 = key
    · simp [he]
    · rw [List.any_cons, beq_eq_false_iff_ne.2 he, Bool.false_or] at h
      simp [he, ih h]

/-- The value just written is the one found. -/
@[simp] theorem get?_put_self [LawfulBEq κ] (t : Table κ α) (key : κ) (value : α) :
    Table.get? (Table.put t key value) key = some value := by
  rw [put]
  split
  · rename_i h
    exact get?_replace_self h value
  · rename_i h
    simp [get?_eq_none (Bool.eq_false_iff.2 h)]

/-- A write under one key leaves what is found under another. -/
@[simp] theorem get?_put_of_ne [LawfulBEq κ] {key other : κ} (h : key ≠ other) (t : Table κ α)
    (value : α) :
    Table.get? (Table.put t key value) other = Table.get? t other := by
  rw [put]
  split
  · exact get?_replace_of_ne h t value
  · simp [h]

end Table

end PatchTriage
