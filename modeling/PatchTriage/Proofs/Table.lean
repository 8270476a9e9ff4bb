import PatchTriage.Table
import Mathlib.Algebra.Ring.Nat
import Mathlib.Data.List.Induction
import Mathlib.Data.List.Nodup

/-!
# Gathering and counting by tables

A table in which no key stands twice is altered at one place (`Table.alter_cons`). Such is a table
in which values are gathered: under each key stands what the values under that key come to, whatever
stands between them in the list (`Table.get?_gather`), and a measure that grows by one with each
value adds up to the length of the list (`Table.sum_gather`). Counting is the simplest way to gather
(`Table.counts_eq_gather`). Keys need not be equal to count as one key: it is enough that something
tells apart those that do not (`Table.sum_counts_of_key`).
-/

namespace PatchTriage.Table

variable {κ α : Type} [BEq κ]

/-- A further key adds one to its count. -/
@[simp]
theorem counts_concat (l : List κ) (key : κ) :
    Table.counts (l ++ [key]) = Table.alter (Table.counts l) key 0 (· + 1) := by
  simp [counts]

/-- A further entry goes to what has been gathered under its key. -/
@[simp]
theorem gather_concat {β : Type} (initial : α) (f : α → β → α) (l : Table κ β) (e : κ × β) :
    Table.gather initial f (l ++ [e]) =
      Table.alter (Table.gather initial f l) e.1 initial fun a => f a e.2 := by
  simp [gather]

/-- To count keys is to gather nothing under them. -/
theorem counts_eq_gather (l : List κ) :
    Table.counts l = Table.gather 0 (fun n (_ : Unit) => n + 1) (l.map fun key => (key, ())) := by
  rw [gather, List.foldl_map]
  rfl

/-- The values under a key, in their order. -/
def valuesUnder {β : Type} (l : Table κ β) (key : κ) : List β :=
  (l.filter fun e => e.1 == key).map (·.2)

/-- A further value is under its own key and under no other one. -/
@[simp]
theorem valuesUnder_concat {β : Type} (l : Table κ β) (e : κ × β) (key : κ) :
    valuesUnder (l ++ [e]) key =
      if e.1 == key then valuesUnder l key ++ [e.2] else valuesUnder l key := by
  rw [valuesUnder, List.filter_append, List.map_append, List.filter_singleton]
  cases e.1 == key with
  | true => rfl
  | false => exact List.append_nil _

/-- A further entry is written over the rest. -/
@[simp]
theorem putAll_concat (t u : Table κ α) (e : κ × α) :
    Table.putAll t (u ++ [e]) = Table.put (Table.putAll t u) e.1 e.2 := by
  simp [putAll]

/-- What holds of the values in a table and of a further one holds after a write. -/
theorem forall_mem_put {P : α → Prop} {t : Table κ α} (h : ∀ e ∈ t, P e.2) (key : κ) {value : α}
    (hvalue : P value) : ∀ e ∈ Table.put t key value, P e.2 := by
  rw [put]
  split
  · refine List.forall_mem_map.2 fun e he => ?_
    split
    · exact hvalue
    · exact h e he
  · exact List.forall_mem_append.2 ⟨h, List.forall_mem_singleton.2 hvalue⟩

/-- So it does after writing entries with such values. -/
theorem forall_mem_putAll {P : α → Prop} {t u : Table κ α} (ht : ∀ e ∈ t, P e.2)
    (hu : ∀ e ∈ u, P e.2) : ∀ e ∈ Table.putAll t u, P e.2 := by
  induction u using List.reverseRecOn with
  | nil => exact ht
  | append_singleton u e ih =>
    obtain ⟨hu, he⟩ := List.forall_mem_append.1 hu
    simpa using forall_mem_put (ih hu) e.1 (he e List.mem_cons_self)

/-! ## Keys told apart by something else -/

section
variable {μ : Type} [BEq μ] {g : μ → κ} {t : Table μ α} {key : μ}

/-- A table by what tells its keys apart. -/
def mapKeys (g : μ → κ) (t : Table μ α) : Table κ α := t.map fun e => (g e.1, e.2)

/-- Under what tells a key apart stands what stood under the key. -/
theorem get?_mapKeys (h : ∀ e ∈ t, (e.1 == key) = (g e.1 == g key)) :
    Table.get? (mapKeys g t) (g key) = Table.get? t key := by
  induction t with
  | nil => rfl
  | cons e t ih =>
    obtain ⟨he, ht⟩ := List.forall_mem_cons.1 h
    have hrest : Table.get? (t.map fun d => (g d.1, d.2)) (g key) = Table.get? t key := ih ht
    simp [mapKeys, he, hrest]

/-- To write under what tells a key apart is to write under the key. -/
theorem put_mapKeys (h : ∀ e ∈ t, (e.1 == key) = (g e.1 == g key)) (value : α) :
    Table.put (mapKeys g t) (g key) value = mapKeys g (Table.put t key value) := by
  have hany : (mapKeys g t).any (fun e => e.1 == g key) = t.any fun e => e.1 == key := by
    rw [mapKeys, List.any_map, Bool.eq_iff_iff, List.any_eq_true, List.any_eq_true]
    exact exists_congr fun e => and_congr_right fun he => by rw [h e he]; rfl
  rw [put, put, hany]
  split
  · rw [mapKeys, mapKeys, List.map_map, List.map_map]
    refine List.map_congr_left fun e he => ?_
    rw [Function.comp_apply, Function.comp_apply, h e he]
    split <;> rfl
  · rw [mapKeys, mapKeys, List.map_append]
    rfl

/-- After a write under a key, an entry stands under this key or under one of the table. -/
theorem mem_put {e : μ × α} {value : α} (h : e ∈ Table.put t key value) :
    e.1 = key ∨ e.1 ∈ Table.keys t := by
  rw [put] at h
  split at h
  · obtain ⟨d, hd, rfl⟩ := List.mem_map.1 h
    refine .inr (List.mem_map.2 ⟨d, hd, ?_⟩)
    split <;> rfl
  · rcases List.mem_append.1 h with h | h
    · exact .inr (List.mem_map_of_mem h)
    · obtain rfl := List.mem_singleton.1 h
      exact .inl rfl

/-- If something tells the elements of a list apart, it can be counted in their place. -/
theorem counts_mapKeys {l : List μ} (h : ∀ a ∈ l, ∀ b ∈ l, (a == b) = (g a == g b)) :
    mapKeys g (Table.counts l) = Table.counts (l.map g) ∧ ∀ e ∈ Table.counts l, e.1 ∈ l := by
  induction l using List.reverseRecOn with
  | nil => exact ⟨rfl, nofun⟩
  | append_singleton l last ih =>
    have hl : ∀ {a}, a ∈ l → a ∈ l ++ [last] := List.mem_append_left _
    have hlast : last ∈ l ++ [last] := List.mem_append_right l List.mem_cons_self
    obtain ⟨hmap, hmem⟩ := ih fun a ha b hb => h a (hl ha) b (hl hb)
    have hkeys : ∀ e ∈ Table.counts l, (e.1 == last) = (g e.1 == g last) :=
      fun e he => h e.1 (hl (hmem e he)) last hlast
    rw [counts_concat, List.map_append, List.map_singleton, counts_concat, alter, alter, ← hmap,
      get?_mapKeys hkeys, put_mapKeys hkeys]
    refine ⟨rfl, fun e he => ?_⟩
    rcases mem_put he with hnew | hold
    · exact hnew ▸ hlast
    · obtain ⟨d, hd, hde⟩ := List.mem_map.1 hold
      exact hl (hde ▸ hmem d hd)

end

/-! ## One key at a time -/

variable [LawfulBEq κ]

/-- Some entry stands under a key just if the key is one of the table. -/
@[simp]
theorem any_key_iff {t : Table κ α} {key : κ} :
    t.any (fun e => e.1 == key) = true ↔ key ∈ Table.keys t := by
  rw [List.any_eq_true, keys, List.mem_map]
  exact exists_congr fun e => and_congr_right fun _ => beq_iff_eq

/-- Nothing is found under a key just if it is none of the table's. -/
theorem get?_eq_none_iff {t : Table κ α} {key : κ} :
    Table.get? t key = none ↔ key ∉ Table.keys t := by
  rw [get?, Option.map_eq_none_iff, List.find?_eq_none, ← any_key_iff, List.any_eq_true]
  constructor
  · rintro h ⟨e, he, hkey⟩
    exact h e he hkey
  · exact fun h e he hkey => h ⟨e, he, hkey⟩

/-- A write keeps all keys apart. -/
@[simp]
theorem nodup_keys_put {t : Table κ α} (h : (Table.keys t).Nodup) (key : κ) (value : α) :
    (Table.keys (Table.put t key value)).Nodup := by
  rw [keys_put]
  split
  · exact h
  · next hkey =>
    have hnew : key ∉ Table.keys t := fun hmem => hkey (any_key_iff.2 hmem)
    rw [← List.concat_eq_append]
    exact h.concat hnew

/-- So does writing entries over a table, whatever their keys are. -/
theorem nodup_keys_putAll {t : Table κ α} (h : (Table.keys t).Nodup) (u : Table κ α) :
    (Table.keys (Table.putAll t u)).Nodup := by
  induction u using List.reverseRecOn with
  | nil => exact h
  | append_singleton u e ih => simp [ih]

/-- Nothing is found under a key that is left out, and any other is found as before. -/
theorem get?_filter_keys (keep : κ → Bool) (t : Table κ α) (key : κ) :
    Table.get? (t.filter fun e => keep e.1) key = if keep key then Table.get? t key else none := by
  induction t with
  | nil => exact (ite_self none).symm
  | cons e t ih =>
    rw [List.filter_cons]
    by_cases hkey : e.1 = key
    · subst hkey
      cases hkeep : keep e.1 with
      | true => simp
      | false => simp [ih, hkeep]
    · cases keep e.1 with
      | true => simp [ih, hkey]
      | false => simp [ih, hkey]

/-- A table without a key twice is what comes of writing its entries. -/
theorem putAll_of_nodup {u : Table κ α} (h : (Table.keys u).Nodup) : Table.putAll [] u = u := by
  induction u using List.reverseRecOn with
  | nil => rfl
  | append_singleton u e ih =>
    rw [keys_append, List.nodup_append] at h
    obtain ⟨hu, -, hnew⟩ := h
    have hkey : ¬u.any (fun d => d.1 == e.1) = true :=
      fun hmem => hnew e.1 (any_key_iff.1 hmem) e.1 List.mem_cons_self rfl
    rw [putAll_concat, ih hu, put, if_neg hkey]

/-- A table without a key twice is altered at one place: a key that stands first stands nowhere
else, so replacing its values leaves the rest as it is. -/
theorem alter_cons {e : κ × α} {t : Table κ α} (h : (Table.keys (e :: t)).Nodup) (key : κ)
    (initial : α) (f : α → α) :
    Table.alter (e :: t) key initial f =
      if e.1 == key then (e.1, f e.2) :: t else e :: Table.alter t key initial f := by
  rw [alter, put, get?_cons, List.any_cons]
  by_cases he : e.1 = key
  · have hfirst : e.1 ∉ Table.keys t := (List.nodup_cons.1 h).1
    have hnot : ∀ d ∈ t, (d.1 == key) = false := by
      intro d hd
      refine beq_eq_false_iff_ne.2 fun hdk => hfirst ?_
      rw [he, ← hdk]
      exact List.mem_map_of_mem hd
    have hrest : (t.map fun d => if d.1 == key then (d.1, f e.2) else d) = t :=
      (List.map_congr_left fun d hd => by rw [hnot d hd]; rfl).trans (List.map_id t)
    simp [he, hrest]
  · have hb : (e.1 == key) = false := beq_eq_false_iff_ne.2 he
    simp only [hb, Bool.false_or, Bool.false_eq_true, if_false, List.map_cons, alter, put]
    split <;> rfl

/-- Altering changes what is found under one key and nothing else. -/
@[simp]
theorem get?_alter (t : Table κ α) (key other : κ) (initial : α) (f : α → α) :
    Table.get? (Table.alter t key initial f) other =
      if key == other then some (f ((Table.get? t key).getD initial)) else Table.get? t other := by
  rw [alter]
  by_cases h : key = other
  · subst h
    simp
  · simp [h]

/-- If altering an entry makes its measure greater by one, the measures add up to one more. -/
theorem sum_alter {w : α → Nat} {t : Table κ α} (h : (Table.keys t).Nodup) (key : κ) {initial : α}
    {f : α → α} (hinitial : w initial = 0) (hf : ∀ a, w (f a) = w a + 1) :
    ((Table.alter t key initial f).map fun e => w e.2).sum = (t.map fun e => w e.2).sum + 1 := by
  induction t with
  | nil =>
    have halter : Table.alter [] key initial f = [(key, f initial)] := rfl
    rw [halter, List.map_singleton, List.sum_singleton, hf, hinitial]
    rfl
  | cons e t ih =>
    rw [alter_cons h]
    split
    · rw [List.map_cons, List.map_cons, List.sum_cons, List.sum_cons, hf]
      omega
    · rw [List.map_cons, List.map_cons, List.sum_cons, List.sum_cons, ih (List.nodup_cons.1 h).2]
      omega

/-! ## Gathered values -/

section
variable {β : Type} {initial : α} {f : α → β → α}

/-- To list values one behind another gives back their list. -/
theorem foldl_listed (values : List β) :
    values.foldl (fun values x => values ++ [x]) [] = values := by
  rw [List.foldl_append_eq_append, List.nil_append, ← List.flatMap_def, List.flatMap_singleton']

/-- Gathering lists no key twice. -/
@[simp]
theorem nodup_keys_gather (l : Table κ β) : (Table.keys (Table.gather initial f l)).Nodup := by
  induction l using List.reverseRecOn with
  | nil => exact List.nodup_nil
  | append_singleton l e ih =>
    simp [alter, ih]

/-- **Under each key stands what the values under that key come to**, one after another, and nothing
stands where there are none. -/
@[simp]
theorem get?_gather (l : Table κ β) (key : κ) : Table.get? (Table.gather initial f l) key =
    if valuesUnder l key = [] then none else some ((valuesUnder l key).foldl f initial) := by
  induction l using List.reverseRecOn with
  | nil => rfl
  | append_singleton l e ih =>
    rw [gather_concat, get?_alter, valuesUnder_concat]
    split
    · next hkey =>
      have hbefore : (Table.get? (Table.gather initial f l) e.1).getD initial =
          (valuesUnder l key).foldl f initial := by
        rw [eq_of_beq hkey, ih]
        split
        · next hnil => rw [hnil]; rfl
        · rfl
      rw [if_neg (List.append_ne_nil_of_right_ne_nil _ (List.cons_ne_nil _ _)), List.foldl_append,
        hbefore]
      rfl
    · exact ih

/-- A measure that starts at zero and grows by one with each value adds up to the number of values.
-/
theorem sum_gather {w : α → Nat} (hinitial : w initial = 0) (hf : ∀ a b, w (f a b) = w a + 1)
    (l : Table κ β) : ((Table.gather initial f l).map fun e => w e.2).sum = l.length := by
  induction l using List.reverseRecOn with
  | nil => rfl
  | append_singleton l e ih =>
    rw [gather_concat, sum_alter (nodup_keys_gather l) e.1 hinitial fun a => hf a e.2, ih,
      List.length_append]
    rfl

end

/-! ## The counts of a list -/

/-- Counting lists no key twice. -/
@[simp]
theorem nodup_keys_counts (l : List κ) : (Table.keys (Table.counts l)).Nodup := by
  simp [counts_eq_gather]

/-- Under each key stands how often it occurs; nothing stands under any other one. -/
@[simp]
theorem get?_counts (l : List κ) (key : κ) :
    Table.get? (Table.counts l) key = if l.count key = 0 then none else some (l.count key) := by
  induction l using List.reverseRecOn with
  | nil => rfl
  | append_singleton l last ih =>
    by_cases h : last = key
    · subst h
      by_cases hzero : l.count last = 0
      · simp [ih, hzero]
      · simp [ih, hzero]
    · simp [ih, h]

/-- The counts add up to the length of the list. -/
@[simp]
theorem sum_counts (l : List κ) : ((Table.counts l).map (·.2)).sum = l.length := by
  have hsum := sum_gather (w := id) (f := fun n (_ : Unit) => n + 1) rfl (fun _ _ => rfl)
    (l.map fun key => (key, ()))
  rw [← counts_eq_gather, List.length_map] at hsum
  exact hsum

/-- Writing entries over a table: what they say themselves comes first. -/
theorem get?_putAll (t u : Table κ α) (key : κ) :
    Table.get? (Table.putAll t u) key =
      (Table.get? (Table.putAll [] u) key).or (Table.get? t key) := by
  induction u using List.reverseRecOn with
  | nil => rfl
  | append_singleton u e ih =>
    by_cases h : e.1 = key
    · subst h
      simp
    · simp [h, ih]

/-- If something tells the elements of a list apart, its counts add up to its length. -/
theorem sum_counts_of_key {μ : Type} [BEq μ] {g : μ → κ} {l : List μ}
    (h : ∀ a ∈ l, ∀ b ∈ l, (a == b) = (g a == g b)) :
    ((Table.counts l).map (·.2)).sum = l.length := by
  have hvalues : (Table.counts l).map (·.2) = (Table.counts (l.map g)).map (·.2) := by
    rw [← (counts_mapKeys h).1, mapKeys, List.map_map]
    rfl
  rw [hvalues, sum_counts, List.length_map]

end PatchTriage.Table
