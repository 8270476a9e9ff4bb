import PatchTriage.Proofs.Table

/-!
# Which key comes first

The keys of a list may have a measure, such as how often they occur. One of them is ahead of another
(`Ahead`) if its measure is greater, or if both measures are equal and it occurs first, and a key
that is ahead of all others leads (`Leads`). A table that lists the keys in the order in which they
first occur (`Table.Lists`), as a table of counts and one written entry by entry do, has the leading
key as its greatest entry (`Table.Lists.leads`). Sorted by its values from the greatest down it goes
by who is ahead, as sorting is stable (`Table.Lists.pairwise_mergeSort`), so its first entry is the
leading one as well.
-/

namespace PatchTriage

section
variable {κ : Type} [DecidableEq κ]

/-- Whether keys are those of a list, each once, in the order in which they first occur. -/
structure FirstSeen (l keys : List κ) : Prop where
  mem_iff : ∀ key, key ∈ keys ↔ key ∈ l
  ordered : keys.Pairwise fun a b => l.idxOf a < l.idxOf b

/-- Whether a key comes ahead of another one of a list: its measure is greater, or it has the same
measure and occurs first. -/
def Ahead (measure : κ → Nat) (l : List κ) (a b : κ) : Prop :=
  measure b < measure a ∨ measure b = measure a ∧ l.idxOf a < l.idxOf b

/-- Whether a key of a list comes ahead of all others. -/
def Leads (measure : κ → Nat) (l : List κ) (key : κ) : Prop :=
  key ∈ l ∧ ∀ other ∈ l, other ≠ key → Ahead measure l key other

instance (measure : κ → Nat) (l : List κ) (a b : κ) : Decidable (Ahead measure l a b) := by
  unfold Ahead
  infer_instance

instance (measure : κ → Nat) (l : List κ) (key : κ) :
    Decidable (Leads measure l key) := by
  unfold Leads
  infer_instance

variable {measure : κ → Nat} {l keys : List κ} {a b : κ}

/-- Keys in the order in which they first occur differ. -/
theorem FirstSeen.nodup (h : FirstSeen l keys) : keys.Nodup := by
  refine h.ordered.imp ?_
  rintro a _ hlt rfl
  exact Nat.lt_irrefl _ hlt

/-- Of two keys at most one is ahead. -/
theorem Ahead.asymm (hab : Ahead measure l a b) (hba : Ahead measure l b a) : False := by
  unfold Ahead at hab hba
  omega

/-- No key is ahead of itself. -/
theorem Ahead.ne (h : Ahead measure l a b) : a ≠ b := by
  rintro rfl
  exact h.asymm h

/-- At most one key leads. -/
theorem Leads.eq (ha : Leads measure l a) (hb : Leads measure l b) : a = b :=
  Decidable.byContradiction fun hne => (ha.2 b hb.1 (Ne.symm hne)).asymm (hb.2 a ha.1 hne)

end

/-! ## Stable sorting -/

section
variable {α : Type} {le : α → α → Bool} {l : List α}
  (htrans : ∀ a b c, le a b = true → le b c = true → le a c = true)
  (htotal : ∀ a b, (le a b || le b a) = true)
include htrans htotal

/-- **Sorting is stable**: elements that the order takes for equal stand as they stood before. -/
theorem filter_mergeSort {p : α → Bool}
    (hp : ∀ a b, p a = true → p b = true → le a b = true) :
    (l.mergeSort le).filter p = l.filter p := by
  have hordered : (l.filter p).Pairwise fun a b => le a b = true :=
    List.pairwise_of_forall_mem_list fun a ha b hb =>
      hp a b (List.mem_filter.1 ha).2 (List.mem_filter.1 hb).2
  have hsub := (List.sublist_mergeSort htrans htotal hordered List.filter_sublist).filter p
  rw [List.filter_filter, List.filter_congr fun b _ => Bool.and_self _] at hsub
  exact (hsub.eq_of_length ((List.mergeSort_perm l le).filter _).length_eq.symm).symm

/-- A sorted list keeps what held of any two elements in their old order, if they are equal in the
new one. -/
theorem pairwise_mergeSort_of_pairwise {R : α → α → Prop} (h : l.Pairwise R) :
    (l.mergeSort le).Pairwise fun a b => le a b = true ∧ (le b a = true → R a b) := by
  rw [List.pairwise_iff_forall_sublist]
  intro a b hsub
  have hab := List.pairwise_iff_forall_sublist.1 (List.pairwise_mergeSort htrans htotal l) hsub
  refine ⟨hab, fun hba => ?_⟩
  have haa : le a a = true := by simpa using htotal a a
  have hequal : ∀ b c, (le a b && le b a) = true → (le a c && le c a) = true → le b c = true := by
    intro b c hb hc
    exact htrans b a c (Bool.and_eq_true_iff.1 hb).2 (Bool.and_eq_true_iff.1 hc).1
  have hpair := hsub.filter fun c => le a c && le c a
  rw [filter_mergeSort htrans htotal hequal, List.filter_cons_of_pos (by simp [haa]),
    List.filter_cons_of_pos (by simp [hab, hba]), List.filter_nil] at hpair
  exact List.pairwise_iff_forall_sublist.1 h (hpair.trans List.filter_sublist)

end

namespace Table

variable {κ α : Type}

/-! ## The greatest entry -/

/-- A further entry becomes the greatest one if it is greater than all before it. -/
theorem greatest?_concat (t : Table κ Nat) (e : κ × Nat) : Table.greatest? (t ++ [e]) =
    if (Table.greatest? t).elim 0 (·.2) < e.2 then some e else Table.greatest? t := by
  rw [greatest?, List.foldl_append]
  rfl

/-- Either all values of a table are zero, or its greatest entry is greater than all before it and
not less than any behind it. -/
theorem greatest?_cases (t : Table κ Nat) :
    (Table.greatest? t = none ∧ ∀ e ∈ t, e.2 = 0) ∨
      ∃ front e back, t = front ++ e :: back ∧ Table.greatest? t = some e ∧ 0 < e.2 ∧
        (∀ d ∈ front, d.2 < e.2) ∧ ∀ d ∈ back, d.2 ≤ e.2 := by
  induction t using List.reverseRecOn with
  | nil => exact .inl ⟨rfl, nofun⟩
  | append_singleton t last ih =>
    rw [greatest?_concat]
    rcases ih with ⟨hnone, hzero⟩ | ⟨front, e, back, rfl, hsome, hpos, hfront, hback⟩
    · rw [hnone, Option.elim_none]
      by_cases hlast : 0 < last.2
      · have hless : ∀ d ∈ t, d.2 < last.2 := fun d hd => by rwa [hzero d hd]
        exact .inr ⟨t, last, [], rfl, if_pos hlast, hlast, hless, nofun⟩
      · have hlast' : last.2 = 0 := Nat.eq_zero_of_not_pos hlast
        exact .inl ⟨if_neg hlast,
          List.forall_mem_append.2 ⟨hzero, List.forall_mem_singleton.2 hlast'⟩⟩
    · rw [hsome, Option.elim_some]
      by_cases hlast : e.2 < last.2
      · have hless : ∀ d ∈ front ++ e :: back, d.2 < last.2 :=
          List.forall_mem_append.2 ⟨fun d hd => Nat.lt_trans (hfront d hd) hlast,
            List.forall_mem_cons.2 ⟨hlast, fun d hd => Nat.lt_of_le_of_lt (hback d hd) hlast⟩⟩
        exact .inr ⟨_, last, [], rfl, if_pos hlast, Nat.lt_trans hpos hlast, hless, nofun⟩
      · have hrest : ∀ d ∈ back ++ [last], d.2 ≤ e.2 :=
          List.forall_mem_append.2 ⟨hback, List.forall_mem_singleton.2 (Nat.not_lt.1 hlast)⟩
        exact .inr ⟨front, e, back ++ [last], by simp, if_neg hlast, hpos, hfront, hrest⟩

/-- The greatest entry of a table is an entry of it. -/
theorem mem_of_greatest? {t : Table κ Nat} {e : κ × Nat} (h : Table.greatest? t = some e) :
    e ∈ t := by
  rcases greatest?_cases t with ⟨hnone, -⟩ | ⟨front, e', back, ht, hsome, -⟩
  · rw [hnone] at h
    cases h
  · rw [hsome] at h
    obtain rfl := Option.some.inj h
    rw [ht]
    exact List.mem_append_right front List.mem_cons_self

/-! ## Keys in the order of arrival -/

variable [DecidableEq κ]

/-- A write keeps the keys in the order in which they are first written. -/
theorem firstSeen_put {l : List κ} {t : Table κ α} (h : FirstSeen l (Table.keys t)) (key : κ)
    (value : α) : FirstSeen (l ++ [key]) (Table.keys (Table.put t key value)) := by
  have hordered : (Table.keys t).Pairwise fun a b => (l ++ [key]).idxOf a < (l ++ [key]).idxOf b :=
    h.ordered.imp_of_mem fun ha hb hab => by
      rwa [List.idxOf_append_of_mem ((h.mem_iff _).1 ha),
        List.idxOf_append_of_mem ((h.mem_iff _).1 hb)]
  rw [keys_put]
  split
  · next hkey =>
    refine ⟨fun other => ?_, hordered⟩
    rw [h.mem_iff, List.mem_append, List.mem_singleton]
    refine ⟨.inl, fun ho => ho.elim id fun heq => ?_⟩
    rw [heq]
    exact (h.mem_iff key).1 (any_key_iff.1 hkey)
  · next hkey =>
    have hnew : key ∉ l := fun hmem => hkey (any_key_iff.2 ((h.mem_iff key).2 hmem))
    refine ⟨fun other => by rw [List.mem_append, List.mem_append, h.mem_iff], ?_⟩
    refine List.pairwise_append.2 ⟨hordered, List.pairwise_singleton _ _, fun a ha b hb => ?_⟩
    have hal := (h.mem_iff a).1 ha
    rw [List.mem_singleton.1 hb, List.idxOf_append_of_mem hal, List.idxOf_append_of_notMem hnew]
    exact Nat.lt_of_lt_of_le (List.idxOf_lt_length_iff.2 hal) (Nat.le_add_right _ _)

/-- Gathering lists the keys in the order in which they first occur. -/
theorem firstSeen_gather {β : Type} {initial : α} {f : α → β → α} (l : Table κ β) :
    FirstSeen (Table.keys l) (Table.keys (Table.gather initial f l)) := by
  induction l using List.reverseRecOn with
  | nil => exact ⟨fun _ => Iff.rfl, .nil⟩
  | append_singleton l e ih =>
    simpa [alter] using firstSeen_put ih e.1 _

/-- So does counting. -/
theorem firstSeen_counts (l : List κ) : FirstSeen l (Table.keys (Table.counts l)) := by
  have hkeys : Table.keys (l.map fun key => (key, ())) = l := by simp
  have hseen : FirstSeen (Table.keys (l.map fun key => (key, ()))) (Table.keys (Table.counts l)) :=
    counts_eq_gather l ▸ firstSeen_gather _
  rwa [hkeys] at hseen

/-- Writing entries lists their keys in the order in which they are first written. -/
theorem firstSeen_putAll (u : Table κ α) :
    FirstSeen (Table.keys u) (Table.keys (Table.putAll [] u)) := by
  induction u using List.reverseRecOn with
  | nil => exact ⟨fun _ => Iff.rfl, .nil⟩
  | append_singleton u e ih =>
    simpa using firstSeen_put ih e.1 e.2

/-- Of the entries that are written under a key the last one counts. -/
theorem get?_putAll_nil (u : Table κ α) (key : κ) :
    Table.get? (Table.putAll [] u) key = Table.get? u.reverse key := by
  induction u using List.reverseRecOn with
  | nil => rfl
  | append_singleton u e ih =>
    by_cases h : e.1 = key
    · subst h
      simp
    · simp [h, ih]

/-- Where no key stands twice, an entry is what is found under its key. -/
theorem get?_of_mem {t : Table κ α} (h : (Table.keys t).Nodup) {e : κ × α} (he : e ∈ t) :
    Table.get? t e.1 = some e.2 := by
  induction t with
  | nil => cases he
  | cons d t ih =>
    obtain ⟨hd, ht⟩ := List.nodup_cons.1 h
    rcases List.mem_cons.1 he with rfl | he
    · simp
    · have hne : d.1 ≠ e.1 := fun heq => hd (List.mem_map.2 ⟨e, he, heq.symm⟩)
      simp [hne, ih ht he]

/-! ## Gathered values as a whole -/

section
variable {β : Type} {initial : α} {f : α → β → α}

end

/-! ## Tables of measures -/

/-- Whether a table lists the keys of a list in the order in which they first occur, each with its
measure. -/
structure Lists (measure : κ → Nat) (l : List κ) (t : Table κ Nat) : Prop where
  keys : FirstSeen l (Table.keys t)
  measured : ∀ e ∈ t, e.2 = measure e.1

/-- **Counting lists the keys of a list in the order in which they first occur**, each with its
count. -/
theorem lists_counts (l : List κ) : Lists (l.count ·) l (Table.counts l) where
  keys := firstSeen_counts l
  measured e he := by
    have hget := get?_of_mem (nodup_keys_counts l) he
    rw [get?_counts] at hget
    split at hget
    · cases hget
    · exact (Option.some.inj hget).symm

namespace Lists

variable {measure : κ → Nat} {l : List κ} {t : Table κ Nat} (h : Lists measure l t)
include h

/-- Every key of the list stands in the table with its measure. -/
theorem exists_entry {key : κ} (hkey : key ∈ l) : (key, measure key) ∈ t := by
  obtain ⟨e, he, rfl⟩ := List.mem_map.1 ((h.keys.mem_iff key).2 hkey)
  rw [← h.measured e he]
  exact he

/-- There is no greatest entry just if every key has the measure zero. -/
theorem greatest?_eq_none_iff : Table.greatest? t = none ↔ ∀ key ∈ l, measure key = 0 := by
  rcases greatest?_cases t with ⟨hnone, hzero⟩ | ⟨front, e, back, ht, hsome, hpos, -⟩
  · exact iff_of_true hnone fun key hkey => hzero _ (h.exists_entry hkey)
  · have he : e ∈ t := ht ▸ List.mem_append_right front List.mem_cons_self
    refine iff_of_false (by rw [hsome]; nofun) fun hall => ?_
    have hzero := hall e.1 ((h.keys.mem_iff e.1).1 (List.mem_map_of_mem he))
    rw [h.measured e he] at hpos
    omega

/-- **The greatest entry is the one of the leading key**: any other key stands in front of it with
less, or behind it with no more. -/
theorem leads {e : κ × Nat} (he : Table.greatest? t = some e) :
    Leads measure l e.1 ∧ e.2 = measure e.1 ∧ 0 < e.2 := by
  rcases greatest?_cases t with ⟨hnone, -⟩ | ⟨front, e', back, ht, hsome, hpos, hfront, hback⟩
  · rw [hnone] at he
    cases he
  · obtain rfl := Option.some.inj (hsome.symm.trans he)
    have hmem : e' ∈ t := ht ▸ List.mem_append_right front List.mem_cons_self
    refine ⟨⟨(h.keys.mem_iff _).1 (List.mem_map_of_mem hmem), fun other hother hne => ?_⟩,
      h.measured e' hmem, hpos⟩
    have hentry := h.exists_entry hother
    have hordered := h.keys.ordered
    rw [Ahead, ← h.measured e' hmem]
    rw [ht, keys_append, keys_cons] at hordered
    rw [ht] at hentry
    rcases List.mem_append.1 hentry with hd | hd
    · exact .inl (hfront _ hd)
    · rcases List.mem_cons.1 hd with heq | hd
      · exact absurd (congrArg Prod.fst heq) hne
      · have hplace := (List.pairwise_cons.1 (List.pairwise_append.1 hordered).2.1).1 other
          (List.mem_map.2 ⟨_, hd, rfl⟩)
        rcases Nat.lt_or_eq_of_le (hback _ hd) with hlt | heq
        · exact .inl hlt
        · exact .inr ⟨heq, hplace⟩

/-- Sorted by its values from the greatest down, the table goes by who is ahead. -/
theorem pairwise_mergeSort : (t.mergeSort fun a b => b.2 ≤ a.2).Pairwise fun a b =>
    Ahead measure l a.1 b.1 := by
  have htrans : ∀ a b c : κ × Nat, decide (b.2 ≤ a.2) = true → decide (c.2 ≤ b.2) = true →
      decide (c.2 ≤ a.2) = true := by
    simp only [decide_eq_true_eq]
    omega
  have htotal : ∀ a b : κ × Nat, (decide (b.2 ≤ a.2) || decide (a.2 ≤ b.2)) = true := by
    simp only [Bool.or_eq_true, decide_eq_true_eq]
    omega
  have hsorted := pairwise_mergeSort_of_pairwise htrans htotal
    (List.pairwise_map.1 h.keys.ordered)
  refine hsorted.imp_of_mem fun {a b} ha hb hab => ?_
  have hmem : ∀ {e}, e ∈ t.mergeSort (fun a b => b.2 ≤ a.2) → e.2 = measure e.1 :=
    fun he => h.measured _ ((List.mergeSort_perm t _).mem_iff.1 he)
  simp only [decide_eq_true_eq] at hab
  rw [Ahead, ← hmem ha, ← hmem hb]
  rcases Nat.lt_or_eq_of_le hab.1 with hlt | heq
  · exact .inl hlt
  · exact .inr ⟨heq, hab.2 (Nat.le_of_eq heq.symm)⟩

/-- If some measure is positive, the first entry of the sorted table is the greatest one. -/
theorem head?_mergeSort {e : κ × Nat} (he : Table.greatest? t = some e) :
    (t.mergeSort fun a b => b.2 ≤ a.2).head? = some e := by
  obtain ⟨hleads, -⟩ := h.leads he
  have hperm := List.mergeSort_perm t fun a b => b.2 ≤ a.2
  have hmem := hperm.mem_iff.2 (mem_of_greatest? he)
  cases hsorted : t.mergeSort fun a b => b.2 ≤ a.2 with
  | nil =>
    rw [hsorted] at hmem
    cases hmem
  | cons first rest =>
    have hpairwise := h.pairwise_mergeSort
    rw [hsorted] at hmem hpairwise hperm
    have hfirst := hperm.mem_iff.1 List.mem_cons_self
    rcases List.mem_cons.1 hmem with rfl | hrest
    · rfl
    · have hahead := (List.pairwise_cons.1 hpairwise).1 e hrest
      have hkey := (h.keys.mem_iff first.1).1 (List.mem_map_of_mem hfirst)
      exact (hahead.asymm (hleads.2 first.1 hkey hahead.ne)).elim

end Lists

end Table

end PatchTriage
