import Mathlib.Data.List.Induction
import Mathlib.Data.List.Nodup
import VmMonitor.Table

/-!
# What is found in tables and registers

A table is built by insertions and asked by key. What is found under a key is what was inserted under
it last, whatever else is in the table; only for its order does it matter that a table is sorted.
-/

namespace VmMonitor

variable {κ α : Type}

namespace Table

section

variable [DecidableEq κ]

theorem get?_cons (k k' : κ) (a : α) (t : Table κ α) :
    get? k ((k', a) :: t) = if k' = k then some a else get? k t := by
  unfold get?
  by_cases h : k' = k <;> simp [h]

theorem mem_of_get? {k : κ} {a : α} {t : Table κ α} (h : get? k t = some a) : (k, a) ∈ t := by
  simp only [get?, Option.map_eq_some_iff] at h
  obtain ⟨⟨k', a'⟩, hfind, rfl⟩ := h
  obtain rfl : k' = k := by simpa using List.find?_some hfind
  exact List.mem_of_find?_eq_some hfind

/-- With one value per key, what is in a table is found. -/
theorem get?_eq_some_iff {t : Table κ α} (ht : ∀ k a a', (k, a) ∈ t → (k, a') ∈ t → a = a') {k : κ}
    {a : α} : get? k t = some a ↔ (k, a) ∈ t := by
  refine ⟨mem_of_get?, fun h => ?_⟩
  cases hget : get? k t with
  | some a' => rw [ht k a a' h (mem_of_get? hget)]
  | none =>
    simp only [get?, Option.map_eq_none_iff, List.find?_eq_none] at hget
    exact absurd (by simp) (hget _ h)

theorem has_iff_mem_keys {k : κ} {t : Table κ α} : has k t ↔ k ∈ keys t := by
  simp [has, get?, keys]

/-- With distinct keys, too. -/
theorem get?_eq_some_iff_of_nodup {t : Table κ α} (ht : (keys t).Nodup) {k : κ} {a : α} :
    get? k t = some a ↔ (k, a) ∈ t := by
  refine get?_eq_some_iff fun k a a' ha ha' => ?_
  by_contra hne
  exact hne (congrArg Prod.snd (List.inj_on_of_nodup_map ht ha ha' rfl))

/-- In a table that is in order, too. -/
theorem get?_eq_some_iff_of_pairwise [LT κ] [Std.Irrefl fun a b : κ => a < b] {t : Table κ α}
    (ht : (keys t).Pairwise (· < ·)) {k : κ} {a : α} : get? k t = some a ↔ (k, a) ∈ t :=
  get?_eq_some_iff_of_nodup (List.Pairwise.nodup ht)

/-- The order of distinct keys does not matter for what is found. -/
theorem get?_eq_of_perm {t t' : Table κ α} (h : t.Perm t') (ht : (keys t).Nodup) (k : κ) :
    get? k t = get? k t' := by
  have ht' : (keys t').Nodup := (h.map Prod.fst).nodup_iff.1 ht
  ext a
  rw [get?_eq_some_iff_of_nodup ht, get?_eq_some_iff_of_nodup ht', h.mem_iff]

/-- Tables that are in order are equal if the same is found in them. -/
theorem eq_of_get?_eq [LT κ] [Std.Asymm fun a b : κ => a < b] {t t' : Table κ α}
    (ht : (keys t).Pairwise (· < ·)) (ht' : (keys t').Pairwise (· < ·))
    (h : ∀ k, get? k t = get? k t') : t = t' := by
  have hmem (e : κ × α) : e ∈ t ↔ e ∈ t' := by
    rw [← get?_eq_some_iff_of_pairwise ht, h, get?_eq_some_iff_of_pairwise ht']
  have hnodup {u : Table κ α} (hu : (keys u).Pairwise (· < ·)) : u.Nodup :=
    List.Nodup.of_map Prod.fst (List.Pairwise.nodup hu)
  have hperm : t.Perm t' := (List.perm_ext_iff_of_nodup (hnodup ht) (hnodup ht')).2 hmem
  have hasymm (a b : κ × α) (_ : a ∈ t) (_ : b ∈ t') (hab : a.1 < b.1) (hba : b.1 < a.1) : a = b :=
    absurd hba (Std.Asymm.asymm _ _ hab)
  exact hperm.eq_of_pairwise hasymm (List.pairwise_map.1 ht) (List.pairwise_map.1 ht')

end

section

variable [LT κ] [DecidableLT κ]

/-- An insertion brings in one entry. -/
theorem mem_of_mem_insert {e : κ × α} {k : κ} {a : α} {t : Table κ α} (h : e ∈ insert k a t) :
    e = (k, a) ∨ e ∈ t := by
  induction t with
  | nil => exact .inl (by simpa [insert] using h)
  | cons e' t ih =>
    simp only [insert] at h
    split_ifs at h
    · simpa using h
    · rcases List.mem_cons.1 h with rfl | h
      · exact .inr (.head _)
      · exact (ih h).imp_right (.tail _)
    · exact (List.mem_cons.1 h).imp_right (.tail _)

theorem ofList_concat (es : List (κ × α)) (e : κ × α) :
    ofList (es ++ [e]) = insert e.1 e.2 (ofList es) := by
  simp [ofList]

theorem mem_of_mem_ofList {e : κ × α} {es : List (κ × α)} (h : e ∈ ofList es) : e ∈ es := by
  induction es using List.reverseRecOn with
  | nil => simp [ofList] at h
  | append_singleton es e' ih =>
    rw [ofList_concat] at h
    rcases mem_of_mem_insert h with rfl | h
    · simp
    · exact List.mem_append_left _ (ih h)

section

variable [Std.Trichotomous fun a b : κ => a < b]
  [Trans (fun a b : κ => a < b) (fun a b : κ => a < b) (fun a b : κ => a < b)]

/-- An insertion keeps the keys in ascending order, each of them once. -/
theorem pairwise_keys_insert {t : Table κ α} (h : (keys t).Pairwise (· < ·)) (k : κ) (a : α) :
    (keys (insert k a t)).Pairwise (· < ·) := by
  induction t with
  | nil => simp [insert, keys]
  | cons e t ih =>
    obtain ⟨k', a'⟩ := e
    obtain ⟨hleast, htail⟩ := List.pairwise_cons.1 h
    simp only [insert]
    split_ifs with hlt hgt
    · refine List.pairwise_cons.2 ⟨fun k'' hk'' => ?_, h⟩
      rcases List.mem_cons.1 hk'' with rfl | hk''
      · exact hlt
      · exact Trans.trans hlt (hleast k'' hk'')
    · refine List.pairwise_cons.2 ⟨fun k'' hk'' => ?_, ih htail⟩
      obtain ⟨e, he, rfl⟩ := List.mem_map.1 hk''
      rcases mem_of_mem_insert he with rfl | he
      · exact hgt
      · exact hleast _ (List.mem_map_of_mem he)
    · obtain rfl : k = k' := Std.Trichotomous.trichotomous _ _ hlt hgt
      exact h

theorem pairwise_keys_ofList (es : List (κ × α)) : (keys (ofList es)).Pairwise (· < ·) := by
  induction es using List.reverseRecOn with
  | nil => exact .nil
  | append_singleton es e ih =>
    rw [ofList_concat]
    exact pairwise_keys_insert ih e.1 e.2

end

variable [DecidableEq κ] [Std.Irrefl fun a b : κ => a < b] [Std.Trichotomous fun a b : κ => a < b]

/-- What was inserted is found, and nothing else has changed. -/
theorem get?_insert (k k' : κ) (a : α) (t : Table κ α) :
    get? k (insert k' a t) = if k' = k then some a else get? k t := by
  induction t with
  | nil => simp [insert, get?_cons]
  | cons e t ih =>
    obtain ⟨k'', a''⟩ := e
    by_cases hlt : k' < k''
    · simp [insert, hlt, get?_cons]
    by_cases hgt : k'' < k'
    · have hne : k'' ≠ k' := by
        rintro rfl
        exact Std.Irrefl.irrefl _ hgt
      simp only [insert, hlt, hgt, if_false, if_true, get?_cons, ih]
      by_cases hk : k' = k
      · subst hk
        simp [hne]
      · simp [hk]
    · obtain rfl : k' = k'' := Std.Trichotomous.trichotomous _ _ hlt hgt
      simp only [insert, hlt, if_false, get?_cons]
      split_ifs <;> rfl

theorem has_ofList (k : κ) (es : List (κ × α)) : has k (ofList es) ↔ ∃ a, (k, a) ∈ es := by
  induction es using List.reverseRecOn with
  | nil => simp [ofList, has, get?]
  | append_singleton es e ih =>
    obtain ⟨k', a⟩ := e
    simp only [has, ofList_concat, get?_insert] at ih ⊢
    split_ifs with hk
    · simp [hk]
    · simp [ih, Ne.symm hk]

/-- In a table that was made from a list, the last value of a key is found. -/
theorem get?_ofList (k : κ) (es : List (κ × α)) : get? k (ofList es) = get? k es.reverse := by
  induction es using List.reverseRecOn with
  | nil => rfl
  | append_singleton es e ih =>
    rw [ofList_concat, get?_insert, ih, List.reverse_concat, get?_cons]

/-- From a list with one value per key nothing is lost. -/
theorem mem_ofList {es : List (κ × α)} (hes : ∀ k a a', (k, a) ∈ es → (k, a') ∈ es → a = a')
    {k : κ} {a : α} : (k, a) ∈ ofList es ↔ (k, a) ∈ es := by
  refine ⟨mem_of_mem_ofList, fun h => ?_⟩
  obtain ⟨a', ha'⟩ := Option.isSome_iff_exists.1 ((has_ofList k es).2 ⟨a, h⟩)
  have hmem := mem_of_get? ha'
  obtain rfl := hes k a a' h (mem_of_mem_ofList hmem)
  exact hmem

/-- What is found in a table that was made from one value per key. -/
theorem get?_ofList_eq_some_iff {es : List (κ × α)}
    (hes : ∀ k a a', (k, a) ∈ es → (k, a') ∈ es → a = a') {k : κ} {a : α} :
    get? k (ofList es) = some a ↔ (k, a) ∈ es := by
  refine (get?_eq_some_iff fun k a a' ha ha' => ?_).trans (mem_ofList hes)
  exact hes k a a' (mem_of_mem_ofList ha) (mem_of_mem_ofList ha')

/-- A table in order is made from its entries in any order. -/
theorem ofList_eq_of_perm [Std.Asymm fun a b : κ => a < b]
    [Trans (fun a b : κ => a < b) (fun a b : κ => a < b) (fun a b : κ => a < b)]
    {es : List (κ × α)} {t : Table κ α} (h : es.Perm t) (ht : (keys t).Pairwise (· < ·)) :
    ofList es = t := by
  have hnodup : (keys es).Nodup := (h.map Prod.fst).nodup_iff.2 (List.Pairwise.nodup ht)
  refine eq_of_get?_eq (pairwise_keys_ofList es) ht fun k => ?_
  rw [get?_ofList, ← get?_eq_of_perm es.reverse_perm.symm hnodup, get?_eq_of_perm h hnodup]

end

end Table

/-- A sorted set is in ascending order and without repeats. -/
theorem pairwise_sortedSet [LT κ] [DecidableLT κ] [Std.Trichotomous fun a b : κ => a < b]
    [Trans (fun a b : κ => a < b) (fun a b : κ => a < b) (fun a b : κ => a < b)] (xs : List κ) :
    (sortedSet xs).Pairwise (· < ·) := Table.pairwise_keys_ofList _

theorem mem_sortedSet [LT κ] [DecidableLT κ] [DecidableEq κ] [Std.Irrefl fun a b : κ => a < b]
    [Std.Trichotomous fun a b : κ => a < b] {x : κ} {xs : List κ} : x ∈ sortedSet xs ↔ x ∈ xs := by
  rw [sortedSet, ← Table.has_iff_mem_keys, Table.has_ofList]
  simp

namespace Register

variable [DecidableEq κ]

/-- What was set is found, and nothing else has changed. -/
theorem get?_set (k k' : κ) (a : α) (r : Register κ α) :
    (r.set k' a).get? k = if k' = k then some a else r.get? k := by
  induction r with
  | nil => simp [set, get?]
  | cons e r ih =>
    obtain ⟨k'', a''⟩ := e
    by_cases hk : k'' = k' <;> by_cases hk' : k' = k <;> simp_all [set, get?]

/-- What was erased is not found, and nothing else has changed. -/
theorem get?_erase (k k' : κ) (r : Register κ α) :
    (r.erase k').get? k = if k' = k then none else r.get? k := by
  induction r with
  | nil => simp [erase, get?]
  | cons e r ih =>
    obtain ⟨k'', a''⟩ := e
    simp only [erase] at ih
    by_cases hk : k'' = k' <;> by_cases hk' : k' = k <;> simp_all [erase, get?]

theorem mem_of_get? {k : κ} {a : α} {r : Register κ α} (h : r.get? k = some a) : (k, a) ∈ r := by
  induction r with
  | nil => simp [get?] at h
  | cons e r ih =>
    obtain ⟨k', a'⟩ := e
    simp only [get?] at h
    split_ifs at h with hk
    · obtain rfl := Option.some.inj h
      simp [hk]
    · exact List.mem_cons_of_mem _ (ih h)

end Register

end VmMonitor
