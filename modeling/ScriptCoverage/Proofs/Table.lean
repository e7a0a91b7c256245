import ScriptCoverage.Table
import Mathlib.Data.List.Perm.Basic
import Mathlib.Data.List.Sort
import Mathlib.Order.Lattice
import Mathlib.Data.String.Basic

/-!
The keys and values of tables: what a change does to them, and the sorted list of them. Main statements:
`sortedKeys_ascending` — sorted keys ascend strictly if no key comes twice, which `put` preserves —, `ascending_eq`
— tables in which look-ups find the same are the same in ascending order — and `putAll_comm` — keys that are there and
other keys can be given values in either order.
-/

namespace ScriptCoverage.Table

variable {α : Type} (t : Table α) (key : String) (value : α)

/-! ### Which keys there are -/

theorem isSome_find? (es : List (String × α)) : (find? es key).isSome ↔ key ∈ es.map Prod.fst := by
  induction es with
  | nil => simp [find?]
  | cons e es ih =>
    by_cases h : e.1 = key
    · simp [find?, h]
    · simp [find?, h, ih, Ne.symm h]

theorem contains_iff_mem : t.contains key ↔ key ∈ t.keys := isSome_find? key t.entries

theorem contains_iff_get? : t.contains key ↔ ∃ v, t.get? key = some v := Option.isSome_iff_exists

theorem mem_values_of_get? {t : Table α} {key : String} {v : α} (h : t.get? key = some v) : v ∈ t.values := by
  obtain ⟨es⟩ := t
  simp only [get?, values] at h ⊢
  induction es with
  | nil => cases h
  | cons e es ih =>
    rw [find?] at h
    split at h
    · cases h
      exact List.mem_cons_self
    · exact List.mem_cons_of_mem _ (ih h)

theorem mem_values_put {t : Table α} {key : String} {value v : α} (h : v ∈ (t.put key value).values) :
    v = value ∨ v ∈ t.values := by
  obtain ⟨es⟩ := t
  simp only [put, values] at h ⊢
  induction es with
  | nil => exact .inl (List.mem_singleton.1 h)
  | cons e es ih =>
    rw [putIn] at h
    split at h
    · exact (List.mem_cons.1 h).imp_right (List.mem_cons_of_mem _)
    · rcases List.mem_cons.1 h with rfl | later
      · exact .inr List.mem_cons_self
      · exact (ih later).imp_right (List.mem_cons_of_mem _)

theorem mem_values_of_erase {t : Table α} {key : String} {v : α} (h : v ∈ (t.erase key).values) : v ∈ t.values := by
  have fewer : (t.erase key).values.Sublist t.values := List.Sublist.map Prod.snd List.filter_sublist
  exact fewer.subset h

theorem keys_put_of_contains (h : t.contains key) : (t.put key value).keys = t.keys := by
  obtain ⟨es⟩ := t
  rw [contains_iff_mem] at h
  simp only [keys, put] at h ⊢
  induction es with
  | nil => cases h
  | cons e es ih =>
    by_cases hk : e.1 = key
    · simp [putIn, hk]
    · have rest : key ∈ es.map Prod.fst := by simpa [Ne.symm hk] using h
      simp [putIn, hk, ih rest]

/-- A key that is new goes to the end. -/
theorem put_of_fresh (h : t.contains key = false) : t.put key value = ⟨t.entries ++ [(key, value)]⟩ := by
  obtain ⟨es⟩ := t
  have absent : key ∉ es.map Prod.fst := fun hk => by
    rw [(contains_iff_mem ⟨es⟩ key).2 hk] at h
    cases h
  simp only [put, mk.injEq]
  induction es with
  | nil => rfl
  | cons e es ih =>
    obtain ⟨hk, rest⟩ : ¬ key = e.1 ∧ key ∉ es.map Prod.fst := by simpa using absent
    have fresh : (⟨es⟩ : Table α).contains key = false := by
      rw [Bool.eq_false_iff]
      exact fun hc => rest ((contains_iff_mem ⟨es⟩ key).1 hc)
    simp [putIn, Ne.symm hk, ih fresh rest]

/-- Taking a key out that was put in as a new one gives the table back. -/
theorem erase_put_of_fresh (h : t.contains key = false) : (t.put key value).erase key = t := by
  have kept : t.entries.filter (fun e => e.1 ≠ key) = t.entries := by
    rw [List.filter_eq_self]
    rintro e he
    rw [decide_eq_true_eq]
    rintro rfl
    have : t.contains e.1 := (t.contains_iff_mem e.1).2 (List.mem_map_of_mem he)
    rw [h] at this
    cases this
  rw [put_of_fresh t key value h, erase, List.filter_append, kept]
  simp

/-- What else a table holds does not show whether a key was given a value. -/
theorem erase_put : (t.put key value).erase key = t.erase key := by
  obtain ⟨es⟩ := t
  simp only [put, erase, mk.injEq]
  induction es with
  | nil => simp [putIn]
  | cons e es ih =>
    by_cases hk : e.1 = key
    · simp [putIn, hk]
    · rw [putIn, if_neg hk, List.filter_cons, List.filter_cons, ih]

theorem erase_erase : (t.erase key).erase key = t.erase key := by
  simp only [erase, mk.injEq]
  exact List.filter_eq_self.2 fun e he => (List.mem_filter.1 he).2

theorem keys_erase : (t.erase key).keys = t.keys.filter (· ≠ key) := by
  rw [keys, keys, erase, List.filter_map]
  rfl

/-- Where no key comes twice, a look-up finds what a table holds. -/
theorem get?_of_mem_entries {t : Table α} (distinct : t.keys.Nodup) {e : String × α} (he : e ∈ t.entries) :
    t.get? e.1 = some e.2 := by
  obtain ⟨es⟩ := t
  simp only [keys, get?] at distinct he ⊢
  induction es with
  | nil => cases he
  | cons first es ih =>
    obtain ⟨new, rest⟩ := List.nodup_cons.1 distinct
    rcases List.mem_cons.1 he with rfl | later
    · rw [find?, if_pos rfl]
    · have other : first.1 ≠ e.1 := fun same => new (same ▸ List.mem_map_of_mem later)
      rw [find?, if_neg other, ih rest later]

theorem nodup_keys_put (h : t.keys.Nodup) : (t.put key value).keys.Nodup := by
  cases hc : t.contains key with
  | true => rwa [keys_put_of_contains t key value hc]
  | false =>
    rw [put_of_fresh t key value hc, keys, List.map_append]
    refine List.nodup_append.2 ⟨h, by simp, ?_⟩
    rintro a ha b hb rfl
    obtain rfl : a = key := by simpa using hb
    rw [(t.contains_iff_mem a).2 ha] at hc
    cases hc

theorem nodup_keys_erase (h : t.keys.Nodup) : (t.erase key).keys.Nodup := by
  have fewer : (t.erase key).keys.Sublist t.keys := List.Sublist.map Prod.fst List.filter_sublist
  exact h.sublist fewer

/-! ### Many keys -/

/-- Gives keys values one after the other. -/
def putAll (t : Table α) (kvs : List (String × α)) : Table α := kvs.foldl (fun t (k, v) => t.put k v) t

/-- Takes keys out one after the other. -/
def eraseAll (t : Table α) (ks : List String) : Table α := ks.foldl erase t

variable {t key}

theorem get?_putAll_of_not_mem {kvs : List (String × α)} (h : key ∉ kvs.map Prod.fst) :
    (t.putAll kvs).get? key = t.get? key := by
  induction kvs generalizing t with
  | nil => rfl
  | cons kv kvs ih =>
    obtain ⟨here, later⟩ : ¬ key = kv.1 ∧ key ∉ kvs.map Prod.fst := by simpa using h
    rw [putAll, List.foldl_cons, ← putAll, ih later, get?_put, if_neg (Ne.symm here)]

theorem get?_putAll_of_mem {kvs : List (String × α)} (h : key ∈ kvs.map Prod.fst) :
    ∃ v, (key, v) ∈ kvs ∧ (t.putAll kvs).get? key = some v := by
  induction kvs generalizing t with
  | nil => cases h
  | cons kv kvs ih =>
    obtain ⟨k, v⟩ := kv
    by_cases later : key ∈ kvs.map Prod.fst
    · obtain ⟨v', hv', found⟩ := ih later (t := t.put k v)
      exact ⟨v', List.mem_cons_of_mem _ hv', found⟩
    · obtain rfl : key = k := (List.mem_cons.1 h).resolve_right later
      refine ⟨v, List.mem_cons_self, ?_⟩
      rw [putAll, List.foldl_cons, ← putAll, get?_putAll_of_not_mem later, get?_put, if_pos rfl]

theorem contains_putAll {kvs : List (String × α)} :
    (t.putAll kvs).contains key ↔ t.contains key ∨ key ∈ kvs.map Prod.fst := by
  by_cases h : key ∈ kvs.map Prod.fst
  · obtain ⟨v, -, found⟩ := get?_putAll_of_mem (t := t) h
    exact iff_of_true ((contains_iff_get? _ _).2 ⟨v, found⟩) (.inr h)
  · rw [contains, get?_putAll_of_not_mem h, or_iff_left h, contains]

theorem keys_putAll_of_contains {kvs : List (String × α)} (h : ∀ k ∈ kvs.map Prod.fst, t.contains k) :
    (t.putAll kvs).keys = t.keys := by
  induction kvs generalizing t with
  | nil => rfl
  | cons kv kvs ih =>
    obtain ⟨k, v⟩ := kv
    have first : (t.put k v).keys = t.keys := keys_put_of_contains t k v (h k List.mem_cons_self)
    rw [putAll, List.foldl_cons, ← putAll, ih fun k' hk' => ?_, first]
    rw [contains_iff_mem, first, ← contains_iff_mem]
    exact h k' (List.mem_cons_of_mem _ hk')

theorem nodup_keys_putAll {kvs : List (String × α)} (h : t.keys.Nodup) : (t.putAll kvs).keys.Nodup := by
  induction kvs generalizing t with
  | nil => exact h
  | cons kv kvs ih => exact ih (nodup_keys_put t kv.1 kv.2 h)

theorem get?_eraseAll {ks : List String} : (t.eraseAll ks).get? key = if key ∈ ks then none else t.get? key := by
  induction ks generalizing t with
  | nil => rfl
  | cons k ks ih =>
    rw [eraseAll, List.foldl_cons, ← eraseAll, ih, get?_erase]
    by_cases later : key ∈ ks
    · simp [later]
    · by_cases here : k = key
      · simp [here]
      · simp [here, later, Ne.symm here]

/-! ### Changes that commute -/

/-- The order in which two keys get values does not matter if one of them is there already. -/
theorem put_comm {key' : String} (distinct : key ≠ key') (h : t.contains key) (v v' : α) :
    (t.put key v).put key' v' = (t.put key' v').put key v := by
  obtain ⟨es⟩ := t
  rw [contains_iff_mem] at h
  simp only [keys, put, mk.injEq] at h ⊢
  induction es with
  | nil => cases h
  | cons e es ih =>
    by_cases hk : e.1 = key
    · have other : ¬ e.1 = key' := fun h => distinct (hk.symm.trans h)
      simp [putIn, hk, hk ▸ other]
    · have rest : key ∈ es.map Prod.fst := by simpa [Ne.symm hk] using h
      by_cases hk' : e.1 = key'
      · simp [putIn, hk', Ne.symm distinct]
      · simp [putIn, hk, hk', ih rest]

theorem put_putAll {kvs : List (String × α)} (h : t.contains key) (other : key ∉ kvs.map Prod.fst) (v : α) :
    (t.putAll kvs).put key v = (t.put key v).putAll kvs := by
  induction kvs generalizing t with
  | nil => rfl
  | cons kv kvs ih =>
    obtain ⟨k, w⟩ := kv
    obtain ⟨here, later⟩ : ¬ key = k ∧ key ∉ kvs.map Prod.fst := by simpa using other
    have still : (t.put k w).contains key := by
      rw [contains, get?_put, if_neg (Ne.symm here)]
      exact h
    change ((t.put k w).putAll kvs).put key v = ((t.put key v).put k w).putAll kvs
    rw [ih still later, put_comm here h]

/-- Keys that are there and other keys can be given values in either order. -/
theorem putAll_comm {kvs kvs' : List (String × α)} (h : ∀ k ∈ kvs.map Prod.fst, t.contains k)
    (disjoint : ∀ k ∈ kvs.map Prod.fst, k ∉ kvs'.map Prod.fst) :
    (t.putAll kvs).putAll kvs' = (t.putAll kvs').putAll kvs := by
  induction kvs generalizing t with
  | nil => rfl
  | cons kv kvs ih =>
    obtain ⟨k, v⟩ := kv
    have later (k' : String) (hk' : k' ∈ kvs.map Prod.fst) : (t.put k v).contains k' := by
      rw [contains, get?_put]
      split
      · rfl
      · exact h k' (List.mem_cons_of_mem _ hk')
    calc ((t.put k v).putAll kvs).putAll kvs'
        = ((t.put k v).putAll kvs').putAll kvs := ih later fun k' hk' => disjoint k' (List.mem_cons_of_mem _ hk')
      _ = ((t.putAll kvs').put k v).putAll kvs := by
          rw [put_putAll (h k List.mem_cons_self) (disjoint k List.mem_cons_self)]

/-- Keys can be taken out in any order. -/
instance : RightCommutative (erase : Table α → String → Table α) where
  right_comm t k k' := by
    simp only [erase, mk.injEq, List.filter_filter]
    exact List.filter_congr fun e _ => Bool.and_comm _ _

theorem eraseAll_comm (t : Table α) (ks ks' : List String) :
    (t.eraseAll ks).eraseAll ks' = (t.eraseAll ks').eraseAll ks := by
  simp only [eraseAll]
  rw [← List.foldl_append, ← List.foldl_append, List.perm_append_comm.foldl_eq]

variable (t key)

/-! ### Sorted -/

theorem mem_sortedKeys : key ∈ t.sortedKeys ↔ t.contains key := by
  rw [sortedKeys, List.mem_mergeSort, contains_iff_mem]

theorem sortedKeys_ascending (h : t.keys.Nodup) : t.sortedKeys.Pairwise (· < ·) := by
  have sorted : t.sortedKeys.Pairwise (fun a b => (decide (a ≤ b)) = true) :=
    List.pairwise_mergeSort (fun a b c => by simpa using le_trans) (fun a b => by simpa using le_total a b) t.keys
  have distinct : t.sortedKeys.Nodup := (List.mergeSort_perm t.keys _).nodup_iff.2 h
  refine (sorted.and distinct).imp fun {a b} hab => lt_of_le_of_ne (by simpa using hab.1) hab.2

theorem sortedKeys_of_ascending (h : t.keys.Pairwise (· ≤ ·)) : t.sortedKeys = t.keys :=
  List.mergeSort_of_pairwise (h.imp fun le => decide_eq_true le)

/-- The keys with their values in ascending order of the keys. -/
def ascending : List (String × α) := t.sortedKeys.filterMap fun k => (t.get? k).map (k, ·)

variable {t}

/-- The order in which keys came in does not show in the ascending order. -/
theorem ascending_eq {t' : Table α} (h : t.keys.Nodup) (h' : t'.keys.Nodup) (same : ∀ k, t.get? k = t'.get? k) :
    t.ascending = t'.ascending := by
  have members (k : String) : k ∈ t.sortedKeys ↔ k ∈ t'.sortedKeys := by
    rw [mem_sortedKeys, mem_sortedKeys, contains, contains, same]
  have sorted := t.sortedKeys_ascending h
  have sorted' := t'.sortedKeys_ascending h'
  have keys : t.sortedKeys = t'.sortedKeys :=
    ((List.perm_ext_iff_of_nodup sorted.nodup sorted'.nodup).2 members).eq_of_pairwise' sorted sorted'
  rw [ascending, ascending, keys]
  simp only [same]

end ScriptCoverage.Table
