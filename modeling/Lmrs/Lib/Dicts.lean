import Lmrs.Lib.Python

/-!
# Mappings that have a key once

A `dict` has a key once (`Dict.Distinct`). Assigning and updating keep that, and what a lookup in an updated
mapping finds is the entry of the update, or what was there (`Dict.Distinct.get?_update`). What is found is what
is in it (`Dict.mem_of_get?`, `Dict.Distinct.get?_of_mem`). What is read under the other keys does not depend on the
entry of one (`Dict.get?_update_pop`).
-/

namespace Python

namespace Dict

variable {α : Type} {d e : Dict α}

/-- A mapping has a key once. -/
def Distinct (d : Dict α) : Prop := (d.map Prod.fst).Nodup

/-- A lookup in one mapping after another. -/
theorem get?_append (d e : Dict α) (k : String) : get? (d ++ e) k = (get? d k).or (get? e k) :=
  List.lookup_append

/-- The keys after an assignment. -/
theorem keys_set (d : Dict α) (k : String) (v : α) :
    (set d k v).map Prod.fst =
      if k ∈ d.map Prod.fst then d.map Prod.fst else d.map Prod.fst ++ [k] := by
  induction d with
  | nil => rfl
  | cons kv d ih =>
      obtain ⟨k', v'⟩ := kv
      rw [set]
      by_cases hk : k' = k
      · simp [hk]
      · have hne : k ≠ k' := Ne.symm hk
        rw [if_neg hk, List.map_cons, ih]
        simp only [List.map_cons, List.mem_cons, hne, false_or]
        split_ifs <;> rfl

/-- An assignment keeps the keys distinct. -/
theorem Distinct.set (h : Distinct d) (k : String) (v : α) : Distinct (set d k v) := by
  unfold Distinct
  rw [keys_set]
  split_ifs with hmem
  · exact h
  · apply h.append (List.nodup_singleton k)
    simpa using hmem

/-- An update keeps the keys distinct. -/
theorem Distinct.update (h : Distinct d) (e : Dict α) : Distinct (update d e) := by
  induction e generalizing d with
  | nil => exact h
  | cons kv e ih => exact ih (h.set kv.1 kv.2)

/-- The order of distinct keys does not matter to a lookup. -/
theorem Distinct.get?_reverse (h : Distinct d) (k : String) : get? d.reverse k = get? d k :=
  (get?_perm d.reverse_perm.symm h k).symm

/-- **A lookup after an update with distinct keys.** -/
theorem Distinct.get?_update (h : Distinct e) (d : Dict α) (k : String) :
    get? (Dict.update d e) k = (get? e k).or (get? d k) := by
  rw [Dict.get?_update, h.get?_reverse]

/-! ## Entries -/

variable {k : String} {v : α} {kv : String × α}

/-- The entries after an assignment. -/
theorem mem_set (h : kv ∈ set d k v) : kv = (k, v) ∨ kv ∈ d := by
  induction d with
  | nil => exact Or.inl (List.mem_singleton.mp h)
  | cons first d ih =>
      obtain ⟨k', v'⟩ := first
      rw [set] at h
      split_ifs at h
      · exact (List.mem_cons.mp h).imp id (List.mem_cons_of_mem _)
      · rcases List.mem_cons.mp h with rfl | hrest
        · exact Or.inr (List.mem_cons_self ..)
        · exact (ih hrest).imp id (List.mem_cons_of_mem _)

/-- The entries after an update are those of the update and those there were. -/
theorem mem_update (h : kv ∈ update d e) : kv ∈ e ∨ kv ∈ d := by
  induction e generalizing d with
  | nil => exact Or.inr h
  | cons first e ih =>
      rcases ih h with hlater | hset
      · exact Or.inl (List.mem_cons_of_mem _ hlater)
      · rcases mem_set hset with rfl | hbefore
        · exact Or.inl (List.mem_cons_self ..)
        · exact Or.inr hbefore

/-- An entry that is found is one of the mapping. -/
theorem mem_of_get? (h : get? d k = some v) : (k, v) ∈ d := by
  induction d with
  | nil => cases h
  | cons first d ih =>
      obtain ⟨k', v'⟩ := first
      rw [get?_cons] at h
      split_ifs at h with hk
      · cases h
        rw [hk]
        exact List.mem_cons_self ..
      · exact List.mem_cons_of_mem _ (ih h)

/-- An entry of a mapping that has a key once is found. -/
theorem Distinct.get?_of_mem (hd : Distinct d) (h : kv ∈ d) : get? d kv.1 = some kv.2 := by
  induction d with
  | nil => cases h
  | cons first d ih =>
      obtain ⟨k', v'⟩ := first
      obtain ⟨hnew, hrest⟩ := List.nodup_cons.mp hd
      rw [get?_cons]
      rcases List.mem_cons.mp h with rfl | hmem
      · exact if_pos rfl
      · rw [if_neg]
        · exact ih hrest hmem
        · intro heq
          exact hnew (List.mem_map.mpr ⟨kv, hmem, heq⟩)

/-! ## All entries but one -/

/-- Without the key that was assigned, a mapping is what it was without it. -/
theorem pop_set_self (d : Dict α) (k : String) (v : α) : pop (set d k v) k = pop d k := by
  induction d with
  | nil => simp [set, pop]
  | cons first d ih =>
      obtain ⟨k', v'⟩ := first
      rw [set]
      split_ifs with hk
      · simp [pop, hk]
      · unfold pop at ih ⊢
        rw [List.filter_cons, List.filter_cons, ih]

/-- Of a mapping whose key is popped, it is popped. -/
theorem pop_pop_self (d : Dict α) (k : String) : pop (pop d k) k = pop d k := by
  simp [pop]

/-- An update reads, under another key, the same without the entry. -/
theorem get?_update_pop (d e : Dict α) {k k' : String} (h : k' ≠ k) :
    get? (update d (pop e k)) k' = get? (update d e) k' := by
  have hreverse : (pop e k).reverse = pop e.reverse k := by simp [pop, List.filter_reverse]
  rw [get?_update, get?_update, hreverse, get?_pop_of_ne _ h]

end Dict

end Python
