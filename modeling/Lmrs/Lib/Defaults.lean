import Lmrs.Lib.Dicts

/-!
# Defaults in mappings

`Dict.setdefault` and, for a list of defaults, `Dict.fill`.

* `Dict.get?_fill`: what was there is kept, and the rest is the defaults.
* `Dict.fill_fill`, `Dict.update_of_agrees`: where there is nothing to fill in or to change, a mapping stays as it
  is, the order of its entries included.
-/

namespace Python

namespace Dict

variable {α : Type} {d e : Dict α} {k k' : String} {v : α}

/-- `d.setdefault(k, v)`, as it leaves the mapping. -/
def setdefault (d : Dict α) (k : String) (v : α) : Dict α :=
  match get? d k with
  | some _ => d
  | none => d ++ [(k, v)]

/-- `d.setdefault(k, v)` for the entries of a list, one after the other. -/
def fill (d e : Dict α) : Dict α := e.foldl (fun acc kv => setdefault acc kv.1 kv.2) d

/-! ## One key -/

/-- A key that is there keeps its mapping. -/
theorem setdefault_of_get? (h : get? d k = some v) (w : α) : setdefault d k w = d := by
  unfold setdefault
  rw [h]

/-- A lookup after a default. -/
theorem get?_setdefault (d : Dict α) (k k' : String) (v : α) :
    get? (setdefault d k v) k' = (get? d k').or (if k' = k then some v else none) := by
  rcases h : get? d k with _ | w
  · unfold setdefault
    rw [h]
    dsimp only
    rw [get?_append, get?_cons]
    rfl
  · rw [setdefault_of_get? h]
    by_cases hk : k' = k
    · rw [hk, h, Option.some_or]
    · rw [if_neg hk, Option.or_none]

/-- The value that is there can be assigned again. -/
theorem set_of_get? (h : get? d k = some v) : set d k v = d := by
  induction d with
  | nil => cases h
  | cons first d ih =>
      obtain ⟨k', w⟩ := first
      rw [get?_cons] at h
      rw [set]
      split_ifs at h with hk
      · cases h
        rw [if_pos hk.symm, hk]
      · rw [if_neg (Ne.symm hk), ih h]

/-! ## Many keys -/

/-- **A lookup among defaults**: what was there, or the first default of that key. -/
theorem get?_fill (d e : Dict α) (k : String) : get? (fill d e) k = (get? d k).or (get? e k) := by
  induction e generalizing d with
  | nil => exact (Option.or_none ..).symm
  | cons first e ih =>
      obtain ⟨k', v⟩ := first
      show get? (fill (setdefault d k' v) e) k = _
      rw [ih, get?_setdefault, get?_cons, Option.or_assoc]
      split_ifs <;> rfl

/-- What was there stays. -/
theorem get?_fill_of_get? (h : get? d k = some v) (e : Dict α) : get? (fill d e) k = some v := by
  rw [get?_fill, h, Option.some_or]

/-- Defaults for keys that are all there change nothing. -/
theorem fill_of_keys (h : ∀ kv ∈ e, (get? d kv.1).isSome) : fill d e = d := by
  induction e with
  | nil => rfl
  | cons first e ih =>
      rw [List.forall_mem_cons] at h
      obtain ⟨v, hv⟩ := Option.isSome_iff_exists.mp h.1
      show fill (setdefault d first.1 first.2) e = d
      rw [setdefault_of_get? hv, ih h.2]

/-- Entries that are all there can be assigned again. -/
theorem update_of_agrees (h : ∀ kv ∈ e, get? d kv.1 = some kv.2) : update d e = d := by
  induction e with
  | nil => rfl
  | cons first e ih =>
      rw [List.forall_mem_cons] at h
      show update (set d first.1 first.2) e = d
      rw [set_of_get? h.1, ih h.2]

/-- A key is found exactly when an entry has it. -/
theorem isSome_get?_iff : (get? d k).isSome ↔ k ∈ d.map Prod.fst := by
  induction d with
  | nil => simp [get?]
  | cons first d ih =>
      obtain ⟨k', v⟩ := first
      rw [get?_cons, List.map_cons, List.mem_cons]
      split_ifs with hk
      · simp [hk]
      · simp [hk, ih]

/-- What is filled in is there. -/
theorem isSome_get?_fill (d : Dict α) (h : k ∈ e.map Prod.fst) : (get? (fill d e) k).isSome := by
  rw [get?_fill, Option.isSome_or, isSome_get?_iff.mpr h, Bool.or_true]

/-- **Defaults under keys that were filled in before change nothing**, whatever they are. -/
theorem fill_fill {e' : Dict α} (h : e'.map Prod.fst ⊆ e.map Prod.fst) : fill (fill d e) e' = fill d e := by
  apply fill_of_keys
  intro kv hkv
  exact isSome_get?_fill d (h (List.mem_map_of_mem hkv))

end Dict

end Python
