import Mathlib

/-!
# The first maximal element of a list under a key

`firstMax key l` is what `max(l, key=key)` returns: of the elements whose key is largest, the one
that comes first. Keys live in a linear order.

* `firstMax_mem`, `key_le_of_firstMax`: the result is in the list and no element has a larger key.
* `firstMax_eq_none_iff`: there is a result unless the list is empty.
* `firstMax_map`: selecting commutes with relabelling the elements along a map of keys.
* `firstMax_perm`: the order of the list has no part in the largest key.
-/

namespace FirstMax

variable {α β κ : Type} [LinearOrder κ]

/-- Keep the better of two elements; on equal keys the earlier one stays. -/
def better (key : α → κ) (best x : α) : α := if key best < key x then x else best

/-- `max(l, key=key)`, or `none` for the empty list. -/
def firstMax (key : α → κ) : List α → Option α
  | [] => none
  | x :: xs => some (xs.foldl (better key) x)

/-- The fold returns the start or an element of the list. -/
theorem foldl_better_mem (key : α → κ) (xs : List α) (x : α) :
    xs.foldl (better key) x ∈ x :: xs := by
  induction xs generalizing x with
  | nil => simp
  | cons y ys ih =>
      have h := ih (better key x y)
      simp only [List.foldl_cons]
      rcases List.mem_cons.mp h with heq | hmem
      · rw [heq, better]
        split_ifs <;> simp
      · exact List.mem_cons_of_mem _ (List.mem_cons_of_mem _ hmem)

/-- The fold's key is at least the key of the start. -/
theorem key_le_foldl_better (key : α → κ) (xs : List α) (x : α) :
    key x ≤ key (xs.foldl (better key) x) := by
  induction xs generalizing x with
  | nil => exact le_rfl
  | cons y ys ih =>
      refine le_trans ?_ (ih (better key x y))
      unfold better
      split_ifs with h
      · exact le_of_lt h
      · exact le_rfl

/-- The fold's key is at least the key of every element folded in. -/
theorem key_le_foldl_better_of_mem (key : α → κ) {xs : List α} {y : α} (hy : y ∈ xs) (x : α) :
    key y ≤ key (xs.foldl (better key) x) := by
  induction xs generalizing x with
  | nil => cases hy
  | cons z zs ih =>
      rcases List.mem_cons.mp hy with rfl | hy'
      · refine le_trans ?_ (key_le_foldl_better key zs (better key x y))
        unfold better
        split_ifs with h
        · exact le_rfl
        · exact not_lt.mp h
      · exact ih hy' _

/-- The selected element is in the list. -/
theorem firstMax_mem {key : α → κ} {l : List α} {m : α} (h : firstMax key l = some m) : m ∈ l := by
  cases l with
  | nil => cases h
  | cons x xs =>
      cases h
      exact foldl_better_mem key xs x

/-- No element has a larger key than the selected one. -/
theorem key_le_of_firstMax {key : α → κ} {l : List α} {m x : α} (h : firstMax key l = some m)
    (hx : x ∈ l) : key x ≤ key m := by
  cases l with
  | nil => cases h
  | cons y ys =>
      cases h
      rcases List.mem_cons.mp hx with rfl | hx'
      · exact key_le_foldl_better key ys x
      · exact key_le_foldl_better_of_mem key hx' y

/-- Nothing is selected exactly when there is nothing to select from. -/
@[simp] theorem firstMax_eq_none_iff {key : α → κ} {l : List α} :
    firstMax key l = none ↔ l = [] := by
  cases l <;> simp [firstMax]

/-- Selecting commutes with a map of the elements. -/
theorem firstMax_map (f : β → α) (key : α → κ) (l : List β) :
    firstMax key (l.map f) = (firstMax (key ∘ f) l).map f := by
  cases l with
  | nil => rfl
  | cons x xs =>
      simp only [List.map_cons, firstMax, Option.map_some, Option.some.injEq]
      induction xs generalizing x with
      | nil => rfl
      | cons y ys ih =>
          have hb : better key (f x) (f y) = f (better (key ∘ f) x y) := by
            simp only [better, Function.comp]
            split_ifs <;> rfl
          simp only [List.map_cons, List.foldl_cons, hb]
          exact ih _

/-- The order of the list has no part in the largest key. -/
theorem firstMax_perm {key : α → κ} {l l' : List α} (h : l.Perm l') :
    (firstMax key l).map key = (firstMax key l').map key := by
  cases hm : firstMax key l with
  | none =>
      have hnil : l' = [] := (firstMax_eq_none_iff.mp hm ▸ h).nil_eq.symm
      rw [firstMax_eq_none_iff.mpr hnil]
  | some m =>
      cases hm' : firstMax key l' with
      | none =>
          have hnil : l = [] := (firstMax_eq_none_iff.mp hm' ▸ h).eq_nil
          rw [firstMax_eq_none_iff.mpr hnil] at hm
          cases hm
      | some m' =>
          have hle : key m ≤ key m' := key_le_of_firstMax hm' (h.mem_iff.mp (firstMax_mem hm))
          have hge : key m' ≤ key m := key_le_of_firstMax hm (h.mem_iff.mpr (firstMax_mem hm'))
          exact congrArg some (le_antisymm hle hge)

end FirstMax
