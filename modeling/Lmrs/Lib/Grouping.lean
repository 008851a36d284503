import Mathlib

/-!
# Grouping a list by a key, and truncated averages

`groupBy key xs` is what a loop over `xs` leaves that appends each element to the group of its key and opens a
group when the key has none: the groups stand in the order in which their keys come first.

* `groupBy_eq`: the groups in closed form. Each holds the elements of its key, in their order.
* `groupBy_keys_nodup`, `sum_length_groupBy`: no key has two groups, and nothing is lost or counted twice.
* `groupBy_perm`: what is left of the order of the list is the order of the groups and of their elements.
* `average_between`: the truncated average of integers is between the least and the largest of them.
-/

namespace Grouping

variable {α κ : Type} [DecidableEq κ]

/-- `groups.setdefault(key, []).append(x)`. -/
def insert (key : κ) (x : α) : List (κ × List α) → List (κ × List α)
  | [] => [(key, [x])]
  | (k, xs) :: groups => if k = key then (k, xs ++ [x]) :: groups else (k, xs) :: insert key x groups

/-- The groups of a list, in one pass over it. -/
def groupBy (key : α → κ) (xs : List α) : List (κ × List α) :=
  xs.foldl (fun groups x => insert (key x) x groups) []

/-- The elements of a key. -/
def ofKey (key : α → κ) (k : κ) (xs : List α) : List α := xs.filter fun x => key x = k

/-! ## Keys in the order they come first -/

/-- One more key is new, or it was there. -/
theorem eraseDups_concat (ks : List κ) (k : κ) :
    (ks ++ [k]).eraseDups = if k ∈ ks then ks.eraseDups else ks.eraseDups ++ [k] := by
  rw [List.eraseDups_append]
  by_cases h : k ∈ ks <;> simp [List.removeAll, h, List.eraseDups_cons]

/-- Each key comes first once. -/
theorem nodup_eraseDups (ks : List κ) : ks.eraseDups.Nodup := by
  induction ks using List.reverseRecOn with
  | nil => simp
  | append_singleton ks k ih =>
      rw [eraseDups_concat]
      split_ifs with h
      · exact ih
      · apply ih.append (List.nodup_singleton k)
        simpa [List.mem_eraseDups] using h

/-! ## The groups -/

section groups

variable {key : α → κ} {xs xs' : List α}

/-- An element goes to the group of its key, or opens one. -/
theorem insert_map (k : κ) (x : α) (elements : κ → List α) {ks : List κ} (hks : ks.Nodup) :
    insert k x (ks.map fun k' => (k', elements k')) =
      if k ∈ ks then ks.map fun k' => (k', if k' = k then elements k' ++ [x] else elements k')
      else (ks.map fun k' => (k', elements k')) ++ [(k, [x])] := by
  induction ks with
  | nil => simp [insert]
  | cons first ks ih =>
      obtain ⟨hnew, hrest⟩ := List.nodup_cons.mp hks
      rw [List.map_cons, insert]
      by_cases hfirst : first = k
      · subst hfirst
        have hsame : ks.map (fun k' => (k', if k' = first then elements k' ++ [x] else elements k')) =
            ks.map fun k' => (k', elements k') := by
          refine List.map_congr_left fun k' hk' => ?_
          rw [if_neg]
          rintro rfl
          exact hnew hk'
        rw [if_pos rfl, if_pos (List.mem_cons_self ..), List.map_cons, if_pos rfl, hsame]
      · have hmem : k ∈ first :: ks ↔ k ∈ ks := by simp [Ne.symm hfirst]
        rw [if_neg hfirst, ih hrest]
        simp only [hmem]
        split_ifs with hk
        · rw [List.map_cons, if_neg hfirst]
        · rfl

/-- The elements of a key among one more. -/
theorem ofKey_concat (k : κ) (x : α) :
    ofKey key k (xs ++ [x]) = if key x = k then ofKey key k xs ++ [x] else ofKey key k xs := by
  unfold ofKey
  rw [List.filter_append]
  split_ifs with h <;> simp [h]

/-- A key that is not there has no elements. -/
theorem ofKey_eq_nil {k : κ} (h : k ∉ xs.map key) : ofKey key k xs = [] := by
  unfold ofKey
  rw [List.filter_eq_nil_iff]
  intro x hx heq
  exact h (List.mem_map.mpr ⟨x, hx, by simpa using heq⟩)

/-- **The groups**: one for each key, in the order the keys come first, with the elements of the key in their
order. -/
theorem groupBy_eq (key : α → κ) (xs : List α) :
    groupBy key xs = (xs.map key).eraseDups.map fun k => (k, ofKey key k xs) := by
  induction xs using List.reverseRecOn with
  | nil => rfl
  | append_singleton xs x ih =>
      have hlast : groupBy key (xs ++ [x]) = insert (key x) x (groupBy key xs) := by simp [groupBy]
      rw [hlast, ih, insert_map _ _ _ (nodup_eraseDups _), List.map_append, List.map_singleton,
        eraseDups_concat]
      simp only [List.mem_eraseDups]
      split_ifs with h
      · refine List.map_congr_left fun k _ => ?_
        rw [ofKey_concat]
        simp only [eq_comm]
      · rw [List.map_append, List.map_singleton, ofKey_concat, if_pos rfl, ofKey_eq_nil h, List.nil_append]
        congr 1
        refine List.map_congr_left fun k hk => ?_
        rw [ofKey_concat, if_neg]
        rintro rfl
        exact h (List.mem_eraseDups.mp hk)

/-- No key has two groups. -/
theorem groupBy_keys_nodup (key : α → κ) (xs : List α) : ((groupBy key xs).map Prod.fst).Nodup := by
  rw [groupBy_eq, List.map_map]
  simpa [Function.comp_def] using nodup_eraseDups (xs.map key)

/-- A group is that of a key there is, with the elements of it. -/
theorem mem_groupBy {g : κ × List α} : g ∈ groupBy key xs ↔ g.1 ∈ xs.map key ∧ g.2 = ofKey key g.1 xs := by
  rw [groupBy_eq, List.mem_map]
  constructor
  · rintro ⟨k, hk, rfl⟩
    exact ⟨List.mem_eraseDups.mp hk, rfl⟩
  · rintro ⟨hk, heq⟩
    exact ⟨g.1, List.mem_eraseDups.mpr hk, Prod.ext rfl heq.symm⟩

/-- An element more makes one group longer by one, or opens one of one element. -/
theorem sum_length_insert (k : κ) (x : α) (groups : List (κ × List α)) :
    ((insert k x groups).map fun g => g.2.length).sum = (groups.map fun g => g.2.length).sum + 1 := by
  induction groups with
  | nil => simp [insert]
  | cons g groups ih =>
      rw [insert]
      split_ifs
      · simp
        omega
      · simp only [List.map_cons, List.sum_cons, ih]
        omega

/-- **The groups together have as many elements as the list.** -/
theorem sum_length_groupBy (key : α → κ) (xs : List α) :
    ((groupBy key xs).map fun g => g.2.length).sum = xs.length := by
  induction xs using List.reverseRecOn with
  | nil => rfl
  | append_singleton xs x ih =>
      have hlast : groupBy key (xs ++ [x]) = insert (key x) x (groupBy key xs) := by simp [groupBy]
      rw [hlast, sum_length_insert, ih, List.length_append, List.length_singleton]

/-- Two lists of the same elements have the same keys. -/
theorem eraseDups_perm (h : xs.Perm xs') : (xs.map key).eraseDups.Perm (xs'.map key).eraseDups := by
  rw [List.perm_ext_iff_of_nodup (nodup_eraseDups _) (nodup_eraseDups _)]
  intro k
  rw [List.mem_eraseDups, List.mem_eraseDups]
  exact (h.map key).mem_iff

/-- **What is left of the order of a list**: the groups of the same elements in another order are the same in
some order, each with its elements in some order. -/
theorem groupBy_perm (key : α → κ) (h : xs.Perm xs') :
    ∃ groups, groups.Perm (groupBy key xs) ∧
      List.Forall₂ (fun g g' => g.1 = g'.1 ∧ g.2.Perm g'.2) groups (groupBy key xs') := by
  refine ⟨(xs'.map key).eraseDups.map fun k => (k, ofKey key k xs), ?_, ?_⟩
  · rw [groupBy_eq]
    exact (eraseDups_perm h).symm.map _
  · rw [groupBy_eq, List.forall₂_map_left_iff, List.forall₂_map_right_iff, List.forall₂_same]
    exact fun k _ => ⟨rfl, h.filter _⟩

end groups

/-! ## Truncated averages -/

/-- The average of integers, truncated towards zero; there is none of no numbers. -/
def average (ns : List Int) : Option Int := if ns = [] then none else some (ns.sum.tdiv ns.length)

/-- There is no average exactly of no numbers. -/
theorem average_eq_none_iff {ns : List Int} : average ns = none ↔ ns = [] := by
  unfold average
  split_ifs with h <;> simp [h]

/-- The order has no part in an average. -/
theorem average_perm {ns ns' : List Int} (h : ns.Perm ns') : average ns = average ns' := by
  have hnil : ns = [] ↔ ns' = [] := by rw [← List.length_eq_zero_iff, h.length_eq, List.length_eq_zero_iff]
  unfold average
  simp only [h.sum_eq, h.length_eq, hnil]

/-- A truncated quotient is at least every integer the quotient is at least. -/
theorem le_tdiv {a b c : Int} (hc : 0 < c) (h : a * c ≤ b) : a ≤ b.tdiv c := by
  by_cases hb : 0 ≤ b
  · rw [Int.tdiv_eq_ediv_of_nonneg hb]
    exact Int.le_ediv_of_mul_le hc h
  · -- of a negative number the quotient is truncated upwards
    have hneg : (-b).tdiv c ≤ -a := by
      rw [Int.tdiv_eq_ediv_of_nonneg (by omega)]
      apply Int.ediv_le_of_le_mul hc
      rw [Int.neg_mul]
      omega
    rw [Int.neg_tdiv] at hneg
    omega

/-- A truncated quotient is at most every integer the quotient is at most. -/
theorem tdiv_le {a b c : Int} (hc : 0 < c) (h : b ≤ a * c) : b.tdiv c ≤ a := by
  have hneg : -a ≤ (-b).tdiv c := by
    apply le_tdiv hc
    rw [Int.neg_mul]
    omega
  rw [Int.neg_tdiv] at hneg
  omega

/-- An average is above what no number is below, and below what no number is above. -/
theorem average_mem_Icc {ns : List Int} {a low high : Int} (ha : average ns = some a)
    (hlow : ∀ n ∈ ns, low ≤ n) (hhigh : ∀ n ∈ ns, n ≤ high) : low ≤ a ∧ a ≤ high := by
  unfold average at ha
  split_ifs at ha with hne
  cases ha
  have hlength : (0 : Int) < ns.length := by
    exact_mod_cast List.length_pos_of_ne_nil hne
  constructor
  · apply le_tdiv hlength
    have h := List.card_nsmul_le_sum ns low hlow
    simpa [mul_comm] using h
  · apply tdiv_le hlength
    have h := List.sum_le_card_nsmul ns high hhigh
    simpa [mul_comm] using h

/-- **An average is between the least and the largest number.** -/
theorem average_between {ns : List Int} {a : Int} (ha : average ns = some a) :
    ∃ low high, ns.min? = some low ∧ ns.max? = some high ∧ low ≤ a ∧ a ≤ high := by
  have hne : ns ≠ [] := by
    rintro rfl
    cases ha
  obtain ⟨low, hlow⟩ := Option.ne_none_iff_exists'.mp (mt List.min?_eq_none_iff.mp hne)
  obtain ⟨high, hhigh⟩ := Option.ne_none_iff_exists'.mp (mt List.max?_eq_none_iff.mp hne)
  exact ⟨low, high, hlow, hhigh, average_mem_Icc ha (List.min?_eq_some_iff.mp hlow).2
    (List.max?_eq_some_iff.mp hhigh).2⟩

end Grouping
