import Mathlib

/-!
# Readings and what they look at

A `Reading σ ι ε α` reads a state `σ`: it answers or raises, and says what it looked at on the way, in
units `ι`. Readings compose as a monad; what a composition looks at is what its parts look at.

* `bind_answers_iff`, `select_nil_iff`, `first_answers`: what a reading made of others answers.
* **Local** `Local same m`: in two states that are the same wherever `m` looks, `m` answers the same and
  looks at the same.
* **Closed** classes of readings: what holds of the pure readings and of what is composed of readings it
  holds of, holds of every selection, collection and search made of them. `Local.closed`: the local
  readings are such a class.
-/

namespace Footprint

/-- A reading: what it answers or raises, and what it looked at. -/
def Reading (σ ι ε α : Type) : Type := σ → Except ε α × List ι

namespace Reading

variable {σ ι ε α β : Type}

/-- Answer without looking. -/
def answer (a : α) : Reading σ ι ε α := fun _ => (.ok a, [])

/-- Raise without looking. -/
def raise (error : ε) : Reading σ ι ε α := fun _ => (.error error, [])

/-- One reading, and another that depends on its answer. -/
def andThen (m : Reading σ ι ε α) (f : α → Reading σ ι ε β) : Reading σ ι ε β := fun s =>
  match m s with
  | (.ok a, looks) => ((f a s).1, looks ++ (f a s).2)
  | (.error error, looks) => (.error error, looks)

instance : Monad (Reading σ ι ε) where
  pure := answer
  bind := andThen

/-- Look at the state, in the places given. -/
def look (f : σ → α) (places : σ → List ι) : Reading σ ι ε α := fun s => (.ok (f s), places s)

/-- The members of a list that a reading accepts. -/
def select (p : α → Reading σ ι ε Bool) : List α → Reading σ ι ε (List α)
  | [] => return []
  | x :: xs => do
      let accepted ← p x
      let rest ← select p xs
      return if accepted then x :: rest else rest

/-- What a reading answers on the members of a list. -/
def collect (f : α → Reading σ ι ε β) : List α → Reading σ ι ε (List β)
  | [] => return []
  | x :: xs => do
      let y ← f x
      let ys ← collect f xs
      return y :: ys

/-- The first answer a reading has on the members of a list. -/
def first (f : α → Reading σ ι ε (Option β)) : List α → Reading σ ι ε (Option β)
  | [] => return none
  | x :: xs => do
      match ← f x with
      | some y => return some y
      | none => first f xs

/-! ## What a composition looks at -/

variable {same : ι → σ → σ → Prop} {m : Reading σ ι ε α} {f : α → Reading σ ι ε β} {s : σ} {a : α}
  {i : ι}

/-- A composition looks where its first part looks. -/
theorem looks_bind (m : Reading σ ι ε α) (f : α → Reading σ ι ε β) (s : σ) (h : i ∈ (m s).2) :
    i ∈ ((m >>= f) s).2 := by
  show i ∈ (andThen m f s).2
  unfold andThen
  split
  · next heq =>
      rw [heq] at h
      exact List.mem_append_left _ h
  · next heq =>
      rw [heq] at h
      exact h

/-- After its first part has answered, a composition answers what the second part does. -/
theorem answer_bind (h : (m s).1 = .ok a) : ((m >>= f) s).1 = (f a s).1 := by
  show (andThen m f s).1 = (f a s).1
  unfold andThen
  split
  · next heq =>
      rw [heq] at h
      cases h
      rfl
  · next heq =>
      rw [heq] at h
      cases h

/-- After its first part has answered, a composition looks where the second part looks. -/
theorem looks_next (h : (m s).1 = .ok a) (hi : i ∈ (f a s).2) : i ∈ ((m >>= f) s).2 := by
  show i ∈ (andThen m f s).2
  unfold andThen
  split
  · next heq =>
      rw [heq] at h
      cases h
      exact List.mem_append_right _ hi
  · next heq =>
      rw [heq] at h
      cases h

/-- Where a composition looks, its first part does, or its second part after the first has answered. -/
theorem looks_cases (h : i ∈ ((m >>= f) s).2) : i ∈ (m s).2 ∨ ∃ a, (m s).1 = .ok a ∧ i ∈ (f a s).2 := by
  change i ∈ (andThen m f s).2 at h
  unfold andThen at h
  split at h
  · next a looks heq =>
      rw [heq]
      exact (List.mem_append.mp h).imp id fun hnext => ⟨a, rfl, hnext⟩
  · next heq =>
      rw [heq]
      exact Or.inl h

/-- A composition whose first part raises raises the same. -/
theorem raise_bind {error : ε} (h : (m s).1 = .error error) : ((m >>= f) s).1 = .error error := by
  show (andThen m f s).1 = .error error
  unfold andThen
  split
  · next heq =>
      rw [heq] at h
      cases h
  · next heq =>
      rw [heq] at h
      cases h
      rfl

/-- What a composition answers is what its second part does, after the first has answered. -/
theorem bind_answers {b : β} (h : ((m >>= f) s).1 = .ok b) : ∃ a, (m s).1 = .ok a ∧ (f a s).1 = .ok b := by
  cases hfirst : (m s).1 with
  | error error =>
      rw [raise_bind hfirst] at h
      cases h
  | ok a => exact ⟨a, rfl, (answer_bind hfirst).symm.trans h⟩

/-- What a composition answers, and what it answers from. -/
theorem bind_answers_iff {b : β} :
    ((m >>= f) s).1 = .ok b ↔ ∃ a, (m s).1 = .ok a ∧ (f a s).1 = .ok b := by
  constructor
  · exact bind_answers
  · rintro ⟨a, hfirst, hsecond⟩
    rw [answer_bind hfirst, hsecond]

theorem pure_answers_iff {a b : α} : ((pure a : Reading σ ι ε α) s).1 = .ok b ↔ a = b := by
  constructor
  · intro h
    exact Except.ok.inj h
  · rintro rfl
    rfl

/-- A composition answers the same in two states where both parts do. -/
theorem bind_same {t : σ} (hm : (m t).1 = (m s).1) (hf : ∀ a, (f a t).1 = (f a s).1) :
    ((m >>= f) t).1 = ((m >>= f) s).1 := by
  cases hfirst : (m s).1 with
  | error error => rw [raise_bind hfirst, raise_bind (hm.trans hfirst)]
  | ok a => rw [answer_bind hfirst, answer_bind (hm.trans hfirst), hf a]

/-! ## What selections, collections and searches answer -/

/-- A selection that accepts nothing. -/
theorem select_nil_iff {p : α → Reading σ ι ε Bool} {xs : List α} :
    (select p xs s).1 = .ok [] ↔ ∀ x ∈ xs, (p x s).1 = .ok false := by
  induction xs with
  | nil => simp [select, pure_answers_iff]
  | cons x xs ih =>
      rw [select, bind_answers_iff, List.forall_mem_cons]
      simp only [bind_answers_iff, pure_answers_iff]
      constructor
      · rintro ⟨accepted, haccepted, rest, hrest, heq⟩
        cases accepted with
        | true => cases heq
        | false =>
            obtain rfl : rest = [] := heq
            exact ⟨haccepted, ih.mp hrest⟩
      · rintro ⟨hx, hxs⟩
        exact ⟨false, hx, [], ih.mpr hxs, rfl⟩

/-- A selection by a test that always answers. -/
theorem select_of_answers {p : α → Reading σ ι ε Bool} {P : α → Bool} {xs : List α}
    (h : ∀ x, (p x s).1 = .ok (P x)) : (select p xs s).1 = .ok (xs.filter P) := by
  induction xs with
  | nil => rfl
  | cons x xs ih =>
      rw [select, bind_answers_iff]
      refine ⟨P x, h x, ?_⟩
      rw [bind_answers_iff]
      refine ⟨_, ih, ?_⟩
      rw [pure_answers_iff, List.filter_cons]

/-- A selection answers exactly when its test answers on every member. -/
theorem select_answers_iff {p : α → Reading σ ι ε Bool} {xs : List α} :
    (∃ ys, (select p xs s).1 = .ok ys) ↔ ∀ x ∈ xs, ∃ accepted, (p x s).1 = .ok accepted := by
  induction xs with
  | nil => exact iff_of_true ⟨[], rfl⟩ (by simp)
  | cons x xs ih =>
      rw [select, List.forall_mem_cons, ← ih]
      simp only [bind_answers_iff, pure_answers_iff]
      constructor
      · rintro ⟨ys, accepted, haccepted, rest, hrest, -⟩
        exact ⟨⟨accepted, haccepted⟩, rest, hrest⟩
      · rintro ⟨⟨accepted, haccepted⟩, rest, hrest⟩
        exact ⟨_, accepted, haccepted, rest, hrest, rfl⟩

/-- A collection of readings that answer answers. -/
theorem collect_answers {f : α → Reading σ ι ε β} {xs : List α}
    (h : ∀ x ∈ xs, ∃ y, (f x s).1 = .ok y) : ∃ ys, (collect f xs s).1 = .ok ys := by
  induction xs with
  | nil => exact ⟨[], rfl⟩
  | cons x xs ih =>
      obtain ⟨y, hy⟩ := h x List.mem_cons_self
      obtain ⟨ys, hys⟩ := ih fun z hz => h z (List.mem_cons_of_mem x hz)
      exact ⟨y :: ys, bind_answers_iff.mpr ⟨y, hy, bind_answers_iff.mpr ⟨ys, hys, rfl⟩⟩⟩

/-- A search by readings that answer answers. -/
theorem first_answers {f : α → Reading σ ι ε (Option β)} {xs : List α}
    (h : ∀ x ∈ xs, ∃ y, (f x s).1 = .ok y) : ∃ found, (first f xs s).1 = .ok found := by
  induction xs with
  | nil => exact ⟨none, rfl⟩
  | cons x xs ih =>
      obtain ⟨y, hy⟩ := h x List.mem_cons_self
      obtain ⟨rest, hrest⟩ := ih fun z hz => h z (List.mem_cons_of_mem x hz)
      cases y with
      | some y => exact ⟨some y, bind_answers_iff.mpr ⟨some y, hy, rfl⟩⟩
      | none => exact ⟨rest, bind_answers_iff.mpr ⟨none, hy, hrest⟩⟩

/-! ## Local readings -/

/-- In two states that are the same wherever it looks, a reading answers and looks the same. -/
def Local (same : ι → σ → σ → Prop) (m : Reading σ ι ε α) : Prop :=
  ∀ s t, (∀ i ∈ (m s).2, same i s t) → m t = m s

theorem Local.pure (a : α) : Local same (Pure.pure a : Reading σ ι ε α) := fun _ _ _ => rfl

theorem Local.raise (error : ε) : Local same (raise error : Reading σ ι ε α) := fun _ _ _ => rfl

/-- A look is local when what is found, and where one looks, hangs on the places looked at. -/
theorem Local.look {f : σ → α} {places : σ → List ι}
    (h : ∀ s t, (∀ i ∈ places s, same i s t) → f t = f s ∧ places t = places s) :
    Local same (look f places : Reading σ ι ε α) := by
  intro s t hsame
  obtain ⟨hf, hplaces⟩ := h s t hsame
  simp only [Reading.look, hf, hplaces]

/-- **Local readings compose.** -/
theorem Local.bind (hm : Local same m) (hf : ∀ a, Local same (f a)) : Local same (m >>= f) := by
  intro s t hsame
  show andThen m f t = andThen m f s
  have hfirst := hm s t fun i hi => hsame i (looks_bind m f s hi)
  cases hs : m s with
  | mk result looks =>
      cases result with
      | error error =>
          unfold andThen
          rw [hfirst, hs]
      | ok a =>
          have hrest := hf a s t fun i hi => hsame i (looks_next (congrArg Prod.fst hs) hi)
          unfold andThen
          rw [hfirst, hs]
          simp only [hrest]

/-! ## Classes of readings -/

/-- A class of readings that has the pure ones and what is composed of its members. -/
structure Closed (C : (α : Type) → Reading σ ι ε α → Prop) : Prop where
  pure {α : Type} (a : α) : C α (Pure.pure a)
  bind {α β : Type} {m : Reading σ ι ε α} {f : α → Reading σ ι ε β} :
    C α m → (∀ a, C β (f a)) → C β (m >>= f)

namespace Closed

variable {C : (α : Type) → Reading σ ι ε α → Prop}

theorem ite (_ : Closed C) {c : Prop} [Decidable c] {m' : Reading σ ι ε α} (hm : C α m)
    (hm' : C α m') : C α (if c then m else m') := by
  split
  · exact hm
  · exact hm'

variable (hC : Closed C)
include hC

/-- A pure function of a member is one. -/
theorem map {g : α → β} (hm : C α m) : C β (m >>= fun a => Pure.pure (g a)) :=
  hC.bind hm fun a => hC.pure (g a)

theorem select {p : α → Reading σ ι ε Bool} (hp : ∀ x, C Bool (p x)) (xs : List α) :
    C (List α) (Reading.select p xs) := by
  induction xs with
  | nil => exact hC.pure _
  | cons x xs ih => exact hC.bind (hp x) fun _ => hC.bind ih fun _ => hC.pure _

theorem collect (hf : ∀ x, C β (f x)) (xs : List α) : C (List β) (Reading.collect f xs) := by
  induction xs with
  | nil => exact hC.pure _
  | cons x xs ih => exact hC.bind (hf x) fun _ => hC.bind ih fun _ => hC.pure _

theorem first {f : α → Reading σ ι ε (Option β)} (hf : ∀ x, C (Option β) (f x)) (xs : List α) :
    C (Option β) (Reading.first f xs) := by
  induction xs with
  | nil => exact hC.pure _
  | cons x xs ih =>
      refine hC.bind (hf x) fun found => ?_
      cases found with
      | none => exact ih
      | some y => exact hC.pure _

end Closed

/-- Local readings are closed under composition. -/
theorem Local.closed : Closed fun _ m => Local (σ := σ) (ι := ι) (ε := ε) same m :=
  ⟨Local.pure, Local.bind⟩

end Reading

end Footprint
