import Lmrs.Lib.Transition

/-!
# A pool shared by admitted holders

Holders are admitted, then start, then finish; each holds `amount` of one pool of size `cap`
from its admission to its finish. A state lists the holders admitted but not started and the
holders running.

* `running_le_of_guarded`: if every admission happens only when what is held already and the new
  holder's amount together fit the pool, the running holders never exceed it.
* `exists_run_over`: once more is held than the pool has, starting the admitted holders makes the
  running ones exceed it. The guard of the first result is therefore the exact one.

Amounts live in any ordered additive commutative monoid.
-/

namespace Reservation

open Transition

variable {κ M : Type} [AddCommMonoid M] [PartialOrder M] [IsOrderedAddMonoid M]

/-- Who has been admitted and who is running. -/
structure Pool (κ : Type) where
  /-- Admitted, not started. -/
  pending : List κ
  /-- Started, not finished. -/
  running : List κ

/-- What happens to a holder. -/
inductive Event (κ : Type) where
  | reserve (x : κ)
  | start (i : Nat)
  | finish (i : Nat)

/-- One event: an admission joins the waiting holders, a start moves the `i`-th of them to the
running ones, a finish drops the `i`-th running holder. -/
inductive Step : Pool κ → Event κ → Pool κ → Prop
  | reserve (p : Pool κ) (x : κ) : Step p (.reserve x) { p with pending := p.pending ++ [x] }
  | start (p : Pool κ) (i : Nat) (x : κ) (h : p.pending[i]? = some x) :
      Step p (.start i) ⟨p.pending.eraseIdx i, p.running ++ [x]⟩
  | finish (p : Pool κ) (i : Nat) (x : κ) (h : p.running[i]? = some x) :
      Step p (.finish i) { p with running := p.running.eraseIdx i }

/-- The amounts of a list of holders. -/
def total (amount : κ → M) (xs : List κ) : M := (xs.map amount).sum

/-- What the holders of a state hold. -/
def held (amount : κ → M) (p : Pool κ) : M := total amount p.pending + total amount p.running

/-- Admission is allowed when the new holder fits beside what is held already. -/
def FitsBeside (amount : κ → M) (cap : M) (p : Pool κ) : Event κ → Prop
  | .reserve x => held amount p + amount x ≤ cap
  | _ => True

/-- An admitted holder starts, and nothing else happens. -/
def IsStart : Event κ → Prop
  | .start _ => True
  | _ => False

omit [PartialOrder M] [IsOrderedAddMonoid M] in
/-- Taking the `i`-th holder out of a list splits off its amount. -/
theorem total_eraseIdx_add (amount : κ → M) {xs : List κ} {i : Nat} {x : κ}
    (h : xs[i]? = some x) : total amount (xs.eraseIdx i) + amount x = total amount xs := by
  induction xs generalizing i with
  | nil => simp at h
  | cons y ys ih =>
      cases i with
      | zero =>
          simp only [List.getElem?_cons_zero, Option.some.injEq] at h
          subst h
          simp [total, add_comm]
      | succ i =>
          have hrec := ih (by simpa using h)
          simp only [total, List.eraseIdx_cons_succ, List.map_cons, List.sum_cons] at hrec ⊢
          rw [add_assoc, hrec]

omit [PartialOrder M] [IsOrderedAddMonoid M] in
/-- A start moves an amount without changing what is held. -/
theorem held_start (amount : κ → M) {p : Pool κ} {i : Nat} {x : κ} (h : p.pending[i]? = some x) :
    held amount ⟨p.pending.eraseIdx i, p.running ++ [x]⟩ = held amount p := by
  have herase := total_eraseIdx_add amount h
  simp only [held, total, List.map_append, List.sum_append, List.map_cons, List.map_nil,
    List.sum_cons, List.sum_nil, add_zero] at herase ⊢
  rw [← herase, add_comm (List.map amount p.running).sum (amount x), ← add_assoc]

/-- The amounts of a list of holders are non-negative. -/
theorem total_nonneg {amount : κ → M} (hpos : ∀ x, 0 ≤ amount x) (xs : List κ) :
    0 ≤ total amount xs := by
  induction xs with
  | nil => exact le_rfl
  | cons y ys ih =>
      simp only [total, List.map_cons, List.sum_cons]
      exact add_nonneg (hpos y) ih

/-- A step allowed by the guard keeps what is held within the pool. -/
theorem held_le_step {amount : κ → M} {cap : M} (hpos : ∀ x, 0 ≤ amount x) (p : Pool κ)
    (e : Event κ) (q : Pool κ) (hp : held amount p ≤ cap)
    (hstep : Guarded (FitsBeside amount cap) Step p e q) : held amount q ≤ cap := by
  obtain ⟨hguard, hstep⟩ := hstep
  cases hstep with
  | reserve x =>
      simp only [FitsBeside] at hguard
      refine le_trans (le_of_eq ?_) hguard
      simp only [held, total, List.map_append, List.sum_append, List.map_cons, List.map_nil,
        List.sum_cons, List.sum_nil, add_zero]
      exact add_right_comm _ _ _
  | start i x h => rwa [held_start amount h]
  | finish i x h =>
      refine le_trans ?_ hp
      simp only [held]
      apply add_le_add le_rfl
      rw [← total_eraseIdx_add amount h]
      exact le_add_of_nonneg_right (hpos x)

/-- **Guarded admission keeps the running holders within the pool.** -/
theorem running_le_of_guarded {amount : κ → M} {cap : M} (hpos : ∀ x, 0 ≤ amount x)
    {p₀ p : Pool κ} {es : List (Event κ)}
    (hrun : Run (Guarded (FitsBeside amount cap) Step) p₀ es p) (hinit : held amount p₀ ≤ cap) :
    total amount p.running ≤ cap := by
  have hheld : held amount p ≤ cap := hrun.invariant hinit (held_le_step hpos)
  exact le_trans (le_add_of_nonneg_left (total_nonneg hpos p.pending)) hheld

omit [PartialOrder M] [IsOrderedAddMonoid M] in
/-- Starting every admitted holder makes the running holders hold everything. -/
theorem exists_run_all_started (amount : κ → M) (p : Pool κ) :
    ∃ es q, Run (Guarded (fun _ e => IsStart e) Step) p es q ∧ q.pending = [] ∧
      total amount q.running = held amount p := by
  obtain ⟨pending, running⟩ := p
  induction pending generalizing running with
  | nil => exact ⟨[], _, .nil, rfl, by simp [held, total]⟩
  | cons x xs ih =>
      have hget : (⟨x :: xs, running⟩ : Pool κ).pending[0]? = some x := rfl
      obtain ⟨es, q, hrun, hnil, htotal⟩ := ih (running ++ [x])
      have hstep : Guarded (fun _ e => IsStart e) Step ⟨x :: xs, running⟩ (.start 0)
          ⟨xs, running ++ [x]⟩ := ⟨trivial, .start _ 0 x hget⟩
      refine ⟨[.start 0] ++ es, q, (Run.single hstep).append hrun, hnil, ?_⟩
      rw [htotal]
      exact held_start amount hget

omit [IsOrderedAddMonoid M] in
/-- **The guard is exact**: once more is held than the pool has, starting the admitted holders makes
the running ones exceed the pool. -/
theorem exists_run_over (amount : κ → M) {cap : M} (p : Pool κ) (h : ¬ held amount p ≤ cap) :
    ∃ es q, Run (Guarded (fun _ e => IsStart e) Step) p es q ∧ ¬ total amount q.running ≤ cap := by
  obtain ⟨es, q, hrun, -, htotal⟩ := exists_run_all_started amount p
  exact ⟨es, q, hrun, htotal ▸ h⟩

end Reservation
