import Mathlib

/-!
# Operations that overlap in time

An operation takes effect somewhere between its start and its finish. A state is explained by the
operations that finished when it is what they give in some order that no two of them contradict: one
that was over before another began comes first.

* `Explains`: the definition, over any state and any operations on it.
* `InFinishOrder.concat`: a list of operations kept in the order they finish.
* `InFinishOrder.explains`: what the operations give in that order is explained by them.
* `Explains.of_forall_order`: what every order gives, an explained state has.
-/

namespace Linearizable

variable {σ ω : Type}

/-- An operation with the moments it started and finished. -/
structure Timed (ω : Type) where
  op : ω
  started : Nat
  finished : Nat

/-- One operation was over before the other began. -/
def Timed.Precedes (a b : Timed ω) : Prop := a.finished < b.started

/-- What the operations of a list give, one after the other. -/
def applyAll (apply : σ → ω → σ) (s₀ : σ) (order : List (Timed ω)) : σ :=
  (order.map Timed.op).foldl apply s₀

/-- A state is what the finished operations give in some order consistent with real time. -/
def Explains (apply : σ → ω → σ) (s₀ : σ) (history : List (Timed ω)) (s : σ) : Prop :=
  ∃ order : List (Timed ω), order.Perm history ∧ order.Pairwise (fun a b => ¬ b.Precedes a) ∧
    s = applyAll apply s₀ order

/-- Operations listed as they finished, all before `now`. -/
structure InFinishOrder (now : Nat) (history : List (Timed ω)) : Prop where
  started : ∀ a ∈ history, a.started ≤ a.finished
  finished : ∀ a ∈ history, a.finished < now
  ordered : history.Pairwise fun a b => a.finished ≤ b.finished

section order

variable {apply : σ → ω → σ} {s₀ s : σ} {history : List (Timed ω)} {now : Nat}

/-- One operation more. -/
theorem applyAll_concat (a : Timed ω) :
    applyAll apply s₀ (history ++ [a]) = apply (applyAll apply s₀ history) a.op := by
  simp [applyAll]

/-- Nothing has finished. -/
theorem InFinishOrder.nil : InFinishOrder now ([] : List (Timed ω)) := by
  constructor
  · simp
  · simp
  · simp

/-- Time passes. -/
theorem InFinishOrder.tick (h : InFinishOrder now history) : InFinishOrder (now + 1) history := by
  refine ⟨h.started, ?_, h.ordered⟩
  intro a ha
  have hfinished := h.finished a ha
  omega

/-- An operation that was running finishes now. -/
theorem InFinishOrder.concat (h : InFinishOrder now history) {op : ω} {started : Nat}
    (hstarted : started ≤ now) : InFinishOrder (now + 1) (history ++ [⟨op, started, now⟩]) := by
  constructor
  · intro a ha
    rcases List.mem_append.mp ha with hold | hnew
    · exact h.started a hold
    · rw [List.mem_singleton.mp hnew]
      exact hstarted
  · intro a ha
    rcases List.mem_append.mp ha with hold | hnew
    · have hfinished := h.finished a hold
      omega
    · rw [List.mem_singleton.mp hnew]
      exact Nat.lt_succ_self now
  · apply List.pairwise_append.mpr
    refine ⟨h.ordered, List.pairwise_singleton _ _, ?_⟩
    intro a ha b hb
    rw [List.mem_singleton.mp hb]
    exact Nat.le_of_lt (h.finished a ha)

/-- **The order of finishing is consistent with real time.** -/
theorem InFinishOrder.consistent (h : InFinishOrder now history) :
    history.Pairwise fun a b => ¬ b.Precedes a := by
  apply h.ordered.imp_of_mem
  intro a b ha _ hle hprecedes
  have hstarted := h.started a ha
  unfold Timed.Precedes at hprecedes
  omega

/-- **What the operations give in the order they finished is explained by them.** -/
theorem InFinishOrder.explains (h : InFinishOrder now history) :
    Explains apply s₀ history (applyAll apply s₀ history) :=
  ⟨history, List.Perm.refl history, h.consistent, rfl⟩

/-- **What holds of every order of the operations holds of an explained state.** -/
theorem Explains.of_forall_order {P : σ → Prop} (h : Explains apply s₀ history s)
    (hall : ∀ order : List (Timed ω), order.Perm history → P (applyAll apply s₀ order)) : P s := by
  obtain ⟨order, hperm, -, rfl⟩ := h
  exact hall order hperm

end order

end Linearizable
