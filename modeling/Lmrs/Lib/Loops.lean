import Mathlib

/-!
# Loops that gather

A loop in a monad that folds in what each turn answers is the list of the answers, folded.

* `foldlM_gather`: the loop with an accumulator against `List.mapM`.
* `map_foldlM`: a loop seen through a function of its accumulator.
* `mapM_bind_length`: there are as many answers as turns.
-/

namespace Loops

variable {m : Type → Type} [Monad m] [LawfulMonad m] {α β γ δ : Type}

/-- A loop whose turns fold in an answer that does not depend on the accumulator. -/
theorem foldlM_gather (f : α → m β) (φ : γ → β → γ) (c : γ) (xs : List α) :
    (xs.foldlM (fun c a => do let b ← f a; return φ c b) c) = (fun bs => bs.foldl φ c) <$> xs.mapM f := by
  induction xs generalizing c with
  | nil => simp
  | cons x xs ih =>
      rw [List.foldlM_cons, List.mapM_cons, map_bind, bind_assoc]
      refine bind_congr fun b => ?_
      rw [pure_bind, ih, map_bind]
      simp

/-- A loop each of whose turns is a turn of another one, seen through `μ`. -/
theorem map_foldlM {μ : γ → δ} {f : γ → α → m γ} {g : δ → α → m δ} (h : ∀ c a, μ <$> f c a = g (μ c) a)
    (c : γ) (xs : List α) : μ <$> xs.foldlM f c = xs.foldlM g (μ c) := by
  induction xs generalizing c with
  | nil => simp
  | cons x xs ih =>
      rw [List.foldlM_cons, List.foldlM_cons, map_bind, ← h, bind_map_left]
      exact bind_congr fun c => ih c

/-- Loops whose turns are the same on a list. -/
theorem mapM_congr {f g : α → m β} {xs : List α} (h : ∀ x ∈ xs, f x = g x) : xs.mapM f = xs.mapM g := by
  induction xs with
  | nil => simp
  | cons x xs ih =>
      rw [List.mapM_cons, List.mapM_cons, h x (List.mem_cons_self ..),
        ih fun y hy => h y (List.mem_cons_of_mem _ hy)]

/-- What follows a loop may count its turns for its answers. -/
theorem mapM_bind_length (f : α → m β) (xs : List α) (k : Nat → List β → m γ) :
    (xs.mapM f >>= fun bs => k bs.length bs) = xs.mapM f >>= fun bs => k xs.length bs := by
  induction xs generalizing k with
  | nil => simp
  | cons x xs ih =>
      rw [List.mapM_cons, bind_assoc, bind_assoc]
      refine bind_congr fun b => ?_
      simpa using ih fun n bs => k (n + 1) (b :: bs)

/-- Counting as it goes, a loop ends with the count. -/
theorem foldl_count (p : β → Bool) (bs : List β) (n : Nat) :
    bs.foldl (fun n b => if p b then n + 1 else n) n = n + bs.countP p := by
  induction bs generalizing n with
  | nil => rfl
  | cons b bs ih =>
      rw [List.foldl_cons, ih, List.countP_cons]
      split <;> omega

/-- Appending as it goes, a loop ends with the list. -/
theorem foldl_append (bs cs : List β) : bs.foldl (fun cs b => cs ++ [b]) cs = cs ++ bs := by
  induction bs generalizing cs with
  | nil => simp
  | cons b bs ih => simp [ih]

end Loops
