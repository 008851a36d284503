import Lmrs.Lib.Footprint

/-!
# What computations raise

`Raises P x` says that whatever the computation `x` raises satisfies `P`. It is closed under the ways in
which computations, and readings of a state, are composed. `Ends Q P x` says this and that what `x` gives
satisfies `Q`.
-/

namespace Raising

open Footprint

variable {σ ι ε α β : Type} {P : ε → Prop}

/-- Whatever is raised satisfies `P`. -/
def Raises (P : ε → Prop) (x : Except ε α) : Prop := ∀ error, x = .error error → P error

namespace Raises

/-- A value raises nothing. -/
theorem ok (a : α) : Raises P (.ok a : Except ε α) := fun _ h => nomatch h

theorem error {e : ε} (h : P e) : Raises P (.error e : Except ε α) := by
  intro error heq
  cases heq
  exact h

/-- A composition raises what its parts raise. -/
theorem bind {x : Except ε α} {f : α → Except ε β} (hx : Raises P x) (hf : ∀ a, Raises P (f a)) :
    Raises P (x >>= f) := by
  cases x with
  | error e => exact error (hx e rfl)
  | ok a => exact hf a

theorem map {x : Except ε α} (f : α → β) (hx : Raises P x) : Raises P (x.map f) := by
  cases x with
  | error e => exact error (hx e rfl)
  | ok a => exact ok (f a)

theorem ite {c : Prop} [Decidable c] {x y : Except ε α} (hx : Raises P x) (hy : Raises P y) :
    Raises P (if c then x else y) := by
  split
  · exact hx
  · exact hy

theorem mono {Q : ε → Prop} {x : Except ε α} (hx : Raises P x) (hPQ : ∀ e, P e → Q e) : Raises Q x :=
  fun e h => hPQ e (hx e h)

end Raises

/-! ## Both ends -/

/-- What a computation gives satisfies `Q`, and what it raises satisfies `P`. -/
structure Ends (Q : α → Prop) (P : ε → Prop) (x : Except ε α) : Prop where
  gives : ∀ a, x = .ok a → Q a
  raises : Raises P x

namespace Ends

variable {Q : α → Prop} {R : β → Prop}

theorem ok {a : α} (h : Q a) : Ends Q P (.ok a : Except ε α) where
  gives b heq := by
    cases heq
    exact h
  raises := .ok a

theorem error {e : ε} (h : P e) : Ends Q P (.error e : Except ε α) where
  gives := nofun
  raises := .error h

/-- What the first part gives is known to the second. -/
theorem bind {x : Except ε α} {f : α → Except ε β} (hx : Ends Q P x)
    (hf : ∀ a, Q a → Ends R P (f a)) : Ends R P (x >>= f) := by
  cases x with
  | error e => exact error (hx.raises e rfl)
  | ok a => exact hf a (hx.gives a rfl)

theorem map {x : Except ε α} {f : α → β} (hx : Ends Q P x) (hf : ∀ a, Q a → R (f a)) :
    Ends R P (x.map f) := by
  cases x with
  | error e => exact error (hx.raises e rfl)
  | ok a => exact ok (hf a (hx.gives a rfl))

theorem ite {c : Prop} [Decidable c] {x y : Except ε α} (hx : Ends Q P x) (hy : Ends Q P y) :
    Ends Q P (if c then x else y) := by
  split
  · exact hx
  · exact hy

end Ends

/-- Before a composition, what a computation gives may be left open. -/
theorem Raises.thenEnds {Q : β → Prop} {x : Except ε α} {f : α → Except ε β} (hx : Raises P x)
    (hf : ∀ a, Ends Q P (f a)) : Ends Q P (x >>= f) :=
  Ends.bind ⟨fun _ _ => trivial, hx⟩ fun a _ => hf a

/-- A computation whose results all satisfy `Q`. -/
theorem Raises.mapEnds {Q : β → Prop} {x : Except ε α} {f : α → β} (hx : Raises P x)
    (hf : ∀ a, Q (f a)) : Ends Q P (x.map f) :=
  Ends.map ⟨fun _ _ => trivial, hx⟩ fun a _ => hf a

/-! ## Readings -/

/-- Whatever a reading raises satisfies `P`, in every state. -/
def ReadingRaises (P : ε → Prop) (m : Reading σ ι ε α) : Prop := ∀ s, Raises P (m s).1

namespace ReadingRaises

theorem pure (a : α) : ReadingRaises P (Pure.pure a : Reading σ ι ε α) := fun _ => .ok a

theorem raise {e : ε} (h : P e) : ReadingRaises P (Reading.raise e : Reading σ ι ε α) := fun _ => .error h

/-- A look raises nothing. -/
theorem look (f : σ → α) (places : σ → List ι) :
    ReadingRaises P (Reading.look f places : Reading σ ι ε α) := fun s => .ok (f s)

/-- A composition raises what its parts raise. -/
theorem bind {m : Reading σ ι ε α} {f : α → Reading σ ι ε β} (hm : ReadingRaises P m)
    (hf : ∀ a, ReadingRaises P (f a)) : ReadingRaises P (m >>= f) := by
  intro s
  cases hfirst : (m s).1 with
  | error e =>
      rw [Reading.raise_bind hfirst]
      exact .error (hm s e hfirst)
  | ok a =>
      rw [Reading.answer_bind hfirst]
      exact hf a s

/-- The readings whose exceptions satisfy `P` are closed under composition. -/
theorem closed : Reading.Closed fun _ m => ReadingRaises (σ := σ) (ι := ι) P m :=
  ⟨pure, bind⟩

end ReadingRaises

end Raising
