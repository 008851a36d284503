import Mathlib

/-!
# Flags raised by overlapping activities

Activities run side by side, each under a key. A set of flags is meant to say which keys have an
activity running. It is a set: an activity raises the flag of its key when it starts and lowers it when
it finishes, whoever else runs under that key.

* `Exact.start`: starting an activity keeps the flags exact.
* `Exact.finish_iff`: finishing one keeps them exact exactly when no other activity of its key is
  running.
-/

namespace Flags

variable {κ : Type} {flags flags' running : List κ} {k : κ}

/-- A key is flagged exactly when an activity runs under it. -/
def Exact (flags running : List κ) : Prop := ∀ k, k ∈ flags ↔ k ∈ running

/-- What is left after removing one activity: every other key keeps its activities. -/
theorem mem_eraseIdx_of_ne {i : Nat} {j : κ} (hk : running[i]? = some k) (hj : j ≠ k) :
    j ∈ running.eraseIdx i ↔ j ∈ running := by
  obtain ⟨hi, hget⟩ := List.getElem?_eq_some_iff.mp hk
  have hsplit : running = running.take i ++ running[i] :: running.drop (i + 1) := by simp
  constructor
  · exact fun h => List.mem_of_mem_eraseIdx h
  · intro h
    rw [hsplit, hget] at h
    rw [List.eraseIdx_eq_take_drop_succ]
    rcases List.mem_append.mp h with htake | hrest
    · exact List.mem_append_left _ htake
    · rcases List.mem_cons.mp hrest with heq | hdrop
      · exact absurd heq hj
      · exact List.mem_append_right _ hdrop

/-- **Starting an activity**, with its flag raised, keeps the flags exact. -/
theorem Exact.start (h : Exact flags running) (hraised : ∀ j, j ∈ flags' ↔ j ∈ flags ∨ j = k) :
    Exact flags' (running ++ [k]) := by
  intro j
  rw [hraised j, h j, List.mem_append, List.mem_singleton]

/-- **Finishing an activity**, with its flag lowered, keeps the flags exact exactly when no other
activity runs under its key. -/
theorem Exact.finish_iff {i : Nat} (h : Exact flags running) (hk : running[i]? = some k)
    (hlowered : ∀ j, j ∈ flags' ↔ j ∈ flags ∧ j ≠ k) :
    Exact flags' (running.eraseIdx i) ↔ k ∉ running.eraseIdx i := by
  constructor
  · intro hexact hmem
    have hflag := (hexact k).mpr hmem
    exact ((hlowered k).mp hflag).2 rfl
  · intro halone j
    rw [hlowered j, h j]
    by_cases hj : j = k
    · subst hj
      constructor
      · rintro ⟨-, hne⟩
        exact absurd rfl hne
      · exact fun hmem => absurd hmem halone
    · rw [mem_eraseIdx_of_ne hk hj]
      exact and_iff_left hj

end Flags
