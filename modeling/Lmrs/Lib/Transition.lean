import Mathlib

/-!
# Runs of a labelled transition system

A system is a step relation `step : σ → α → σ → Prop` on states and labels. `Run step s₀ as s`
says that the labels `as`, taken in order from `s₀`, lead to `s`.

* `Run.invariant`: what holds at the start and is preserved by a step holds in every state
  reached.
* `Guarded guard step`: the steps whose source state and label meet a condition. A run of the
  guarded system is a run all of whose steps meet it.
* `Run.simulate`: a state abstraction under which every step is an abstract step or no change
  carries runs to runs.
* `runAll f s₀ as` is the state a total step function reaches; `always_iff_guarded` characterises
  the runs that stay inside a predicate by a condition on their steps, `Meets` checks such a condition
  step by step, and `exists_origin` finds the step that a fact about the last state comes from.
-/

namespace Transition

variable {σ τ α β : Type}

/-- The labels `as` lead from `s₀` to `s`. -/
inductive Run (step : σ → α → σ → Prop) (s₀ : σ) : List α → σ → Prop
  | nil : Run step s₀ [] s₀
  | snoc {as : List α} {s t : σ} {a : α} :
      Run step s₀ as s → step s a t → Run step s₀ (as ++ [a]) t

/-- The step relation of a total step function. -/
def ofFun (f : σ → α → σ) : σ → α → σ → Prop := fun s a t => t = f s a

/-- The steps whose source state and label meet `guard`. -/
def Guarded (guard : σ → α → Prop) (step : σ → α → σ → Prop) : σ → α → σ → Prop :=
  fun s a t => guard s a ∧ step s a t

variable {step : σ → α → σ → Prop} {s₀ s t : σ} {as bs : List α}

/-- **The invariant rule.** -/
theorem Run.invariant {I : σ → Prop} (hrun : Run step s₀ as s) (hinit : I s₀)
    (hstep : ∀ s a t, I s → step s a t → I t) : I s := by
  induction hrun with
  | nil => exact hinit
  | snoc _ h ih => exact hstep _ _ _ ih h

/-- Runs compose. -/
theorem Run.append (h₁ : Run step s₀ as s) (h₂ : Run step s bs t) :
    Run step s₀ (as ++ bs) t := by
  induction h₂ with
  | nil => simpa using h₁
  | snoc _ h ih => simpa using ih.snoc h

/-- A run of one step. -/
theorem Run.single {a : α} (h : step s a t) : Run step s [a] t := by
  have hnil : Run step s [] s := .nil
  simpa using hnil.snoc h

/-- **Simulation.** If every step maps to an abstract step or leaves the abstract state as it
is, a run maps to an abstract run. -/
theorem Run.simulate {astep : τ → β → τ → Prop} (abs : σ → τ) (hrun : Run step s₀ as s)
    (hstep : ∀ s a t, step s a t → (∃ b, astep (abs s) b (abs t)) ∨ abs t = abs s) :
    ∃ bs, Run astep (abs s₀) bs (abs s) := by
  induction hrun with
  | nil => exact ⟨[], .nil⟩
  | snoc _ h ih =>
      obtain ⟨bs, hbs⟩ := ih
      rcases hstep _ _ _ h with ⟨b, hb⟩ | heq
      · exact ⟨bs ++ [b], hbs.snoc hb⟩
      · exact ⟨bs, heq ▸ hbs⟩

/-! ## Runs of a total step function -/

section total

variable {f : σ → α → σ}

/-- The state reached from `s₀` by the labels `as`. -/
def runAll (f : σ → α → σ) (s₀ : σ) (as : List α) : σ := as.foldl f s₀

@[simp] theorem runAll_nil : runAll f s₀ [] = s₀ := rfl

@[simp] theorem runAll_append : runAll f s₀ (as ++ bs) = runAll f (runAll f s₀ as) bs :=
  List.foldl_append

theorem runAll_concat {a : α} : runAll f s₀ (as ++ [a]) = f (runAll f s₀ as) a := by
  rw [runAll_append]
  rfl

/-- The invariant rule for a total step function. -/
theorem runAll_invariant {J : σ → Prop} (hinit : J s₀) (hstep : ∀ s a, J s → J (f s a))
    (as : List α) : J (runAll f s₀ as) := by
  induction as using List.reverseRecOn with
  | nil => exact hinit
  | append_singleton as a ih =>
      rw [runAll_concat]
      exact hstep _ _ ih

/-- The invariant rule for a run all of whose steps meet `G`. -/
theorem runAll_guarded {J : σ → Prop} {G : σ → α → Prop} (hinit : J s₀)
    (hstep : ∀ s a, J s → G s a → J (f s a))
    (hsteps : ∀ p a, p ++ [a] <+: as → G (runAll f s₀ p) a) : J (runAll f s₀ as) := by
  induction as using List.reverseRecOn with
  | nil => exact hinit
  | append_singleton as a ih =>
      rw [runAll_concat]
      refine hstep _ a (ih fun p b hp => ?_) (hsteps as a (List.prefix_refl _))
      exact hsteps p b (hp.trans (List.prefix_append as [a]))

/-- Every step of the run `as` from `s` meets `G`. -/
def Meets (f : σ → α → σ) (G : σ → α → Prop) (s : σ) : List α → Prop
  | [] => True
  | a :: as => G s a ∧ Meets f G (f s a) as

instance Meets.decidable (f : σ → α → σ) (G : σ → α → Prop) [∀ s a, Decidable (G s a)] :
    (s : σ) → (as : List α) → Decidable (Meets f G s as)
  | _, [] => .isTrue trivial
  | s, a :: as =>
      have := Meets.decidable f G (f s a) as
      inferInstanceAs (Decidable (G s a ∧ Meets f G (f s a) as))

/-- The steps of a run, taken one after the other or as what follows a prefix of it. -/
theorem meets_iff {G : σ → α → Prop} (as : List α) :
    Meets f G s as ↔ ∀ p a, p ++ [a] <+: as → G (runAll f s p) a := by
  induction as generalizing s with
  | nil =>
      refine ⟨fun _ p a hp => ?_, fun _ => trivial⟩
      exact absurd (List.prefix_nil.mp hp) (by simp)
  | cons b as ih =>
      rw [Meets, ih]
      constructor
      · rintro ⟨hfirst, hrest⟩ p a hp
        cases p with
        | nil =>
            obtain rfl : a = b := (List.cons_prefix_cons.mp hp).1
            exact hfirst
        | cons c p =>
            obtain ⟨rfl, htail⟩ := List.cons_prefix_cons.mp hp
            exact hrest p a htail
      · intro hall
        refine ⟨hall [] b ?_, fun p a hp => hall (b :: p) a ?_⟩
        · exact List.cons_prefix_cons.mpr ⟨rfl, List.nil_prefix⟩
        · exact List.cons_prefix_cons.mpr ⟨rfl, hp⟩

/-- Conditions that agree on the labels of a run are met by the same runs. -/
theorem Meets.congr {G H : σ → α → Prop} (h : ∀ s, ∀ a ∈ as, G s a ↔ H s a) :
    Meets f G s as ↔ Meets f H s as := by
  induction as generalizing s with
  | nil => exact Iff.rfl
  | cons a as ih =>
      rw [Meets, Meets, h s a List.mem_cons_self, ih fun s b hb => h s b (List.mem_cons_of_mem a hb)]

/-- **The runs that stay inside a predicate.** Suppose that from any state inside `P` a step stays
inside exactly when it meets `G`, where `J` is a further invariant of every run. Then a run is inside
`P` all along exactly when all of its steps meet `G`. -/
theorem always_iff_guarded {J P : σ → Prop} {G : σ → α → Prop} (hJ₀ : J s₀) (hP₀ : P s₀)
    (hJ : ∀ s a, J s → J (f s a)) (hP : ∀ s a, J s → P s → (P (f s a) ↔ G s a)) :
    (∀ p, p <+: as → P (runAll f s₀ p)) ↔
      ∀ p a, p ++ [a] <+: as → G (runAll f s₀ p) a := by
  have hinv := runAll_invariant hJ₀ hJ
  constructor
  · intro hall p a hp
    have hbefore := hall p ((List.prefix_append p [a]).trans hp)
    have hafter := hall _ hp
    rw [runAll_concat] at hafter
    exact (hP _ a (hinv p) hbefore).mp hafter
  · intro hsteps p
    induction p using List.reverseRecOn with
    | nil => exact fun _ => hP₀
    | append_singleton p a ih =>
        intro hp
        have hbefore := ih ((List.prefix_append p [a]).trans hp)
        rw [runAll_concat]
        exact (hP _ a (hinv p) hbefore).mpr (hsteps p a hp)

/-- **Where a fact about the last state comes from.** Suppose that whenever `P` holds after a step,
either the step created it (`C`), or `P` held before and the two states are related by `R`. If `P`
holds at the end of a run and not at its start, the run has a last creating step, after which `P` holds
all along in states related to the one it created. -/
theorem exists_origin {P : σ → Prop} {R : σ → σ → Prop} {C : σ → α → Prop} (hP₀ : ¬ P s₀)
    (hrefl : ∀ s, R s s) (htrans : ∀ s t u, R s t → R t u → R s u)
    (hstep : ∀ s a, P (f s a) → C s a ∨ (P s ∧ R s (f s a))) (hend : P (runAll f s₀ as)) :
    ∃ before a after, as = before ++ a :: after ∧ C (runAll f s₀ before) a ∧
      ∀ mid, mid <+: after → P (runAll f s₀ (before ++ a :: mid)) ∧
        R (runAll f s₀ (before ++ [a])) (runAll f s₀ (before ++ a :: mid)) := by
  induction as using List.reverseRecOn with
  | nil => exact absurd hend hP₀
  | append_singleton as a ih =>
      rw [runAll_concat] at hend
      rcases hstep _ a hend with hcreated | ⟨hbefore, hsame⟩
      · refine ⟨as, a, [], rfl, hcreated, ?_⟩
        intro mid hmid
        rw [List.prefix_nil.mp hmid, runAll_concat]
        exact ⟨hend, hrefl _⟩
      · obtain ⟨before, b, after, rfl, hcreated, hkept⟩ := ih hbefore
        refine ⟨before, b, after ++ [a], by simp, hcreated, ?_⟩
        intro mid hmid
        rcases List.prefix_concat_iff.mp hmid with rfl | hmid
        · obtain ⟨-, hrel⟩ := hkept after (List.prefix_refl after)
          have hlast : before ++ b :: (after ++ [a]) = (before ++ b :: after) ++ [a] := by simp
          rw [hlast, runAll_concat]
          exact ⟨hend, htrans _ _ _ hrel hsame⟩
        · exact hkept mid hmid

end total

end Transition
