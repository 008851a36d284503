import Mathlib

/-!
# Effects and their histories

An `Effect σ ι ε α` acts on a state `σ`: it answers or raises, and logs events `ι` on the way. An exception
undoes nothing: the run keeps the state and the events up to the point where it was raised, and `handle` goes
on from there.

* `Allowed ok before events`: each event is allowed by `ok` after the ones before it. `allowed_iff` says the
  same of every way to split the log.
* `Triple ok P m Q R`: from a history and a state that meet `P`, the events of `m` are allowed; when it
  answers, the history and the state meet `Q` of the answer; when it raises, they meet `R` of the exception.
  One rule for every way to build an effect.
-/

namespace Effects

/-- What running an effect leaves. -/
structure Run (σ ι ε α : Type) where
  result : Except ε α
  state : σ
  events : List ι

/-- An action on a state that answers or raises and logs events. -/
def Effect (σ ι ε α : Type) : Type := σ → Run σ ι ε α

/-- How a run ends, whatever it logged. -/
def Run.ends {σ ι ε α : Type} (run : Run σ ι ε α) : Except ε α × σ := (run.result, run.state)

namespace Effect

variable {σ ι ε α β : Type}

/-- Answer at once. -/
def answer (a : α) : Effect σ ι ε α := fun s => ⟨.ok a, s, []⟩

/-- One effect, and another that depends on its answer. -/
def andThen (m : Effect σ ι ε α) (f : α → Effect σ ι ε β) : Effect σ ι ε β := fun s =>
  match (m s).result with
  | .error error => ⟨.error error, (m s).state, (m s).events⟩
  | .ok a =>
      let next := f a (m s).state
      { next with events := (m s).events ++ next.events }

instance : Monad (Effect σ ι ε) where
  pure := answer
  bind := andThen

/-- Read from the state. -/
def read (f : σ → α) : Effect σ ι ε α := fun s => ⟨.ok (f s), s, []⟩

/-- Change the state. -/
def change (f : σ → σ) : Effect σ ι ε Unit := fun s => ⟨.ok (), f s, []⟩

/-- Log an event of the state it happens in. -/
def log (event : σ → ι) : Effect σ ι ε Unit := fun s => ⟨.ok (), s, [event s]⟩

/-- A call that acts on the state, logged with its answer. -/
def call (f : σ → Except ε α × σ) (event : Except ε α → ι) : Effect σ ι ε α := fun s =>
  ⟨(f s).1, (f s).2, [event (f s).1]⟩

/-- A call that leaves the state as it is, logged with its answer. -/
def ask (x : Except ε α) (event : Except ε α → ι) : Effect σ ι ε α := call (fun s => (x, s)) event

/-- Log how an effect ended. -/
def observe (event : Except ε α → ι) (m : Effect σ ι ε α) : Effect σ ι ε α := fun s =>
  { m s with events := (m s).events ++ [event (m s).result] }

/-- Go on from where an effect raised. -/
def handle (m : Effect σ ι ε α) (h : ε → Effect σ ι ε α) : Effect σ ι ε α := fun s =>
  match (m s).result with
  | .ok _ => m s
  | .error error =>
      let next := h error (m s).state
      { next with events := (m s).events ++ next.events }

/-! ## Laws -/

/-- Effects compose as computations do. -/
instance : LawfulMonad (Effect σ ι ε) := by
  refine LawfulMonad.mk' _ (fun m => ?_) (fun a f => ?_) fun m f g => ?_
  · funext s
    show andThen m answer s = m s
    unfold andThen answer
    rcases m s with ⟨_ | a, t, events⟩
    · rfl
    · simp
  · rfl
  · funext s
    show andThen (andThen m f) g s = andThen m (fun a => andThen (f a) g) s
    unfold andThen
    rcases m s with ⟨_ | a, t, events⟩
    · rfl
    · dsimp only
      rcases f a t with ⟨_ | b, u, later⟩
      · rfl
      · simp

/-! ## How runs end -/

section ends

variable (s : σ)

@[simp] theorem ends_pure (a : α) : ((pure a : Effect σ ι ε α) s).ends = (.ok a, s) := rfl

@[simp] theorem ends_read (f : σ → α) : ((read f : Effect σ ι ε α) s).ends = (.ok (f s), s) := rfl

@[simp] theorem ends_ask (x : Except ε α) (event : Except ε α → ι) :
    ((ask x event : Effect σ ι ε α) s).ends = (x, s) := rfl

@[simp] theorem ends_call (f : σ → Except ε α × σ) (event : Except ε α → ι) :
    (call f event s).ends = f s := rfl

@[simp] theorem ends_observe (event : Except ε α → ι) (m : Effect σ ι ε α) :
    (observe event m s).ends = (m s).ends := rfl

variable {s}

/-- After its first part has answered, a composition ends as the second part does. -/
theorem ends_bind_ok {m : Effect σ ι ε α} {f : α → Effect σ ι ε β} {a : α} {t : σ}
    (h : (m s).ends = (.ok a, t)) : ((m >>= f) s).ends = (f a t).ends := by
  have hresult : (m s).result = .ok a := congrArg Prod.fst h
  have hstate : (m s).state = t := congrArg Prod.snd h
  show (andThen m f s).ends = _
  unfold andThen
  rw [hresult, hstate]
  rfl

/-- A composition whose first part raises ends there. -/
theorem ends_bind_error {m : Effect σ ι ε α} {f : α → Effect σ ι ε β} {error : ε} {t : σ}
    (h : (m s).ends = (.error error, t)) : ((m >>= f) s).ends = (.error error, t) := by
  have hresult : (m s).result = .error error := congrArg Prod.fst h
  have hstate : (m s).state = t := congrArg Prod.snd h
  show (andThen m f s).ends = _
  unfold andThen
  rw [hresult, hstate]
  rfl

/-- **Simulation.** An effect whose first part only computes `x` ends as the computation `x >>= g` does, read
through `k`, when its second part does. -/
theorem ends_bind_of_pure {γ : Type} {m : Effect σ ι ε α} {f : α → Effect σ ι ε β} {x : Except ε α}
    {g : α → Except ε γ} {k : Except ε γ → Except ε β × σ} (hm : (m s).ends = (x, s))
    (hraises : ∀ error, k (.error error) = (.error error, s))
    (hgives : ∀ a, x = .ok a → (f a s).ends = k (g a)) : ((m >>= f) s).ends = k (x >>= g) := by
  cases x with
  | error error => exact (ends_bind_error hm).trans (hraises error).symm
  | ok a => exact (ends_bind_ok hm).trans (hgives a rfl)

/-- What answers is not handled. -/
theorem ends_handle_ok {m : Effect σ ι ε α} {h : ε → Effect σ ι ε α} {a : α} {t : σ}
    (hm : (m s).ends = (.ok a, t)) : (handle m h s).ends = (.ok a, t) := by
  have hresult : (m s).result = .ok a := congrArg Prod.fst hm
  unfold handle
  rw [hresult]
  exact hm

/-- What raises ends as its handler does. -/
theorem ends_handle_error {m : Effect σ ι ε α} {h : ε → Effect σ ι ε α} {error : ε} {t : σ}
    (hm : (m s).ends = (.error error, t)) : (handle m h s).ends = (h error t).ends := by
  have hresult : (m s).result = .error error := congrArg Prod.fst hm
  have hstate : (m s).state = t := congrArg Prod.snd hm
  unfold handle
  rw [hresult, hstate]
  rfl

/-- A handled composition whose first part answers goes on with the second part, handled. -/
theorem ends_handle_bind_ok {m : Effect σ ι ε α} {f : α → Effect σ ι ε β} {h : ε → Effect σ ι ε β} {a : α}
    {t : σ} (hm : (m s).ends = (.ok a, t)) : (handle (m >>= f) h s).ends = (handle (f a) h t).ends := by
  have hbind := ends_bind_ok (f := f) hm
  cases hend : (f a t).ends with
  | mk result u =>
      rw [hend] at hbind
      cases result with
      | ok b => rw [ends_handle_ok hbind, ends_handle_ok hend]
      | error error => rw [ends_handle_error hbind, ends_handle_error hend]

/-- A handled composition whose first part raises ends as its handler does. -/
theorem ends_handle_bind_error {m : Effect σ ι ε α} {f : α → Effect σ ι ε β} {h : ε → Effect σ ι ε β}
    {error : ε} {t : σ} (hm : (m s).ends = (.error error, t)) :
    (handle (m >>= f) h s).ends = (h error t).ends :=
  ends_handle_error (ends_bind_error hm)

end ends

/-! ## Runs in full -/

/-- A composition whose first part answers: the run of the second part, with the events of the first before
its own. -/
theorem bind_ok {m : Effect σ ι ε α} {f : α → Effect σ ι ε β} {s t : σ} {a : α} {events : List ι}
    (h : m s = ⟨.ok a, t, events⟩) :
    (m >>= f) s = { f a t with events := events ++ (f a t).events } := by
  show andThen m f s = _
  unfold andThen
  rw [h]

/-- A composition whose first part raises runs no further. -/
theorem bind_error {m : Effect σ ι ε α} {f : α → Effect σ ι ε β} {s t : σ} {error : ε} {events : List ι}
    (h : m s = ⟨.error error, t, events⟩) : (m >>= f) s = ⟨.error error, t, events⟩ := by
  show andThen m f s = _
  unfold andThen
  rw [h]

/-- An observed run. -/
theorem observe_of_result {m : Effect σ ι ε α} {event : Except ε α → ι} {s : σ} {result : Except ε α}
    (h : (m s).result = result) :
    observe event m s = ⟨result, (m s).state, (m s).events ++ [event result]⟩ := by
  rw [← h]
  rfl

end Effect

/-! ## Allowed logs -/

section allowed

variable {ι : Type} {ok ok' : List ι → ι → Prop}

/-- Every event is allowed after what was logged before it. -/
def Allowed (ok : List ι → ι → Prop) (before : List ι) : List ι → Prop
  | [] => True
  | event :: events => ok before event ∧ Allowed ok (before ++ [event]) events

/-- A log is allowed when its parts are, one after the other. -/
theorem allowed_append {before first second : List ι} :
    Allowed ok before (first ++ second) ↔
      Allowed ok before first ∧ Allowed ok (before ++ first) second := by
  induction first generalizing before with
  | nil => simp [Allowed]
  | cons event events ih =>
      rw [List.cons_append, Allowed, Allowed, ih, and_assoc, List.append_assoc]
      rfl

/-- The events of a log, each with what comes before it. -/
theorem allowed_iff {before events : List ι} :
    Allowed ok before events ↔
      ∀ pre event post, events = pre ++ event :: post → ok (before ++ pre) event := by
  induction events generalizing before with
  | nil => simp [Allowed]
  | cons first rest ih =>
      rw [Allowed, ih]
      constructor
      · rintro ⟨hfirst, hrest⟩ pre event post heq
        cases pre with
        | nil =>
            obtain ⟨rfl, -⟩ := List.cons.inj heq
            simpa using hfirst
        | cons e pre =>
            obtain ⟨rfl, htail⟩ := List.cons.inj heq
            simpa using hrest pre event post htail
      · intro hall
        refine ⟨by simpa using hall [] first rest rfl, fun pre event post heq => ?_⟩
        have hnext := hall (first :: pre) event post (by rw [heq, List.cons_append])
        simpa using hnext

end allowed

/-! ## Triples -/

variable {σ ι ε α β : Type} {ok : List ι → ι → Prop} {P P' : List ι → σ → Prop}
  {Q Q' : α → List ι → σ → Prop} {R R' : ε → List ι → σ → Prop}

/-- What a run leaves after a history: allowed events, and `Q` or `R` at its end. -/
structure Leaves (ok : List ι → ι → Prop) (before : List ι) (run : Run σ ι ε α)
    (Q : α → List ι → σ → Prop) (R : ε → List ι → σ → Prop) : Prop where
  allowed : Allowed ok before run.events
  gives : ∀ a, run.result = .ok a → Q a (before ++ run.events) run.state
  raises : ∀ error, run.result = .error error → R error (before ++ run.events) run.state

/-- From a history and a state that meet `P`, what `m` logs is allowed, and it leaves `Q` or `R`. -/
def Triple (ok : List ι → ι → Prop) (P : List ι → σ → Prop) (m : Effect σ ι ε α)
    (Q : α → List ι → σ → Prop) (R : ε → List ι → σ → Prop) : Prop :=
  ∀ before s, P before s → Leaves ok before (m s) Q R

namespace Triple

open Effect

theorem pure {a : α} (h : ∀ before s, P before s → Q a before s) :
    Triple ok P (Pure.pure a : Effect σ ι ε α) Q R := by
  intro before s hP
  refine ⟨trivial, ?_, fun error heq => nomatch heq⟩
  intro b heq
  cases heq
  simpa [Pure.pure, answer] using h before s hP

/-- What the first part leaves is where the second one starts. -/
theorem bind {m : Effect σ ι ε α} {f : α → Effect σ ι ε β} {M : α → List ι → σ → Prop}
    {Q : β → List ι → σ → Prop} (hm : Triple ok P m M R) (hf : ∀ a, Triple ok (M a) (f a) Q R) :
    Triple ok P (m >>= f) Q R := by
  intro before s hP
  obtain ⟨hallowed, hgives, hraises⟩ := hm before s hP
  show Leaves ok before (andThen m f s) Q R
  unfold andThen
  cases hresult : (m s).result with
  | error error =>
      refine ⟨hallowed, fun b heq => (nomatch heq), ?_⟩
      intro e heq
      cases heq
      exact hraises error hresult
  | ok a =>
      obtain ⟨hallowed', hgives', hraises'⟩ := hf a _ _ (hgives a hresult)
      refine ⟨allowed_append.mpr ⟨hallowed, hallowed'⟩, ?_, ?_⟩
      · intro b heq
        rw [← List.append_assoc]
        exact hgives' b heq
      · intro e heq
        rw [← List.append_assoc]
        exact hraises' e heq

/-- The handler starts where the exception was raised. -/
theorem handle {m : Effect σ ι ε α} {h : ε → Effect σ ι ε α} {M : ε → List ι → σ → Prop}
    (hm : Triple ok P m Q M) (hh : ∀ error, Triple ok (M error) (h error) Q R) :
    Triple ok P (Effect.handle m h) Q R := by
  intro before s hP
  obtain ⟨hallowed, hgives, hraises⟩ := hm before s hP
  unfold Effect.handle
  cases hresult : (m s).result with
  | ok a =>
      refine ⟨hallowed, hgives, ?_⟩
      intro error heq
      rw [hresult] at heq
      cases heq
  | error error =>
      obtain ⟨hallowed', hgives', hraises'⟩ := hh error _ _ (hraises error hresult)
      refine ⟨allowed_append.mpr ⟨hallowed, hallowed'⟩, ?_, ?_⟩
      · intro b heq
        rw [← List.append_assoc]
        exact hgives' b heq
      · intro e heq
        rw [← List.append_assoc]
        exact hraises' e heq

theorem read {f : σ → α} (h : ∀ before s, P before s → Q (f s) before s) :
    Triple ok P (Effect.read f : Effect σ ι ε α) Q R := by
  intro before s hP
  refine ⟨trivial, ?_, fun error heq => nomatch heq⟩
  intro b heq
  cases heq
  simpa [Effect.read] using h before s hP

theorem change {f : σ → σ} {Q : Unit → List ι → σ → Prop}
    (h : ∀ before s, P before s → Q () before (f s)) :
    Triple ok P (Effect.change f : Effect σ ι ε Unit) Q R := by
  intro before s hP
  refine ⟨trivial, ?_, fun error heq => nomatch heq⟩
  intro b heq
  simpa [Effect.change] using h before s hP

theorem log {event : σ → ι} {Q : Unit → List ι → σ → Prop}
    (h : ∀ before s, P before s → ok before (event s) ∧ Q () (before ++ [event s]) s) :
    Triple ok P (Effect.log event : Effect σ ι ε Unit) Q R := by
  intro before s hP
  obtain ⟨hok, hQ⟩ := h before s hP
  exact ⟨⟨hok, trivial⟩, fun _ _ => hQ, fun error heq => nomatch heq⟩

/-- A call: its event is allowed, and is the last of the history its answer or exception leaves. -/
theorem call {f : σ → Except ε α × σ} {event : Except ε α → ι}
    (hok : ∀ before s, P before s → ok before (event (f s).1))
    (hgives : ∀ before s a, P before s → (f s).1 = .ok a → Q a (before ++ [event (.ok a)]) (f s).2)
    (hraises : ∀ before s error, P before s → (f s).1 = .error error →
      R error (before ++ [event (.error error)]) (f s).2) :
    Triple ok P (Effect.call f event) Q R := by
  intro before s hP
  refine ⟨⟨hok before s hP, trivial⟩, ?_, ?_⟩
  · intro a heq
    have hleft := hgives before s a hP heq
    rw [← heq] at hleft
    exact hleft
  · intro error heq
    have hleft := hraises before s error hP heq
    rw [← heq] at hleft
    exact hleft

/-- A call that leaves the state as it is. -/
theorem ask {x : Except ε α} {event : Except ε α → ι}
    (hok : ∀ before s, P before s → ok before (event x))
    (hgives : ∀ before s a, P before s → x = .ok a → Q a (before ++ [event (.ok a)]) s)
    (hraises : ∀ before s error, P before s → x = .error error →
      R error (before ++ [event (.error error)]) s) :
    Triple ok P (Effect.ask x event) Q R :=
  call hok hgives hraises

/-- An observed effect: the event of its end is the last of the history. -/
theorem observe {m : Effect σ ι ε α} {event : Except ε α → ι} {M : α → List ι → σ → Prop}
    {N : ε → List ι → σ → Prop} (hm : Triple ok P m M N)
    (hgives : ∀ a before s, M a before s → ok before (event (.ok a)) ∧ Q a (before ++ [event (.ok a)]) s)
    (hraises : ∀ error before s, N error before s →
      ok before (event (.error error)) ∧ R error (before ++ [event (.error error)]) s) :
    Triple ok P (Effect.observe event m) Q R := by
  intro before s hP
  obtain ⟨hallowed, hm_gives, hm_raises⟩ := hm before s hP
  have hends : ok (before ++ (m s).events) (event (m s).result) ∧
      (∀ a, (m s).result = .ok a → Q a (before ++ (m s).events ++ [event (m s).result]) (m s).state) ∧
      ∀ error, (m s).result = .error error →
        R error (before ++ (m s).events ++ [event (m s).result]) (m s).state := by
    cases hresult : (m s).result with
    | ok a =>
        obtain ⟨hok, hQ⟩ := hgives a _ _ (hm_gives a hresult)
        refine ⟨hok, ?_, fun error heq => nomatch heq⟩
        intro b heq
        cases heq
        exact hQ
    | error error =>
        obtain ⟨hok, hR⟩ := hraises error _ _ (hm_raises error hresult)
        refine ⟨hok, fun b heq => (nomatch heq), ?_⟩
        intro e heq
        cases heq
        exact hR
  obtain ⟨hok, hQ, hR⟩ := hends
  refine ⟨allowed_append.mpr ⟨hallowed, hok, trivial⟩, ?_, ?_⟩
  · intro a heq
    simpa [Effect.observe] using hQ a heq
  · intro error heq
    simpa [Effect.observe] using hR error heq

/-- The rule of consequence. -/
theorem mono {m : Effect σ ι ε α} (hm : Triple ok P' m Q' R') (hP : ∀ before s, P before s → P' before s)
    (hQ : ∀ a before s, Q' a before s → Q a before s)
    (hR : ∀ error before s, R' error before s → R error before s) : Triple ok P m Q R := by
  intro before s h
  obtain ⟨hallowed, hgives, hraises⟩ := hm before s (hP before s h)
  exact ⟨hallowed, fun a heq => hQ a _ _ (hgives a heq), fun error heq => hR error _ _ (hraises error heq)⟩

/-- The history and the state it starts from may be named. -/
theorem start {m : Effect σ ι ε α}
    (h : ∀ before s, P before s → Triple ok (fun history t => history = before ∧ t = s) m Q R) :
    Triple ok P m Q R :=
  fun before s hP => h before s hP before s ⟨rfl, rfl⟩

/-- A fact about neither history nor state is a hypothesis. -/
theorem assume {φ : Prop} {m : Effect σ ι ε α} (h : φ → Triple ok P m Q R) :
    Triple ok (fun before s => φ ∧ P before s) m Q R :=
  fun before s hP => h hP.1 before s hP.2

theorem ite {c : Prop} [Decidable c] {x y : Effect σ ι ε α} (hx : c → Triple ok P x Q R)
    (hy : ¬ c → Triple ok P y Q R) : Triple ok P (if c then x else y) Q R := by
  split
  · exact hx ‹_›
  · exact hy ‹_›

end Triple

end Effects
