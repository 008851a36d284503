import Lmrs.Lib.FirstMax
import Lmrs.Lib.Python

/-!
# Request queue contracts and scheduling

Source: `lmrs/queue.py`.

A `RequestQueue` is a value: `add` and `cancel` give a new queue. The scheduler selects the largest
waiting entry that fits, the worker re-checks it and hands it to the executor.

* `mem_of_largestFitScheduler`, `largestFitScheduler_largest`: what is selected is a waiting entry
  that fits, and no waiting entry that fits has a larger key.
* `largestFitScheduler_eq_none_iff`: nothing is selected exactly when nothing waiting fits.
* `dispatch_handed_length`, `mem_handed`: a trigger hands over at most one entry, one that is in the
  queue, waits, and fits both capacity readings.
* `dispatch_handed_eq_nil_iff`: with one figure read twice, a trigger hands over nothing exactly
  when nothing waiting fits that figure.
* `dispatch_largest_fit`: what is handed over, with two figures read, in a queue in any order.
* `newest_of_equals`: of entries that are equal but for their admission, the newest is selected.
-/

namespace Lmrs

open Python FirstMax

/-- Source: `queue.py`, `QueueEntry`. -/
structure QueueEntry where
  requestId : String
  sessionId : String
  modelName : String
  requiredTokens : Int
  requiredDynamicVramBytes : Int
  admittedAt : String
  expiresAt : String
  priority : Int := 0
  status : String := "queued"
  deriving DecidableEq, Repr

/-- Source: `queue.py`, `RequestQueue`. -/
structure RequestQueue where
  entries : List QueueEntry := []
  deriving DecidableEq, Repr

namespace RequestQueue

/-- Source: `queue.py`, `RequestQueue.add`. -/
def add (queue : RequestQueue) (entry : QueueEntry) : RequestQueue := ⟨queue.entries ++ [entry]⟩

/-- Source: `queue.py`, `RequestQueue.cancel`. -/
def cancel (queue : RequestQueue) (requestId : String) : RequestQueue :=
  ⟨queue.entries.filter fun e => e.requestId ≠ requestId⟩

/-- Source: `queue.py`, `RequestQueue.snapshot`. -/
def snapshot (queue : RequestQueue) : List (Dict Value) :=
  queue.entries.map fun e =>
    [("request_id", .str e.requestId), ("session_id", .str e.sessionId),
     ("model_name", .str e.modelName), ("required_tokens", .int e.requiredTokens),
     ("required_dynamic_vram_bytes", .int e.requiredDynamicVramBytes),
     ("admitted_at", .str e.admittedAt), ("expires_at", .str e.expiresAt),
     ("priority", .int e.priority), ("status", .str e.status)]

@[simp] theorem add_entries (queue : RequestQueue) (entry : QueueEntry) :
    (queue.add entry).entries = queue.entries ++ [entry] := rfl

/-- What is left after a cancellation. -/
@[simp] theorem mem_cancel {queue : RequestQueue} {requestId : String} {e : QueueEntry} :
    e ∈ (queue.cancel requestId).entries ↔ e ∈ queue.entries ∧ e.requestId ≠ requestId := by
  simp [cancel]

/-- Cancelling in an empty queue leaves it empty. -/
@[simp] theorem cancel_empty (requestId : String) : cancel {} requestId = {} := rfl

end RequestQueue

/-! ## Selection -/

/-- The key the scheduler maximises: `(required_dynamic_vram_bytes, priority, admitted_at)`. -/
def fitKey (e : QueueEntry) : Int ×ₗ Int ×ₗ String :=
  toLex (e.requiredDynamicVramBytes, toLex (e.priority, e.admittedAt))

/-- An entry the scheduler considers: it waits and fits the figure. -/
def QueueEntry.Fits (usableDynamicVramBytes : Int) (e : QueueEntry) : Prop :=
  e.status = "queued" ∧ e.requiredDynamicVramBytes ≤ usableDynamicVramBytes

instance (usable : Int) (e : QueueEntry) : Decidable (e.Fits usable) :=
  inferInstanceAs (Decidable (_ ∧ _))

/-- Source: `queue.py`, `largest_fit_scheduler`. -/
def largestFitScheduler (entries : List QueueEntry) (usableDynamicVramBytes : Int) :
    Option QueueEntry :=
  firstMax fitKey (entries.filter fun e => e.Fits usableDynamicVramBytes)

/-- Source: `queue.py`, `launch_recheck`. -/
def launchRecheck (entry : QueueEntry) (usableDynamicVramBytes : Int) : Bool :=
  entry.requiredDynamicVramBytes ≤ usableDynamicVramBytes

section selection

variable {entries : List QueueEntry} {usable : Int} {e : QueueEntry}

/-- What is selected is an entry of the queue that waits and fits. -/
theorem mem_of_largestFitScheduler (h : largestFitScheduler entries usable = some e) :
    e ∈ entries ∧ e.Fits usable := by
  have hmem := firstMax_mem h
  simpa using hmem

/-- No waiting entry that fits has a larger key than the one selected. -/
theorem largestFitScheduler_largest (h : largestFitScheduler entries usable = some e)
    {x : QueueEntry} (hx : x ∈ entries) (hfit : x.Fits usable) : fitKey x ≤ fitKey e := by
  apply key_le_of_firstMax h
  simpa using ⟨hx, hfit⟩

/-- Nothing is selected exactly when nothing waiting fits. -/
theorem largestFitScheduler_eq_none_iff :
    largestFitScheduler entries usable = none ↔ ∀ x ∈ entries, ¬ x.Fits usable := by
  unfold largestFitScheduler
  rw [firstMax_eq_none_iff, List.filter_eq_nil_iff]
  simp

/-- What decides which of the entries that fit is selected: requirement, priority, admission time. -/
def QueueEntry.figures (e : QueueEntry) : Int × Int × String :=
  (e.requiredDynamicVramBytes, e.priority, e.admittedAt)

/-- Entries with one key have one requirement, priority and admission time. -/
theorem fitKey_eq_iff {x : QueueEntry} : fitKey x = fitKey e ↔ x.figures = e.figures := by
  simp [fitKey, QueueEntry.figures]

/-- A key below another: a smaller requirement, or the same one and no larger priority. -/
theorem of_fitKey_le {x : QueueEntry} (h : fitKey x ≤ fitKey e) :
    x.requiredDynamicVramBytes ≤ e.requiredDynamicVramBytes ∧
      (x.requiredDynamicVramBytes = e.requiredDynamicVramBytes → x.priority ≤ e.priority) := by
  rcases Prod.Lex.le_iff.mp h with hlt | ⟨heq, hle⟩
  · have hlt' : x.requiredDynamicVramBytes < e.requiredDynamicVramBytes := hlt
    omega
  · have heq' : x.requiredDynamicVramBytes = e.requiredDynamicVramBytes := heq
    refine ⟨heq'.le, fun _ => ?_⟩
    rcases Prod.Lex.le_iff.mp hle with hlt | ⟨hprio, -⟩
    · exact le_of_lt hlt
    · exact le_of_eq hprio

/-- The order of the queue has no part in the figures of what is selected. -/
theorem largestFitScheduler_perm {entries' : List QueueEntry} (h : entries.Perm entries')
    (usable : Int) :
    (largestFitScheduler entries usable).map QueueEntry.figures =
      (largestFitScheduler entries' usable).map QueueEntry.figures := by
  have hkeys : (largestFitScheduler entries usable).map fitKey =
      (largestFitScheduler entries' usable).map fitKey := firstMax_perm (h.filter _)
  cases hx : largestFitScheduler entries usable with
  | none =>
      rw [hx] at hkeys
      rw [Option.map_eq_none_iff.mp hkeys.symm]
  | some x =>
      rw [hx] at hkeys
      obtain ⟨x', hx', hkey⟩ := Option.map_eq_some_iff.mp hkeys.symm
      rw [hx']
      exact congrArg some (fitKey_eq_iff.mp hkey).symm

end selection

/-! ## Dispatch -/

/-- The two readings of the capacity provider during one trigger. A reading may raise. -/
structure CapacityReadings where
  /-- The reading the selection is made against. -/
  selection : Except PyException Int
  /-- The reading taken immediately before the launch. -/
  launch : Except PyException Int

/-- A capacity provider that answers the same figure twice. -/
def CapacityReadings.constant (usable : Except PyException Int) : CapacityReadings :=
  ⟨usable, usable⟩

/-- What one trigger does: the entries given to the executor, and what the call returns. -/
structure Dispatch where
  handed : List QueueEntry
  result : Except PyException (Option QueueEntry)

/-- Source: `queue.py`, `QueueDispatchWorker.dispatch`. The executor may raise after it received
the entry. -/
def QueueDispatchWorker.dispatch (executor : QueueEntry → Except PyException Unit)
    (queue : RequestQueue) (capacityProvider : CapacityReadings) : Dispatch :=
  match capacityProvider.selection with
  | .error exc => ⟨[], .error exc⟩
  | .ok usable =>
      match largestFitScheduler queue.entries usable with
      | none => ⟨[], .ok none⟩
      | some selected =>
          match capacityProvider.launch with
          | .error exc => ⟨[], .error exc⟩
          | .ok usableAtLaunch =>
              if launchRecheck selected usableAtLaunch then
                ⟨[selected], (executor selected).map fun _ => some selected⟩
              else ⟨[], .ok none⟩

section dispatch

variable (executor : QueueEntry → Except PyException Unit) (queue : RequestQueue)
  (readings : CapacityReadings)

/-- **What a trigger hands over**: nothing, or the one entry selected against the first reading,
and only when it fits the second reading too. -/
theorem dispatch_cases :
    (QueueDispatchWorker.dispatch executor queue readings).handed = [] ∨
      ∃ selected usable usableAtLaunch,
        (QueueDispatchWorker.dispatch executor queue readings).handed = [selected] ∧
        readings.selection = .ok usable ∧ readings.launch = .ok usableAtLaunch ∧
        largestFitScheduler queue.entries usable = some selected ∧
        selected.requiredDynamicVramBytes ≤ usableAtLaunch := by
  unfold QueueDispatchWorker.dispatch
  cases hsel : readings.selection with
  | error exc => exact Or.inl rfl
  | ok usable =>
      cases hpick : largestFitScheduler queue.entries usable with
      | none =>
          left
          simp only [hpick]
      | some selected =>
          cases hlaunch : readings.launch with
          | error exc =>
              left
              simp only [hpick]
          | ok usableAtLaunch =>
              by_cases hfit : selected.requiredDynamicVramBytes ≤ usableAtLaunch
              · refine Or.inr ⟨selected, usable, usableAtLaunch, ?_, rfl, rfl, hpick, hfit⟩
                simp [hpick, launchRecheck, hfit]
              · left
                simp [hpick, launchRecheck, hfit]

variable {executor queue readings} {e : QueueEntry}

/-- A trigger hands over at most one entry. -/
theorem dispatch_handed_length :
    (QueueDispatchWorker.dispatch executor queue readings).handed.length ≤ 1 := by
  rcases dispatch_cases executor queue readings with
    h | ⟨selected, _, _, h, _⟩
  · rw [h]
    exact Nat.zero_le 1
  · rw [h]
    exact le_rfl

/-- What is handed over is in the queue and waits. -/
theorem mem_handed (h : e ∈ (QueueDispatchWorker.dispatch executor queue readings).handed) :
    e ∈ queue.entries ∧ e.status = "queued" := by
  rcases dispatch_cases executor queue readings with
    hnil | ⟨selected, usable, _, hone, -, -, hpick, -⟩
  · simp [hnil] at h
  · rw [hone, List.mem_singleton] at h
    obtain ⟨hmem, hstatus, -⟩ := mem_of_largestFitScheduler hpick
    exact h ▸ ⟨hmem, hstatus⟩

/-- **With one figure read twice**, a trigger hands over nothing exactly when nothing waiting fits
that figure. -/
theorem dispatch_handed_eq_nil_iff {usable : Int} :
    (QueueDispatchWorker.dispatch executor queue (.constant (.ok usable))).handed = [] ↔
      ∀ x ∈ queue.entries, ¬ x.Fits usable := by
  rw [← largestFitScheduler_eq_none_iff]
  cases hpick : largestFitScheduler queue.entries usable with
  | none => simp [QueueDispatchWorker.dispatch, CapacityReadings.constant, hpick]
  | some selected =>
      obtain ⟨-, -, hfit⟩ := mem_of_largestFitScheduler hpick
      simp [QueueDispatchWorker.dispatch, CapacityReadings.constant, hpick, launchRecheck, hfit]

/-- A capacity provider that raises lets nothing through. -/
theorem dispatch_handed_of_error {exc : PyException} :
    (QueueDispatchWorker.dispatch executor queue (.constant (.error exc))).handed = [] := rfl

/-- With two figures read, what is handed over is what the first selects, when the second has room
for it. -/
theorem dispatch_handed_eq (executor : QueueEntry → Except PyException Unit) (queue : RequestQueue)
    (first second : Int) :
    (QueueDispatchWorker.dispatch executor queue ⟨.ok first, .ok second⟩).handed =
      ((largestFitScheduler queue.entries first).filter fun e => launchRecheck e second).toList := by
  cases hpick : largestFitScheduler queue.entries first with
  | none => simp [QueueDispatchWorker.dispatch, hpick]
  | some selected =>
      cases hfit : launchRecheck selected second with
      | true =>
          rw [Option.filter_some, if_pos hfit]
          simp [QueueDispatchWorker.dispatch, hpick, hfit]
      | false =>
          rw [Option.filter_some, if_neg (by simp [hfit])]
          simp [QueueDispatchWorker.dispatch, hpick, hfit]

end dispatch

/-- **Largest fit, at most once.** For every queue and every two capacity readings, a trigger calls the
executor at most once; it does exactly when a waiting entry fits the first reading and the one selected
fits the second; what it hands over is the one selected, which waits, has the largest requirement of
the waiting entries that fit and among those the highest priority; and the order of the queue changes
neither whether something is handed over nor its requirement, priority and admission time. -/
theorem dispatch_largest_fit (executor : QueueEntry → Except PyException Unit) (queue : RequestQueue)
    (first second : Int) :
    let handed := (QueueDispatchWorker.dispatch executor queue ⟨.ok first, .ok second⟩).handed
    handed.length ≤ 1 ∧
      (handed ≠ [] ↔ (∃ x ∈ queue.entries, x.Fits first) ∧
        ∀ e, largestFitScheduler queue.entries first = some e →
          e.requiredDynamicVramBytes ≤ second) ∧
      (∀ e ∈ handed, largestFitScheduler queue.entries first = some e) ∧
      (∀ e, largestFitScheduler queue.entries first = some e →
        e ∈ queue.entries ∧ e.status = "queued" ∧ e.requiredDynamicVramBytes ≤ first ∧
          ∀ x ∈ queue.entries, x.Fits first →
            x.requiredDynamicVramBytes ≤ e.requiredDynamicVramBytes ∧
              (x.requiredDynamicVramBytes = e.requiredDynamicVramBytes → x.priority ≤ e.priority)) ∧
      ∀ queue' : RequestQueue, queue.entries.Perm queue'.entries →
        handed.map QueueEntry.figures =
          (QueueDispatchWorker.dispatch executor queue' ⟨.ok first, .ok second⟩).handed.map
            QueueEntry.figures := by
  refine ⟨dispatch_handed_length, ?_, ?_, ?_, ?_⟩
  · rw [dispatch_handed_eq]
    cases hpick : largestFitScheduler queue.entries first with
    | none =>
        have hnone := largestFitScheduler_eq_none_iff.mp hpick
        simpa using hnone
    | some selected =>
        have hmem := mem_of_largestFitScheduler hpick
        have hsome : ∃ x ∈ queue.entries, x.Fits first := ⟨selected, hmem⟩
        simp [hsome, launchRecheck]
  · intro e he
    rw [dispatch_handed_eq, Option.mem_toList] at he
    exact (Option.mem_filter_iff.mp he).1
  · intro e hpick
    obtain ⟨hmem, hstatus, hfits⟩ := mem_of_largestFitScheduler hpick
    refine ⟨hmem, hstatus, hfits, ?_⟩
    intro x hx hfit
    exact of_fitKey_le (largestFitScheduler_largest hpick hx hfit)
  · intro queue' hperm
    have hfigures := largestFitScheduler_perm hperm first
    rw [dispatch_handed_eq, dispatch_handed_eq]
    cases hpick : largestFitScheduler queue.entries first with
    | none =>
        rw [hpick] at hfigures
        rw [Option.map_eq_none_iff.mp hfigures.symm]
    | some selected =>
        rw [hpick] at hfigures
        obtain ⟨selected', hpick', hsame⟩ := Option.map_eq_some_iff.mp hfigures.symm
        have hbytes : selected'.requiredDynamicVramBytes = selected.requiredDynamicVramBytes :=
          congrArg Prod.fst hsame
        have hrecheck : launchRecheck selected' second = launchRecheck selected second := by
          rw [launchRecheck, launchRecheck, hbytes]
        rw [hpick', Option.filter_some, Option.filter_some, hrecheck]
        cases launchRecheck selected second with
        | true => exact congrArg (fun figures => [figures]) hsame.symm
        | false => rfl

/-! ## Entries that are equal but for their admission -/

/-- Two entries of one requirement and one priority. -/
def QueueEntry.Alike (x e : QueueEntry) : Prop :=
  x.requiredDynamicVramBytes = e.requiredDynamicVramBytes ∧ x.priority = e.priority

instance (x e : QueueEntry) : Decidable (x.Alike e) := inferInstanceAs (Decidable (_ ∧ _))

/-- Of the keys of alike entries the one admitted later is the larger. -/
theorem fitKey_le_iff_of_alike {x e : QueueEntry} (h : x.Alike e) :
    fitKey x ≤ fitKey e ↔ x.admittedAt ≤ e.admittedAt := by
  obtain ⟨hbytes, hprio⟩ := h
  simp [fitKey, Prod.Lex.le_iff, hbytes, hprio]

/-- No entry is selected while an alike one that was admitted earlier waits and fits. -/
def OldestFirst (entries : List QueueEntry) (usable : Int) : Prop :=
  ∀ older ∈ entries, older.Fits usable → ∀ newer ∈ entries, newer.Fits usable →
    newer.Alike older → older.admittedAt < newer.admittedAt →
      largestFitScheduler entries usable ≠ some newer

/-- **Of alike entries the newest is selected**, for every queue and every figure: an entry is never
selected while an alike one that was admitted later waits and fits. -/
theorem newest_of_equals (entries : List QueueEntry) (usable : Int) {older newer : QueueEntry}
    (hnewer : newer ∈ entries) (hfits : newer.Fits usable) (halike : newer.Alike older)
    (hlater : older.admittedAt < newer.admittedAt) :
    largestFitScheduler entries usable ≠ some older := by
  intro hselected
  have hkey := largestFitScheduler_largest hselected hnewer hfits
  exact absurd ((fitKey_le_iff_of_alike halike).mp hkey) (not_le.mpr hlater)

/-- A request that waits since noon. -/
def noonEntry : QueueEntry where
  requestId := "chat-1"
  sessionId := "adapter"
  modelName := "acme/tiny-model"
  requiredTokens := 100
  requiredDynamicVramBytes := 1000
  admittedAt := "2026-07-30T12:00:00+00:00"
  expiresAt := "2026-07-30T12:05:00+00:00"

/-- The same request a minute later. -/
def laterEntry : QueueEntry :=
  { noonEntry with
    requestId := "chat-2", admittedAt := "2026-07-30T12:01:00+00:00"
    expiresAt := "2026-07-30T12:06:00+00:00" }

theorem newest_of_equals_noon : largestFitScheduler [noonEntry, laterEntry] 1000 ≠ some noonEntry :=
  newest_of_equals [noonEntry, laterEntry] 1000 (List.mem_cons_of_mem _ (List.mem_singleton_self laterEntry))
    (by decide) (by decide) (by decide)

/-- **A newer request overtakes an older one that is equal**, while that waits and fits. -/
theorem newer_overtakes : ¬ ∀ (entries : List QueueEntry) (usable : Int), OldestFirst entries usable := by
  intro h
  refine h [noonEntry, laterEntry] 1000 noonEntry ?_ (by decide) laterEntry ?_ (by decide) (by decide)
    (by decide) (by decide)
  · simp
  · simp

end Lmrs
