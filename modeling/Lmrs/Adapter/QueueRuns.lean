import Lmrs.Adapter.ChatAdmission
import Lmrs.Lib.Transition

/-!
# The adapter over whole runs

The adapter runs one command after another, each with readings of its own (`AdapterStep`).

* `queue_stays_empty`: from an empty queue no run ever fills it. Only queued entries count as
  reservations, so with an empty queue the usable pool is the whole pool and no verdict is to wait.
* `fails_closed_iff`: in every state a run reaches, a driver that cannot be read closes the pools
  exactly when no reading of an earlier load is stored that exceeds the configured reserves.
-/

namespace Lmrs

open Python Transition

/-! ## The queue over a run -/

section queue

variable {s : AdapterState} {r : Readings}

/-- **One command keeps an empty queue empty.** -/
theorem AdapterState.step_queue_empty (hqueue : s.queue = {}) (c : Command) :
    (s.step r c).1.queue = {} := by
  rcases AdapterState.step_queue s r c with hsame |
    ⟨params, plan, capacity, entry, result, -, -, hcapacity, hstep⟩ |
    ⟨params, requestId, -, hcancel⟩ | ⟨-, hrestart⟩
  · rw [hsame, hqueue]
  · -- with nothing queued the whole pool is usable, and then no verdict is to wait
    have hpool := capacitySnapshot_of_empty_queue hqueue hcapacity
    exact absurd hstep (CanonicalChatHandler.chatStep_ne_queued (le_of_eq hpool.symm))
  · rw [hcancel, hqueue, RequestQueue.cancel_empty]
  · exact hrestart

/-- A run keeps an empty queue empty. -/
theorem run_queue_empty {s₀ s : AdapterState} {labels : List (Command × Readings)}
    (hstart : s₀.queue = {}) (hrun : Run AdapterStep s₀ labels s) : s.queue = {} := by
  apply hrun.invariant (I := fun s => s.queue = {}) hstart
  rintro s ⟨c, r⟩ t hs rfl
  exact AdapterState.step_queue_empty hs c

end queue

/-- **The queue never fills.** From an empty queue, whatever commands are run with whatever readings:
the queue is empty, the two pools of every snapshot coincide, and no chat gets a verdict to wait. -/
theorem queue_stays_empty {s₀ s : AdapterState} {labels : List (Command × Readings)}
    (hstart : s₀.queue = {}) (hrun : Run AdapterStep s₀ labels s) :
    s.queue = {} ∧
      (∀ r modelName c, capacitySnapshot s r modelName = .ok c →
        c.usableDynamicVramBytes = c.maxDynamicPoolBytes) ∧
      (∀ r params plan c e v, ChatCommand.plan r params = .ok (.inr plan) →
        capacitySnapshot s r plan.modelName = .ok c →
        CanonicalChatHandler.estimateAndAdmit (plan.request c) = .ok (e, v) →
        v.decision ≠ .wouldQueue) := by
  have hqueue := run_queue_empty hstart hrun
  refine ⟨hqueue, fun r modelName c hc => capacitySnapshot_of_empty_queue hqueue hc, ?_⟩
  intro r params plan c e v _ hc hboth hdecision
  obtain ⟨-, -, -, -, -, -, -, -, hv⟩ := CanonicalChatHandler.estimateAndAdmit_eq_ok hboth
  have hpool := capacitySnapshot_of_empty_queue hqueue hc
  have hnever : canonicalDecision v.decision ≠ .queue := by
    rw [hv]
    exact decideAdmission_ne_queue (le_of_eq hpool.symm)
  apply hnever
  rw [hdecision]
  rfl

/-- On the small host: a chat, a capacity query and a cancellation. -/
theorem queue_stays_empty_small :
    let labels : List (Command × Readings) :=
      [(.chat (smallChat "hello" 10), smallHost 1000), (.capacity, smallHost 1000),
       (.cancel [("request_id", .str "x")], smallHost 1000)]
    ∃ s, Run AdapterStep {} labels s ∧ s.queue = {} ∧
      (∀ r modelName c, capacitySnapshot s r modelName = .ok c →
        c.usableDynamicVramBytes = c.maxDynamicPoolBytes) ∧
      (∀ r params plan c e v, ChatCommand.plan r params = .ok (.inr plan) →
        capacitySnapshot s r plan.modelName = .ok c →
        CanonicalChatHandler.estimateAndAdmit (plan.request c) = .ok (e, v) →
        v.decision ≠ .wouldQueue) := by
  intro labels
  have hrun : Run AdapterStep {} labels _ := ((Run.nil.snoc rfl).snoc rfl).snoc rfl
  exact ⟨_, hrun, queue_stays_empty rfl hrun⟩

/-! ## A driver that cannot be read -/

section unmeasured

/-- The stored reading of an earlier load, when the store can be read and holds an integer. -/
def storedFree (s : AdapterState) (r : Readings) : Option Int :=
  (VramFactsStore.free (VramFactsStore.read r.store s.facts)).asInt?

/-- The stored reading, if any, does not exceed the configured reserves. -/
def ReservesCoverStored (s : AdapterState) (r : Readings) : Prop :=
  ∀ free, storedFree s r = some free → free ≤ safetyMargin r + runtimeReserve r

/-- Both pools are closed, and no request that needs VRAM reaches the runtime or the queue. -/
def FailsClosed (s : AdapterState) (r : Readings) : Prop :=
  (∀ modelName c, capacitySnapshot s r modelName = .ok c →
    c.usableDynamicVramBytes = 0 ∧ c.maxDynamicPoolBytes = 0) ∧
  ∀ params plan, ChatCommand.plan r params = .ok (.inr plan) → 0 < plan.requiredBytes →
    (ChatCommand.delegate s r params).calls = [] ∧
      (ChatCommand.delegate s r params).state.queue = s.queue

variable {s : AdapterState} {r : Readings}

/-- A driver that cannot be read leaves the stored reading as the free figure. -/
theorem freeVram_of_unreadable (hgpu : r.gpu.ok = false) : freeVram s r = storedFree s r := by
  simp [freeVram, storedFree, hgpu]

/-- Reserves that cover the stored reading close the pools. -/
theorem pools_closed_of_reserves (hgpu : r.gpu.ok = false) (hcover : ReservesCoverStored s r)
    {pool usable : Int} (h : payloadPools s r = .ok (pool, usable)) : usable = 0 ∧ pool = 0 := by
  rcases payloadPools_eq_ok.mp h with ⟨-, hpool, huse⟩ | ⟨free, hfree, -, hres, hpool, huse⟩
  · exact ⟨huse, hpool⟩
  · rw [freeVram_of_unreadable hgpu] at hfree
    have hle := hcover free hfree
    omega

/-- A stored reading above the reserves leaves a pool open. -/
theorem pools_open_of_stored (hgpu : r.gpu.ok = false) (hqueue : s.queue = {}) {free : Int}
    (hfree : storedFree s r = some free) (hover : safetyMargin r + runtimeReserve r < free) :
    ∃ pool, 0 < pool ∧ payloadPools s r = .ok (pool, pool) := by
  have hmargin : 0 ≤ safetyMargin r := intEnv_nonneg r _ le_rfl
  have hreserve : 0 ≤ runtimeReserve r := intEnv_nonneg r _ le_rfl
  have hzero : QueueHolder.reservedBytes s.queue = 0 := by rw [hqueue]; rfl
  have hopen : 0 < free - safetyMargin r - runtimeReserve r := by omega
  refine ⟨free - safetyMargin r - runtimeReserve r, hopen, payloadPools_eq_ok.mpr (Or.inr ?_)⟩
  rw [hzero, freeVram_of_unreadable hgpu]
  exact ⟨free, hfree, by omega, le_rfl, by omega, by omega⟩

/-- **A driver that cannot be read closes the pools exactly when no reading of an earlier load is
stored above the reserves**, in every state a run from an empty queue reaches. -/
theorem fails_closed_iff {s₀ s : AdapterState} {labels : List (Command × Readings)}
    (hstart : s₀.queue = {}) (hrun : Run AdapterStep s₀ labels s) (r : Readings)
    (hgpu : r.gpu.ok = false) : FailsClosed s r ↔ ReservesCoverStored s r := by
  have hqueue := run_queue_empty hstart hrun
  constructor
  · rintro ⟨hclosed, -⟩ free hfree
    by_contra hover
    obtain ⟨pool, hpos, hpools⟩ := pools_open_of_stored hgpu hqueue hfree (by omega)
    obtain ⟨c, hc, hmax, -⟩ : ∃ c, capacitySnapshot s r "" = .ok c ∧ _ :=
      capacitySnapshot_isOk hpools
    have hzero := (hclosed "" c hc).2
    omega
  · intro hcover
    refine ⟨?_, ?_⟩
    · intro modelName c hc
      exact pools_closed_of_reserves hgpu hcover (capacitySnapshot_pools hc).1
    · intro params plan hplan hneeds
      constructor
      · by_contra hcalls
        obtain ⟨plan', c, hplan', hc, -, -, -, -, huse⟩ :=
          (ChatCommand.calls_ne_nil_iff s r params).mp hcalls
        have hsame := hplan.symm.trans hplan'
        cases hsame
        have hzero := pools_closed_of_reserves hgpu hcover (capacitySnapshot_pools hc).1
        omega
      · rw [hqueue]
        exact AdapterState.step_queue_empty hqueue (.chat params)

end unmeasured

/-- The small host with a runtime that serves the small model. -/
def servingHost (free : Int) : Readings :=
  { smallHost free with
    servedProbe := .body (.dict [("data", .list [.dict [("id", .str "small")]])]) }

/-- The small host with a driver that cannot be read. -/
def darkHost : Readings := { smallHost 0 with gpu := { ok := false } }

/-- Loading the small model. -/
def loadSmall : Command := .modelLoad [("model_name", .str "small")]

/-- After a load on the serving host: the pools of the dark host are closed exactly when the reading
of that load is covered. -/
theorem fails_closed_iff_small :
    ∃ s, Run AdapterStep {} [(loadSmall, servingHost 1000)] s ∧
      (FailsClosed s darkHost ↔ ReservesCoverStored s darkHost) := by
  have hrun : Run AdapterStep {} [(loadSmall, servingHost 1000)] _ := Run.single rfl
  exact ⟨_, hrun, fails_closed_iff rfl hrun darkHost rfl⟩

/-- **A stored reading keeps the pools open**: the small model is loaded with a thousand bytes free,
the driver stops answering, and a chat that needs VRAM still reaches the runtime. -/
theorem stored_reading_keeps_pool_open :
    ¬ ∀ (s₀ s : AdapterState) (labels : List (Command × Readings)) (r : Readings),
        s₀.queue = {} → Run AdapterStep s₀ labels s → r.gpu.ok = false → FailsClosed s r := by
  intro h
  have hclosed := h {} _ [(loadSmall, servingHost 1000)] darkHost rfl (Run.single rfl) rfl
  have hrefused := hclosed.2 (smallChat "hello" 10) _ rfl (by decide)
  exact List.cons_ne_nil _ _ hrefused.1

end Lmrs
