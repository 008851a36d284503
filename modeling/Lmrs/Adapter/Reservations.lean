import Lmrs.Adapter.ChatAdmission
import Lmrs.Lib.Reservation

/-!
# What reservations hold, and what they hold back

`_QueueHolder.reserved_bytes` is the only reservation figure of the service: the sum over the
entries that wait. Chats that execute in the runtime are not in it, and an entry that waits is.

* `executing_fits_pool`: with chats overlapping in any order, those in the runtime stay within the
  pool as long as each one admitted fits beside the ones in flight; past that point some order of
  calls exceeds the pool.
* `launch_queued_iff`: which queues the service's own usable figure launches from, when every entry
  fits the pool.
-/

namespace Lmrs

open Python Transition

/-! ## Chats that overlap -/

/-- A chat with a verdict to execute. What it requires is not negative. -/
structure InFlight where
  chat : AdmittedChat
  bytes_nonneg : 0 ≤ chat.verdict.requiredDynamicVramBytes

/-- The bytes a chat in flight requires. -/
def InFlight.bytes (x : InFlight) : Int := x.chat.verdict.requiredDynamicVramBytes

/-- The adapter and its chats between verdict and result. -/
structure ChatService where
  adapter : AdapterState
  chats : Reservation.Pool InFlight := ⟨[], []⟩

/-- One step of one chat: its capacity snapshot and verdict, the start of its runtime call, the
return of that call. -/
inductive ChatEvent where
  | verdict (params : Dict Value) (r : Readings)
  | call (i : Nat)
  | returned (i : Nat)

namespace ChatService

/-- What a chat admitted by the command requires is not negative. -/
theorem admitted_bytes_nonneg {s state : AdapterState} {r : Readings} {params : Dict Value}
    {chat : AdmittedChat} (h : ChatCommand.admission s r params = (.admitted chat, state)) :
    0 ≤ chat.verdict.requiredDynamicVramBytes := by
  obtain ⟨hadm, -⟩ := ChatCommand.admission_admitted h
  rw [hadm.bytes]
  exact hadm.bytes_nonneg

/-- The first half of a chat: it ends there, or it is in flight. -/
def arrive (c : ChatService) (r : Readings) (params : Dict Value) : ChatService :=
  match h : ChatCommand.admission c.adapter r params with
  | (.finished _, state) => { c with adapter := state }
  | (.admitted chat, state) =>
      { adapter := state
        chats := { c.chats with
          pending := c.chats.pending ++ [⟨chat, admitted_bytes_nonneg h⟩] } }

/-- The steps of overlapping chats. A call that starts or returns changes nothing in the adapter,
whatever the runtime answers: there is no ledger to enter it in. -/
inductive Step : ChatService → ChatEvent → ChatService → Prop
  | verdict (c : ChatService) (params : Dict Value) (r : Readings) :
      Step c (.verdict params r) (c.arrive r params)
  | call (c : ChatService) (i : Nat) (chats : Reservation.Pool InFlight)
      (h : Reservation.Step c.chats (.start i) chats) : Step c (.call i) { c with chats }
  | returned (c : ChatService) (i : Nat) (chats : Reservation.Pool InFlight)
      (h : Reservation.Step c.chats (.finish i) chats) : Step c (.returned i) { c with chats }

/-- What the chats executing in the runtime require. -/
def executingBytes (c : ChatService) : Int := Reservation.total InFlight.bytes c.chats.running

/-- What the chats in flight require: executing, or with a verdict and about to call. -/
def inFlightBytes (c : ChatService) : Int := Reservation.held InFlight.bytes c.chats

/-- The driver reads what it read at `r₀`, under the same settings. -/
def Steady (r₀ : Readings) : ChatEvent → Prop
  | .verdict _ r => r.gpu.ok = true ∧ r.gpu.freeBytes = r₀.gpu.freeBytes ∧ r.environ = r₀.environ
  | _ => True

/-- The maximum dynamic pool while the driver's reading is unchanged. -/
def steadyPool (r₀ : Readings) : Int :=
  max 0 (r₀.gpu.freeBytes - safetyMargin r₀ - runtimeReserve r₀)

/-- A chat that fits what its snapshot says is usable also fits the pool beside the chats in
flight. -/
def FitsInFlight (c : ChatService) : ChatEvent → Prop
  | .verdict params r => ∀ plan capacity, ChatCommand.plan r params = .ok (.inr plan) →
      capacitySnapshot c.adapter r plan.modelName = .ok capacity →
      plan.requiredBytes ≤ capacity.usableDynamicVramBytes →
      c.inFlightBytes + plan.requiredBytes ≤ capacity.maxDynamicPoolBytes
  | _ => True

/-- A runtime call starts, and nothing else happens. -/
def IsCall : ChatEvent → Prop
  | .call _ => True
  | _ => False

section steps

variable {c d : ChatService} {e : ChatEvent} {r r₀ : Readings} {params : Dict Value}

/-- **What an arrival does to the chats in flight**: nothing, or it adds the one admitted. -/
theorem arrive_cases (c : ChatService) (r : Readings) (params : Dict Value) :
    (c.arrive r params).chats = c.chats ∨
      ∃ x : InFlight, x.chat.Admitted c.adapter r params ∧
        (c.arrive r params).chats = { c.chats with pending := c.chats.pending ++ [x] } := by
  unfold arrive
  split
  · exact Or.inl rfl
  · rename_i chat state h
    exact Or.inr ⟨⟨chat, admitted_bytes_nonneg h⟩, (ChatCommand.admission_admitted h).1, rfl⟩

/-- A readable driver gives the free figure. -/
theorem pool_of_steady {s : AdapterState} {modelName : String} {capacity : CapacitySnapshot}
    (hsteady : Steady r₀ (.verdict params r))
    (h : capacitySnapshot s r modelName = .ok capacity) :
    capacity.maxDynamicPoolBytes = steadyPool r₀ := by
  obtain ⟨hok, hfree, henv⟩ := hsteady
  obtain ⟨hpools, -⟩ := capacitySnapshot_pools h
  have hread : freeVram s r = some r₀.gpu.freeBytes := by
    rw [← hfree]
    exact if_pos hok
  have hmargin : safetyMargin r = safetyMargin r₀ := by
    unfold safetyMargin intEnv
    rw [henv]
  have hreserve : runtimeReserve r = runtimeReserve r₀ := by
    unfold runtimeReserve intEnv
    rw [henv]
  rcases payloadPools_eq_ok.mp hpools with ⟨hnone, -, -⟩ | ⟨free, hsome, -, -, hpool, -⟩
  · simp [hread] at hnone
  · rw [hread] at hsome
    cases hsome
    rw [hpool, hmargin, hreserve]
    rfl

/-- **A step of the service is a step of its reservation pool**, within the guard of that pool, or
leaves it as it is. -/
theorem step_simulates (hsteady : Steady r₀ e) (hfits : c.FitsInFlight e) (hstep : Step c e d) :
    (∃ b, Guarded (Reservation.FitsBeside InFlight.bytes (steadyPool r₀)) Reservation.Step
        c.chats b d.chats) ∨ d.chats = c.chats := by
  cases hstep with
  | verdict params r =>
      rcases arrive_cases c r params with hsame | ⟨x, hadm, hchats⟩
      · exact Or.inr hsame
      · left
        rw [hchats]
        refine ⟨.reserve x, ?_, .reserve c.chats x⟩
        have hfit := hfits x.chat.plan x.chat.capacity hadm.planned hadm.snapshot
          hadm.bytes_fit_usable
        rw [pool_of_steady hsteady hadm.snapshot, ← hadm.bytes] at hfit
        exact hfit
  | call i chats h => exact Or.inl ⟨.start i, trivial, h⟩
  | returned i chats h => exact Or.inl ⟨.finish i, trivial, h⟩

/-- Starts of the pool are runtime calls of the service. -/
theorem calls_of_starts {es : List (Reservation.Event InFlight)} {p : Reservation.Pool InFlight}
    (hrun : Run (Guarded (fun _ e => Reservation.IsStart e) Reservation.Step) c.chats es p) :
    ∃ calls, Run (Guarded (fun _ e => IsCall e) Step) c calls { c with chats := p } := by
  induction hrun with
  | nil => exact ⟨[], .nil⟩
  | @snoc es p q e _ hstep ih =>
      obtain ⟨calls, hcalls⟩ := ih
      obtain ⟨hstart, hpool⟩ := hstep
      cases hpool with
      | reserve x => exact absurd hstart id
      | finish i x h => exact absurd hstart id
      | start i x h =>
          have hcall : Guarded (fun _ e => IsCall e) Step { c with chats := p } (.call i)
              { c with chats := ⟨p.pending.eraseIdx i, p.running ++ [x]⟩ } :=
            ⟨trivial, .call _ i _ (.start p i x h)⟩
          exact ⟨_, hcalls.snoc hcall⟩

end steps

end ChatService

/-- **Overlapping chats stay within the pool as long as each one admitted fits beside the ones in
flight.** From a state with no chat in flight, under a steady reading: in every run all of whose
verdicts meet that, the chats executing fit the maximum dynamic pool; and from a state whose chats
in flight do not fit it, starting their calls makes the executing ones exceed it. -/
theorem executing_fits_pool (s : AdapterState) (r₀ : Readings) :
    (∀ events c, Run (Guarded (fun c e => ChatService.Steady r₀ e ∧ c.FitsInFlight e)
          ChatService.Step) ⟨s, ⟨[], []⟩⟩ events c →
        c.executingBytes ≤ ChatService.steadyPool r₀) ∧
      ∀ c : ChatService, ChatService.steadyPool r₀ < c.inFlightBytes →
        ∃ calls d, Run (Guarded (fun _ e => ChatService.IsCall e) ChatService.Step) c calls d ∧
          ChatService.steadyPool r₀ < d.executingBytes := by
  constructor
  · intro events c hrun
    obtain ⟨es, hpool⟩ : ∃ es, Run (Guarded (Reservation.FitsBeside InFlight.bytes
        (ChatService.steadyPool r₀)) Reservation.Step) ⟨[], []⟩ es c.chats :=
      hrun.simulate ChatService.chats fun c e d ⟨⟨hsteady, hfits⟩, hstep⟩ =>
        ChatService.step_simulates hsteady hfits hstep
    apply Reservation.running_le_of_guarded (fun x => x.bytes_nonneg) hpool
    exact le_max_left 0 _
  · intro c hover
    obtain ⟨es, p, hrun, htotal⟩ :=
      Reservation.exists_run_over InFlight.bytes c.chats (not_le.mpr hover)
    obtain ⟨calls, hcalls⟩ := ChatService.calls_of_starts hrun
    exact ⟨calls, _, hcalls, not_le.mp htotal⟩

/-- A chat of twenty reply tokens with the small model: 88 bytes. -/
def twentyTokens : Dict Value := smallChat "hello" 20

/-- Two chats of 88 bytes on a pool of a thousand, both with a verdict before either call starts: each fits beside
the ones in flight. -/
theorem executing_fits_pool_two :
    ∃ c, Run (Guarded (fun c e => ChatService.Steady (smallHost 1000) e ∧ c.FitsInFlight e) ChatService.Step)
        ⟨{}, ⟨[], []⟩⟩ [.verdict twentyTokens (smallHost 1000), .verdict twentyTokens (smallHost 1000), .call 0,
          .call 0] c ∧
      c.executingBytes = 176 ∧ c.executingBytes ≤ ChatService.steadyPool (smallHost 1000) := by
  have hverdict : ChatService.Steady (smallHost 1000) (.verdict twentyTokens (smallHost 1000)) :=
    ⟨rfl, rfl, rfl⟩
  have hfits (c : ChatService) (hbytes : c.inFlightBytes ≤ 88) :
      c.FitsInFlight (.verdict twentyTokens (smallHost 1000)) := by
    intro plan capacity hplan hcapacity _
    rw [ChatService.pool_of_steady hverdict hcapacity]
    cases hplan
    exact (Int.add_le_add_right hbytes 88).trans (by decide)
  have hcall (c : ChatService) : ChatService.Steady (smallHost 1000) (.call 0) ∧ c.FitsInFlight (.call 0) :=
    ⟨trivial, trivial⟩
  have hrun : Run (Guarded (fun c e => ChatService.Steady (smallHost 1000) e ∧ c.FitsInFlight e) ChatService.Step)
      ⟨{}, ⟨[], []⟩⟩ _ _ :=
    (((Run.nil.snoc ⟨⟨hverdict, hfits _ (by decide)⟩, .verdict _ _ _⟩).snoc
      ⟨⟨hverdict, hfits _ (by decide)⟩, .verdict _ _ _⟩).snoc
      ⟨hcall _, .call _ 0 _ (.start _ 0 _ rfl)⟩).snoc ⟨hcall _, .call _ 0 _ (.start _ 0 _ rfl)⟩
  exact ⟨_, hrun, by decide, (executing_fits_pool {} (smallHost 1000)).1 _ _ hrun⟩

/-- **Chats that execute hold nothing back from later verdicts**: on a pool of a hundred bytes two
chats of 88 each get a verdict to execute before either call starts, and both then execute. -/
theorem executing_exceeds_pool :
    ¬ ∀ (s : AdapterState) (r₀ : Readings) (events : List ChatEvent) (c : ChatService),
        Run (Guarded (fun _ e => ChatService.Steady r₀ e) ChatService.Step) ⟨s, ⟨[], []⟩⟩ events c →
        c.executingBytes ≤ ChatService.steadyPool r₀ := by
  intro h
  have hverdict : ChatService.Steady (smallHost 100) (.verdict twentyTokens (smallHost 100)) :=
    ⟨rfl, rfl, rfl⟩
  have hcall : ChatService.Steady (smallHost 100) (.call 0) := trivial
  have hrun : Run (Guarded (fun _ e => ChatService.Steady (smallHost 100) e) ChatService.Step)
      ⟨{}, ⟨[], []⟩⟩ _ _ :=
    (((Run.nil.snoc ⟨hverdict, .verdict _ _ _⟩).snoc ⟨hverdict, .verdict _ _ _⟩).snoc
      ⟨hcall, .call _ 0 _ (.start _ 0 _ rfl)⟩).snoc ⟨hcall, .call _ 0 _ (.start _ 0 _ rfl)⟩
  have hle := h {} (smallHost 100) _ _ hrun
  exact absurd hle (by decide)

/-! ## A queue that waits on itself -/

/-- The `usable_dynamic_vram_bytes` figure of a capacity payload. -/
def usableFigure (s : AdapterState) (r : Readings) : Except PyException Int :=
  (vramPayload s r).map VramPayload.usableDynamicVramBytes

/-- The service's own figure as a capacity provider: a payload for the selection and one for the
launch, in the state the first one left. -/
def serviceCapacity (s : AdapterState) (r : Readings) : CapacityReadings :=
  ⟨usableFigure s r, usableFigure (s.measured r) r⟩

/-- The maximum dynamic pool a payload computes, before any reservation is subtracted. -/
def maximumPool (s : AdapterState) (r : Readings) : Except PyException Int :=
  match freeVram s r with
  | none => .ok 0
  | some _ => calculateMaxDynamicPool (dynamicState s r)

section launch

variable {s : AdapterState} {r : Readings} {pool usable : Int}

/-- The usable figure is the one of the pools. -/
theorem usableFigure_eq (s : AdapterState) (r : Readings) :
    usableFigure s r = (payloadPools s r).map Prod.snd := by
  unfold usableFigure vramPayload
  cases payloadPools s r <;> rfl

/-- The service's capacity provider answers one figure twice. -/
theorem serviceCapacity_eq (s : AdapterState) (r : Readings) :
    serviceCapacity s r = .constant (usableFigure s r) := by
  unfold serviceCapacity CapacityReadings.constant
  rw [usableFigure_eq (s.measured r), payloadPools_measured, ← usableFigure_eq]

/-- When there is a maximum pool and what it is. -/
theorem maximumPool_eq_ok :
    maximumPool s r = .ok pool ↔
      (freeVram s r = none ∧ pool = 0) ∨
        ∃ free, freeVram s r = some free ∧ 0 ≤ free ∧
          pool = max 0 (free - safetyMargin r - runtimeReserve r) := by
  unfold maximumPool
  cases hfree : freeVram s r with
  | none => simp [eq_comm]
  | some free =>
      dsimp only
      rw [calculateMaxDynamicPool_eq_ok, dynamicState_nonNegative hfree, dynamicState_pool hfree]
      simp

/-- **The usable figure beside the maximum pool**: zero without a free figure; otherwise there is one
unless the reservations are negative, and it is what they leave of the pool. -/
theorem usableFigure_eq_ok (hpool : maximumPool s r = .ok pool) :
    usableFigure s r = .ok usable ↔
      (freeVram s r = none ∧ usable = 0) ∨
        (freeVram s r ≠ none ∧ 0 ≤ QueueHolder.reservedBytes s.queue ∧
          usable = max 0 (pool - QueueHolder.reservedBytes s.queue)) := by
  have hsnd : usableFigure s r = .ok usable ↔ ∃ p, payloadPools s r = .ok (p, usable) := by
    rw [usableFigure_eq]
    rcases payloadPools s r with exc | ⟨p, u⟩
    · simp [Except.map]
    · simp [Except.map]
  rw [hsnd]
  rcases maximumPool_eq_ok.mp hpool with ⟨hnone, -⟩ | ⟨free, hfree, hpos, rfl⟩
  · simp [payloadPools_eq_ok, hnone]
  · constructor
    · rintro ⟨p, hp⟩
      rcases payloadPools_eq_ok.mp hp with ⟨hnone, -⟩ | ⟨free', hfree', -, hres, rfl, rfl⟩
      · simp [hfree] at hnone
      · rw [hfree] at hfree'
        cases hfree'
        exact Or.inr ⟨by simp [hfree], hres, rfl⟩
    · rintro (⟨hnone, -⟩ | ⟨-, hres, rfl⟩)
      · simp [hfree] at hnone
      · exact ⟨_, payloadPools_eq_ok.mpr (Or.inr ⟨free, hfree, hpos, hres, rfl, rfl⟩)⟩

/-- A launch hands an entry over exactly when the usable figure exists and a waiting entry fits
it. -/
theorem launchQueued_handed_iff (executor : QueueEntry → Except PyException Unit) :
    (CanonicalChatHandler.launchQueued s.queue (serviceCapacity s r) executor).handed ≠ [] ↔
      ∃ usable, usableFigure s r = .ok usable ∧ ∃ e ∈ s.queue.entries, e.Fits usable := by
  unfold CanonicalChatHandler.launchQueued
  rw [serviceCapacity_eq]
  cases usableFigure s r with
  | error exc => simp [dispatch_handed_of_error]
  | ok usable => simp [dispatch_handed_eq_nil_iff]

end launch

/-- **When a queue whose entries all fit the pool launches one of them**: exactly when the payload
can be computed, which takes a sum of requirements that is not negative, and a waiting entry needs
nothing or fits the pool beside that sum, in which it is counted itself. -/
theorem launch_queued_iff (s : AdapterState) (r : Readings)
    (executor : QueueEntry → Except PyException Unit) {pool : Int}
    (hpool : maximumPool s r = .ok pool)
    (hfit : ∀ e ∈ s.queue.entries, e.requiredDynamicVramBytes ≤ pool) :
    (CanonicalChatHandler.launchQueued s.queue (serviceCapacity s r) executor).handed ≠ [] ↔
      (freeVram s r = none ∨ 0 ≤ QueueHolder.reservedBytes s.queue) ∧
        ∃ e ∈ s.queue.entries, e.status = "queued" ∧
          (e.requiredDynamicVramBytes ≤ 0 ∨
            e.requiredDynamicVramBytes + QueueHolder.reservedBytes s.queue ≤ pool) := by
  rw [launchQueued_handed_iff]
  constructor
  · rintro ⟨usable, husable, e, hmem, hstatus, hle⟩
    rcases (usableFigure_eq_ok hpool).mp husable with ⟨hnone, rfl⟩ | ⟨-, hres, rfl⟩
    · exact ⟨Or.inl hnone, e, hmem, hstatus, Or.inl hle⟩
    · exact ⟨Or.inr hres, e, hmem, hstatus, by omega⟩
  · rintro ⟨hread, e, hmem, hstatus, hle⟩
    by_cases hnone : freeVram s r = none
    · -- no free figure: the pool is zero, so every entry needs nothing
      refine ⟨0, (usableFigure_eq_ok hpool).mpr (Or.inl ⟨hnone, rfl⟩), e, hmem, hstatus, ?_⟩
      rcases maximumPool_eq_ok.mp hpool with ⟨-, rfl⟩ | ⟨free, hfree, -⟩
      · exact hfit e hmem
      · simp [hnone] at hfree
    · have hres := hread.resolve_left hnone
      refine ⟨_, (usableFigure_eq_ok hpool).mpr (Or.inr ⟨hnone, hres, rfl⟩), e, hmem, hstatus, ?_⟩
      omega

/-- A request of `bytes` waiting alone. -/
def waitingAlone (bytes : Int) : RequestQueue :=
  ⟨[{ requestId := "a", sessionId := "adapter", modelName := "small", requiredTokens := 1
      requiredDynamicVramBytes := bytes
      admittedAt := Datetime.isoformat 0, expiresAt := Datetime.isoformat 300000000 }]⟩

/-- Four hundred bytes waiting alone on a pool of a thousand are launched. -/
theorem launch_queued_iff_small :
    (CanonicalChatHandler.launchQueued (waitingAlone 400)
      (serviceCapacity { queue := waitingAlone 400 } (smallHost 1000)) fun _ => .ok ()).handed ≠
        [] := by
  have hpool : maximumPool { queue := waitingAlone 400 } (smallHost 1000) = .ok 1000 := rfl
  refine (launch_queued_iff { queue := waitingAlone 400 } (smallHost 1000) _ hpool ?_).mpr ?_
  · intro e he
    rw [List.mem_singleton.mp he]
    decide
  · exact ⟨Or.inr (by decide), _, List.mem_singleton.mpr rfl, rfl, Or.inr (by decide)⟩

/-- **A request waits on its own reservation**: six hundred bytes waiting alone on a pool of a
thousand leave four hundred usable, and it is not launched. -/
theorem waiting_blocks_itself :
    ¬ ∀ (s : AdapterState) (r : Readings) (executor : QueueEntry → Except PyException Unit)
        (pool : Int),
        maximumPool s r = .ok pool → (∃ e ∈ s.queue.entries, e.status = "queued") →
        (∀ e ∈ s.queue.entries, e.requiredDynamicVramBytes ≤ pool) →
        (CanonicalChatHandler.launchQueued s.queue (serviceCapacity s r) executor).handed ≠ [] := by
  intro h
  refine h { queue := waitingAlone 600 } (smallHost 1000) (fun _ => .ok ()) 1000 rfl ?_ ?_ rfl
  · exact ⟨_, List.mem_singleton.mpr rfl, rfl⟩
  · intro e he
    rw [List.mem_singleton.mp he]
    decide

end Lmrs
