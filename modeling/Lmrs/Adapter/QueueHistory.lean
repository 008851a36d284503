import Lmrs.Adapter.Registration
import Lmrs.Lib.Transition

/-!
# The history of the process queue

A `QueueHistory` is the process queue with what the code does not keep: which arrival each entry
came from, the clock, what was handed to the executor and when, what was cancelled, and what the
capacity queries reported. Its projection `queue` is the value the code keeps
(`step_queue_of_command`, `handsOver_entry`, `capacity_report`).

* `handed_at_most_once`: a cancelled request is never handed over; a request is handed over at most
  once in runs whose triggers find no request in the queue that was handed over before.
* `expired_never_used`: no expired request is handed over or counted as a reservation in runs whose
  triggers and capacity queries find no expired request in the queue.
-/

namespace Lmrs

open Python Transition FirstMax

/-- An entry of the queue, the number of its arrival and the instant it expires. -/
structure Ticket where
  entry : QueueEntry
  number : Nat
  expires : Int
  stamped : entry.expiresAt = Datetime.isoformat expires

/-- A request handed to the executor, and when. -/
structure Handover where
  ticket : Ticket
  at_ : Int

/-- A capacity query: the reservation figure it reported, when, and what was waiting. -/
structure Report where
  activeReservationBytes : Int
  at_ : Int
  waiting : List Ticket

/-- The process queue with its history. -/
structure QueueHistory where
  clock : Int := 0
  waiting : List Ticket := []
  arrivals : Nat := 0
  handed : List Handover := []
  cancelled : List Nat := []
  reports : List Report := []

/-- A chat request with a capacity snapshot of its own; its metadata carry the instant it expires
as an ISO timestamp. -/
structure Arrival where
  handler : CanonicalChatHandler
  requestMetadata : Dict Value
  queueMetadata : Dict Value
  request : AdmissionRequest
  expires : Int
  stamped : Value.item queueMetadata "expires_at" = .str (Datetime.isoformat expires)

/-- What happens to the process queue. -/
inductive QueueEvent where
  | tick (microseconds : Nat)
  | arrive (a : Arrival)
  | cancel (requestId : String)
  | trigger (readings : CapacityReadings) (executor : QueueEntry → Except PyException Unit)
  | capacity

/-- A plan that reaches the handler with a snapshot. -/
def ChatPlan.arrival (plan : ChatPlan) (s : AdapterState) (capacity : CapacitySnapshot) : Arrival where
  handler := chatHandler s
  requestMetadata := plan.requestMetadata
  queueMetadata := plan.queueMetadata
  request := plan.request capacity
  expires := plan.expiresAt
  stamped := rfl

/-- An entry built from an arrival carries its expiry. -/
theorem Arrival.entry_expiresAt (a : Arrival) {queue updated : RequestQueue} {entry : QueueEntry}
    {result : CommandResult}
    (h : a.handler.chatStep queue a.requestMetadata a.queueMetadata a.request =
      .ok (.queued updated entry result)) : entry.expiresAt = Datetime.isoformat a.expires := by
  obtain ⟨-, e, v, record, -, hrecord, hentry⟩ := CanonicalChatHandler.chatStep_queued h
  obtain ⟨-, -, -, rfl⟩ := buildQueueEntryRequest_eq_ok.mp hrecord
  obtain ⟨priority, -, rfl⟩ := queueEntryFromRecord_queueRecord.mp hentry
  show (Value.item a.queueMetadata "expires_at").text = _
  rw [a.stamped]
  rfl

namespace QueueHistory

/-- The value of the queue the code keeps. -/
def queue (t : QueueHistory) : RequestQueue := ⟨t.waiting.map Ticket.entry⟩

/-- The selection of the scheduler, with the arrival it came from. -/
def selection (t : QueueHistory) (usable : Int) : Option Ticket :=
  firstMax (fitKey ∘ Ticket.entry) (t.waiting.filter fun k => k.entry.Fits usable)

/-- What a trigger hands over, with the arrival it came from. -/
def handsOver (t : QueueHistory) (readings : CapacityReadings) : Option Ticket :=
  match readings.selection, readings.launch with
  | .ok usable, .ok usableAtLaunch =>
      (t.selection usable).filter fun k => launchRecheck k.entry usableAtLaunch
  | _, _ => none

/-- A request that reaches the handler: it joins the queue when the handler asks it to wait. -/
def arrive (t : QueueHistory) (a : Arrival) : QueueHistory :=
  match h : a.handler.chatStep t.queue a.requestMetadata a.queueMetadata a.request with
  | .ok (.queued _ entry _) =>
      { t with
        waiting := t.waiting ++ [⟨entry, t.arrivals, a.expires, a.entry_expiresAt h⟩]
        arrivals := t.arrivals + 1 }
  | _ => t

/-- One event of the process queue. -/
def step (t : QueueHistory) : QueueEvent → QueueHistory
  | .tick microseconds => { t with clock := t.clock + microseconds }
  | .arrive a => t.arrive a
  | .cancel requestId =>
      { t with
        waiting := t.waiting.filter fun k => k.entry.requestId ≠ requestId
        cancelled := t.cancelled ++
          (t.waiting.filter fun k => k.entry.requestId = requestId).map Ticket.number }
  | .trigger readings _ =>
      { t with handed := t.handed ++ ((t.handsOver readings).map fun k => ⟨k, t.clock⟩).toList }
  | .capacity =>
      { t with
        reports := t.reports ++ [⟨QueueHolder.reservedBytes t.queue, t.clock, t.waiting⟩] }

/-! ## The history projects to the code -/

section projection

variable {t : QueueHistory} {readings : CapacityReadings} {k : Ticket}

/-- The selection projects to the scheduler's. -/
theorem selection_entry (t : QueueHistory) (usable : Int) :
    largestFitScheduler t.queue.entries usable = (t.selection usable).map Ticket.entry := by
  unfold largestFitScheduler selection queue
  rw [List.filter_map, firstMax_map]
  rfl

/-- **What a trigger hands over projects to what the worker hands over.** -/
theorem handsOver_entry (t : QueueHistory) (readings : CapacityReadings)
    (executor : QueueEntry → Except PyException Unit) :
    (CanonicalChatHandler.launchQueued t.queue readings executor).handed =
      ((t.handsOver readings).map Ticket.entry).toList := by
  unfold CanonicalChatHandler.launchQueued QueueDispatchWorker.dispatch handsOver
  cases readings.selection with
  | error exc => rfl
  | ok usable =>
      dsimp only
      rw [selection_entry]
      cases readings.launch with
      | error exc => cases t.selection usable <;> rfl
      | ok usableAtLaunch =>
          dsimp only
          cases t.selection usable with
          | none => rfl
          | some k =>
              by_cases hfit : launchRecheck k.entry usableAtLaunch = true
              · simp [hfit, Option.filter]
              · simp [hfit, Option.filter]

/-- What is handed over was waiting, and fitted the reading of the selection. -/
theorem handsOver_spec (h : t.handsOver readings = some k) :
    k ∈ t.waiting ∧ ∃ usable, readings.selection = .ok usable ∧ k.entry.Fits usable := by
  unfold handsOver at h
  split at h
  · rename_i usable usableAtLaunch hsel hlaunch
    obtain ⟨hpick, -⟩ := Option.filter_eq_some_iff.mp h
    obtain ⟨hmem, hfit⟩ := List.mem_filter.mp (firstMax_mem hpick)
    exact ⟨hmem, usable, hsel, by simpa using hfit⟩
  · cases h

/-- **What an arrival does**: it joins the queue as the entry the handler built, or changes
nothing. -/
theorem arrive_cases (t : QueueHistory) (a : Arrival) :
    (∃ k updated result, k.number = t.arrivals ∧ k.expires = a.expires ∧
        a.handler.chatStep t.queue a.requestMetadata a.queueMetadata a.request =
          .ok (.queued updated k.entry result) ∧
        t.arrive a =
          { t with waiting := t.waiting ++ [k], arrivals := t.arrivals + 1 }) ∨
      (t.arrive a = t ∧ ∀ updated entry result,
        a.handler.chatStep t.queue a.requestMetadata a.queueMetadata a.request ≠
          .ok (.queued updated entry result)) := by
  unfold arrive
  split
  · rename_i updated entry result h
    exact Or.inl ⟨⟨entry, t.arrivals, a.expires, a.entry_expiresAt h⟩, updated, result, rfl, rfl, h,
      rfl⟩
  · rename_i h
    exact Or.inr ⟨rfl, h⟩

/-- An arrival the handler asks to wait projects to the queue the handler hands to its sink. -/
theorem arrive_queue {a : Arrival} {updated : RequestQueue} {entry : QueueEntry}
    {result : CommandResult}
    (h : a.handler.chatStep t.queue a.requestMetadata a.queueMetadata a.request =
      .ok (.queued updated entry result)) : (t.arrive a).queue = updated := by
  rcases arrive_cases t a with ⟨k, updated', result', -, -, hstep, harrive⟩ | ⟨-, hnone⟩
  · rw [h] at hstep
    cases hstep
    rw [harrive, (CanonicalChatHandler.chatStep_queued h).1]
    simp [queue, RequestQueue.add]
  · exact absurd h (hnone _ _ _)

/-- A cancellation projects to the cancellation of the queue. -/
theorem cancel_queue (t : QueueHistory) (requestId : String) :
    (t.step (.cancel requestId)).queue = t.queue.cancel requestId := by
  simp only [step, queue, RequestQueue.cancel, List.filter_map]
  rfl

/-- **Every command of the adapter is an event of its queue**, a restart apart: the queue it leaves
is the one that event leaves. -/
theorem step_queue_of_command {s : AdapterState} (r : Readings) {c : Command} (hc : c ≠ .restart)
    (hqueue : t.queue = s.queue) : ∃ event, (t.step event).queue = (s.step r c).1.queue := by
  rcases AdapterState.step_queue s r c with hsame |
    ⟨params, plan, capacity, entry, result, -, -, -, hstep⟩ |
    ⟨params, requestId, -, hcancel⟩ | ⟨hrestart, -⟩
  · exact ⟨.tick 0, hqueue.trans hsame.symm⟩
  · have harrive : (plan.arrival s capacity).handler.chatStep t.queue
        (plan.arrival s capacity).requestMetadata (plan.arrival s capacity).queueMetadata
        (plan.arrival s capacity).request =
          .ok (.queued (s.step r c).1.queue entry result) := by
      rw [hqueue]
      exact hstep
    exact ⟨.arrive (plan.arrival s capacity), arrive_queue harrive⟩
  · refine ⟨.cancel requestId, ?_⟩
    rw [cancel_queue, hqueue, hcancel]
  · exact absurd hrestart hc

/-- **A capacity query reports what the capacity command reports.** -/
theorem capacity_report {s : AdapterState} {r : Readings} {p : VramPayload}
    (hqueue : t.queue = s.queue) (h : vramPayload s r = .ok p) :
    (t.step .capacity).reports =
      t.reports ++ [⟨p.activeReservationBytes, t.clock, t.waiting⟩] := by
  rw [vramPayload_activeReservation h, ← hqueue]
  rfl

end projection

/-! ## Invariants of a history -/

/-- The requests waiting came from different arrivals, none of them cancelled. -/
structure Consistent (t : QueueHistory) : Prop where
  distinct : (t.waiting.map Ticket.number).Nodup
  arrived : ∀ k ∈ t.waiting, k.number < t.arrivals
  cancelled_arrived : ∀ n ∈ t.cancelled, n < t.arrivals
  not_cancelled : ∀ k ∈ t.waiting, k.number ∉ t.cancelled

/-- An empty queue is consistent. -/
theorem consistent_start (clock : Int) : Consistent { clock } := by
  constructor <;> simp

/-- An arrival keeps a history consistent: its number is new. -/
theorem Consistent.arrive {t : QueueHistory} (ht : t.Consistent) (a : Arrival) :
    (t.arrive a).Consistent := by
  rcases arrive_cases t a with ⟨k, _, _, hnumber, -, -, harrive⟩ | ⟨hsame, -⟩
  · have hnew : t.arrivals ∉ t.waiting.map Ticket.number := by
      intro hmem
      obtain ⟨k', hk', heq⟩ := List.mem_map.mp hmem
      have hlt := ht.arrived k' hk'
      omega
    rw [harrive]
    constructor
    · show ((t.waiting ++ [k]).map Ticket.number).Nodup
      rw [List.map_append, List.map_singleton, hnumber]
      exact ht.distinct.append (List.nodup_singleton _) (by simpa using hnew)
    · intro k' hk'
      show k'.number < t.arrivals + 1
      rcases List.mem_append.mp hk' with hold | hone
      · exact Nat.lt_succ_of_lt (ht.arrived k' hold)
      · rw [List.mem_singleton.mp hone, hnumber]
        exact Nat.lt_succ_self _
    · intro n hn
      exact Nat.lt_succ_of_lt (ht.cancelled_arrived n hn)
    · intro k' hk' hmem
      rcases List.mem_append.mp hk' with hold | hone
      · exact ht.not_cancelled k' hold hmem
      · have hlt := ht.cancelled_arrived _ hmem
        rw [List.mem_singleton.mp hone, hnumber] at hlt
        exact Nat.lt_irrefl _ hlt
  · rwa [hsame]

/-- A cancellation keeps a history consistent: what it drops is not left waiting. -/
theorem Consistent.cancel {t : QueueHistory} (ht : t.Consistent) (requestId : String) :
    (t.step (.cancel requestId)).Consistent := by
  have hkept : ∀ k, k ∈ (t.step (.cancel requestId)).waiting ↔
      k ∈ t.waiting ∧ k.entry.requestId ≠ requestId := by
    simp [step]
  have hgone : ∀ n, n ∈ (t.step (.cancel requestId)).cancelled ↔
      n ∈ t.cancelled ∨ ∃ k ∈ t.waiting, k.entry.requestId = requestId ∧ k.number = n := by
    simp [step, and_assoc]
  constructor
  · exact ht.distinct.sublist (List.filter_sublist.map _)
  · intro k hk
    exact ht.arrived k ((hkept k).mp hk).1
  · intro n hn
    rcases (hgone n).mp hn with hold | ⟨k, hk, -, rfl⟩
    · exact ht.cancelled_arrived n hold
    · exact ht.arrived k hk
  · intro k hk hmem
    obtain ⟨hwaiting, hne⟩ := (hkept k).mp hk
    rcases (hgone k.number).mp hmem with hold | ⟨k', hk', hid, hnumber⟩
    · exact ht.not_cancelled k hwaiting hold
    · have hsame := List.inj_on_of_nodup_map ht.distinct hk' hwaiting hnumber
      exact hne (hsame ▸ hid)

/-- **Every event keeps a history consistent.** -/
theorem Consistent.step {t : QueueHistory} (ht : t.Consistent) (event : QueueEvent) :
    (t.step event).Consistent := by
  cases event with
  | tick microseconds => exact ⟨ht.distinct, ht.arrived, ht.cancelled_arrived, ht.not_cancelled⟩
  | arrive a => exact ht.arrive a
  | cancel requestId => exact ht.cancel requestId
  | trigger readings executor =>
      exact ⟨ht.distinct, ht.arrived, ht.cancelled_arrived, ht.not_cancelled⟩
  | capacity => exact ⟨ht.distinct, ht.arrived, ht.cancelled_arrived, ht.not_cancelled⟩

/-- A run keeps a history consistent. -/
theorem consistent_run {clock : Int} {events : List QueueEvent} {t : QueueHistory}
    (hrun : Run (ofFun step) { clock } events t) : t.Consistent := by
  apply hrun.invariant (I := Consistent) (consistent_start clock)
  rintro t event _ ht rfl
  exact ht.step event

/-! ## At most once -/

/-- The arrivals handed over so far. -/
def handedNumbers (t : QueueHistory) : List Nat := t.handed.map fun h => h.ticket.number

/-- At a trigger, no request handed over before is a candidate: one that fits the reading of the
selection. -/
def NoneHandedBefore (t : QueueHistory) : QueueEvent → Prop
  | .trigger readings _ => ∀ k ∈ t.waiting, k.number ∈ t.handedNumbers →
      ∀ usable, readings.selection = .ok usable → ¬ k.entry.Fits usable
  | _ => True

/-- **A step that meets the condition hands nothing over twice.** -/
theorem handed_nodup_step {t : QueueHistory} {event : QueueEvent} (ht : t.handedNumbers.Nodup)
    (hguard : t.NoneHandedBefore event) : (t.step event).handedNumbers.Nodup := by
  cases event with
  | tick microseconds => exact ht
  | arrive a =>
      show (t.arrive a).handedNumbers.Nodup
      rcases arrive_cases t a with ⟨k, _, _, -, -, -, harrive⟩ | ⟨hsame, -⟩
      · rw [harrive]
        exact ht
      · rwa [hsame]
  | cancel requestId => exact ht
  | capacity => exact ht
  | trigger readings executor =>
      cases hover : t.handsOver readings with
      | none => simpa [handedNumbers, step, hover] using ht
      | some k =>
          obtain ⟨hmem, usable, hread, hfit⟩ := handsOver_spec hover
          have hnew : k.number ∉ t.handedNumbers := fun hold =>
            hguard k hmem hold usable hread hfit
          have hnumbers : (t.step (.trigger readings executor)).handedNumbers =
              t.handedNumbers ++ [k.number] := by
            simp [handedNumbers, step, hover]
          rw [hnumbers]
          exact ht.append (List.nodup_singleton _) (by simpa using hnew)

end QueueHistory

/-- **Handed over at most once.** In every run of the process queue a trigger hands over no request
cancelled before it. In every run whose triggers find no candidate that was handed over before, no
request is handed over twice. -/
theorem handed_at_most_once (clock : Int) :
    (∀ events t, Run (ofFun QueueHistory.step) { clock } events t →
        ∀ readings k, t.handsOver readings = some k → k.number ∉ t.cancelled) ∧
      ∀ events t, Run (Guarded QueueHistory.NoneHandedBefore (ofFun QueueHistory.step)) { clock }
          events t → t.handedNumbers.Nodup := by
  constructor
  · intro events t hrun readings k hover
    exact (QueueHistory.consistent_run hrun).not_cancelled k (QueueHistory.handsOver_spec hover).1
  · intro events t hrun
    apply hrun.invariant (I := fun t => t.handedNumbers.Nodup) List.nodup_nil
    rintro t event _ ht ⟨hguard, rfl⟩
    exact QueueHistory.handed_nodup_step ht hguard

/-- A request of 48 bytes, asked to wait by a snapshot with a pool of a thousand and nothing usable,
for five minutes from the epoch. -/
def smallArrival : Arrival where
  handler := {}
  requestMetadata := [("session_id", .str "adapter")]
  queueMetadata := [("admitted_at", .str (Datetime.isoformat 0)),
    ("expires_at", .str (Datetime.isoformat 300000000))]
  request :=
    { requestId := "a", modelName := "small"
      tokenBreakdown :=
        { inputTokens := 2, toolTokens := 0, serviceTokens := 0, reservedOutputTokens := 10
          tokenizerName := "characters-per-four", tokenizerAccuracy := "rough"
          roughEstimate := true }
      declaredContextWindow := 32
      capacity := { usableDynamicVramBytes := 0, maxDynamicPoolBytes := 1000, modelLoaded := true
                    runtimeReady := true }
      kvBytesPerToken := 4, perRequestOverheadBytes := 0, runtimeBatchOverheadBytes := 0 }
  expires := 300000000
  stamped := rfl

/-- A trigger with a thousand bytes usable and an executor that succeeds. -/
def smallTrigger : QueueEvent := .trigger (.constant (.ok 1000)) fun _ => .ok ()

/-- A request that is handed over and then cancelled, and another with its id that is handed over after it. -/
theorem handed_at_most_once_two :
    ∃ t, Run (Guarded QueueHistory.NoneHandedBefore (ofFun QueueHistory.step)) { clock := 0 }
        [.arrive smallArrival, smallTrigger, .cancel "a", .arrive smallArrival, smallTrigger] t ∧
      t.handedNumbers = [0, 1] ∧ t.handedNumbers.Nodup := by
  have hfresh (t : QueueHistory) (h : ∀ k ∈ t.waiting, k.number ∉ t.handedNumbers) :
      t.NoneHandedBefore smallTrigger := fun k hk hold => absurd hold (h k hk)
  have hrun : Run (Guarded QueueHistory.NoneHandedBefore (ofFun QueueHistory.step)) { clock := 0 }
      [.arrive smallArrival, smallTrigger, .cancel "a", .arrive smallArrival, smallTrigger] _ :=
    ((((Run.nil.snoc ⟨trivial, rfl⟩).snoc ⟨hfresh _ (by decide), rfl⟩).snoc ⟨trivial, rfl⟩).snoc
      ⟨trivial, rfl⟩).snoc ⟨hfresh _ (by decide), rfl⟩
  exact ⟨_, hrun, by decide, (handed_at_most_once 0).2 _ _ hrun⟩

/-- **A request is handed over at every trigger**: nothing takes it out of the queue when it is
launched. -/
theorem handed_twice :
    ¬ ∀ (clock : Int) (events : List QueueEvent) (t : QueueHistory),
        Run (ofFun QueueHistory.step) { clock } events t → t.handedNumbers.Nodup := by
  intro h
  have hrun : Run (ofFun QueueHistory.step) { clock := 0 }
      [.arrive smallArrival, smallTrigger, smallTrigger] _ :=
    ((Run.nil.snoc rfl).snoc rfl).snoc rfl
  exact absurd (h 0 _ _ hrun) (by decide)

/-! ## Expiry -/

/-- The instant a request expires has passed. -/
def Ticket.Expired (k : Ticket) (now : Int) : Prop := k.expires ≤ now

instance (k : Ticket) (now : Int) : Decidable (k.Expired now) :=
  inferInstanceAs (Decidable (_ ≤ _))

/-- What the requests waiting at a capacity query require, those that expired apart. -/
def Report.unexpiredBytes (report : Report) : Int :=
  ((report.waiting.filter fun k => ¬ k.Expired report.at_).map fun k =>
    k.entry.requiredDynamicVramBytes).sum

namespace QueueHistory

/-- No expired request was handed over or counted as a reservation. -/
structure ExpiryKept (t : QueueHistory) : Prop where
  handed : ∀ h ∈ t.handed, ¬ h.ticket.Expired h.at_
  reports : ∀ report ∈ t.reports, report.activeReservationBytes = report.unexpiredBytes

/-- At a trigger no expired request is a candidate, and at a capacity query none requires VRAM. -/
def NoneExpired (t : QueueHistory) : QueueEvent → Prop
  | .trigger readings _ => ∀ k ∈ t.waiting, k.Expired t.clock →
      ∀ usable, readings.selection = .ok usable → ¬ k.entry.Fits usable
  | .capacity => ∀ k ∈ t.waiting, k.Expired t.clock → k.entry.requiredDynamicVramBytes = 0
  | _ => True

/-- A queue without expired requests meets the condition. -/
theorem noneExpired_of_fresh {t : QueueHistory} (h : ∀ k ∈ t.waiting, ¬ k.Expired t.clock)
    (event : QueueEvent) : t.NoneExpired event := by
  cases event with
  | trigger readings executor => exact fun k hk hexp => absurd hexp (h k hk)
  | capacity => exact fun k hk hexp => absurd hexp (h k hk)
  | tick microseconds => trivial
  | arrive a => trivial
  | cancel requestId => trivial

/-- Leaving out entries that require nothing leaves the sum of requirements as it is. -/
theorem sum_unexpired {waiting : List Ticket} {now : Int}
    (h : ∀ k ∈ waiting, k.Expired now → k.entry.requiredDynamicVramBytes = 0) :
    (waiting.map fun k => k.entry.requiredDynamicVramBytes).sum =
      ((waiting.filter fun k => ¬ k.Expired now).map fun k =>
        k.entry.requiredDynamicVramBytes).sum := by
  induction waiting with
  | nil => rfl
  | cons k ks ih =>
      have hrest := ih fun k' hk' => h k' (List.mem_cons_of_mem k hk')
      by_cases hexp : k.Expired now
      · have hzero := h k (List.mem_cons_self ..) hexp
        rw [List.filter_cons_of_neg (by simpa using hexp), ← hrest]
        simp only [List.map_cons, List.sum_cons, hzero, Int.zero_add]
      · rw [List.filter_cons_of_pos (by simpa using hexp)]
        simp only [List.map_cons, List.sum_cons, hrest]

/-- **A step that meets the condition keeps expiry.** -/
theorem ExpiryKept.step {t : QueueHistory} {event : QueueEvent} (ht : t.ExpiryKept)
    (hguard : t.NoneExpired event) : (t.step event).ExpiryKept := by
  cases event with
  | tick microseconds => exact ⟨ht.handed, ht.reports⟩
  | arrive a =>
      show (t.arrive a).ExpiryKept
      rcases arrive_cases t a with ⟨k, _, _, -, -, -, harrive⟩ | ⟨hsame, -⟩
      · rw [harrive]
        exact ⟨ht.handed, ht.reports⟩
      · rwa [hsame]
  | cancel requestId => exact ⟨ht.handed, ht.reports⟩
  | trigger readings executor =>
      refine ⟨?_, ht.reports⟩
      intro h hmem
      rcases List.mem_append.mp hmem with hold | hnew
      · exact ht.handed h hold
      · obtain ⟨k, hover, rfl⟩ : ∃ k, t.handsOver readings = some k ∧ ⟨k, t.clock⟩ = h := by
          simpa using hnew
        obtain ⟨hwaiting, usable, hread, hfit⟩ := handsOver_spec hover
        exact fun hexp => hguard k hwaiting hexp usable hread hfit
  | capacity =>
      refine ⟨ht.handed, ?_⟩
      intro report hmem
      rcases List.mem_append.mp hmem with hold | hnew
      · exact ht.reports report hold
      · rw [List.mem_singleton.mp hnew]
        show QueueHolder.reservedBytes t.queue = _
        unfold QueueHolder.reservedBytes queue
        rw [List.map_map]
        exact sum_unexpired hguard

end QueueHistory

/-- **Expired requests are never used**, in every run whose triggers find no expired candidate and
whose capacity queries find no expired request that requires VRAM. -/
theorem expired_never_used {clock : Int} {events : List QueueEvent} {t : QueueHistory}
    (hrun : Run (Guarded QueueHistory.NoneExpired (ofFun QueueHistory.step)) { clock } events t) :
    t.ExpiryKept := by
  refine hrun.invariant (I := QueueHistory.ExpiryKept) ⟨by simp, by simp⟩ ?_
  rintro t event _ ht ⟨hguard, rfl⟩
  exact ht.step hguard

/-- The small request queried and launched a minute after it arrived. -/
theorem expired_never_used_small :
    ∃ t, Run (Guarded QueueHistory.NoneExpired (ofFun QueueHistory.step)) { clock := 0 }
        [.arrive smallArrival, .tick 60000000, .capacity, smallTrigger] t ∧ t.ExpiryKept := by
  have hrun : Run (Guarded QueueHistory.NoneExpired (ofFun QueueHistory.step)) { clock := 0 }
      [.arrive smallArrival, .tick 60000000, .capacity, smallTrigger] _ :=
    (((Run.nil.snoc ⟨trivial, rfl⟩).snoc ⟨trivial, rfl⟩).snoc
      ⟨QueueHistory.noneExpired_of_fresh (by decide) _, rfl⟩).snoc
      ⟨QueueHistory.noneExpired_of_fresh (by decide) _, rfl⟩
  exact ⟨_, hrun, expired_never_used hrun⟩

/-- **Expired requests are launched and counted**: ten minutes after a request with five minutes to
live arrived, a trigger hands it to the executor and a capacity query counts its bytes. -/
theorem expired_launched_and_counted :
    ¬ ∀ (clock : Int) (events : List QueueEvent) (t : QueueHistory),
        Run (ofFun QueueHistory.step) { clock } events t → t.ExpiryKept := by
  intro h
  have hrun : Run (ofFun QueueHistory.step) { clock := 0 }
      [.arrive smallArrival, .tick 600000000, smallTrigger, .capacity] _ :=
    (((Run.nil.snoc rfl).snoc rfl).snoc rfl).snoc rfl
  have hhanded := (h 0 _ _ hrun).handed
  exact absurd hhanded (by decide)

end Lmrs
