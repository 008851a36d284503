import Lmrs.Adapter.Capacity
import Lmrs.Commands
import Lmrs.Lib.Transition

/-!
# Request ids in the process queue

Source: `lmrs/commands.py`, `CanonicalChatHandler.chat`; `lmrs/queue.py`, `RequestQueue.cancel`;
`lmrs/adapter/registration.py`, `_QueueHolder`.

An id is what a caller gives a request. Cancelling drops every entry that carries the id, and the
reservation figure is the sum over what is left; neither the handler nor the queue compares the id of a
request that is to wait with those in the queue.

* `ClientChat.queueAfter_of_waits`, `ClientChat.queueAfter_of_not_waits`: which chats join the queue, and
  as what.
* `ownIds_iff_nodup`: a cancellation releases one request exactly while the ids are distinct.
* `ids_distinct_iff`: the runs in which they are.
-/

namespace Lmrs

open Python Transition

/-- A chat as a client sends it, with the handler it reaches and the runtime behind it. -/
structure ClientChat where
  handler : CanonicalChatHandler
  requestMetadata : Dict Value
  queueMetadata : Dict Value
  request : AdmissionRequest
  runtime : Dict Value → Execution
  admittedRequest : Dict Value

/-- What clients do to the queue. -/
inductive ClientCall where
  | chat (c : ClientChat)
  | cancel (requestId : String)

/-- The queue the holder keeps after a chat: the one handed to its sink, if any. -/
def ClientChat.queueAfter (queue : RequestQueue) (c : ClientChat) : RequestQueue :=
  match c.handler.chat queue c.requestMetadata c.queueMetadata c.request c.runtime c.admittedRequest with
  | .ok run => run.queueSink.getD queue
  | .error _ => queue

/-- The queue the holder keeps after a call. -/
def ClientCall.queueAfter (queue : RequestQueue) : ClientCall → RequestQueue
  | .chat c => c.queueAfter queue
  | .cancel requestId => queue.cancel requestId

/-- A chat that is to wait: no switch of its model is running, its metadata are complete with a priority
that is an integer, and its figures fit the window and the maximum pool but not what is usable of it. -/
def ClientChat.Waits (c : ClientChat) : Prop :=
  c.handler.switching c.request.modelName = false ∧
    missingMetadata c.requestMetadata c.queueMetadata = [] ∧
    (∃ priority, toInt ((Dict.get? c.queueMetadata "priority").getD (.int 0)) = .ok priority) ∧
    ∃ e v, CanonicalChatHandler.estimateAndAdmit c.request = .ok (e, v) ∧
      e.requiredTokens ≤ e.declaredContextWindow ∧
      v.requiredDynamicVramBytes ≤ c.request.capacity.maxDynamicPoolBytes ∧
      c.request.capacity.usableDynamicVramBytes < v.requiredDynamicVramBytes

/-- A chat that is to wait carries an id that nothing in the queue carries. -/
def FreshId (queue : RequestQueue) : ClientCall → Prop
  | .chat c => c.Waits → ∀ e ∈ queue.entries, e.requestId ≠ c.request.requestId
  | .cancel _ => True

/-- Every request in the queue has an id of its own: a cancellation drops the one entry that carries the
id, with its reservation, and keeps the others where they are. -/
structure OwnIds (queue : RequestQueue) : Prop where
  distinct : (queue.entries.map QueueEntry.requestId).Nodup
  cancel_one : ∀ before e after, queue.entries = before ++ e :: after →
    (queue.cancel e.requestId).entries = before ++ after ∧
      QueueHolder.reservedBytes (queue.cancel e.requestId) =
        QueueHolder.reservedBytes queue - e.requiredDynamicVramBytes
  cancel_none : ∀ requestId, (∀ e ∈ queue.entries, e.requestId ≠ requestId) →
    queue.cancel requestId = queue

/-! ## Which chats join the queue -/

section chat

variable {queue : RequestQueue} {c : ClientChat}

/-- **A chat that is to wait joins the queue** at its end, under the id it carries. -/
theorem ClientChat.queueAfter_of_waits (queue : RequestQueue) (h : c.Waits) :
    ∃ entry, entry.requestId = c.request.requestId ∧ c.queueAfter queue = queue.add entry := by
  obtain ⟨hswitch, hmeta, ⟨priority, hpriority⟩, e, v, hboth, hfits⟩ := h
  obtain ⟨-, hid, -, -, -, -, -, -, hv⟩ := CanonicalChatHandler.estimateAndAdmit_eq_ok hboth
  have hdecision : canonicalDecision v.decision = .queue := by
    rw [hv] at hfits ⊢
    exact decideAdmission_queue_iff.mpr hfits
  have hstep : c.handler.chatStep queue c.requestMetadata c.queueMetadata c.request = _ :=
    CanonicalChatHandler.chatStep_of_queue hmeta hswitch hboth hdecision
  rw [hpriority] at hstep
  refine ⟨queuedEntry v c.requestMetadata c.queueMetadata priority, ?_, ?_⟩
  · show v.requestId = c.request.requestId
    rw [hv, ← hid]
    exact (decideAdmission_fields e _ _ _).1
  · unfold queueAfter CanonicalChatHandler.chat
    rw [hstep]
    rfl

/-- A chat that is not to wait leaves the queue as it is. -/
theorem ClientChat.queueAfter_of_not_waits (queue : RequestQueue) (h : ¬ c.Waits) :
    c.queueAfter queue = queue := by
  unfold queueAfter CanonicalChatHandler.chat
  cases hstep : c.handler.chatStep queue c.requestMetadata c.queueMetadata c.request with
  | error exc => rfl
  | ok step =>
      cases step with
      | refused result => rfl
      | admitted e v => rfl
      | queued updated entry result =>
          refine absurd ?_ h
          have hswitch : c.handler.switching c.request.modelName = false := by
            by_contra hon
            have hrefused : c.handler.chatStep queue c.requestMetadata c.queueMetadata c.request = _ :=
              (CanonicalChatHandler.refused_of_switching (Bool.not_eq_false _ ▸ hon)).1
            rw [hstep] at hrefused
            cases hrefused
          rcases CanonicalChatHandler.chatStep_cases hstep with ⟨_, hcase, -⟩ |
            ⟨e, v, hboth, ⟨record, entry', _, hcase, hdecision, hrecord, hentry, -⟩ | ⟨hcase, -⟩⟩
          · cases hcase
          · obtain ⟨-, -, hmeta, rfl⟩ := buildQueueEntryRequest_eq_ok.mp hrecord
            obtain ⟨priority, hpriority, -⟩ := queueEntryFromRecord_queueRecord.mp hentry
            obtain ⟨-, -, -, -, -, -, -, -, hv⟩ := CanonicalChatHandler.estimateAndAdmit_eq_ok hboth
            rw [hv] at hdecision
            have hfits := decideAdmission_queue_iff.mp hdecision
            rw [← hv] at hfits
            exact ⟨hswitch, hmeta, ⟨priority, hpriority⟩, e, v, hboth, hfits⟩
          · cases hcase

end chat

/-! ## Distinct ids -/

section ids

variable {queue : RequestQueue}

/-- An added entry keeps the ids distinct exactly when its own is not in the queue. -/
theorem nodup_add_iff (queue : RequestQueue) (entry : QueueEntry) :
    ((queue.add entry).entries.map QueueEntry.requestId).Nodup ↔
      (queue.entries.map QueueEntry.requestId).Nodup ∧
        ∀ e ∈ queue.entries, e.requestId ≠ entry.requestId := by
  rw [RequestQueue.add_entries, List.map_append, List.map_singleton, List.nodup_append]
  simp

/-- With distinct ids, dropping an id drops the one entry that carries it. -/
theorem cancel_of_nodup (h : (queue.entries.map QueueEntry.requestId).Nodup) {before after : List QueueEntry}
    {e : QueueEntry} (hsplit : queue.entries = before ++ e :: after) :
    (queue.cancel e.requestId).entries = before ++ after := by
  rw [hsplit, List.map_append, List.map_cons, List.nodup_append, List.nodup_cons] at h
  obtain ⟨-, ⟨hafter, -⟩, hbefore⟩ := h
  have hkept : ∀ x ∈ before ++ after, x.requestId ≠ e.requestId := by
    intro x hx
    rcases List.mem_append.mp hx with hx | hx
    · exact hbefore _ (List.mem_map_of_mem hx) _ (List.mem_cons_self ..)
    · exact fun heq => hafter (heq ▸ List.mem_map_of_mem hx)
  have hdropped : (before ++ e :: after).filter (fun x => decide (x.requestId ≠ e.requestId)) =
      (before ++ after).filter fun x => decide (x.requestId ≠ e.requestId) := by simp
  rw [RequestQueue.cancel, hsplit, hdropped]
  exact List.filter_eq_self.mpr fun x hx => by simpa using hkept x hx

/-- **A cancellation releases one request exactly while the ids are distinct.** -/
theorem ownIds_iff_nodup : OwnIds queue ↔ (queue.entries.map QueueEntry.requestId).Nodup := by
  refine ⟨OwnIds.distinct, fun h => ⟨h, fun before e after hsplit => ?_, fun requestId hnone => ?_⟩⟩
  · have hcancel := cancel_of_nodup h hsplit
    refine ⟨hcancel, ?_⟩
    unfold QueueHolder.reservedBytes
    rw [hcancel, hsplit]
    simp only [List.map_append, List.map_cons, List.sum_append, List.sum_cons]
    omega
  · have hkept : queue.entries.filter (fun x => decide (x.requestId ≠ requestId)) = queue.entries :=
      List.filter_eq_self.mpr fun x hx => by simpa using hnone x hx
    unfold RequestQueue.cancel
    rw [hkept]

/-- **One call keeps the ids distinct** exactly when a chat that is to wait carries a fresh one. -/
theorem ownIds_step_iff (h : OwnIds queue) (call : ClientCall) :
    OwnIds (call.queueAfter queue) ↔ FreshId queue call := by
  have hids := h.distinct
  cases call with
  | cancel requestId =>
      have hsub := (List.filter_sublist (l := queue.entries) (p := fun e => decide (e.requestId ≠ requestId)))
      exact iff_of_true (ownIds_iff_nodup.mpr (hids.sublist (hsub.map _))) trivial
  | chat c =>
      by_cases hwaits : c.Waits
      · obtain ⟨entry, hid, hadd⟩ := c.queueAfter_of_waits queue hwaits
        show OwnIds (c.queueAfter queue) ↔ (c.Waits → _)
        rw [hadd, ownIds_iff_nodup, nodup_add_iff, hid]
        exact ⟨fun hboth _ => hboth.2, fun hfresh => ⟨hids, hfresh hwaits⟩⟩
      · show OwnIds (c.queueAfter queue) ↔ (c.Waits → _)
        rw [c.queueAfter_of_not_waits queue hwaits]
        exact iff_of_true h fun hc => absurd hc hwaits

/-- **The runs in which ids stay distinct.** From an empty queue, whatever the clients call with whatever
snapshots: in every queue of the run each request has an id of its own, exactly when every chat that is to
wait carries an id that nothing in the queue carries. -/
theorem ids_distinct_iff (calls : List ClientCall) :
    (∀ p, p <+: calls → OwnIds (runAll ClientCall.queueAfter {} p)) ↔
      ∀ p call, p ++ [call] <+: calls → FreshId (runAll ClientCall.queueAfter {} p) call :=
  always_iff_guarded (J := fun _ => True) trivial (ownIds_iff_nodup.mpr List.nodup_nil) (fun _ _ _ => trivial)
    fun _ call _ h => ownIds_step_iff h call

end ids

/-- A request of 40 bytes under an id of the caller's, by a session of its own, asked to wait by a snapshot
with a pool of a hundred and nothing usable. -/
def waitingClient (requestId sessionId : String) : ClientCall :=
  .chat
    { handler := {}
      requestMetadata := [("session_id", .str sessionId)]
      queueMetadata := [("admitted_at", .str "now"), ("expires_at", .str "later")]
      request :=
        { requestId, modelName := "small"
          tokenBreakdown :=
            { inputTokens := 2, toolTokens := 0, serviceTokens := 0, reservedOutputTokens := 8
              tokenizerName := "characters-per-four", tokenizerAccuracy := "rough"
              roughEstimate := true }
          declaredContextWindow := 32
          capacity := { usableDynamicVramBytes := 0, maxDynamicPoolBytes := 100, modelLoaded := true
                        runtimeReady := true }
          kvBytesPerToken := 4, perRequestOverheadBytes := 0, runtimeBatchOverheadBytes := 0 }
      runtime := fun _ =>
        { calls := []
          outcome := .failed
            { requestId, backend := .vllm, reasonCode := .runtimeCallFailed, message := "down" } }
      admittedRequest := [] }

/-- **Two clients wait under one id**, and the cancellation of the one releases the reservation of the
other. -/
theorem cancel_releases_two :
    let queue := runAll ClientCall.queueAfter {} [waitingClient "a" "first", waitingClient "a" "second"]
    queue.entries.map QueueEntry.requestId = ["a", "a"] ∧
      queue.entries.map QueueEntry.sessionId = ["first", "second"] ∧
      QueueHolder.reservedBytes queue = 80 ∧ QueueHolder.reservedBytes (queue.cancel "a") = 0 ∧
      ¬ OwnIds queue := by
  intro queue
  have hids : queue.entries.map QueueEntry.requestId = ["a", "a"] := by rfl
  refine ⟨hids, by rfl, by rfl, by rfl, fun h => ?_⟩
  have hdistinct := h.distinct
  rw [hids] at hdistinct
  exact absurd hdistinct (by decide)

end Lmrs
