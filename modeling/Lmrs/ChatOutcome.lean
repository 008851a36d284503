import Lmrs.Commands

/-!
# What one chat does

Source: `lmrs/commands.py`, `CanonicalChatHandler.chat`.

The decision, the effects and the reported result of a chat come from different helpers. Here they are
put side by side: `ChatRun.Did` says, for each canonical decision, what the runtime and the queue sink
were handed and what was reported.

* `ChatRun.did_unique`: the three are exclusive.
* `chat_does_one`: a chat does exactly one of them, or it was to wait, its priority is no integer, and it
  raised before the queue sink or the runtime was called.
-/

namespace Lmrs

open Python PublicCommandExecutor

/-- A runtime that notes the requests handed to its `execute`. -/
def noting (answer : Dict Value → RuntimeOutcome) (request : Dict Value) : Execution :=
  { calls := [request], outcome := answer request }

/-- The runtime reported a failure signal. -/
def RuntimeOutcome.isFailure : RuntimeOutcome → Bool
  | .failed _ => true
  | .normalized _ => false

/-- The inputs of an admission without a negative figure. -/
structure AdmissionRequest.NonNegative (request : AdmissionRequest) : Prop where
  breakdown : request.tokenBreakdown.NonNegative
  kv : 0 ≤ request.kvBytesPerToken
  perRequest : 0 ≤ request.perRequestOverheadBytes
  batch : 0 ≤ request.runtimeBatchOverheadBytes

namespace ChatRun

/-- Rejected: nothing is called, and the reason is the running switch or the verdict's. -/
structure Rejected (handler : CanonicalChatHandler) (request : AdmissionRequest) (run : ChatRun) :
    Prop where
  calls : run.calls = []
  queueSink : run.queueSink = none
  success : run.result.success = false
  reason : (handler.switching request.modelName = true ∧
      run.result.reasonCode = some .modelSwitching) ∨
    (handler.switching request.modelName = false ∧
      ∃ e v, CanonicalChatHandler.estimateAndAdmit request = .ok (e, v) ∧
        canonicalDecision v.decision = .reject ∧ run.result.reasonCode = some v.reasonCode)

/-- The entry of a request that waits carries its verdict's figures and its metadata as text. -/
structure EntryOf (v : AdmissionVerdict) (requestMetadata queueMetadata : Dict Value)
    (entry : QueueEntry) : Prop where
  requestId : entry.requestId = v.requestId
  modelName : entry.modelName = v.modelName
  requiredTokens : entry.requiredTokens = v.requiredTokens
  requiredDynamicVramBytes : entry.requiredDynamicVramBytes = v.requiredDynamicVramBytes
  sessionId : entry.sessionId = (Value.item requestMetadata "session_id").text
  admittedAt : entry.admittedAt = (Value.item queueMetadata "admitted_at").text
  expiresAt : entry.expiresAt = (Value.item queueMetadata "expires_at").text
  priority : toInt ((Dict.get? queueMetadata "priority").getD (.int 0)) = .ok entry.priority
  status : entry.status = ((Dict.get? queueMetadata "status").getD (.str "queued")).text

/-- Queued: the sink is handed the queue with one entry more, and the snapshot of that queue is
reported. -/
structure Queued (handler : CanonicalChatHandler) (queue : RequestQueue)
    (requestMetadata queueMetadata : Dict Value) (request : AdmissionRequest) (run : ChatRun) :
    Prop where
  calls : run.calls = []
  success : run.result.success = true
  notSwitching : handler.switching request.modelName = false
  entry : ∃ e v updated entry, CanonicalChatHandler.estimateAndAdmit request = .ok (e, v) ∧
    canonicalDecision v.decision = .queue ∧ run.queueSink = some updated ∧
    updated.entries = queue.entries ++ [entry] ∧ EntryOf v requestMetadata queueMetadata entry ∧
    run.result.queueState = some updated.snapshot ∧ run.result.reasonCode = some v.reasonCode

/-- Executed: the runtime is handed the admitted request, and a failure it signals is reported as
one. -/
structure Executed (handler : CanonicalChatHandler) (request : AdmissionRequest)
    (answer : Dict Value → RuntimeOutcome) (admittedRequest : Dict Value) (run : ChatRun) : Prop where
  calls : run.calls = [admittedRequest]
  queueSink : run.queueSink = none
  notSwitching : handler.switching request.modelName = false
  verdict : ∃ e v, CanonicalChatHandler.estimateAndAdmit request = .ok (e, v) ∧
    canonicalDecision v.decision = .execute
  success : run.result.success = true ↔ (answer admittedRequest).isFailure = false
  failure : ∀ signal, answer admittedRequest = .failed signal →
    run.result.reasonCode = some signal.reasonCode

/-- Raised: the request was to wait, and its priority is no integer. What raised is the step before the
sink and the runtime, so neither was called. -/
structure Raised (handler : CanonicalChatHandler) (queue : RequestQueue)
    (requestMetadata queueMetadata : Dict Value) (request : AdmissionRequest) (exc : PyException) :
    Prop where
  notSwitching : handler.switching request.modelName = false
  verdict : ∃ e v, CanonicalChatHandler.estimateAndAdmit request = .ok (e, v) ∧
    canonicalDecision v.decision = .queue
  priority : toInt ((Dict.get? queueMetadata "priority").getD (.int 0)) = .error exc
  before : handler.chatStep queue requestMetadata queueMetadata request = .error exc

/-- What a chat did, by the decision it was given. -/
def Did (handler : CanonicalChatHandler) (queue : RequestQueue)
    (requestMetadata queueMetadata : Dict Value) (request : AdmissionRequest)
    (answer : Dict Value → RuntimeOutcome) (admittedRequest : Dict Value) (run : ChatRun) :
    CanonicalDecision → Prop
  | .reject => run.Rejected handler request
  | .queue => run.Queued handler queue requestMetadata queueMetadata request
  | .execute => run.Executed handler request answer admittedRequest

section outcome

variable {handler : CanonicalChatHandler} {queue : RequestQueue} {req queueMeta : Dict Value}
  {request : AdmissionRequest} {answer : Dict Value → RuntimeOutcome} {admittedRequest : Dict Value}
  {run : ChatRun} {d d' : CanonicalDecision}

/-- What was called and what was handed to the sink tell the three apart. -/
theorem did_trace (h : run.Did handler queue req queueMeta request answer admittedRequest d) :
    d = if run.calls ≠ [] then .execute else if run.queueSink.isSome then .queue else .reject := by
  cases d with
  | reject =>
      have hrejected : run.Rejected handler request := h
      simp [hrejected.calls, hrejected.queueSink]
  | queue =>
      have hqueued : run.Queued handler queue req queueMeta request := h
      obtain ⟨_, _, _, _, -, -, hsink, -⟩ := hqueued.entry
      simp [hqueued.calls, hsink]
  | execute =>
      have hexecuted : run.Executed handler request answer admittedRequest := h
      simp [hexecuted.calls]

/-- **The three are exclusive.** -/
theorem did_unique (h : run.Did handler queue req queueMeta request answer admittedRequest d)
    (h' : run.Did handler queue req queueMeta request answer admittedRequest d') : d' = d :=
  (did_trace h').trans (did_trace h).symm

end outcome

end ChatRun

namespace CanonicalChatHandler

section outcome

variable {handler : CanonicalChatHandler} {queue : RequestQueue} {req queueMeta : Dict Value}
  {request : AdmissionRequest} {e : RequestCapacityEstimate} {v : AdmissionVerdict}
  {answer : Dict Value → RuntimeOutcome} {admittedRequest : Dict Value}

/-- Inputs without a negative figure have an estimate and a verdict. -/
theorem estimateAndAdmit_isOk (h : request.NonNegative) :
    ∃ e v, estimateAndAdmit request = .ok (e, v) := by
  obtain ⟨e, he⟩ := estimateRequestCapacity_isOk request.requestId request.modelName
    request.declaredContextWindow request.capacity.usableDynamicVramBytes h.breakdown h.kv
    h.perRequest h.batch
  refine ⟨e, decideAdmission e request.capacity request.cacheHitConfirmed
    request.cacheAdjustedDynamicVramBytes, ?_⟩
  unfold estimateAndAdmit
  rw [he]
  rfl

/-- A chat whose model is being switched to is rejected. -/
theorem chat_of_switching (hswitch : handler.switching request.modelName = true) :
    ∃ run, handler.chat queue req queueMeta request (noting answer) admittedRequest = .ok run ∧
      run.Rejected handler request := by
  unfold chat
  rw [(refused_of_switching hswitch).1]
  exact ⟨_, rfl, rfl, rfl, rfl, Or.inl ⟨hswitch, rfl⟩⟩

/-- A chat with a verdict to reject is rejected for the verdict's reason. -/
theorem chat_of_reject (hswitch : handler.switching request.modelName = false)
    (hboth : estimateAndAdmit request = .ok (e, v))
    (hdecision : canonicalDecision v.decision = .reject) :
    ∃ run, handler.chat queue req queueMeta request (noting answer) admittedRequest = .ok run ∧
      run.Rejected handler request := by
  unfold chat
  rw [chatStep_of_reject hswitch hboth hdecision]
  refine ⟨_, rfl, rfl, rfl, ?_, Or.inr ⟨hswitch, e, v, hboth, hdecision, rfl⟩⟩
  simp [chatResult, executionOutcome, hdecision]

/-- A chat with a verdict to execute is executed. -/
theorem chat_of_execute (hswitch : handler.switching request.modelName = false)
    (hboth : estimateAndAdmit request = .ok (e, v))
    (hdecision : canonicalDecision v.decision = .execute) :
    ∃ run, handler.chat queue req queueMeta request (noting answer) admittedRequest = .ok run ∧
      run.Executed handler request answer admittedRequest := by
  unfold chat
  rw [chatStep_of_execute hswitch hboth hdecision]
  refine ⟨_, rfl, rfl, rfl, hswitch, ⟨e, v, hboth, hdecision⟩, ?_, ?_⟩
  · cases hanswer : answer admittedRequest with
    | failed signal =>
        simp [noting, hanswer, finishChat, failureResult, RuntimeOutcome.isFailure]
    | normalized result =>
        simp [noting, hanswer, finishChat, chatResult, executionOutcome, hdecision,
          RuntimeOutcome.isFailure]
  · intro signal hanswer
    simp only [noting, hanswer]
    rfl

/-- A chat with a verdict to wait is queued, or raises because its priority is no integer. -/
theorem chat_of_queue (hsupplied : missingMetadata req queueMeta = [])
    (hswitch : handler.switching request.modelName = false)
    (hboth : estimateAndAdmit request = .ok (e, v))
    (hdecision : canonicalDecision v.decision = .queue) :
    (∃ run, handler.chat queue req queueMeta request (noting answer) admittedRequest = .ok run ∧
        run.Queued handler queue req queueMeta request) ∨
      ∃ exc, handler.chat queue req queueMeta request (noting answer) admittedRequest = .error exc ∧
        ChatRun.Raised handler queue req queueMeta request exc := by
  have hstep : handler.chatStep queue req queueMeta request = _ :=
    chatStep_of_queue hsupplied hswitch hboth hdecision
  unfold chat
  cases hpriority : toInt ((Dict.get? queueMeta "priority").getD (.int 0)) with
  | error exc =>
      rw [hpriority] at hstep
      refine Or.inr ⟨exc, ?_, hswitch, ⟨e, v, hboth, hdecision⟩, hpriority, hstep⟩
      rw [hstep]
      rfl
  | ok priority =>
      rw [hstep, hpriority]
      have hentry : ChatRun.EntryOf v req queueMeta (queuedEntry v req queueMeta priority) :=
        ⟨rfl, rfl, rfl, rfl, rfl, rfl, rfl, hpriority, rfl⟩
      refine Or.inl ⟨_, rfl, rfl, ?_, hswitch, e, v, _, _, hboth, hdecision, rfl, rfl, hentry, rfl,
        rfl⟩
      simp [chatResult, executionOutcome, hdecision]

end outcome

end CanonicalChatHandler

section contract

variable (handler : CanonicalChatHandler) (queue : RequestQueue) (req queueMeta : Dict Value)
  (request : AdmissionRequest) (answer : Dict Value → RuntimeOutcome) (admittedRequest : Dict Value)

/-- **A chat does exactly one thing.** With no negative figure among its inputs and with a session, an
admission time and an expiry supplied, whatever the snapshot, the queue, the running switches and the
answer of the runtime: it is rejected, queued or executed, and only one of these; or no switch is running,
its verdict is to wait, and the conversion of its priority to an integer raised before the sink or the
runtime was called. -/
theorem chat_does_one (hnonneg : request.NonNegative)
    (hsupplied : missingMetadata req queueMeta = []) :
    (∃ run, handler.chat queue req queueMeta request (noting answer) admittedRequest = .ok run ∧
        ∃! d, run.Did handler queue req queueMeta request answer admittedRequest d) ∨
      ∃ exc, handler.chat queue req queueMeta request (noting answer) admittedRequest = .error exc ∧
        ChatRun.Raised handler queue req queueMeta request exc := by
  have hone {run : ChatRun} (d : CanonicalDecision)
      (h : run.Did handler queue req queueMeta request answer admittedRequest d) :
      ∃! d, run.Did handler queue req queueMeta request answer admittedRequest d :=
    ⟨d, h, fun _ h' => ChatRun.did_unique h h'⟩
  cases hswitch : handler.switching request.modelName with
  | true =>
      obtain ⟨run, hrun, hrejected⟩ := CanonicalChatHandler.chat_of_switching hswitch
      exact Or.inl ⟨run, hrun, hone .reject hrejected⟩
  | false =>
      obtain ⟨e, v, hboth⟩ := CanonicalChatHandler.estimateAndAdmit_isOk hnonneg
      cases hdecision : canonicalDecision v.decision with
      | reject =>
          obtain ⟨run, hrun, hrejected⟩ :=
            CanonicalChatHandler.chat_of_reject hswitch hboth hdecision
          exact Or.inl ⟨run, hrun, hone .reject hrejected⟩
      | queue =>
          rcases CanonicalChatHandler.chat_of_queue hsupplied hswitch hboth hdecision with
            ⟨run, hrun, hqueued⟩ | hraised
          · exact Or.inl ⟨run, hrun, hone .queue hqueued⟩
          · exact Or.inr hraised
      | execute =>
          obtain ⟨run, hrun, hexecuted⟩ :=
            CanonicalChatHandler.chat_of_execute hswitch hboth hdecision
          exact Or.inl ⟨run, hrun, hone .execute hexecuted⟩

end contract

/-- A request of four bytes against a pool of eight of which two are usable. -/
def waitingRequest : AdmissionRequest where
  requestId := "chat-1"
  modelName := "small"
  tokenBreakdown :=
    { inputTokens := 3, toolTokens := 0, serviceTokens := 0, reservedOutputTokens := 1
      tokenizerName := "small", tokenizerAccuracy := "runtime_tokenizer" }
  declaredContextWindow := 32
  capacity :=
    { usableDynamicVramBytes := 2, maxDynamicPoolBytes := 8, modelLoaded := true
      runtimeReady := true }
  kvBytesPerToken := 1
  perRequestOverheadBytes := 0
  runtimeBatchOverheadBytes := 0

/-- The request-side metadata of a session. -/
def sessionMetadata : Dict Value := [("session_id", .str "adapter")]

/-- Queue-side metadata with both times and a status of its own. -/
def heldMetadata : Dict Value :=
  [("admitted_at", .str "1970-01-01T00:00:00+00:00"),
   ("expires_at", .str "1970-01-01T00:05:00+00:00"), ("status", .str "held")]

/-- The waiting request does one thing, or it raises before anything is called. -/
theorem chat_does_one_waiting :
    (∃ run, CanonicalChatHandler.chat {} {} sessionMetadata heldMetadata waitingRequest
          (noting fun _ => .normalized {}) [] = .ok run ∧
        ∃! d, run.Did {} {} sessionMetadata heldMetadata waitingRequest
          (fun _ => .normalized {}) [] d) ∨
      ∃ exc, CanonicalChatHandler.chat {} {} sessionMetadata heldMetadata waitingRequest
          (noting fun _ => .normalized {}) [] = .error exc ∧
        ChatRun.Raised {} {} sessionMetadata heldMetadata waitingRequest exc :=
  chat_does_one {} {} sessionMetadata heldMetadata waitingRequest (fun _ => .normalized {}) []
    ⟨⟨by decide, by decide, by decide, by decide⟩, by decide, by decide, by decide⟩ rfl

/-- **An entry need not have the status queued**: the metadata of the request says otherwise, and the
queue holds it as they say. -/
theorem queued_with_other_status :
    ¬ ∀ (handler : CanonicalChatHandler) (queue updated : RequestQueue)
        (req queueMeta : Dict Value) (request : AdmissionRequest)
        (answer : Dict Value → RuntimeOutcome) (admittedRequest : Dict Value) (run : ChatRun),
        request.NonNegative → missingMetadata req queueMeta = [] →
        handler.chat queue req queueMeta request (noting answer) admittedRequest = .ok run →
        run.queueSink = some updated →
        ∃ entry, updated.entries = queue.entries ++ [entry] ∧ entry.status = "queued" := by
  intro h
  obtain ⟨entry, hentries, hstatus⟩ := h {} {} _ sessionMetadata heldMetadata waitingRequest
    (fun _ => .normalized {}) [] _
    ⟨⟨by decide, by decide, by decide, by decide⟩, by decide, by decide, by decide⟩ rfl rfl rfl
  have hentry : [entry] = [_] := hentries.symm
  cases hentry
  exact absurd hstatus (by decide)

end Lmrs
