import Lmrs.Admission
import Lmrs.Queue
import Lmrs.RuntimeClient

/-!
# Public commands and the canonical handler

Source: `lmrs/commands.py`.

`PublicCommandExecutor` shapes results; `CanonicalChatHandler` composes estimate, verdict, queue and
runtime. The chat path is split where the runtime call happens: `chatStep` is everything before it
and says what is to happen, `chat` carries it through.

* `chatStep_cases`, `chatStep_queued`, `chatStep_admitted`: what each outcome of the path before the
  runtime implies about the request.
* `chat_calls`: the runtime is called only for an admitted request.
* `queueEntryFromRecord_queueRecord`: the entry a queueable verdict becomes.
-/

namespace Lmrs

open Python

/-! ## Results -/

/-- The payloads a result of the handler carries. -/
inductive Payload where
  | record (fields : Dict Value)
  | runtime (result : NormalizedRuntimeResult)
  | failure (signal : RuntimeFailureSignal)

/-- Source: `commands.py`, `CommandResult`. -/
structure CommandResult where
  command : CommandName
  outcome : CommandOutcome
  success : Bool
  reasonCode : Option ReasonCode := none
  tokenBreakdown : Option TokenBreakdown := none
  capacitySnapshot : Option CapacitySnapshot := none
  queueState : Option (List (Dict Value)) := none
  payload : Option Payload := none
  metadata : Dict Value := []
  /-- The artifacts carried as the request gave them, where these are not of the domain types. -/
  given : Dict Value := []

namespace PublicCommandExecutor

/-- Source: `commands.py`, `PublicCommandExecutor.dry_run_outcome`. -/
def dryRunOutcome (decision : Decision) : CommandOutcome :=
  match canonicalDecision decision with
  | .execute => .wouldExecute
  | .queue => .wouldQueue
  | .reject => .wouldReject

/-- Source: `commands.py`, `PublicCommandExecutor.execution_outcome`. -/
def executionOutcome (decision : Decision) : CommandOutcome :=
  match canonicalDecision decision with
  | .execute => .executed
  | .queue => .queued
  | .reject => .rejected

/-- Source: `commands.py`, `PublicCommandExecutor.estimate_result`. -/
def estimateResult (decision : Decision) (reasonCode : Option ReasonCode := none)
    (tokenBreakdown : Option TokenBreakdown := none)
    (capacitySnapshot : Option CapacitySnapshot := none) : CommandResult :=
  { command := .estimate
    outcome := dryRunOutcome decision
    success := dryRunOutcome decision ≠ .wouldReject
    reasonCode, tokenBreakdown, capacitySnapshot }

/-- Source: `commands.py`, `PublicCommandExecutor.chat_result`. -/
def chatResult (decision : Decision) (reasonCode : Option ReasonCode := none)
    (tokenBreakdown : Option TokenBreakdown := none)
    (capacitySnapshot : Option CapacitySnapshot := none)
    (queueState : Option (List (Dict Value)) := none) (payload : Option Payload := none) :
    CommandResult :=
  { command := .chat
    outcome := executionOutcome decision
    success := executionOutcome decision ≠ .rejected
    reasonCode, tokenBreakdown, capacitySnapshot, queueState, payload }

/-- Source: `commands.py`, `PublicCommandExecutor.failure_result`. -/
def failureResult (command : CommandName) (reasonCode : ReasonCode)
    (payload : Option Payload := none) (metadata : Dict Value := []) : CommandResult :=
  { command, outcome := .rejected, success := false, reasonCode := some reasonCode, payload
    metadata }

end PublicCommandExecutor

/-! ## The entry of a request that waits -/

/-- Source: `commands.py`, `_queue_entry_from_record`. -/
def queueEntryFromRecord (record : Dict Value) : Except PyException QueueEntry := do
  let requestId ← Value.getItem record "request_id"
  let sessionId ← Value.getItem record "session_id"
  let modelName ← Value.getItem record "model_name"
  let requiredTokens ← toInt (← Value.getItem record "required_tokens")
  let requiredDynamicVramBytes ← toInt (← Value.getItem record "required_dynamic_vram_bytes")
  let admittedAt ← Value.getItem record "admitted_at"
  let expiresAt ← Value.getItem record "expires_at"
  let priority ← toInt (← Value.getItem record "priority")
  let status ← Value.getItem record "status"
  return { requestId := requestId.text, sessionId := sessionId.text, modelName := modelName.text
           requiredTokens, requiredDynamicVramBytes, priority
           admittedAt := admittedAt.text, expiresAt := expiresAt.text, status := status.text }

/-- The entry of a queueable verdict with a given priority. -/
def queuedEntry (v : AdmissionVerdict) (req queue : Dict Value) (priority : Int) : QueueEntry where
  requestId := v.requestId
  sessionId := (Value.item req "session_id").text
  modelName := v.modelName
  requiredTokens := v.requiredTokens
  requiredDynamicVramBytes := v.requiredDynamicVramBytes
  admittedAt := (Value.item queue "admitted_at").text
  expiresAt := (Value.item queue "expires_at").text
  priority := priority
  status := ((Dict.get? queue "status").getD (.str "queued")).text

/-- The conversion of the record of a queueable verdict hangs on the priority alone. -/
theorem queueEntryFromRecord_eq_map (v : AdmissionVerdict) (req queue : Dict Value) :
    queueEntryFromRecord (queueRecord v req queue) =
      (toInt ((Dict.get? queue "priority").getD (.int 0))).map (queuedEntry v req queue) := by
  unfold queueEntryFromRecord queueRecord
  simp only [Value.getItem, Dict.get?_cons, reduceIte, String.reduceEq, bind, Except.bind, toInt,
    pure, Except.pure, Value.text]
  cases toInt ((Dict.get? queue "priority").getD (.int 0)) <;> rfl

/-- **The entry a queueable verdict becomes**, when its priority reads as an integer. -/
theorem queueEntryFromRecord_queueRecord {v : AdmissionVerdict} {req queue : Dict Value}
    {entry : QueueEntry} :
    queueEntryFromRecord (queueRecord v req queue) = .ok entry ↔
      ∃ priority, toInt ((Dict.get? queue "priority").getD (.int 0)) = .ok priority ∧
        entry = queuedEntry v req queue priority := by
  rw [queueEntryFromRecord_eq_map]
  cases toInt ((Dict.get? queue "priority").getD (.int 0)) with
  | error exc => simp [Except.map]
  | ok priority => simp [Except.map, eq_comm]

/-! ## The canonical handler -/

/-- The inputs of `_estimate_and_admit`. -/
structure AdmissionRequest where
  requestId : String
  modelName : String
  tokenBreakdown : TokenBreakdown
  declaredContextWindow : Int
  capacity : CapacitySnapshot
  kvBytesPerToken : Int
  perRequestOverheadBytes : Int
  runtimeBatchOverheadBytes : Int
  cacheHitConfirmed : Bool := false
  cacheAdjustedDynamicVramBytes : Option Int := none

/-- Source: `commands.py`, `CanonicalChatHandler`. -/
structure CanonicalChatHandler where
  modelSwitchInProgress : Option (String → Bool) := none

/-- How far a chat request gets before the runtime. -/
inductive ChatStep where
  /-- Refused: the runtime and the queue are not touched. -/
  | refused (result : CommandResult)
  /-- Asked to wait: `entry` is the last one of the queue `updated`. -/
  | queued (updated : RequestQueue) (entry : QueueEntry) (result : CommandResult)
  /-- Admitted: the runtime is called next. -/
  | admitted (estimate : RequestCapacityEstimate) (verdict : AdmissionVerdict)

/-- What a chat command comes to: its result, the queue it hands to its sink, and the completions
it sent. -/
structure ChatRun where
  result : CommandResult
  queueSink : Option RequestQueue := none
  calls : List (Dict Value) := []

namespace CanonicalChatHandler

open PublicCommandExecutor

/-- Source: `commands.py`, `CanonicalChatHandler._switching`. -/
def switching (handler : CanonicalChatHandler) (modelName : String) : Bool :=
  match handler.modelSwitchInProgress with
  | none => false
  | some inProgress => inProgress modelName

/-- Source: `commands.py`, `CanonicalChatHandler._switching_rejection`. -/
def switchingRejection (request : AdmissionRequest) (dryRun : Bool) : CommandResult :=
  if dryRun then
    estimateResult .reject (some .modelSwitching) (some request.tokenBreakdown)
      (some request.capacity)
  else
    chatResult .reject (some .modelSwitching) (some request.tokenBreakdown) (some request.capacity)

/-- Source: `commands.py`, `CanonicalChatHandler._estimate_and_admit`. -/
def estimateAndAdmit (request : AdmissionRequest) :
    Except PyException (RequestCapacityEstimate × AdmissionVerdict) := do
  let estimate ← estimateRequestCapacity request.requestId request.modelName
    request.tokenBreakdown request.declaredContextWindow request.capacity.usableDynamicVramBytes
    request.kvBytesPerToken request.perRequestOverheadBytes request.runtimeBatchOverheadBytes
  return (estimate, decideAdmission estimate request.capacity request.cacheHitConfirmed
    request.cacheAdjustedDynamicVramBytes)

/-- Source: `commands.py`, `CanonicalChatHandler.estimate`. -/
def estimate (handler : CanonicalChatHandler) (request : AdmissionRequest) :
    Except PyException CommandResult :=
  if handler.switching request.modelName then .ok (switchingRejection request true)
  else do
    let (estimate, verdict) ← estimateAndAdmit request
    return estimateResult verdict.decision (some verdict.reasonCode)
      (some estimate.tokenBreakdown) (some request.capacity)

/-- Source: `commands.py`, `CanonicalChatHandler.chat`, up to the runtime call. -/
def chatStep (handler : CanonicalChatHandler) (queue : RequestQueue)
    (requestMetadata queueMetadata : Dict Value) (request : AdmissionRequest) :
    Except PyException ChatStep :=
  if handler.switching request.modelName then .ok (.refused (switchingRejection request false))
  else do
    let (estimate, verdict) ← estimateAndAdmit request
    match canonicalDecision verdict.decision with
    | .reject =>
        return .refused (chatResult verdict.decision (some verdict.reasonCode)
          (some estimate.tokenBreakdown) (some request.capacity))
    | .queue => do
        let record ← buildQueueEntryRequest verdict estimate requestMetadata queueMetadata
        let entry ← queueEntryFromRecord record
        let updated := queue.add entry
        return .queued updated entry (chatResult verdict.decision (some verdict.reasonCode)
          (some estimate.tokenBreakdown) (some request.capacity) (some updated.snapshot)
          (some (.record record)))
    | .execute => return .admitted estimate verdict

/-- The result of an admitted request once the runtime has reported. -/
def finishChat (request : AdmissionRequest) (estimate : RequestCapacityEstimate)
    (verdict : AdmissionVerdict) : RuntimeOutcome → CommandResult
  | .failed signal =>
      failureResult .chat signal.reasonCode (some (.failure signal))
        [("admitted", .bool true), ("retriable", .bool signal.retriable),
         ("message", .str signal.message)]
  | .normalized result =>
      chatResult verdict.decision (some verdict.reasonCode) (some estimate.tokenBreakdown)
        (some request.capacity) none (some (.runtime result))

/-- Source: `commands.py`, `CanonicalChatHandler.chat`, with the runtime client bound to its
profile. -/
def chat (handler : CanonicalChatHandler) (queue : RequestQueue)
    (requestMetadata queueMetadata : Dict Value) (request : AdmissionRequest)
    (runtime : Dict Value → Execution) (admittedRequest : Dict Value) :
    Except PyException ChatRun := do
  match ← handler.chatStep queue requestMetadata queueMetadata request with
  | .refused result => return { result }
  | .queued updated _ result => return { result, queueSink := some updated }
  | .admitted estimate verdict =>
      let execution := runtime admittedRequest
      return { result := finishChat request estimate verdict execution.outcome
               calls := execution.calls }

/-- Source: `commands.py`, `CanonicalChatHandler.launch_queued`. -/
def launchQueued (queue : RequestQueue) (capacityProvider : CapacityReadings)
    (executor : QueueEntry → Except PyException Unit) : Dispatch :=
  QueueDispatchWorker.dispatch executor queue capacityProvider

/-! ### What each outcome implies -/

section steps

variable {handler : CanonicalChatHandler} {queue : RequestQueue} {req queueMeta : Dict Value}
  {request : AdmissionRequest} {e : RequestCapacityEstimate} {v : AdmissionVerdict}

/-- The estimate and the verdict on a request belong together and to that request. -/
theorem estimateAndAdmit_eq_ok (h : estimateAndAdmit request = .ok (e, v)) :
    e.Sized ∧ e.requestId = request.requestId ∧ e.modelName = request.modelName ∧
      e.tokenBreakdown = request.tokenBreakdown ∧
      e.declaredContextWindow = request.declaredContextWindow ∧
      e.kvBytesPerToken = request.kvBytesPerToken ∧
      e.perRequestOverheadBytes = request.perRequestOverheadBytes ∧
      e.runtimeBatchOverheadBytes = request.runtimeBatchOverheadBytes ∧
      v = decideAdmission e request.capacity request.cacheHitConfirmed
        request.cacheAdjustedDynamicVramBytes := by
  obtain ⟨estimate, hestimate, h⟩ := bind_eq_ok.mp h
  cases h
  obtain ⟨hsized, hid, hmodel, hb, hwindow, hkv, hreq, hbatch⟩ :=
    estimateRequestCapacity_spec hestimate
  exact ⟨hsized, hid, hmodel, hb, hwindow, hkv, hreq, hbatch, rfl⟩

/-- The id of a request is carried by its estimate and its verdict and has no part in them. -/
theorem estimateAndAdmit_requestId (request : AdmissionRequest) (requestId : String) :
    estimateAndAdmit { request with requestId } =
      (estimateAndAdmit request).map fun both =>
        ({ both.1 with requestId }, { both.2 with requestId }) := by
  unfold estimateAndAdmit
  simp only [estimateRequestCapacity_requestId request.requestId requestId]
  cases estimateRequestCapacity request.requestId request.modelName request.tokenBreakdown
      request.declaredContextWindow request.capacity.usableDynamicVramBytes
      request.kvBytesPerToken request.perRequestOverheadBytes request.runtimeBatchOverheadBytes with
  | error exc => rfl
  | ok e =>
      simp only [bind, Except.bind, Except.map, pure, Except.pure, decideAdmission]
      split_ifs <;> rfl

/-- Inputs with a negative figure raise `ValueError`. -/
theorem estimateAndAdmit_raises (request : AdmissionRequest) :
    OnlyRaises "ValueError" (estimateAndAdmit request) :=
  .bind (estimateRequestCapacity_raises _ _ _ _ _ _ _ _) fun _ => .ok _

/-- The dry run of a request no switch is running for reports its verdict. -/
theorem estimate_of_unswitched (hswitch : handler.switching request.modelName = false) :
    handler.estimate request = (estimateAndAdmit request).map fun both =>
      estimateResult both.2.decision (some both.2.reasonCode) (some both.1.tokenBreakdown)
        (some request.capacity) := by
  unfold estimate
  rw [hswitch]
  cases estimateAndAdmit request <;> rfl

/-- A dry run that raises raises `ValueError`. -/
theorem estimate_raises (handler : CanonicalChatHandler) (request : AdmissionRequest) :
    OnlyRaises "ValueError" (handler.estimate request) := by
  unfold estimate
  split
  · exact .ok _
  · exact .bind (estimateAndAdmit_raises request) fun _ => .ok _

/-- **The path before the runtime**, by outcome: a request is refused for a switch or for its
verdict, waits as the entry built from its verdict, or is admitted by its verdict. -/
theorem chatStep_cases {step : ChatStep}
    (h : handler.chatStep queue req queueMeta request = .ok step) :
    (∃ result, step = .refused result ∧ result.success = false ∧ result.outcome = .rejected) ∨
      (∃ e v, estimateAndAdmit request = .ok (e, v) ∧
        ((∃ record entry result, step = .queued (queue.add entry) entry result ∧
            canonicalDecision v.decision = .queue ∧
            buildQueueEntryRequest v e req queueMeta = .ok record ∧
            queueEntryFromRecord record = .ok entry ∧ result.outcome = .queued) ∨
          (step = .admitted e v ∧ handler.switching request.modelName = false ∧
            canonicalDecision v.decision = .execute))) := by
  unfold chatStep at h
  by_cases hswitch : handler.switching request.modelName = true
  · rw [if_pos hswitch] at h
    cases h
    exact Or.inl ⟨_, rfl, rfl, rfl⟩
  · rw [if_neg hswitch] at h
    obtain ⟨⟨e, v⟩, hboth, h⟩ := bind_eq_ok.mp h
    dsimp only at h
    cases hdecision : canonicalDecision v.decision with
    | reject =>
        rw [hdecision] at h
        cases h
        refine Or.inl ⟨_, rfl, ?_, ?_⟩
        · simp [chatResult, executionOutcome, hdecision]
        · simp [chatResult, executionOutcome, hdecision]
    | queue =>
        rw [hdecision] at h
        obtain ⟨record, hrecord, h⟩ := bind_eq_ok.mp h
        obtain ⟨entry, hentry, h⟩ := bind_eq_ok.mp h
        cases h
        refine Or.inr ⟨e, v, hboth, Or.inl ⟨record, entry, _, rfl, hdecision, hrecord, hentry, ?_⟩⟩
        simp [chatResult, executionOutcome, hdecision]
    | execute =>
        rw [hdecision] at h
        cases h
        have hnot : handler.switching request.modelName = false := by simpa using hswitch
        exact Or.inr ⟨e, v, hboth, Or.inr ⟨rfl, hnot, hdecision⟩⟩

/-- **An admitted request fits**: its tokens the window, its bytes both pools, and no switch of its
model is running. -/
theorem chatStep_admitted (h : handler.chatStep queue req queueMeta request = .ok (.admitted e v)) :
    handler.switching request.modelName = false ∧ estimateAndAdmit request = .ok (e, v) ∧
      e.requiredTokens ≤ e.declaredContextWindow ∧
      v.requiredDynamicVramBytes ≤ request.capacity.maxDynamicPoolBytes ∧
      v.requiredDynamicVramBytes ≤ request.capacity.usableDynamicVramBytes := by
  rcases chatStep_cases h with ⟨_, hstep, -⟩ |
    ⟨e', v', hboth, ⟨_, _, _, hstep, -⟩ | ⟨hstep, hswitch, hexec⟩⟩
  · cases hstep
  · cases hstep
  · cases hstep
    obtain ⟨-, -, -, -, -, -, -, -, hv⟩ := estimateAndAdmit_eq_ok hboth
    rw [hv] at hexec
    have hfits := decideAdmission_execute_iff.mp hexec
    rw [← hv] at hfits
    exact ⟨hswitch, hboth, hfits⟩

/-- A verdict to execute on a model no switch is running for admits the request. -/
theorem chatStep_of_execute (hswitch : handler.switching request.modelName = false)
    (hboth : estimateAndAdmit request = .ok (e, v))
    (hexec : canonicalDecision v.decision = .execute) :
    handler.chatStep queue req queueMeta request = .ok (.admitted e v) := by
  unfold chatStep
  rw [hswitch, hboth]
  show (match canonicalDecision v.decision with
    | .reject => _
    | .queue => _
    | .execute => _) = _
  rw [hexec]
  rfl

/-- A request with a negative figure raises, whatever its verdict would be. -/
theorem chatStep_of_error {exc : PyException} (hswitch : handler.switching request.modelName = false)
    (hboth : estimateAndAdmit request = .error exc) :
    handler.chatStep queue req queueMeta request = .error exc := by
  unfold chatStep
  rw [hswitch, hboth]
  rfl

/-- A verdict to reject refuses the request for the verdict's reason. -/
theorem chatStep_of_reject (hswitch : handler.switching request.modelName = false)
    (hboth : estimateAndAdmit request = .ok (e, v))
    (hdecision : canonicalDecision v.decision = .reject) :
    handler.chatStep queue req queueMeta request =
      .ok (.refused (chatResult v.decision (some v.reasonCode) (some e.tokenBreakdown)
        (some request.capacity))) := by
  unfold chatStep
  rw [hswitch, hboth]
  simp only [Bool.false_eq_true, if_false, bind, Except.bind, hdecision, pure, Except.pure]

/-- What the sink and the caller are handed for a request that waits. -/
def queuedStep (queue : RequestQueue) (request : AdmissionRequest) (e : RequestCapacityEstimate)
    (v : AdmissionVerdict) (req queueMeta : Dict Value) (priority : Int) : ChatStep :=
  .queued (queue.add (queuedEntry v req queueMeta priority)) (queuedEntry v req queueMeta priority)
    (chatResult v.decision (some v.reasonCode) (some e.tokenBreakdown) (some request.capacity)
      (some (queue.add (queuedEntry v req queueMeta priority)).snapshot)
      (some (.record (queueRecord v req queueMeta))))

/-- A verdict to wait queues a request with complete metadata, unless its priority is no integer. -/
theorem chatStep_of_queue (hsupplied : missingMetadata req queueMeta = [])
    (hswitch : handler.switching request.modelName = false)
    (hboth : estimateAndAdmit request = .ok (e, v))
    (hdecision : canonicalDecision v.decision = .queue) :
    handler.chatStep queue req queueMeta request =
      (toInt ((Dict.get? queueMeta "priority").getD (.int 0))).map
        (queuedStep queue request e v req queueMeta) := by
  obtain ⟨-, -, -, -, -, -, -, -, hv⟩ := estimateAndAdmit_eq_ok hboth
  have hqueueable : v.queueable = true := by
    rw [hv] at hdecision ⊢
    exact decideAdmission_queueable_iff.mpr hdecision
  have hsame : e.requestId = v.requestId := by
    rw [hv]
    exact (decideAdmission_fields e _ _ _).1.symm
  have hrecord : buildQueueEntryRequest v e req queueMeta = .ok (queueRecord v req queueMeta) :=
    buildQueueEntryRequest_eq_ok.mpr ⟨hqueueable, hsame, hsupplied, rfl⟩
  unfold chatStep
  rw [hswitch, hboth]
  simp only [Bool.false_eq_true, if_false, bind, Except.bind, hdecision, hrecord,
    queueEntryFromRecord_eq_map]
  cases toInt ((Dict.get? queueMeta "priority").getD (.int 0)) <;> rfl

/-- While its model is being switched to a request is refused with MODEL_SWITCHING, by chat and by
estimate. -/
theorem refused_of_switching (hswitch : handler.switching request.modelName = true) :
    handler.chatStep queue req queueMeta request =
        .ok (.refused (switchingRejection request false)) ∧
      handler.estimate request = .ok (switchingRejection request true) := by
  unfold chatStep estimate
  rw [if_pos hswitch, if_pos hswitch]
  exact ⟨rfl, rfl⟩

/-- A handler matters to a request by what it says of the request's model. -/
theorem decided_congr {handler' : CanonicalChatHandler}
    (hswitch : handler'.switching request.modelName = handler.switching request.modelName) :
    handler'.chatStep queue req queueMeta request = handler.chatStep queue req queueMeta request ∧
      handler'.estimate request = handler.estimate request := by
  unfold chatStep estimate
  rw [hswitch]
  exact ⟨rfl, rfl⟩

/-- Where the whole pool is usable no request is asked to wait. -/
theorem chatStep_ne_queued
    (hpool : request.capacity.maxDynamicPoolBytes ≤ request.capacity.usableDynamicVramBytes)
    {updated : RequestQueue} {entry : QueueEntry} {result : CommandResult} :
    handler.chatStep queue req queueMeta request ≠ .ok (.queued updated entry result) := by
  intro h
  rcases chatStep_cases h with ⟨_, hstep, -⟩ | ⟨e', v', hboth, ⟨_, _, _, -, hqueue, -⟩ | ⟨hstep, -⟩⟩
  · cases hstep
  · obtain ⟨-, -, -, -, -, -, -, -, hv⟩ := estimateAndAdmit_eq_ok hboth
    rw [hv] at hqueue
    exact decideAdmission_ne_queue hpool hqueue
  · cases hstep

/-- A request that waits leaves the queue with its entry added at the end. -/
theorem chatStep_queued {updated : RequestQueue} {entry : QueueEntry} {result : CommandResult}
    (h : handler.chatStep queue req queueMeta request = .ok (.queued updated entry result)) :
    updated = queue.add entry ∧ ∃ e v record, estimateAndAdmit request = .ok (e, v) ∧
      buildQueueEntryRequest v e req queueMeta = .ok record ∧
      queueEntryFromRecord record = .ok entry := by
  rcases chatStep_cases h with ⟨_, hstep, -⟩ |
    ⟨e', v', hboth, ⟨record, entry', _, hstep, -, hrecord, hentry, -⟩ | ⟨hstep, -⟩⟩
  · cases hstep
  · cases hstep
    exact ⟨rfl, e', v', record, hboth, hrecord, hentry⟩
  · cases hstep

/-- **The runtime is called only for an admitted request**, and then as the runtime client calls
it. -/
theorem chat_calls {runtime : Dict Value → Execution} {admittedRequest : Dict Value} {run : ChatRun}
    (h : handler.chat queue req queueMeta request runtime admittedRequest = .ok run) :
    run.calls = [] ∨ ∃ e v, handler.chatStep queue req queueMeta request = .ok (.admitted e v) ∧
      run.calls = (runtime admittedRequest).calls := by
  obtain ⟨step, hstep, h⟩ := bind_eq_ok.mp h
  cases step with
  | refused result =>
      cases h
      exact Or.inl rfl
  | queued updated entry result =>
      cases h
      exact Or.inl rfl
  | admitted e v =>
      cases h
      exact Or.inr ⟨e, v, hstep, rfl⟩

end steps

end CanonicalChatHandler

end Lmrs
