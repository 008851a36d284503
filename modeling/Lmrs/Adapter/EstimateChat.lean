import Lmrs.Adapter.ChatAdmission
import Lmrs.Adapter.Registration

/-!
# The dry run beside the chat

Source: `lmrs/adapter/registration.py`, `EstimateCommand._text_mode_estimate`, `ChatCommand.delegate`.

The two commands count, size and measure a request in code of their own. `Agree` says that the dry run
foretells the chat; `TextRequest` is what both need of the parameters.

* `ChatCommand.plan_of_text`, `EstimateCommand.delegate_of_text`: the two paths over one request.
* `agree_of_plan`: a chat that gets as far as its plan agrees with the dry run.
* `estimate_agrees_iff`: they agree exactly when the expiry the chat computes for its queue entry is a
  date.
-/

namespace Lmrs

open Python

/-- Parameters with a message, a model and a reply length that reads as an integer. -/
structure TextRequest (params : Dict Value) (message modelName : String) (maxTokens : Int) : Prop where
  message_eq : Value.item params "message" = .str message
  message_ne : message ≠ ""
  modelName_eq : Value.item params "model_name" = .str modelName
  modelName_ne : modelName ≠ ""
  maxTokens_eq : maxTokensParam params = .ok maxTokens

/-- The outcome a command reports. -/
def CommandRun.outcome (run : CommandRun CommandResult) : Option CommandOutcome :=
  run.result.toOption.map CommandResult.outcome

/-- Both fail for one reason, or both end in one exception. -/
def SameFailure : Except PyException CommandResult → Except PyException CommandResult → Prop
  | .ok estimate, .ok chat =>
      estimate.success = false ∧ chat.success = false ∧ estimate.reasonCode = chat.reasonCode
  | .error exc, .error exc' => exc = exc'
  | _, _ => False

/-- A dry run and a chat agree: the one says the request would execute exactly when the other calls
the runtime, that it would wait exactly when the other queues it, and otherwise they fail alike. -/
structure Agree (queue : RequestQueue) (estimate chat : CommandRun CommandResult) : Prop where
  executes : estimate.outcome = some .wouldExecute ↔ chat.calls ≠ []
  queues : estimate.outcome = some .wouldQueue ↔
    chat.outcome = some .queued ∧ ∃ entry, chat.state.queue = queue.add entry
  otherwise : estimate.outcome ≠ some .wouldExecute → estimate.outcome ≠ some .wouldQueue →
    SameFailure estimate.result chat.result

/-- The plan of a request whose KV cost is known. -/
def textPlan (r : Readings) (params : Dict Value) (message modelName : String) (maxTokens : Int)
    (profile : {p : KVCacheProfile // p.Positive}) (expiresAt : Int) : ChatPlan where
  requestId := textParam params "request_id" ("chat-" ++ r.uuid)
  modelName := modelName
  messages := messagesFromParams params message
  maxTokens := maxTokens
  profile := profile
  expiresAt := expiresAt
  temperature := Dict.get? params "temperature"
  sessionId := textParam params "session_id" "adapter"
  admittedAt := r.now
  breakdown := promptTokenBreakdown r modelName (messagesFromParams params message) maxTokens
  perRequestOverheadBytes := intEnv r "LMRS_PER_REQUEST_OVERHEAD_BYTES"
  runtimeBatchOverheadBytes := intEnv r "LMRS_RUNTIME_BATCH_OVERHEAD_BYTES"

/-- The dry run of a plan: its snapshot and its verdict, under the id of an estimate. -/
def ChatPlan.dryRun (plan : ChatPlan) (s : AdapterState) (r : Readings) (requestId : String) :
    Except PyException CommandResult := do
  let capacity ← capacitySnapshot s r plan.modelName
  (chatHandler s).estimate { plan.request capacity with requestId }

section text

variable {s : AdapterState} {r : Readings} {params : Dict Value} {message modelName : String}
  {maxTokens : Int}

/-- The chat of a text request, up to its plan. -/
theorem ChatCommand.plan_of_text (h : TextRequest params message modelName maxTokens) :
    ChatCommand.plan r params =
      match modelKvProfile r modelName with
      | .error exc => .error exc
      | .ok none => .ok (.inl (unsizedResult .chat modelName))
      | .ok (some profile) =>
          (Datetime.addSeconds r.now (intEnv r "LMRS_QUEUE_TTL_SECONDS" 300)).map fun expiresAt =>
            .inr (textPlan r params message modelName maxTokens profile expiresAt) := by
  have hmessage := param_eq_ok.mpr ⟨h.message_eq, h.message_ne⟩
  have hmodel := param_eq_ok.mpr ⟨h.modelName_eq, h.modelName_ne⟩
  unfold ChatCommand.plan
  simp only [hmessage, hmodel, h.maxTokens_eq, bind, Except.bind]
  cases modelKvProfile r modelName with
  | error exc => rfl
  | ok profile? =>
      cases profile? with
      | none => rfl
      | some profile =>
          dsimp only
          cases Datetime.addSeconds r.now (intEnv r "LMRS_QUEUE_TTL_SECONDS" 300) <;> rfl

/-- The dry run of a text request. -/
theorem EstimateCommand.delegate_of_text (h : TextRequest params message modelName maxTokens)
    (expiresAt : Int) :
    EstimateCommand.delegate s r params =
      match modelKvProfile r modelName with
      | .error exc => { result := .error exc, state := s }
      | .ok none => { result := .ok (unsizedResult .estimate modelName), state := s }
      | .ok (some profile) =>
          { result := (textPlan r params message modelName maxTokens profile expiresAt).dryRun s r
              (textParam params "request_id" ("estimate-" ++ r.uuid))
            state := s.measured r } := by
  have hresolve : resolveTargetModel s r params = some modelName := by
    simp [resolveTargetModel, h.modelName_eq, Value.asStr?, h.modelName_ne]
  have htext : (Value.item params "message").asStr? = some message := by
    rw [h.message_eq]
    rfl
  have hdelegate : EstimateCommand.delegate s r params =
      EstimateCommand.textModeEstimate s r params message := by
    unfold EstimateCommand.delegate
    rw [htext]
    split
    · next hnone => cases hnone
    · next hempty => exact absurd (Option.some.inj hempty) h.message_ne
    · next hsome => rw [Option.some.inj hsome]
  rw [hdelegate]
  unfold EstimateCommand.textModeEstimate
  rw [hresolve]
  split
  · next hnone => cases hnone
  · next hempty => exact absurd (Option.some.inj hempty) h.modelName_ne
  · next hsome =>
      cases hsome
      cases modelKvProfile r modelName with
      | error exc => rfl
      | ok profile? =>
          cases profile? with
          | none => rfl
          | some profile =>
              simp only [h.maxTokens_eq]
              rfl

/-- The chat of a plan, by what comes of its snapshot and of its admission. -/
theorem ChatCommand.delegate_of_plan {plan : ChatPlan}
    (hplan : ChatCommand.plan r params = .ok (.inr plan)) :
    ChatCommand.delegate s r params =
      match capacitySnapshot s r plan.modelName with
      | .error exc => { result := .error exc, state := s.measured r }
      | .ok capacity =>
          match (chatHandler s).chatStep s.queue plan.requestMetadata plan.queueMetadata
              (plan.request capacity) with
          | .error exc => { result := .error exc, state := s.measured r }
          | .ok (.refused result) => { result := .ok result, state := s.measured r }
          | .ok (.queued updated _ result) =>
              { result := .ok result, state := { s.measured r with queue := updated } }
          | .ok (.admitted e v) =>
              { result := .ok ((AdmittedChat.mk plan capacity e v).result r), state := s.measured r
                calls := ((AdmittedChat.mk plan capacity e v).execution r).calls } := by
  rw [ChatCommand.delegate_eq_admission]
  unfold ChatCommand.admission
  rw [hplan]
  dsimp only
  cases capacitySnapshot s r plan.modelName with
  | error exc => rfl
  | ok capacity =>
      dsimp only
      cases (chatHandler s).chatStep s.queue plan.requestMetadata plan.queueMetadata
          (plan.request capacity) with
      | error exc => rfl
      | ok step => cases step <;> rfl

/-- A dry run and a chat that fail alike agree. -/
theorem Agree.failed {queue : RequestQueue} {estimate chat : CommandRun CommandResult}
    (hestimate : estimate.outcome ≠ some .wouldExecute ∧ estimate.outcome ≠ some .wouldQueue)
    (hchat : chat.calls = [] ∧ chat.outcome ≠ some .queued)
    (hsame : SameFailure estimate.result chat.result) : Agree queue estimate chat := by
  constructor
  · exact iff_of_false hestimate.1 fun hcalls => hcalls hchat.1
  · exact iff_of_false hestimate.2 fun hqueued => hchat.2 hqueued.1
  · exact fun _ _ => hsame

open PublicCommandExecutor in
/-- A request that is rejected is foretold. -/
theorem agree_of_reject {queue : RequestQueue} {v : AdmissionVerdict} {b : TokenBreakdown}
    {capacity : CapacitySnapshot} {state state' : AdapterState}
    (hdecision : canonicalDecision v.decision = .reject) :
    Agree queue
      { result := .ok (estimateResult v.decision (some v.reasonCode) (some b) (some capacity)), state }
      { result := .ok (chatResult v.decision (some v.reasonCode) (some b) (some capacity))
        state := state' } := by
  have hdry : dryRunOutcome v.decision = .wouldReject := by simp [dryRunOutcome, hdecision]
  have hreal : executionOutcome v.decision = .rejected := by simp [executionOutcome, hdecision]
  refine .failed ?_ ?_ ?_
  · simp [CommandRun.outcome, Except.toOption, estimateResult, hdry]
  · simp [CommandRun.outcome, Except.toOption, chatResult, hreal]
  · simp [SameFailure, estimateResult, chatResult, hdry, hreal]

open PublicCommandExecutor in
/-- A request that waits is foretold. -/
theorem agree_of_queue {queue : RequestQueue} {v : AdmissionVerdict} {b : TokenBreakdown}
    {capacity : CapacitySnapshot} {state state' : AdapterState} {entry : QueueEntry}
    {snapshot : Option (List (Dict Value))} {payload : Option Payload}
    (hdecision : canonicalDecision v.decision = .queue) :
    Agree queue
      { result := .ok (estimateResult v.decision (some v.reasonCode) (some b) (some capacity)), state }
      { result := .ok (chatResult v.decision (some v.reasonCode) (some b) (some capacity) snapshot
          payload)
        state := { state' with queue := queue.add entry } } := by
  have hdry : dryRunOutcome v.decision = .wouldQueue := by simp [dryRunOutcome, hdecision]
  have hreal : executionOutcome v.decision = .queued := by simp [executionOutcome, hdecision]
  constructor
  · simp [CommandRun.outcome, Except.toOption, estimateResult, hdry]
  · refine iff_of_true ?_ ⟨?_, entry, rfl⟩
    · simp [CommandRun.outcome, Except.toOption, estimateResult, hdry]
    · simp [CommandRun.outcome, Except.toOption, chatResult, hreal]
  · intro _ hnot
    simp [CommandRun.outcome, Except.toOption, estimateResult, hdry] at hnot

open PublicCommandExecutor in
/-- A request that is sent to the runtime is foretold. -/
theorem agree_of_execute {queue : RequestQueue} {plan : ChatPlan} {v : AdmissionVerdict}
    {e : RequestCapacityEstimate} {capacity : CapacitySnapshot} {state state' : AdapterState}
    (hplan : ChatCommand.plan r params = .ok (.inr plan))
    (hdecision : canonicalDecision v.decision = .execute) :
    Agree queue
      { result := .ok (estimateResult v.decision (some v.reasonCode) (some e.tokenBreakdown)
          (some capacity))
        state }
      { result := .ok ((AdmittedChat.mk plan capacity e v).result r), state := state'
        calls := ((AdmittedChat.mk plan capacity e v).execution r).calls } := by
  have hdry : dryRunOutcome v.decision = .wouldExecute := by simp [dryRunOutcome, hdecision]
  have hcalls : ((AdmittedChat.mk plan capacity e v).execution r).calls ≠ [] := by
    unfold AdmittedChat.execution
    rw [(ChatCommand.plan_spec hplan).execution_eq]
    exact List.cons_ne_nil _ _
  have hnot : ((AdmittedChat.mk plan capacity e v).result r).outcome ≠ .queued := by
    unfold AdmittedChat.result CanonicalChatHandler.finishChat
    split
    · exact nofun
    · simp [chatResult, executionOutcome, hdecision]
  constructor
  · refine iff_of_true ?_ hcalls
    simp [CommandRun.outcome, Except.toOption, estimateResult, hdry]
  · refine iff_of_false ?_ fun hqueued => hnot (Option.some.inj hqueued.1)
    simp [CommandRun.outcome, Except.toOption, estimateResult, hdry]
  · intro hnever
    simp [CommandRun.outcome, Except.toOption, estimateResult, hdry] at hnever

/-- The dry run of a request under another id, when nothing is switching to its model. -/
theorem estimate_of_requestId {handler : CanonicalChatHandler} (request : AdmissionRequest)
    (requestId : String) (hswitch : handler.switching request.modelName = false) :
    handler.estimate { request with requestId } =
      (CanonicalChatHandler.estimateAndAdmit request).map fun both =>
        PublicCommandExecutor.estimateResult both.2.decision (some both.2.reasonCode)
          (some both.1.tokenBreakdown) (some request.capacity) := by
  have hsame : handler.switching { request with requestId }.modelName = false := hswitch
  rw [CanonicalChatHandler.estimate_of_unswitched hsame,
    CanonicalChatHandler.estimateAndAdmit_requestId]
  cases CanonicalChatHandler.estimateAndAdmit request <;> rfl

/-- **A chat that gets as far as its plan agrees with the dry run of the plan.** -/
theorem agree_of_plan {plan : ChatPlan} (hplan : ChatCommand.plan r params = .ok (.inr plan))
    (requestId : String) (state : AdapterState) :
    Agree s.queue { result := plan.dryRun s r requestId, state }
      (ChatCommand.delegate s r params) := by
  rw [ChatCommand.delegate_of_plan hplan]
  unfold ChatPlan.dryRun
  cases capacitySnapshot s r plan.modelName with
  | error exc => exact .failed ⟨nofun, nofun⟩ ⟨rfl, nofun⟩ rfl
  | ok capacity =>
      dsimp only [bind, Except.bind]
      cases hswitch : (chatHandler s).switching (plan.request capacity).modelName with
      | true =>
          have hchat : (chatHandler s).chatStep s.queue plan.requestMetadata plan.queueMetadata
              (plan.request capacity) =
                .ok (.refused (CanonicalChatHandler.switchingRejection (plan.request capacity)
                  false)) := (CanonicalChatHandler.refused_of_switching hswitch).1
          have hdry : (chatHandler s).estimate { plan.request capacity with requestId } =
              .ok (CanonicalChatHandler.switchingRejection
                { plan.request capacity with requestId } true) := by
            unfold CanonicalChatHandler.estimate
            exact if_pos hswitch
          rw [hchat, hdry]
          exact .failed ⟨nofun, nofun⟩ ⟨rfl, nofun⟩ ⟨rfl, rfl, rfl⟩
      | false =>
          rw [estimate_of_requestId (plan.request capacity) requestId hswitch]
          cases hboth : CanonicalChatHandler.estimateAndAdmit (plan.request capacity) with
          | error exc =>
              rw [CanonicalChatHandler.chatStep_of_error hswitch hboth]
              exact .failed ⟨nofun, nofun⟩ ⟨rfl, nofun⟩ rfl
          | ok both =>
              obtain ⟨e, v⟩ := both
              cases hdecision : canonicalDecision v.decision with
              | reject =>
                  rw [CanonicalChatHandler.chatStep_of_reject hswitch hboth hdecision]
                  exact agree_of_reject hdecision
              | queue =>
                  rw [CanonicalChatHandler.chatStep_of_queue rfl hswitch hboth hdecision]
                  exact agree_of_queue hdecision
              | execute =>
                  rw [CanonicalChatHandler.chatStep_of_execute hswitch hboth hdecision]
                  exact agree_of_execute hplan hdecision

/-- What a dry run measures does not show in the chat after it. -/
theorem ChatCommand.delegate_measured (s : AdapterState) (r : Readings) (params : Dict Value) :
    (ChatCommand.delegate (s.measured r) r params).result = (ChatCommand.delegate s r params).result ∧
      (ChatCommand.delegate (s.measured r) r params).calls =
        (ChatCommand.delegate s r params).calls ∧
      (ChatCommand.delegate (s.measured r) r params).state.queue =
        (ChatCommand.delegate s r params).state.queue := by
  cases hplan : ChatCommand.plan r params with
  | error exc =>
      unfold ChatCommand.delegate
      rw [hplan]
      exact ⟨rfl, rfl, rfl⟩
  | ok planned =>
      cases planned with
      | inl refusal =>
          unfold ChatCommand.delegate
          rw [hplan]
          exact ⟨rfl, rfl, rfl⟩
      | inr plan =>
          have hhandler : chatHandler (s.measured r) = chatHandler s := rfl
          have hqueue : (s.measured r).queue = s.queue := rfl
          rw [ChatCommand.delegate_of_plan hplan, ChatCommand.delegate_of_plan hplan,
            capacitySnapshot_measured, hhandler, hqueue]
          cases capacitySnapshot s r plan.modelName with
          | error exc => exact ⟨rfl, rfl, rfl⟩
          | ok capacity =>
              dsimp only
              cases (chatHandler s).chatStep s.queue plan.requestMetadata plan.queueMetadata
                  (plan.request capacity) with
              | error exc => exact ⟨rfl, rfl, rfl⟩
              | ok step => cases step <;> exact ⟨rfl, rfl, rfl⟩

/-- Agreement reads the result, the completions and the queue of a chat. -/
theorem Agree.congr {queue : RequestQueue} {estimate chat chat' : CommandRun CommandResult}
    (h : Agree queue estimate chat) (hresult : chat'.result = chat.result)
    (hcalls : chat'.calls = chat.calls) (hqueue : chat'.state.queue = chat.state.queue) :
    Agree queue estimate chat' := by
  have houtcome : chat'.outcome = chat.outcome := by
    unfold CommandRun.outcome
    rw [hresult]
  constructor
  · rw [hcalls]
    exact h.executes
  · rw [houtcome, hqueue]
    exact h.queues
  · rw [hresult]
    exact h.otherwise

/-- A dry run leaves the state as it was, or measured. -/
theorem EstimateCommand.state_cases (s : AdapterState) (r : Readings) (params : Dict Value) :
    (EstimateCommand.delegate s r params).state = s ∨
      (EstimateCommand.delegate s r params).state = s.measured r := by
  unfold EstimateCommand.delegate
  split
  · exact Or.inl rfl
  · exact Or.inl rfl
  · unfold EstimateCommand.textModeEstimate
    repeat' split
    all_goals first
      | exact Or.inl rfl
      | exact Or.inr rfl

/-- A dry run sends nothing. -/
theorem EstimateCommand.calls_eq_nil (s : AdapterState) (r : Readings) (params : Dict Value) :
    (EstimateCommand.delegate s r params).calls = [] := by
  unfold EstimateCommand.delegate
  split
  · rfl
  · rfl
  · unfold EstimateCommand.textModeEstimate
    repeat' split
    all_goals rfl

/-- A dry run that raises raises `ValueError`. -/
theorem ChatPlan.dryRun_raises (plan : ChatPlan) (s : AdapterState) (r : Readings)
    (requestId : String) : OnlyRaises "ValueError" (plan.dryRun s r requestId) :=
  .bind (capacitySnapshot_raises s r plan.modelName) fun _ =>
    CanonicalChatHandler.estimate_raises _ _

/-- A chat whose expiry is no date raises `OverflowError`, which no dry run does. -/
theorem not_agree_of_overflow {queue : RequestQueue} {estimate chat : CommandRun CommandResult}
    (hestimate : OnlyRaises "ValueError" estimate.result) (hcalls : chat.calls = [])
    {message : String} (hchat : chat.result = .error (overflowError message)) :
    ¬ Agree queue estimate chat := by
  intro h
  have houtcome : chat.outcome = none := by
    unfold CommandRun.outcome
    rw [hchat]
    rfl
  have hexecutes : estimate.outcome ≠ some .wouldExecute := fun he => h.executes.mp he hcalls
  have hqueues : estimate.outcome ≠ some .wouldQueue := by
    intro hq
    have hqueued := (h.queues.mp hq).1
    rw [houtcome] at hqueued
    cases hqueued
  have hsame := h.otherwise hexecutes hqueues
  rw [hchat] at hsame
  cases hresult : estimate.result with
  | ok result =>
      rw [hresult] at hsame
      exact hsame
  | error exc =>
      rw [hresult] at hsame
      have hkind := hestimate exc hresult
      have heq : exc = overflowError message := hsame
      have hoverflow : (overflowError message).kind = "OverflowError" := rfl
      rw [heq, hoverflow] at hkind
      exact absurd hkind (by decide)

/-- The KV cost of a model can be derived. -/
def Sizable (r : Readings) (modelName : String) : Prop :=
  ∃ profile, modelKvProfile r modelName = .ok (some profile)

/-- The present plus the configured time to live of a queue entry is within the calendar. -/
def ExpiryIsDate (r : Readings) : Prop :=
  r.now + intEnv r "LMRS_QUEUE_TTL_SECONDS" 300 * Datetime.microsPerSecond ≤ Datetime.maxInstant

/-- An expiry within the calendar can be computed. -/
theorem addSeconds_of_expiry (h : ExpiryIsDate r) :
    ∃ expiresAt, Datetime.addSeconds r.now (intEnv r "LMRS_QUEUE_TTL_SECONDS" 300) =
      .ok expiresAt := by
  unfold ExpiryIsDate at h
  rcases Datetime.addSeconds_cases r.now (intEnv r "LMRS_QUEUE_TTL_SECONDS" 300) with
    ⟨-, hdate⟩ | ⟨hpast, -⟩
  · exact hdate
  · omega

/-- **A text request whose expiry is a date, or that cannot be sized, is foretold.** -/
theorem agree_of_expiry (h : TextRequest params message modelName maxTokens)
    (hexpiry : Sizable r modelName → ExpiryIsDate r) :
    Agree s.queue (EstimateCommand.delegate s r params) (ChatCommand.delegate s r params) := by
  have hplan := ChatCommand.plan_of_text (r := r) h
  cases hprofile : modelKvProfile r modelName with
  | error exc =>
      rw [hprofile] at hplan
      rw [EstimateCommand.delegate_of_text h 0, hprofile]
      unfold ChatCommand.delegate
      rw [hplan]
      exact .failed ⟨nofun, nofun⟩ ⟨rfl, nofun⟩ rfl
  | ok profile? =>
      cases profile? with
      | none =>
          rw [hprofile] at hplan
          rw [EstimateCommand.delegate_of_text h 0, hprofile]
          unfold ChatCommand.delegate
          rw [hplan]
          exact .failed ⟨nofun, nofun⟩ ⟨rfl, nofun⟩ ⟨rfl, rfl, rfl⟩
      | some profile =>
          obtain ⟨expiresAt, hdate⟩ := addSeconds_of_expiry (hexpiry ⟨profile, hprofile⟩)
          rw [hprofile, hdate] at hplan
          rw [EstimateCommand.delegate_of_text h expiresAt, hprofile]
          exact agree_of_plan hplan _ _

/-- The chat of a request that can be sized and whose expiry is no date raises. -/
theorem ChatCommand.delegate_of_overflow (h : TextRequest params message modelName maxTokens)
    (hsizable : Sizable r modelName) (hexpiry : ¬ ExpiryIsDate r) :
    (ChatCommand.delegate s r params).calls = [] ∧
      (ChatCommand.delegate s r params).result =
        .error (overflowError "date value out of range") := by
  obtain ⟨profile, hprofile⟩ := hsizable
  have hdate : Datetime.addSeconds r.now (intEnv r "LMRS_QUEUE_TTL_SECONDS" 300) =
      .error (overflowError "date value out of range") := by
    rcases Datetime.addSeconds_cases r.now (intEnv r "LMRS_QUEUE_TTL_SECONDS" 300) with
      ⟨hwithin, -⟩ | ⟨-, hdate⟩
    · exact absurd hwithin hexpiry
    · exact hdate
  have hplan := ChatCommand.plan_of_text (r := r) h
  rw [hprofile, hdate] at hplan
  unfold ChatCommand.delegate
  rw [hplan]
  exact ⟨rfl, rfl⟩

/-- A text request that can be sized and whose expiry is no date is not foretold. -/
theorem not_agree_of_no_date (h : TextRequest params message modelName maxTokens)
    (hsizable : Sizable r modelName) (hexpiry : ¬ ExpiryIsDate r) :
    ¬ Agree s.queue (EstimateCommand.delegate s r params) (ChatCommand.delegate s r params) := by
  obtain ⟨hcalls, hresult⟩ := ChatCommand.delegate_of_overflow (s := s) h hsizable hexpiry
  refine not_agree_of_overflow ?_ hcalls hresult
  obtain ⟨profile, hprofile⟩ := hsizable
  rw [EstimateCommand.delegate_of_text h 0, hprofile]
  exact ChatPlan.dryRun_raises _ _ _ _

end text

/-- **When the dry run foretells the chat.** For every adapter, every reading and every request with a
message, a model and a readable reply length, the dry run leaves the queue as it was and sends nothing;
and it agrees with the chat run in its place, and with the chat run after it, exactly when the model
cannot be sized or the expiry of a queue entry is a date. -/
theorem estimate_agrees_iff (s : AdapterState) (r : Readings) (params : Dict Value)
    (message modelName : String) (maxTokens : Int)
    (htext : TextRequest params message modelName maxTokens) :
    let estimate := EstimateCommand.delegate s r params
    estimate.state.queue = s.queue ∧ estimate.calls = [] ∧
      ((Agree s.queue estimate (ChatCommand.delegate s r params) ∧
          Agree s.queue estimate (ChatCommand.delegate estimate.state r params)) ↔
        (Sizable r modelName → ExpiryIsDate r)) := by
  intro estimate
  refine ⟨EstimateCommand.state_queue s r params, EstimateCommand.calls_eq_nil s r params, ?_⟩
  constructor
  · rintro ⟨hagree, -⟩ hsizable
    by_contra hexpiry
    exact not_agree_of_no_date htext hsizable hexpiry hagree
  · intro hexpiry
    have hagree : Agree s.queue estimate (ChatCommand.delegate s r params) :=
      agree_of_expiry htext hexpiry
    refine ⟨hagree, ?_⟩
    rcases EstimateCommand.state_cases s r params with hstate | hstate
    · rw [show estimate.state = s from hstate]
      exact hagree
    · rw [show estimate.state = s.measured r from hstate]
      obtain ⟨hresult, hcalls, hqueue⟩ := ChatCommand.delegate_measured s r params
      exact hagree.congr hresult hcalls hqueue

/-- A chat with the small model is a text request. -/
theorem smallChat_text (message : String) (maxTokens : Int) (hmessage : message ≠ "") :
    TextRequest (smallChat message maxTokens) message "small" maxTokens :=
  ⟨rfl, hmessage, rfl, by decide, rfl⟩

/-- On the small host the dry run foretells the chat: the expiry is five minutes from now. -/
theorem estimate_agrees_iff_small :
    (Agree {} (EstimateCommand.delegate {} (smallHost 1000) (smallChat "hello" 10))
          (ChatCommand.delegate {} (smallHost 1000) (smallChat "hello" 10)) ∧
        Agree {} (EstimateCommand.delegate {} (smallHost 1000) (smallChat "hello" 10))
          (ChatCommand.delegate
            (EstimateCommand.delegate {} (smallHost 1000) (smallChat "hello" 10)).state
            (smallHost 1000) (smallChat "hello" 10))) ↔
      (Sizable (smallHost 1000) "small" → ExpiryIsDate (smallHost 1000)) :=
  (estimate_agrees_iff {} (smallHost 1000) (smallChat "hello" 10) "hello" "small" 10
    (smallChat_text "hello" 10 (by decide))).2.2

/-- The small host with a time to live that leads past the last date. -/
def endlessHost : Readings :=
  { smallHost 1000 with
    environ := fun name => if name = "LMRS_QUEUE_TTL_SECONDS" then some "300000000000" else none }

/-- **A dry run that would execute and a chat that raises**: the expiry of a queue entry nobody needs is
past the last date. -/
theorem estimate_disagrees_past_last_date :
    ¬ ∀ (s : AdapterState) (r : Readings) (params : Dict Value) (message modelName : String)
        (maxTokens : Int), TextRequest params message modelName maxTokens →
        Agree s.queue (EstimateCommand.delegate s r params) (ChatCommand.delegate s r params) := by
  intro h
  have hagree := h {} endlessHost (smallChat "hello" 10) "hello" "small" 10
    (smallChat_text "hello" 10 (by decide))
  exact hagree.executes.mp rfl rfl

end Lmrs
