import Lmrs.Adapter.Capacity
import Lmrs.Commands

/-!
# The chat command

Source: `lmrs/adapter/registration.py`, `prompt_token_breakdown`, `model_kv_profile`, `ChatCommand`.

A command is a function of the adapter's state, of what it reads from outside and of its parameters;
it gives a result or an exception, the state afterwards and the completions it sent to the runtime.
The chat command is also given in its two halves: `ChatCommand.admission` is everything up to the
verdict, `AdmittedChat.execution` the runtime call of an admitted request.

* `ChatCommand.delegate_eq_admission`: the chat command is its admission followed by the runtime
  call.
* `ChatCommand.plan_spec`: what a planned chat carries.
* `ChatCommand.admission_admitted`: what an admitted chat satisfies.
* `AdmittedChat.calls_eq`: what an admitted chat sends.
-/

namespace Lmrs

open Python

/-- A command: its result or exception, the state afterwards, and the completions it sent. -/
structure CommandRun (α : Type) where
  result : Except PyException α
  state : AdapterState
  calls : List (Dict Value) := []

/-! ## Sizing a prompt -/

/-- A message of a chat request. -/
structure ChatMessage where
  role : String
  content : String
  deriving DecidableEq

/-- The mapping a message is sent as. -/
def ChatMessage.value (m : ChatMessage) : Value := roleMessage m.role m.content

/-- Source: `registration.py`, `model_kv_profile`. -/
def modelKvProfile (r : Readings) (modelName : String) :
    Except PyException (Option {p : KVCacheProfile // p.Positive}) := do
  let status ← r.cache.status modelName
  match status.record with
  | none => return none
  | some record =>
      if record.modelPath = "" then return none
      else
        match r.configJson record.modelPath with
        | some (.dict loaded) =>
            return deriveKvCacheProfile loaded (r.environ "LMRS_KV_CACHE_DTYPE")
        | _ => return none

/-- The characters of a list of messages. -/
def characters (messages : List ChatMessage) : Int :=
  (messages.map fun m => (m.content.length : Int)).sum

/-- One token per four characters, rounded up. -/
def roughTokens (messages : List ChatMessage) : Int := -((-characters messages) / 4)

/-- The answer of the runtime's tokenizer to a list of messages. -/
def countedTokens (r : Readings) (modelName : String) (messages : List ChatMessage) : Option Int :=
  VLLMOpenAIClient.countPromptTokens
    (r.tokenize (VLLMOpenAIClient.tokenizePayload modelName (messages.map ChatMessage.value)))

/-- Source: `registration.py`, `prompt_token_breakdown`. -/
def promptTokenBreakdown (r : Readings) (modelName : String) (messages : List ChatMessage)
    (reservedOutputTokens : Int) : TokenBreakdown :=
  match countedTokens r modelName messages with
  | some counted =>
      { inputTokens := counted, toolTokens := 0, serviceTokens := 0, reservedOutputTokens
        tokenizerName := modelName, tokenizerAccuracy := "runtime_tokenizer"
        roughEstimate := false }
  | none =>
      { inputTokens := roughTokens messages, toolTokens := 0, serviceTokens := 0
        reservedOutputTokens
        tokenizerName := "characters-per-four", tokenizerAccuracy := "rough"
        roughEstimate := true }

/-- Source: `registration.py`, `_param`. -/
def param (params : Dict Value) (name : String) : Except PyException String :=
  match (Value.item params name).asStr? with
  | some value =>
      if value = "" then .error (valueError (name ++ " must be a non-empty string")) else .ok value
  | none => .error (valueError (name ++ " must be a non-empty string"))

/-- A text parameter, or `fallback` when it is absent or empty. -/
def textParam (params : Dict Value) (name fallback : String) : String :=
  ((Value.item params name).or (.str fallback)).text

/-- The messages of a request: the system text, when there is one, and the user's.
Source: `registration.py`, `_chat_messages_from_params`. -/
def messagesFromParams (params : Dict Value) (message : String) : List ChatMessage :=
  match (Value.item params "system").asStr? with
  | some system =>
      if system = "" then [⟨"user", message⟩] else [⟨"system", system⟩, ⟨"user", message⟩]
  | none => [⟨"user", message⟩]

/-- `int(params.get("max_tokens", 128))`. -/
def maxTokensParam (params : Dict Value) : Except PyException Int :=
  toInt ((Dict.get? params "max_tokens").getD (.int 128))

/-- The handler of the process, with the switch predicate wired in.
Source: `registration.py`, `_CHAT_HANDLER`. -/
def chatHandler (s : AdapterState) : CanonicalChatHandler :=
  { modelSwitchInProgress := some fun modelName => decide (modelName ∈ s.switches) }

/-- The runtime client of the process. Source: `registration.py`, `_RUNTIME_CLIENT`. -/
def runtimeClient (r : Readings) : RuntimeClient :=
  { backend := .vllm, vllmClient := some r.vllm }

/-! ## Chat -/

/-- A chat that is counted and sized, before capacity is read. -/
structure ChatPlan where
  requestId : String
  modelName : String
  messages : List ChatMessage
  maxTokens : Int
  /-- The `temperature` parameter, when given. -/
  temperature : Option Value
  sessionId : String
  admittedAt : Int
  expiresAt : Int
  breakdown : TokenBreakdown
  profile : {p : KVCacheProfile // p.Positive}
  perRequestOverheadBytes : Int
  runtimeBatchOverheadBytes : Int

namespace ChatPlan

/-- The inference options of the request. -/
def options (plan : ChatPlan) : Dict Value :=
  match plan.temperature with
  | some temperature => [("max_tokens", .int plan.maxTokens), ("temperature", temperature)]
  | none => [("max_tokens", .int plan.maxTokens)]

/-- The request handed to the runtime client. -/
def admittedRequest (plan : ChatPlan) : Dict Value :=
  [("request_id", .str plan.requestId), ("model_name", .str plan.modelName),
   ("messages", .list (plan.messages.map ChatMessage.value)), ("options", .dict plan.options)]

/-- The request-side facts for the queue record. -/
def requestMetadata (plan : ChatPlan) : Dict Value := [("session_id", .str plan.sessionId)]

/-- The queue-side facts for the queue record. -/
def queueMetadata (plan : ChatPlan) : Dict Value :=
  [("admitted_at", .str (Datetime.isoformat plan.admittedAt)),
   ("expires_at", .str (Datetime.isoformat plan.expiresAt))]

/-- The inputs of the admission of a plan against a snapshot. -/
def request (plan : ChatPlan) (capacity : CapacitySnapshot) : AdmissionRequest where
  requestId := plan.requestId
  modelName := plan.modelName
  tokenBreakdown := plan.breakdown
  declaredContextWindow := plan.profile.1.declaredContextWindow
  capacity := capacity
  kvBytesPerToken := plan.profile.1.kvBytesPerToken
  perRequestOverheadBytes := plan.perRequestOverheadBytes
  runtimeBatchOverheadBytes := plan.runtimeBatchOverheadBytes

/-- The bytes a plan requires. -/
def requiredBytes (plan : ChatPlan) : Int :=
  (plan.breakdown.inputTokens + plan.maxTokens) * plan.profile.1.kvBytesPerToken +
    plan.perRequestOverheadBytes + plan.runtimeBatchOverheadBytes

end ChatPlan

/-- The result for a model whose KV cost cannot be derived. -/
def unsizedResult (command : CommandName) (modelName : String) : CommandResult :=
  PublicCommandExecutor.failureResult command .hardwareCapacityUnknown none
    [("model_name", .str modelName),
     ("detail", .str ("the model is not cached on disk or its config does not state the KV " ++
        "parameters, so the request cannot be sized"))]

/-- Source: `registration.py`, `ChatCommand.delegate`, up to the reading of the capacity: the
result of a request that cannot be sized, or the plan. -/
def ChatCommand.plan (r : Readings) (params : Dict Value) :
    Except PyException (CommandResult ⊕ ChatPlan) := do
  let message ← param params "message"
  let modelName ← param params "model_name"
  let messages := messagesFromParams params message
  let maxTokens ← maxTokensParam params
  match ← modelKvProfile r modelName with
  | none => return .inl (unsizedResult .chat modelName)
  | some profile =>
      let expiresAt ← Datetime.addSeconds r.now (intEnv r "LMRS_QUEUE_TTL_SECONDS" 300)
      return .inr {
        requestId := textParam params "request_id" ("chat-" ++ r.uuid)
        modelName, messages, maxTokens, profile, expiresAt
        temperature := Dict.get? params "temperature"
        sessionId := textParam params "session_id" "adapter"
        admittedAt := r.now
        breakdown := promptTokenBreakdown r modelName messages maxTokens
        perRequestOverheadBytes := intEnv r "LMRS_PER_REQUEST_OVERHEAD_BYTES"
        runtimeBatchOverheadBytes := intEnv r "LMRS_RUNTIME_BATCH_OVERHEAD_BYTES" }

/-- Source: `registration.py`, `ChatCommand.delegate`. -/
def ChatCommand.delegate (s : AdapterState) (r : Readings) (params : Dict Value) :
    CommandRun CommandResult :=
  match ChatCommand.plan r params with
  | .error exc => { result := .error exc, state := s }
  | .ok (.inl refusal) => { result := .ok refusal, state := s }
  | .ok (.inr plan) =>
      match capacitySnapshot s r plan.modelName with
      | .error exc => { result := .error exc, state := s.measured r }
      | .ok capacity =>
          match (chatHandler s).chat s.queue plan.requestMetadata plan.queueMetadata
              (plan.request capacity)
              (fun request => (runtimeClient r).execute r.completion request none)
              plan.admittedRequest with
          | .error exc => { result := .error exc, state := s.measured r }
          | .ok run =>
              { result := .ok run.result
                state := { s.measured r with queue := run.queueSink.getD s.queue }
                calls := run.calls }

/-! ### The two halves of a chat -/

/-- A chat between its verdict and its runtime call. -/
structure AdmittedChat where
  plan : ChatPlan
  capacity : CapacitySnapshot
  estimate : RequestCapacityEstimate
  verdict : AdmissionVerdict

/-- What the first half of a chat comes to. -/
inductive ChatAdmission where
  | finished (result : Except PyException CommandResult)
  | admitted (chat : AdmittedChat)

/-- The chat command up to the verdict: its outcome and the state afterwards. -/
def ChatCommand.admission (s : AdapterState) (r : Readings) (params : Dict Value) :
    ChatAdmission × AdapterState :=
  match ChatCommand.plan r params with
  | .error exc => (.finished (.error exc), s)
  | .ok (.inl refusal) => (.finished (.ok refusal), s)
  | .ok (.inr plan) =>
      match capacitySnapshot s r plan.modelName with
      | .error exc => (.finished (.error exc), s.measured r)
      | .ok capacity =>
          match (chatHandler s).chatStep s.queue plan.requestMetadata plan.queueMetadata
              (plan.request capacity) with
          | .error exc => (.finished (.error exc), s.measured r)
          | .ok (.refused result) => (.finished (.ok result), s.measured r)
          | .ok (.queued updated _ result) =>
              (.finished (.ok result), { s.measured r with queue := updated })
          | .ok (.admitted estimate verdict) =>
              (.admitted ⟨plan, capacity, estimate, verdict⟩, s.measured r)

/-- The runtime call of an admitted chat. -/
def AdmittedChat.execution (chat : AdmittedChat) (r : Readings) : Execution :=
  (runtimeClient r).execute r.completion chat.plan.admittedRequest none

/-- The result of an admitted chat once the runtime has reported. -/
def AdmittedChat.result (chat : AdmittedChat) (r : Readings) : CommandResult :=
  CanonicalChatHandler.finishChat (chat.plan.request chat.capacity) chat.estimate chat.verdict
    (chat.execution r).outcome

/-- **The chat command is its admission followed by the runtime call.** -/
theorem ChatCommand.delegate_eq_admission (s : AdapterState) (r : Readings) (params : Dict Value) :
    ChatCommand.delegate s r params =
      match ChatCommand.admission s r params with
      | (.finished result, state) => { result, state }
      | (.admitted chat, state) =>
          { result := .ok (chat.result r), state, calls := (chat.execution r).calls } := by
  unfold ChatCommand.delegate ChatCommand.admission
  cases ChatCommand.plan r params with
  | error exc => rfl
  | ok planned =>
      cases planned with
      | inl refusal => rfl
      | inr plan =>
          dsimp only
          cases capacitySnapshot s r plan.modelName with
          | error exc => rfl
          | ok capacity =>
              dsimp only [CanonicalChatHandler.chat]
              cases (chatHandler s).chatStep s.queue plan.requestMetadata plan.queueMetadata
                  (plan.request capacity) with
              | error exc => rfl
              | ok step =>
                  cases step with
                  | refused result => rfl
                  | queued updated entry result => rfl
                  | admitted estimate verdict => rfl

/-! ## What the two halves guarantee -/

section spec

variable {s : AdapterState} {r : Readings} {params : Dict Value} {plan : ChatPlan}

/-- **What a planned chat carries**: the messages of its parameters, counted for its model, with the
reply's tokens reserved in the breakdown. -/
structure ChatPlan.Planned (plan : ChatPlan) (r : Readings) (params : Dict Value) : Prop where
  modelName_ne : plan.modelName ≠ ""
  modelName : Value.item params "model_name" = .str plan.modelName
  messages : ∃ message, plan.messages = messagesFromParams params message
  breakdown : plan.breakdown =
    promptTokenBreakdown r plan.modelName plan.messages plan.maxTokens
  admittedAt : plan.admittedAt = r.now
  expiresAt : plan.expiresAt =
    r.now + intEnv r "LMRS_QUEUE_TTL_SECONDS" 300 * Datetime.microsPerSecond
  profile : modelKvProfile r plan.modelName = .ok (some plan.profile)
  perRequest : plan.perRequestOverheadBytes = intEnv r "LMRS_PER_REQUEST_OVERHEAD_BYTES"
  batch : plan.runtimeBatchOverheadBytes = intEnv r "LMRS_RUNTIME_BATCH_OVERHEAD_BYTES"

/-- **Which text parameters pass their check**: the strings that are not empty. -/
theorem param_eq_ok {name value : String} :
    param params name = .ok value ↔ Value.item params name = .str value ∧ value ≠ "" := by
  unfold param
  cases hitem : Value.item params name with
  | str text =>
      by_cases hempty : text = ""
      · simp only [Value.asStr?, hempty, if_true]
        constructor
        · intro h
          cases h
        · rintro ⟨h, hne⟩
          cases h
          exact absurd rfl hne
      · simp only [Value.asStr?, hempty, if_false]
        constructor
        · intro h
          cases h
          exact ⟨rfl, hempty⟩
        · rintro ⟨h, -⟩
          cases h
          rfl
  | _ => simp [Value.asStr?]

/-- A plan is planned from its parameters. -/
theorem ChatCommand.plan_spec (h : ChatCommand.plan r params = .ok (.inr plan)) :
    plan.Planned r params := by
  unfold ChatCommand.plan at h
  obtain ⟨message, hmessage, h⟩ := bind_eq_ok.mp h
  obtain ⟨modelName, hmodel, h⟩ := bind_eq_ok.mp h
  obtain ⟨maxTokens, -, h⟩ := bind_eq_ok.mp h
  obtain ⟨profile?, hprofile, h⟩ := bind_eq_ok.mp h
  cases profile? with
  | none => cases h
  | some profile =>
      obtain ⟨expiresAt, hexpires, h⟩ := bind_eq_ok.mp h
      cases h
      obtain ⟨hname, hpresent⟩ := param_eq_ok.mp hmodel
      exact ⟨hpresent, hname, ⟨message, rfl⟩, rfl, rfl, Datetime.addSeconds_eq_ok hexpires, hprofile, rfl,
        rfl⟩

/-- A chat that is refused before capacity is read names a model whose KV cost cannot be derived. -/
theorem ChatCommand.plan_refused {refusal : CommandResult}
    (h : ChatCommand.plan r params = .ok (.inl refusal)) :
    ∃ modelName, Value.item params "model_name" = .str modelName ∧
      modelKvProfile r modelName = .ok none ∧ refusal = unsizedResult .chat modelName := by
  unfold ChatCommand.plan at h
  obtain ⟨message, hmessage, h⟩ := bind_eq_ok.mp h
  obtain ⟨modelName, hmodel, h⟩ := bind_eq_ok.mp h
  obtain ⟨maxTokens, -, h⟩ := bind_eq_ok.mp h
  obtain ⟨profile?, hprofile, h⟩ := bind_eq_ok.mp h
  cases profile? with
  | none =>
      cases h
      exact ⟨modelName, (param_eq_ok.mp hmodel).1, hprofile, rfl⟩
  | some profile =>
      obtain ⟨expiresAt, -, h⟩ := bind_eq_ok.mp h
      cases h

/-- The four components of a prompt's breakdown: only the input and the reserved reply count. -/
theorem promptTokenBreakdown_total (r : Readings) (modelName : String)
    (messages : List ChatMessage) (reserved : Int) :
    (promptTokenBreakdown r modelName messages reserved).total =
        (promptTokenBreakdown r modelName messages reserved).inputTokens + reserved ∧
      (promptTokenBreakdown r modelName messages reserved).reservedOutputTokens = reserved := by
  unfold promptTokenBreakdown TokenBreakdown.total
  split
  · exact ⟨by simp, rfl⟩
  · exact ⟨by simp, rfl⟩

/-- **What an admitted chat satisfies**: its plan was made from the parameters, its snapshot is the
one this command took, and its tokens and bytes fit. -/
structure AdmittedChat.Admitted (chat : AdmittedChat) (s : AdapterState) (r : Readings)
    (params : Dict Value) : Prop where
  planned : ChatCommand.plan r params = .ok (.inr chat.plan)
  snapshot : capacitySnapshot s r chat.plan.modelName = .ok chat.capacity
  notSwitching : chat.plan.modelName ∉ s.switches
  tokens_nonneg : 0 ≤ chat.plan.breakdown.inputTokens ∧ 0 ≤ chat.plan.maxTokens
  tokens_fit : chat.plan.breakdown.inputTokens + chat.plan.maxTokens ≤
    chat.plan.profile.1.declaredContextWindow
  bytes : chat.verdict.requiredDynamicVramBytes = chat.plan.requiredBytes
  bytes_nonneg : 0 ≤ chat.plan.requiredBytes
  bytes_fit_pool : chat.plan.requiredBytes ≤ chat.capacity.maxDynamicPoolBytes
  bytes_fit_usable : chat.plan.requiredBytes ≤ chat.capacity.usableDynamicVramBytes

/-- The wired handler refuses exactly the models a switch is running for. -/
theorem chatHandler_switching {modelName : String} :
    (chatHandler s).switching modelName = false ↔ modelName ∉ s.switches := by
  simp [chatHandler, CanonicalChatHandler.switching]

/-- An estimate of a plan requires the plan's tokens and bytes. -/
theorem ChatPlan.Planned.estimate_figures {capacity : CapacitySnapshot} {e : RequestCapacityEstimate}
    {v : AdmissionVerdict} (hplan : plan.Planned r params)
    (h : CanonicalChatHandler.estimateAndAdmit (plan.request capacity) = .ok (e, v)) :
    (0 ≤ plan.breakdown.inputTokens ∧ 0 ≤ plan.maxTokens) ∧
      e.requiredTokens = plan.breakdown.inputTokens + plan.maxTokens ∧
      v.requiredDynamicVramBytes = plan.requiredBytes ∧ 0 ≤ plan.requiredBytes ∧
      e.declaredContextWindow = plan.profile.1.declaredContextWindow := by
  obtain ⟨hsized, -, -, hb, hwindow, hkv, hreq, hbatch, hv⟩ :=
    CanonicalChatHandler.estimateAndAdmit_eq_ok h
  obtain ⟨htotal, hreserved⟩ :=
    promptTokenBreakdown_total r plan.modelName plan.messages plan.maxTokens
  rw [← hplan.breakdown] at htotal hreserved
  have hbreakdown : e.tokenBreakdown = plan.breakdown := hb
  have htokens : e.requiredTokens = plan.breakdown.inputTokens + plan.maxTokens := by
    rw [hsized.tokens, hbreakdown, htotal]
  have hbytes : e.requiredDynamicVramBytes = plan.requiredBytes := by
    rw [hsized.bytes, hkv, hreq, hbatch, htokens]
    rfl
  have hverdict : v.requiredDynamicVramBytes = e.requiredDynamicVramBytes := by
    rw [hv]
    exact (decideAdmission_fields e _ _ _).2.2.2
  have hnonneg := hsized.breakdown
  rw [hbreakdown] at hnonneg
  refine ⟨⟨hnonneg.input, hreserved ▸ hnonneg.reserved⟩, htokens, hverdict.trans hbytes, ?_, hwindow⟩
  rw [← hbytes]
  exact hsized.bytes_nonneg

/-- **How the first half of a chat ends**: before capacity is read, with the state as it was; after,
with the measured state; with the request waiting in the queue; or admitted. -/
theorem ChatCommand.admission_cases (s : AdapterState) (r : Readings) (params : Dict Value) :
    (∃ result, ChatCommand.admission s r params = (.finished result, s)) ∨
      (∃ result, ChatCommand.admission s r params = (.finished result, s.measured r)) ∨
      ∃ plan capacity, ChatCommand.plan r params = .ok (.inr plan) ∧
        capacitySnapshot s r plan.modelName = .ok capacity ∧
        ((∃ updated entry result,
            (chatHandler s).chatStep s.queue plan.requestMetadata plan.queueMetadata
              (plan.request capacity) = .ok (.queued updated entry result) ∧
            ChatCommand.admission s r params =
              (.finished (.ok result), { s.measured r with queue := updated })) ∨
          ∃ e v,
            (chatHandler s).chatStep s.queue plan.requestMetadata plan.queueMetadata
              (plan.request capacity) = .ok (.admitted e v) ∧
            ChatCommand.admission s r params =
              (.admitted ⟨plan, capacity, e, v⟩, s.measured r)) := by
  unfold ChatCommand.admission
  cases hplan : ChatCommand.plan r params with
  | error exc => exact Or.inl ⟨_, rfl⟩
  | ok planned =>
      cases planned with
      | inl refusal => exact Or.inl ⟨_, rfl⟩
      | inr plan =>
          right
          dsimp only
          cases hcapacity : capacitySnapshot s r plan.modelName with
          | error exc => exact Or.inl ⟨_, rfl⟩
          | ok capacity =>
              dsimp only
              cases hstep : (chatHandler s).chatStep s.queue plan.requestMetadata
                  plan.queueMetadata (plan.request capacity) with
              | error exc => exact Or.inl ⟨_, rfl⟩
              | ok step =>
                  cases step with
                  | refused result => exact Or.inl ⟨_, rfl⟩
                  | queued updated entry result =>
                      exact Or.inr ⟨plan, capacity, rfl, hcapacity,
                        Or.inl ⟨updated, entry, result, hstep, rfl⟩⟩
                  | admitted e v =>
                      exact Or.inr ⟨plan, capacity, rfl, hcapacity, Or.inr ⟨e, v, hstep, rfl⟩⟩

/-- **What an admitted chat satisfies.** The state it leaves is the measured one. -/
theorem ChatCommand.admission_admitted {chat : AdmittedChat} {state : AdapterState}
    (h : ChatCommand.admission s r params = (.admitted chat, state)) :
    chat.Admitted s r params ∧ state = s.measured r := by
  rcases ChatCommand.admission_cases s r params with ⟨_, hcase⟩ | ⟨_, hcase⟩ |
    ⟨plan, capacity, hplan, hcapacity, ⟨_, _, _, _, hcase⟩ | ⟨e, v, hstep, hcase⟩⟩
  · simp [hcase] at h
  · simp [hcase] at h
  · simp [hcase] at h
  · rw [hcase] at h
    cases h
    obtain ⟨hswitch, hboth, htokens, hpool, husable⟩ :=
      CanonicalChatHandler.chatStep_admitted hstep
    obtain ⟨hnonneg, hsum, hbytes, hbytes_nonneg, hwindow⟩ :=
      (ChatCommand.plan_spec hplan).estimate_figures hboth
    rw [hsum, hwindow] at htokens
    rw [hbytes] at hpool husable
    exact ⟨⟨hplan, hcapacity, chatHandler_switching.mp hswitch, hnonneg, htokens, hbytes,
      hbytes_nonneg, hpool, husable⟩, rfl⟩

/-- The runtime client adds no option of its own to those of a plan. -/
theorem ChatPlan.vllmOptions_eq (plan : ChatPlan) (r : Readings) :
    (runtimeClient r).vllmOptions plan.admittedRequest = plan.options := by
  obtain ⟨_, _, _, _, temperature, _, _, _, _, _, _, _⟩ := plan
  cases temperature with
  | none => rfl
  | some t => rfl

/-- The messages of a plan are sent as they are. -/
theorem ChatPlan.chatMessages_eq (plan : ChatPlan) :
    chatMessages plan.admittedRequest = plan.messages.map ChatMessage.value := by
  refine chatMessages_of_roles ?_ rfl
  intro item hitem
  obtain ⟨m, -, rfl⟩ := List.mem_map.mp hitem
  exact ⟨m.role, m.content, rfl⟩

/-- A request has at least the user's message. -/
theorem messagesFromParams_ne_nil (params : Dict Value) (message : String) :
    messagesFromParams params message ≠ [] := by
  unfold messagesFromParams
  split
  · split_ifs <;> simp
  · simp

/-- The completion body of a plan. -/
def ChatPlan.payload (plan : ChatPlan) : Dict Value :=
  VLLMOpenAIClient.completionPayload plan.modelName (plan.messages.map ChatMessage.value)
    plan.options

/-- **What an admitted chat sends**: one completion, with the model and the messages of its plan and
the reply's tokens it reserved. -/
theorem ChatPlan.Planned.execution_eq (hplan : plan.Planned r params) :
    (runtimeClient r).execute r.completion plan.admittedRequest none =
      { calls := [plan.payload]
        outcome :=
          match jsonRequest (r.completion.answer plan.payload) with
          | .error error =>
              .failed ((runtimeClient r).completionFailure
                ((requestValue plan.admittedRequest ["request_id", "id"]).or (.str "unknown")).text
                plan.modelName r.vllm.baseUrl error)
          | .ok payload =>
              .normalized (normalizeVllmPayload payload plan.modelName r.completion.latencyMs
                r.vllm.baseUrl) } := by
  have hname : requestValue plan.admittedRequest ["model_name", "model"] = .str plan.modelName := rfl
  have hmessages : (chatMessages plan.admittedRequest).isEmpty = false := by
    obtain ⟨message, hm⟩ := hplan.messages
    rw [plan.chatMessages_eq, hm]
    simpa using messagesFromParams_ne_nil params message
  have hclash : VLLMOpenAIClient.clashingOption plan.options = none := by
    unfold ChatPlan.options
    split <;> rfl
  unfold RuntimeClient.execute
  simp only [runtimeClient, Option.isSome_some, and_self, if_true]
  unfold RuntimeClient.executeVllm
  simp only [hname, Value.asStr?, hplan.modelName_ne, if_false, hmessages, Bool.false_eq_true]
  have hopts := plan.vllmOptions_eq r
  simp only [runtimeClient] at hopts
  simp only [hopts, VLLMOpenAIClient.chatCompletion, hclash, plan.chatMessages_eq]
  show (match jsonRequest (r.completion.answer plan.payload) with
    | .error error => _
    | .ok payload => _) = _
  split <;> rfl

/-- A plan without a negative figure has an estimate and a verdict. -/
theorem ChatPlan.Planned.estimateAndAdmit_isOk (hplan : plan.Planned r params)
    (capacity : CapacitySnapshot)
    (hnonneg : 0 ≤ plan.breakdown.inputTokens ∧ 0 ≤ plan.maxTokens) :
    ∃ e, CanonicalChatHandler.estimateAndAdmit (plan.request capacity) =
      .ok (e, decideAdmission e capacity) := by
  have hb : plan.breakdown.NonNegative := by
    have hinput := hnonneg.1
    rw [hplan.breakdown] at hinput ⊢
    unfold promptTokenBreakdown at hinput ⊢
    split at hinput
    · exact ⟨hinput, le_rfl, le_rfl, hnonneg.2⟩
    · exact ⟨hinput, le_rfl, le_rfl, hnonneg.2⟩
  have hkv := plan.profile.2.kvBytesPerToken_pos
  have hreq : 0 ≤ plan.perRequestOverheadBytes := hplan.perRequest ▸ intEnv_nonneg r _ le_rfl
  have hbatch : 0 ≤ plan.runtimeBatchOverheadBytes := hplan.batch ▸ intEnv_nonneg r _ le_rfl
  obtain ⟨e, he⟩ := estimateRequestCapacity_isOk plan.requestId plan.modelName
    plan.profile.1.declaredContextWindow capacity.usableDynamicVramBytes hb
    (Int.le_of_lt hkv) hreq hbatch
  refine ⟨e, ?_⟩
  show (estimateRequestCapacity plan.requestId plan.modelName plan.breakdown
    plan.profile.1.declaredContextWindow capacity.usableDynamicVramBytes
    plan.profile.1.kvBytesPerToken plan.perRequestOverheadBytes
    plan.runtimeBatchOverheadBytes >>= fun _ => _) = _
  rw [he]
  rfl

/-- **A request that fits is admitted**: counted and sized from a plan, with no switch of its model
running, its tokens within the window and its bytes within both pools. -/
theorem ChatCommand.admission_of_fits {capacity : CapacitySnapshot}
    (hplan : ChatCommand.plan r params = .ok (.inr plan))
    (hcapacity : capacitySnapshot s r plan.modelName = .ok capacity)
    (hswitch : plan.modelName ∉ s.switches)
    (hnonneg : 0 ≤ plan.breakdown.inputTokens ∧ 0 ≤ plan.maxTokens)
    (htokens : plan.breakdown.inputTokens + plan.maxTokens ≤ plan.profile.1.declaredContextWindow)
    (hpool : plan.requiredBytes ≤ capacity.maxDynamicPoolBytes)
    (husable : plan.requiredBytes ≤ capacity.usableDynamicVramBytes) :
    ∃ chat, ChatCommand.admission s r params = (.admitted chat, s.measured r) ∧
      chat.plan = plan ∧ chat.capacity = capacity := by
  have hplanned := ChatCommand.plan_spec hplan
  obtain ⟨e, hboth⟩ := hplanned.estimateAndAdmit_isOk capacity hnonneg
  obtain ⟨-, hsum, hbytes, -, hwindow⟩ := hplanned.estimate_figures hboth
  have hexec : canonicalDecision (decideAdmission e capacity).decision = .execute := by
    refine decideAdmission_execute_iff.mpr ⟨?_, ?_, ?_⟩
    · rw [hsum, hwindow]
      exact htokens
    · rw [hbytes]
      exact hpool
    · rw [hbytes]
      exact husable
  have hstep : (chatHandler s).chatStep s.queue plan.requestMetadata plan.queueMetadata
      (plan.request capacity) = .ok (.admitted e (decideAdmission e capacity)) :=
    CanonicalChatHandler.chatStep_of_execute (chatHandler_switching.mpr hswitch) hboth hexec
  refine ⟨⟨plan, capacity, e, decideAdmission e capacity⟩, ?_, rfl, rfl⟩
  unfold ChatCommand.admission
  rw [hplan]
  dsimp only
  rw [hcapacity]
  dsimp only
  rw [hstep]

end spec

end Lmrs
