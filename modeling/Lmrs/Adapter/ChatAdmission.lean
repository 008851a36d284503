import Lmrs.Adapter.Registration

/-!
# What reaches the runtime

The chat command as a whole: for every state of the adapter, every reading and every mapping of
parameters.

* `chat_calls_spec`: the runtime is called at most once, and then with the model, the messages and
  the reply length that were counted, sized and admitted against the snapshot of that command.
* `chat_window_of_answer`: what the context-window check guarantees of a tokenizer's true count, and
  what it guarantees when the tokenizer does not answer.
* `chat_independent_of_probe`: whether the runtime reports the model served has no part in what is
  sent to it.
-/

namespace Lmrs

open Python

section chat

variable (s : AdapterState) (r : Readings) (params : Dict Value)

/-- A chat calls the runtime exactly when its first half admits it, and then with the completion of
its plan. -/
theorem ChatCommand.calls_cases :
    (ChatCommand.delegate s r params).calls = [] ∨
      ∃ chat, ChatCommand.admission s r params = (.admitted chat, s.measured r) ∧
        chat.Admitted s r params ∧ chat.plan.Planned r params ∧
        (ChatCommand.delegate s r params).calls = [chat.plan.payload] := by
  rw [ChatCommand.delegate_eq_admission]
  rcases hcase : ChatCommand.admission s r params with ⟨admission, state⟩
  cases admission with
  | finished result => exact Or.inl rfl
  | admitted chat =>
      obtain ⟨hadm, rfl⟩ := ChatCommand.admission_admitted hcase
      have hplanned := ChatCommand.plan_spec hadm.planned
      refine Or.inr ⟨chat, rfl, hadm, hplanned, ?_⟩
      show (chat.execution r).calls = [chat.plan.payload]
      unfold AdmittedChat.execution
      rw [hplanned.execution_eq]

/-- The fields of the completion of a plan. -/
theorem ChatPlan.payload_fields (plan : ChatPlan) :
    Value.item plan.payload "model" = .str plan.modelName ∧
      Value.item plan.payload "messages" = .list (plan.messages.map ChatMessage.value) ∧
      Value.item plan.payload "max_tokens" = .int plan.maxTokens := by
  obtain ⟨_, _, _, _, temperature, _, _, _, _, _, _, _⟩ := plan
  cases temperature with
  | none => exact ⟨rfl, rfl, rfl⟩
  | some t => exact ⟨rfl, rfl, rfl⟩

/-- The count of a prompt is the tokenizer's answer for the model and the messages, or else a quarter of their
characters. -/
theorem promptTokenBreakdown_input (modelName : String) (messages : List ChatMessage) (reserved : Int) :
    (promptTokenBreakdown r modelName messages reserved).inputTokens =
      (countedTokens r modelName messages).getD (roughTokens messages) := by
  unfold promptTokenBreakdown
  cases countedTokens r modelName messages with
  | none => rfl
  | some counted => rfl

/-- **What a chat sends to the runtime.** Either nothing, or one completion: it names the model and
the messages the prompt was counted with, by the tokenizer's answer for them or by their characters,
and the reply length reserved for admission; the counted and the reserved tokens together fit the
context window the cached model declares, and their bytes with both overheads fit what the snapshot
of this command says is usable. -/
theorem chat_calls_spec :
    (ChatCommand.delegate s r params).calls = [] ∨
      ∃ (plan : ChatPlan) (capacity : CapacitySnapshot) (payload : Dict Value),
        ChatCommand.plan r params = .ok (.inr plan) ∧
        (ChatCommand.delegate s r params).calls = [payload] ∧
        Value.item payload "model" = .str plan.modelName ∧
        Value.item payload "messages" = .list (plan.messages.map ChatMessage.value) ∧
        plan.breakdown = promptTokenBreakdown r plan.modelName plan.messages plan.maxTokens ∧
        plan.breakdown.inputTokens =
          (countedTokens r plan.modelName plan.messages).getD (roughTokens plan.messages) ∧
        Value.item payload "max_tokens" = .int plan.breakdown.reservedOutputTokens ∧
        modelKvProfile r plan.modelName = .ok (some plan.profile) ∧
        plan.breakdown.inputTokens + plan.breakdown.reservedOutputTokens ≤
          plan.profile.1.declaredContextWindow ∧
        capacitySnapshot s r plan.modelName = .ok capacity ∧
        (plan.breakdown.inputTokens + plan.breakdown.reservedOutputTokens) *
              plan.profile.1.kvBytesPerToken +
            intEnv r "LMRS_PER_REQUEST_OVERHEAD_BYTES" +
            intEnv r "LMRS_RUNTIME_BATCH_OVERHEAD_BYTES" ≤
          capacity.usableDynamicVramBytes := by
  rcases ChatCommand.calls_cases s r params with hnone | ⟨chat, -, hadm, hplanned, hcalls⟩
  · exact Or.inl hnone
  · right
    obtain ⟨hmodel, hmessages, hmax⟩ := chat.plan.payload_fields
    have hreserved : chat.plan.breakdown.reservedOutputTokens = chat.plan.maxTokens := by
      rw [hplanned.breakdown]
      exact (promptTokenBreakdown_total r _ _ _).2
    have hfit := hadm.bytes_fit_usable
    unfold ChatPlan.requiredBytes at hfit
    rw [hplanned.perRequest, hplanned.batch] at hfit
    refine ⟨chat.plan, chat.capacity, chat.plan.payload, hadm.planned, hcalls, hmodel, hmessages,
      hplanned.breakdown, ?_, ?_, hplanned.profile, ?_, hadm.snapshot, ?_⟩
    · rw [hplanned.breakdown]
      exact promptTokenBreakdown_input r _ _ _
    · rw [hreserved]
      exact hmax
    · rw [hreserved]
      exact hadm.tokens_fit
    · rw [hreserved]
      exact hfit

/-- **When a chat calls the runtime**: exactly when its plan is sized, no switch of its model is
running, and its tokens and bytes fit. Nothing else has a part in it. -/
theorem ChatCommand.calls_ne_nil_iff :
    (ChatCommand.delegate s r params).calls ≠ [] ↔
      ∃ plan capacity, ChatCommand.plan r params = .ok (.inr plan) ∧
        capacitySnapshot s r plan.modelName = .ok capacity ∧ plan.modelName ∉ s.switches ∧
        (0 ≤ plan.breakdown.inputTokens ∧ 0 ≤ plan.maxTokens) ∧
        plan.breakdown.inputTokens + plan.maxTokens ≤ plan.profile.1.declaredContextWindow ∧
        plan.requiredBytes ≤ capacity.maxDynamicPoolBytes ∧
        plan.requiredBytes ≤ capacity.usableDynamicVramBytes := by
  constructor
  · intro hcalls
    rcases ChatCommand.calls_cases s r params with hnone | ⟨chat, -, hadm, -, -⟩
    · exact absurd hnone hcalls
    · exact ⟨chat.plan, chat.capacity, hadm.planned, hadm.snapshot, hadm.notSwitching,
        hadm.tokens_nonneg, hadm.tokens_fit, hadm.bytes_fit_pool, hadm.bytes_fit_usable⟩
  · rintro ⟨plan, capacity, hplan, hcapacity, hswitch, hnonneg, htokens, hpool, husable⟩
    obtain ⟨chat, hfirst, rfl, rfl⟩ := ChatCommand.admission_of_fits hplan hcapacity hswitch
      hnonneg htokens hpool husable
    rw [ChatCommand.delegate_eq_admission, hfirst]
    show (chat.execution r).calls ≠ []
    unfold AdmittedChat.execution
    rw [(ChatCommand.plan_spec hplan).execution_eq]
    exact List.cons_ne_nil _ _

variable {s r params}

/-- A chat that calls the runtime sends the completion of its plan. -/
theorem ChatCommand.calls_of_plan {plan : ChatPlan}
    (hplan : ChatCommand.plan r params = .ok (.inr plan))
    (hcalls : (ChatCommand.delegate s r params).calls ≠ []) :
    (ChatCommand.delegate s r params).calls = [plan.payload] ∧
      plan.breakdown.inputTokens + plan.maxTokens ≤ plan.profile.1.declaredContextWindow := by
  rcases ChatCommand.calls_cases s r params with hnone | ⟨chat, -, hadm, -, hone⟩
  · exact absurd hnone hcalls
  · have hsame := hplan.symm.trans hadm.planned
    cases hsame
    exact ⟨hone, hadm.tokens_fit⟩

end chat

/-! ## A host with one small model -/

/-- One layer, one head of dimension one, two-byte elements: four bytes a token, a window of 32. -/
def smallConfig : Dict Value :=
  [("num_hidden_layers", .int 1), ("num_attention_heads", .int 1), ("head_dim", .int 1),
   ("max_position_embeddings", .int 32), ("torch_dtype", .str "float16")]

/-- The cache record of the small model. -/
def smallRecord : CachedModelRecord where
  modelName := "small"
  runtimeBackend := "vllm"
  modelPath := "/cache/small"
  quantizationProfile := ""
  declaredContextWindow := 32
  tokenizerProfile := ""
  checksumOrRevision := "main"
  sizeBytes := 1
  downloadedAt := ""
  cacheStatus := .cachedOnDisk

/-- A host whose disk cache holds the small model, on a GPU with `free` bytes free. The runtime does
not answer. -/
def smallHost (free : Int) : Readings where
  gpu := { ok := true, totalBytes := free, freeBytes := free }
  cache := { record := fun name => .ok (if name = "small" then some smallRecord else none) }
  configJson := fun path => if path = "/cache/small" then some (.dict smallConfig) else none

/-- A chat with the small model. -/
def smallChat (message : String) (maxTokens : Int) : Dict Value :=
  [("message", .str message), ("model_name", .str "small"), ("max_tokens", .int maxTokens)]

/-! ## The true token count -/

/-- The tokenizer endpoint answers the true count of a list of messages, or does not answer. -/
def TrueOrSilent (r : Readings) (trueCount : String → List ChatMessage → Int) : Prop :=
  ∀ modelName messages, countedTokens r modelName messages = some (trueCount modelName messages) ∨
    countedTokens r modelName messages = none

/-- What is sent fits the declared window by its true count. -/
def WithinWindow (trueCount : String → List ChatMessage → Int) (s : AdapterState) (r : Readings)
    (params : Dict Value) : Prop :=
  ∀ plan, ChatCommand.plan r params = .ok (.inr plan) →
    (ChatCommand.delegate s r params).calls ≠ [] →
    trueCount plan.modelName plan.messages + plan.maxTokens ≤
      plan.profile.1.declaredContextWindow

/-- **What the window check guarantees of the true count.** Of a request that is sent, either the
tokenizer answered, and the true count with the reply fits the window; or it did not, the prompt
was counted as a quarter of its characters and marked a rough estimate, and that count with the
reply fits. -/
theorem chat_window_of_answer (s : AdapterState) (r : Readings) (params : Dict Value)
    (trueCount : String → List ChatMessage → Int) {plan : ChatPlan}
    (htrue : TrueOrSilent r trueCount) (hplan : ChatCommand.plan r params = .ok (.inr plan))
    (hcalls : (ChatCommand.delegate s r params).calls ≠ []) :
    (countedTokens r plan.modelName plan.messages =
          some (trueCount plan.modelName plan.messages) ∧
        plan.breakdown.roughEstimate = false ∧
        trueCount plan.modelName plan.messages + plan.maxTokens ≤
          plan.profile.1.declaredContextWindow) ∨
      (countedTokens r plan.modelName plan.messages = none ∧
        plan.breakdown.roughEstimate = true ∧
        roughTokens plan.messages + plan.maxTokens ≤ plan.profile.1.declaredContextWindow) := by
  obtain ⟨-, hfit⟩ := ChatCommand.calls_of_plan hplan hcalls
  have hbreakdown := (ChatCommand.plan_spec hplan).breakdown
  rw [hbreakdown] at hfit ⊢
  unfold promptTokenBreakdown at hfit ⊢
  rcases htrue plan.modelName plan.messages with hanswer | hsilent
  · rw [hanswer] at hfit ⊢
    exact Or.inl ⟨rfl, rfl, hfit⟩
  · rw [hsilent] at hfit ⊢
    exact Or.inr ⟨rfl, rfl, hfit⟩

/-- The small host with a tokenizer that answers: five tokens. -/
def countingHost : Readings :=
  { smallHost 1000 with tokenize := fun _ => .body (.dict [("count", .int 5)]) }

/-- On the counting host a chat of ten reply tokens is sent, and the five tokens counted fit. -/
theorem chat_window_of_answer_counting :
    ∃ plan, ChatCommand.plan countingHost (smallChat "hello" 10) = .ok (.inr plan) ∧
      ((countedTokens countingHost plan.modelName plan.messages = some 5 ∧
          plan.breakdown.roughEstimate = false ∧
          5 + plan.maxTokens ≤ plan.profile.1.declaredContextWindow) ∨
        (countedTokens countingHost plan.modelName plan.messages = none ∧
          plan.breakdown.roughEstimate = true ∧
          roughTokens plan.messages + plan.maxTokens ≤ plan.profile.1.declaredContextWindow)) :=
  ⟨_, rfl, chat_window_of_answer {} countingHost (smallChat "hello" 10) (fun _ _ => 5)
    (fun _ _ => Or.inl rfl) rfl (List.cons_ne_nil _ _)⟩

/-- **The window is not kept by true count when the tokenizer is silent**: forty characters that are
forty tokens count as ten, and are sent with a reply of ten to a model whose window is 32. -/
theorem chat_exceeds_window_of_silence :
    ¬ ∀ (s : AdapterState) (r : Readings) (params : Dict Value)
        (trueCount : String → List ChatMessage → Int),
        TrueOrSilent r trueCount → WithinWindow trueCount s r params := by
  intro h
  have hwithin := h {} (smallHost 1000) (smallChat "aaaaaaaaaaaaaaaaaaaaaaaaaaaaaaaaaaaaaaaa" 10)
    (fun _ messages => characters messages) (fun _ _ => Or.inr rfl)
  have hfit := hwithin _ rfl (List.cons_ne_nil _ _)
  exact absurd hfit (by decide)

/-! ## Readiness -/

section readiness

variable (s : AdapterState) (r : Readings) (params : Dict Value)

/-- Another answer of the serving probe. -/
def Readings.withProbe (r : Readings) (probe : HttpOutcome) : Readings := { r with servedProbe := probe }

/-- The pools of a snapshot do not depend on the probe. -/
theorem capacitySnapshot_withProbe (probe : HttpOutcome) (modelName : String)
    {c : CapacitySnapshot} (h : capacitySnapshot s r modelName = .ok c) :
    ∃ c', capacitySnapshot s (r.withProbe probe) modelName = .ok c' ∧
      c'.maxDynamicPoolBytes = c.maxDynamicPoolBytes ∧
      c'.usableDynamicVramBytes = c.usableDynamicVramBytes := by
  obtain ⟨hpools, -⟩ := capacitySnapshot_pools h
  have hsame : payloadPools s (r.withProbe probe) =
      .ok (c.maxDynamicPoolBytes, c.usableDynamicVramBytes) := hpools
  exact capacitySnapshot_isOk hsame

/-- A chat that calls the runtime makes the same call whatever the probe answers. -/
theorem ChatCommand.calls_withProbe_of_ne (probe : HttpOutcome)
    (h : (ChatCommand.delegate s r params).calls ≠ []) :
    (ChatCommand.delegate s (r.withProbe probe) params).calls =
      (ChatCommand.delegate s r params).calls := by
  obtain ⟨plan, capacity, hplan, hcapacity, hswitch, hnonneg, htokens, hpool, husable⟩ :=
    (ChatCommand.calls_ne_nil_iff s r params).mp h
  obtain ⟨capacity', hcapacity', hmax', huse'⟩ :=
    capacitySnapshot_withProbe s r probe plan.modelName hcapacity
  have hplan' : ChatCommand.plan (r.withProbe probe) params = .ok (.inr plan) := hplan
  have hcalls' : (ChatCommand.delegate s (r.withProbe probe) params).calls ≠ [] := by
    refine (ChatCommand.calls_ne_nil_iff s (r.withProbe probe) params).mpr
      ⟨plan, capacity', hplan', hcapacity', hswitch, hnonneg, htokens, ?_, ?_⟩
    · rw [hmax']
      exact hpool
    · rw [huse']
      exact husable
  rw [(ChatCommand.calls_of_plan hplan' hcalls').1, (ChatCommand.calls_of_plan hplan h).1]

/-- What a chat sends does not depend on the probe. -/
theorem ChatCommand.calls_withProbe (probe : HttpOutcome) :
    (ChatCommand.delegate s (r.withProbe probe) params).calls =
      (ChatCommand.delegate s r params).calls := by
  by_cases h : (ChatCommand.delegate s r params).calls = []
  · by_cases h' : (ChatCommand.delegate s (r.withProbe probe) params).calls = []
    · rw [h, h']
    · -- back to the probe that was answered
      exact (ChatCommand.calls_withProbe_of_ne s (r.withProbe probe) params r.servedProbe h').symm
  · exact ChatCommand.calls_withProbe_of_ne s r params probe h

/-- A chat whose exchange with the runtime fails is a failed command. -/
theorem ChatCommand.result_of_failed_exchange {payload : Dict Value} {error : PyException}
    (hcalls : (ChatCommand.delegate s r params).calls = [payload])
    (herror : jsonRequest (r.completion.answer payload) = .error error) :
    ∃ result, (ChatCommand.delegate s r params).result = .ok result ∧ result.success = false ∧
      (result.reasonCode = some .vllmUnavailable ∨
        result.reasonCode = some .runtimeCallFailed) := by
  rcases ChatCommand.calls_cases s r params with hnone | ⟨chat, hfirst, -, hplanned, hone⟩
  · simp [hnone] at hcalls
  · rw [hone] at hcalls
    cases hcalls
    rw [ChatCommand.delegate_eq_admission, hfirst]
    refine ⟨_, rfl, ?_⟩
    unfold AdmittedChat.result AdmittedChat.execution
    rw [hplanned.execution_eq, herror]
    refine ⟨rfl, ?_⟩
    rcases RuntimeClient.completionFailure_code chat.plan.modelName r.vllm.baseUrl error with
      hcode | hcode
    · exact Or.inl (congrArg some hcode)
    · exact Or.inr (congrArg some hcode)

/-- **Readiness is reported, not decided on.** The snapshot of a chat says whether the runtime
reported the model served; what is sent to the runtime is the same whatever it reported; and a
request sent to a runtime that fails the exchange comes back as a failed command. -/
theorem chat_independent_of_probe :
    (∀ probe, (ChatCommand.delegate s (r.withProbe probe) params).calls =
        (ChatCommand.delegate s r params).calls) ∧
      (∀ modelName c, capacitySnapshot s r modelName = .ok c →
        c.runtimeReady = (r.vllm.isModelServed r.servedProbe modelName).ok) ∧
      (∀ payload error, (ChatCommand.delegate s r params).calls = [payload] →
        jsonRequest (r.completion.answer payload) = .error error →
        ∃ result, (ChatCommand.delegate s r params).result = .ok result ∧
          result.success = false ∧
          (result.reasonCode = some .vllmUnavailable ∨
            result.reasonCode = some .runtimeCallFailed)) := by
  refine ⟨ChatCommand.calls_withProbe s r params, ?_, ?_⟩
  · intro modelName c h
    exact (capacitySnapshot_pools h).2
  · intro payload error hcalls herror
    exact ChatCommand.result_of_failed_exchange s r params hcalls herror

end readiness

/-- **A model the runtime does not serve is sent requests all the same**: the probe lists no model,
and the chat is admitted on the pool measured. -/
theorem chat_sent_to_unserved_model :
    ¬ ∀ (s : AdapterState) (r : Readings) (params : Dict Value) (plan : ChatPlan)
        (capacity : CapacitySnapshot),
        ChatCommand.plan r params = .ok (.inr plan) →
        capacitySnapshot s r plan.modelName = .ok capacity →
        (ChatCommand.delegate s r params).calls ≠ [] → capacity.runtimeReady = true := by
  intro h
  have hready := h {} ((smallHost 1000).withProbe (.body (.dict [("data", .list [])])))
    (smallChat "hello" 10) _ _ rfl rfl (List.cons_ne_nil _ _)
  exact absurd hready (by decide)

end Lmrs
