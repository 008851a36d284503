import Lmrs.Codes
import Lmrs.Lib.Python

/-!
# Runtime execution

Source: `lmrs/runtime_client.py`.

The client talks to the vLLM HTTP API. What the server answers is an `HttpOutcome`; every function
here is a function of the answers it gets. An execution keeps the list of the completion requests
it sent (`Execution.calls`).

* `executeVllm_cases`, `execute_cases`: an execution sends no completion and fails, or sends exactly
  one, whose body names the request's model, messages and options, and reports what came back.
* `chatMessages_of_roles`: messages with a role and a content are sent as they are.
* `completionFailure_code`: the reason code of a completion that raised.
-/

namespace Lmrs

open Python

/-- Source: `runtime_client.py`, `RuntimeBackend`. -/
inductive RuntimeBackend where
  | vllm | ollama | llamaCpp | gptOss | otherLocal
  deriving DecidableEq, Repr

/-- The string a backend is reported as. -/
def RuntimeBackend.text : RuntimeBackend → String
  | .vllm => "vllm"
  | .ollama => "ollama"
  | .llamaCpp => "llama_cpp"
  | .gptOss => "gpt_oss"
  | .otherLocal => "other_local"

/-- Source: `runtime_client.py`, `NormalizedRuntimeResult`. -/
structure NormalizedRuntimeResult where
  assistantMessage : Value := .none
  usage : Dict Value := []
  status : String := "ok"
  runtimeMetadata : Dict Value := []
  telemetry : Dict Value := []
  metadata : Dict Value := []

/-- Source: `runtime_client.py`, `RuntimeFailureSignal`. -/
structure RuntimeFailureSignal where
  requestId : String
  backend : RuntimeBackend
  reasonCode : ReasonCode
  message : String
  retriable : Bool := false
  metadata : Dict Value := []

/-- Source: `runtime_client.py`, `VLLMModelProbeResult`. -/
structure VLLMModelProbeResult where
  ok : Bool
  servedModels : List String := []
  error : Option String := none
  metadata : Dict Value := []

/-! ## The HTTP client -/

/-- What one HTTP exchange with the server comes to. -/
inductive HttpOutcome where
  /-- An answer whose body parses as JSON. An empty body parses as the empty object. -/
  | body (value : Value)
  /-- `urllib.error.HTTPError`. -/
  | httpError (code : Int) (detail : String)
  /-- `urllib.error.URLError`. -/
  | urlError (reason : String)
  /-- Anything else raised while talking, decoding or parsing. -/
  | raised (exc : PyException)

/-- Source: `runtime_client.py`, `VLLMOpenAIClient._json_request`. -/
def jsonRequest : HttpOutcome → Except PyException (Dict Value)
  | .body (.dict loaded) => .ok loaded
  | .body _ => .error (runtimeError "vLLM returned a non-object JSON response")
  | .httpError code detail =>
      .error (runtimeError ("vLLM HTTP " ++ toString code ++ ": " ++ detail))
  | .urlError reason => .error (runtimeError ("vLLM unavailable: " ++ reason))
  | .raised exc => .error exc

/-- Source: `runtime_client.py`, `VLLMOpenAIClient`. -/
structure VLLMOpenAIClient where
  baseUrl : String := "http://127.0.0.1:8000"
  deriving DecidableEq

namespace VLLMOpenAIClient

/-- The identifiers of a `/v1/models` answer. -/
def modelIds (payload : Dict Value) : List String :=
  match (Value.item payload "data").asList? with
  | some items => items.filterMap fun item => do (Value.item (← item.asDict?) "id").asStr?
  | none => []

/-- Source: `runtime_client.py`, `VLLMOpenAIClient.list_models`. -/
def listModels (client : VLLMOpenAIClient) (models : HttpOutcome) : VLLMModelProbeResult :=
  match jsonRequest models with
  | .error exc =>
      { ok := false, error := some exc.message, metadata := [("base_url", .str client.baseUrl)] }
  | .ok payload =>
      { ok := true, servedModels := modelIds payload
        metadata := [("base_url", .str client.baseUrl)] }

/-- Source: `runtime_client.py`, `VLLMOpenAIClient.is_model_served`. -/
def isModelServed (client : VLLMOpenAIClient) (models : HttpOutcome) (modelName : String) :
    VLLMModelProbeResult :=
  let result := client.listModels models
  if result.ok = false then result
  else if modelName ∈ result.servedModels then
    { ok := true, servedModels := result.servedModels, metadata := result.metadata }
  else
    { ok := false, servedModels := result.servedModels, metadata := result.metadata
      error := some "model is not reported by vLLM /v1/models" }

/-- An option that clashes with a parameter of `chat_completion`, the first one given. -/
def clashingOption (options : Dict Value) : Option String :=
  (options.map Prod.fst).find? fun name => name ∈ ["self", "model_name", "messages"]

/-- The body of a completion request. -/
def completionPayload (modelName : String) (messages : List Value) (options : Dict Value) :
    Dict Value :=
  Dict.update [("model", .str modelName), ("messages", .list messages)] options

/-- The body of a tokenizer request. Source: `runtime_client.py`,
`VLLMOpenAIClient.count_prompt_tokens`. -/
def tokenizePayload (modelName : String) (messages : List Value) : Dict Value :=
  [("model", .str modelName), ("messages", .list messages)]

/-- Source: `runtime_client.py`, `VLLMOpenAIClient.count_prompt_tokens`, given the answer of
`/tokenize`. -/
def countPromptTokens (answer : HttpOutcome) : Option Int :=
  match jsonRequest answer with
  | .error _ => none
  | .ok payload =>
      match (Value.item payload "count").asInt? with
      | some count => some count
      | none => (Value.item payload "tokens").asList?.map fun tokens => (tokens.length : Int)

/-- The server's side of a completion: its answer to a request body, and the measured duration. -/
structure CompletionServer where
  answer : Dict Value → HttpOutcome
  latencyMs : PyFloat := .finite 0

/-- Source: `runtime_client.py`, `VLLMOpenAIClient.chat_completion`: the request bodies sent, and
what the call returns. -/
def chatCompletion (server : CompletionServer) (modelName : String) (messages : List Value)
    (options : Dict Value) : List (Dict Value) × Except PyException (Dict Value) :=
  match clashingOption options with
  | some name =>
      ([], .error (typeError ("VLLMOpenAIClient.chat_completion() got multiple values for argument '"
        ++ name ++ "'")))
  | none =>
      let payload := completionPayload modelName messages options
      ([payload], jsonRequest (server.answer payload))

end VLLMOpenAIClient

/-! ## Reading an admitted request -/

/-- Source: `runtime_client.py`, `_request_value`. -/
def requestValue (admittedRequest : Dict Value) (names : List String) : Value :=
  ((names.map (Value.item admittedRequest)).find? fun v => !v.isNone).getD .none

/-- The role and content of one message, when it has both. -/
def chatMessage? (item : Value) : Option Value := do
  let message ← item.asDict?
  let role ← (Value.item message "role").asStr?
  let content := Value.item message "content"
  if content.isNone then none else some (.dict [("role", .str role), ("content", content)])

/-- Source: `runtime_client.py`, `_chat_messages`. -/
def chatMessages (admittedRequest : Dict Value) : List Value :=
  match requestValue admittedRequest ["messages"] with
  | .none => []
  | .list items => items.filterMap chatMessage?
  | item => [item].filterMap chatMessage?

/-- A message with a role and a content. -/
def roleMessage (role content : String) : Value :=
  .dict [("role", .str role), ("content", .str content)]

/-- Messages with a role and a content are sent as they are. -/
theorem chatMessages_of_roles {request : Dict Value} {items : List Value}
    (hitems : ∀ item ∈ items, ∃ role content, item = roleMessage role content)
    (h : requestValue request ["messages"] = .list items) : chatMessages request = items := by
  have hself : ∀ item ∈ items, chatMessage? item = some item := by
    intro item hitem
    obtain ⟨role, content, rfl⟩ := hitems item hitem
    rfl
  unfold chatMessages
  rw [h]
  show items.filterMap chatMessage? = items
  rw [List.filterMap_congr hself, List.filterMap_some]

/-! ## Execution -/

/-- Source: `runtime_client.py`, `RuntimeClient`. -/
structure RuntimeClient where
  backend : RuntimeBackend
  vllmClient : Option VLLMOpenAIClient := none
  defaultOptions : Dict Value := []

/-- What an execution reports. -/
inductive RuntimeOutcome where
  | normalized (result : NormalizedRuntimeResult)
  | failed (signal : RuntimeFailureSignal)

/-- An execution: the completion requests sent to the server, and what is reported. -/
structure Execution where
  calls : List (Dict Value)
  outcome : RuntimeOutcome

/-- Source: `runtime_client.py`, `_normalize_vllm_payload`. -/
def normalizeVllmPayload (payload : Dict Value) (modelName : String) (latencyMs : PyFloat)
    (baseUrl : String) : NormalizedRuntimeResult :=
  let first : Dict Value :=
    match Value.item payload "choices" with
    | .list (.dict choice :: _) => choice
    | _ => []
  let message := (Value.item first "message").asDict?
  { assistantMessage := (message.map fun m => Value.item m "content").getD .none
    usage := (Value.item payload "usage").asDict?.getD []
    status := "ok"
    runtimeMetadata :=
      [("model", (Dict.get? payload "model").getD (.str modelName)),
       ("response_id", Value.item payload "id"),
       ("finish_reason", Value.item first "finish_reason"), ("base_url", .str baseUrl)]
    telemetry := [("latency_ms", .float latencyMs)]
    metadata := [("role", (message.map fun m => Value.item m "role").getD .none)] }

namespace RuntimeClient

/-- The options a request may also carry at its top level. -/
def topLevelOptions : List String := ["max_tokens", "temperature", "top_p", "stop"]

/-- Source: `runtime_client.py`, `RuntimeClient._vllm_options`. -/
def vllmOptions (client : RuntimeClient) (admittedRequest : Dict Value) : Dict Value :=
  let options :=
    match (requestValue admittedRequest ["options"]).asDict? with
    | some requestOptions => Dict.update client.defaultOptions requestOptions
    | none => client.defaultOptions
  topLevelOptions.foldl
    (fun acc name =>
      let value := requestValue admittedRequest [name]
      if value.isNone then acc else Dict.set acc name value)
    options

/-- The failure signal of a completion that raised. -/
def completionFailure (client : RuntimeClient) (requestId modelName baseUrl : String)
    (error : PyException) : RuntimeFailureSignal :=
  let unavailable := contains "unavailable" error.message
  { requestId, backend := client.backend
    reasonCode := if unavailable then .vllmUnavailable else .runtimeCallFailed
    message := error.message
    retriable := unavailable
    metadata := [("exception_type", .str error.kind), ("base_url", .str baseUrl),
                 ("model_name", .str modelName)] }

/-- Source: `runtime_client.py`, `RuntimeClient._execute_vllm`. -/
def executeVllm (client : RuntimeClient) (server : VLLMOpenAIClient.CompletionServer) (requestId : String)
    (admittedRequest : Dict Value) : Execution :=
  let refuse (reasonCode : ReasonCode) (message : String) : Execution :=
    ⟨[], .failed { requestId, backend := client.backend, reasonCode, message }⟩
  match client.vllmClient with
  | none => refuse .runtimeExecutorUnavailable "no vLLM client is configured"
  | some vllm =>
      match (requestValue admittedRequest ["model_name", "model"]).asStr? with
      | none => refuse .runtimeCallFailed "the admitted request does not name a model"
      | some modelName =>
          if modelName = "" then
            refuse .runtimeCallFailed "the admitted request does not name a model"
          else
            let messages := chatMessages admittedRequest
            if messages.isEmpty then
              refuse .runtimeCallFailed "the admitted request carries no messages"
            else
              let (calls, answer) := VLLMOpenAIClient.chatCompletion server modelName messages
                (client.vllmOptions admittedRequest)
              match answer with
              | .error error =>
                  ⟨calls, .failed
                    (client.completionFailure requestId modelName vllm.baseUrl error)⟩
              | .ok payload =>
                  ⟨calls, .normalized
                    (normalizeVllmPayload payload modelName server.latencyMs vllm.baseUrl)⟩

/-! ### A profile with an executor of its own -/

/-- What the executor of a runtime profile returns. -/
inductive ExecutorResult where
  | normalized (result : NormalizedRuntimeResult)
  | failed (signal : RuntimeFailureSignal)
  | value (raw : Value)

/-- The mapping under a key, or the empty one. -/
def mappingAt (d : Dict Value) (k : String) : Dict Value := (Value.item d k).asDict?.getD []

/-- The failure a mapping reports. -/
def reportedFailure (client : RuntimeClient) (requestId : String) (raw : Dict Value) :
    RuntimeFailureSignal :=
  let code := Value.item raw "reason_code"
  let message := ((Value.item raw "message").or (Value.item raw "error")).or
    (.str "runtime call failed")
  { requestId, backend := client.backend
    reasonCode := if code.truthy then .other code.text else .runtimeCallFailed
    message := message.text
    retriable := (Value.item raw "retriable").truthy
    metadata := mappingAt raw "metadata" }

/-- What the client reports of an executor's result. -/
def executorOutcome (client : RuntimeClient) (requestId : String) :
    ExecutorResult → RuntimeOutcome
  | .normalized result => .normalized result
  | .failed signal => .failed signal
  | .value (.dict raw) =>
      let status := ((Dict.get? raw "status").getD (.str "ok")).text
      if status ∈ ["error", "failed", "failure"] ∨ (Value.item raw "error").truthy then
        .failed (client.reportedFailure requestId raw)
      else
        .normalized
          { assistantMessage :=
              (((Value.item raw "assistant_message").or (Value.item raw "message")).or
                (Value.item raw "content")).or (Value.item raw "response")
            status
            usage := mappingAt raw "usage"
            runtimeMetadata := mappingAt raw "runtime_metadata"
            telemetry := mappingAt raw "telemetry"
            metadata := mappingAt raw "metadata" }
  | .value raw => .normalized { assistantMessage := raw }

/-- Source: `runtime_client.py`, `RuntimeClient.execute`. The executor is the one the runtime
profile carries, if any. -/
def execute (client : RuntimeClient) (server : VLLMOpenAIClient.CompletionServer)
    (admittedRequest : Dict Value)
    (executor : Option (Dict Value → Except PyException ExecutorResult)) : Execution :=
  let requestId := ((requestValue admittedRequest ["request_id", "id"]).or (.str "unknown")).text
  match executor with
  | none =>
      if client.backend = .vllm ∧ client.vllmClient.isSome then
        client.executeVllm server requestId admittedRequest
      else
        ⟨[], .failed { requestId, backend := client.backend
                       reasonCode := .runtimeExecutorUnavailable
                       message := "runtime profile does not expose an executor" }⟩
  | some run =>
      match run admittedRequest with
      | .error exc =>
          ⟨[], .failed { requestId, backend := client.backend, reasonCode := .runtimeCallFailed
                         message := exc.message
                         metadata := [("exception_type", .str exc.kind)] }⟩
      | .ok result => ⟨[], client.executorOutcome requestId result⟩

/-! ### What an execution sends -/

section spec

variable {client : RuntimeClient} {server : VLLMOpenAIClient.CompletionServer}
  {requestId : String} {request : Dict Value}

/-- An exchange was made for `request`: one completion was sent, with the request's own model,
messages and options, and its result is what is reported. -/
structure Exchanged (client : RuntimeClient) (server : VLLMOpenAIClient.CompletionServer)
    (requestId : String) (request : Dict Value) (modelName : String) (vllm : VLLMOpenAIClient)
    (execution : Execution) : Prop where
  configured : client.vllmClient = some vllm
  named : (requestValue request ["model_name", "model"]).asStr? = some modelName
  calls : execution.calls =
    [VLLMOpenAIClient.completionPayload modelName (chatMessages request) (client.vllmOptions request)]
  outcome : execution.outcome =
    match jsonRequest (server.answer (VLLMOpenAIClient.completionPayload modelName
        (chatMessages request) (client.vllmOptions request))) with
    | .error error => .failed (client.completionFailure requestId modelName vllm.baseUrl error)
    | .ok payload =>
        .normalized (normalizeVllmPayload payload modelName server.latencyMs vllm.baseUrl)

/-- **An execution against vLLM** sends nothing and fails, or makes one exchange. -/
theorem executeVllm_cases (client : RuntimeClient) (server : VLLMOpenAIClient.CompletionServer)
    (requestId : String) (request : Dict Value) :
    ((client.executeVllm server requestId request).calls = [] ∧
        ∃ signal, (client.executeVllm server requestId request).outcome = .failed signal) ∨
      ∃ modelName vllm, Exchanged client server requestId request modelName vllm
        (client.executeVllm server requestId request) := by
  unfold executeVllm
  dsimp only
  cases hclient : client.vllmClient with
  | none => exact Or.inl ⟨rfl, _, rfl⟩
  | some vllm =>
      cases hname : (requestValue request ["model_name", "model"]).asStr? with
      | none => exact Or.inl ⟨rfl, _, rfl⟩
      | some modelName =>
          dsimp only
          by_cases hempty : modelName = ""
          · rw [if_pos hempty]
            exact Or.inl ⟨rfl, _, rfl⟩
          · rw [if_neg hempty]
            by_cases hmessages : (chatMessages request).isEmpty = true
            · rw [if_pos hmessages]
              exact Or.inl ⟨rfl, _, rfl⟩
            · rw [if_neg hmessages]
              unfold VLLMOpenAIClient.chatCompletion
              cases hclash : VLLMOpenAIClient.clashingOption (client.vllmOptions request) with
              | some name => exact Or.inl ⟨rfl, _, rfl⟩
              | none =>
                  right
                  refine ⟨modelName, vllm, hclient, hname, ?_, ?_⟩
                  · dsimp only
                    split <;> rfl
                  · dsimp only
                    split <;> rfl

/-- An execution sends at most one completion. -/
theorem execute_calls_length
    (executor : Option (Dict Value → Except PyException ExecutorResult)) :
    (client.execute server request executor).calls.length ≤ 1 := by
  unfold execute
  dsimp only
  cases executor with
  | some run =>
      dsimp only
      split <;> exact Nat.zero_le 1
  | none =>
      dsimp only
      split_ifs with hvllm
      · rcases executeVllm_cases client server _ request with
          ⟨hcalls, -⟩ | ⟨modelName, vllm, hex⟩
        · rw [hcalls]
          exact Nat.zero_le 1
        · rw [hex.calls]
          exact le_rfl
      · exact Nat.zero_le 1

/-- A completion that raised is reported under one of two codes, the first when the server could
not be reached. -/
theorem completionFailure_code (modelName baseUrl : String) (error : PyException) :
    (client.completionFailure requestId modelName baseUrl error).reasonCode = .vllmUnavailable ∨
      (client.completionFailure requestId modelName baseUrl error).reasonCode =
        .runtimeCallFailed := by
  unfold completionFailure
  dsimp only
  split_ifs
  · exact Or.inl rfl
  · exact Or.inr rfl

end spec

end RuntimeClient

end Lmrs
