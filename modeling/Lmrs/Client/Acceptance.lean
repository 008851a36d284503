import Lmrs.Adapter.PromptVerdicts
import Lmrs.Client.Sizing
import Lmrs.Lib.Effects

/-!
# The acceptance of a deployment

Source: `client/lmrs_client/live_check.py`; `client/lmrs_client/verdict.py`, `command_payload`.

The live checks send requests to a server and look at what comes back. Here the server is any machine that
answers requests; `LiveCheck.deployed` is the deployed one, which reads anew at each request.

* `LiveCheck.prompt_admission_live_iff`: what it means for a deployment to pass the prompt-admission check.
-/

namespace Lmrs

open Python

/-! ## The live checks -/

/-- Source: `verdict.py`, `command_payload`. -/
def commandPayload : Value → Dict Value
  | .dict response =>
      match unwrapJob ((Dict.get? response "result").getD (.dict response)) with
      | .dict result =>
          match Value.item result "data" with
          | .dict data =>
              match Value.item data "payload" with
              | .dict payload => payload
              | _ => []
          | _ => []
      | _ => []
  | _ => []

namespace LiveCheck

open Effects

/-- What stops a check: an exception, and the code it carries. -/
abbrev LiveError : Type := PyException × Value

/-- A check on a server, with the requests it sends. -/
abbrev Live (σ : Type) : Type → Type := Effect σ ClientRequest LiveError

/-- A server that can be reached: its answer to a request, and itself afterwards. -/
abbrev LiveServer (σ : Type) : Type := σ → ClientRequest → ClientAnswer × σ

/-- What raises, raised. -/
def lift {σ α : Type} (x : Except PyException α) : Live σ α := fun s =>
  ⟨x.mapError fun exc => (exc, .none), s, []⟩

/-- Source: `live_check.py`, `settings`. -/
def settings (environ : String → Option String) : Except PyException (Dict Value) := do
  match (environ "LMRS_LIVE_HOST").filter fun host => host ≠ "" with
  | none => .error ⟨"RuntimeError", "LMRS_LIVE_HOST is not set; the live check needs a deployed server " ++
      "and must not report success without reaching one"⟩
  | some host =>
      let port ← toInt (.str ((environ "LMRS_LIVE_PORT").getD "8012"))
      let given := [("LMRS_LIVE_TOKEN", "token"), ("LMRS_LIVE_CERT", "cert"), ("LMRS_LIVE_KEY", "key"),
        ("LMRS_LIVE_CA", "ca")].filterMap fun (envName, kwarg) =>
          ((environ envName).filter fun value => value ≠ "").map fun value => (kwarg, Value.str value)
      return ("host", .str host) :: ("port", .int port) ::
        ("protocol", .str ((environ "LMRS_LIVE_PROTOCOL").getD "https")) :: given

/-- Source: `live_check.py`, `acceptance_models`. -/
def acceptanceModels (environ : String → Option String) : Except PyException (String × String) :=
  match (environ "LMRS_LIVE_MODEL").filter fun served => served ≠ "" with
  | none => .error ⟨"RuntimeError", "LMRS_LIVE_MODEL is not set; it must name the model the deployed " ++
      "server serves, because commands driven against an invented name prove nothing about the deployment"⟩
  | some served =>
      let scratch := (environ "LMRS_LIVE_CACHE_MODEL").getD "hf-internal-testing/tiny-random-gpt2"
      if scratch = served then
        .error ⟨"RuntimeError", "LMRS_LIVE_CACHE_MODEL must differ from LMRS_LIVE_MODEL: the cache " ++
          "commands delete what they preload, and deleting the served model would remove the weights the " ++
          "server is running on"⟩
      else .ok (served, scratch)

section checks

variable {σ : Type}

/-- An answer, as it is returned or raised. -/
def returned : ClientAnswer → Except LiveError Value
  | .response value => .ok value
  | .raised exc code => .error (exc, code)

/-- What is returned or raised, as an answer. -/
def answerOf : Except LiveError Value → ClientAnswer
  | .ok value => .response value
  | .error (exc, code) => .raised exc code

/-- Source: `live_check.py`, `_call`. -/
def call (server : LiveServer σ) (command : String) (arguments : Dict Value) : Live σ Value := do
  let request ← lift (LmrsClient.invoke command arguments)
  Effect.call (fun s => (returned (server s request).1, (server s request).2)) fun _ => request

/-- `value in words`: what cannot be hashed is in no set. -/
def isOneOf (value : Value) (words : List String) : Except PyException Bool :=
  match value with
  | .list _ => .error (typeError "unhashable type: 'list'")
  | .dict _ => .error (typeError "unhashable type: 'dict'")
  | value => .ok (words.any fun word => value.asStr? = some word)

/-- `value is True`. -/
def isTrue : Value → Bool
  | .bool true => true
  | _ => false

/-- The runtime's tokenizer counted the prompt. -/
def countedByRuntime (counted : Dict Value) : Except PyException Bool :=
  match (Dict.get? counted "token_breakdown").getD (.dict []) with
  | .dict breakdown =>
      if (Value.item breakdown "tokenizer_accuracy").asStr? = some "runtime_tokenizer" then do
        let inputTokens ← toInt ((Dict.get? breakdown "input_tokens").getD (.int 0))
        return decide (0 < inputTokens)
      else .ok false
  | value => .error ⟨"AttributeError", "'" ++ value.typeName ++ "' object has no attribute 'get'"⟩

/-- The dry run admits the prompt, or lets it wait. -/
def admitsFitting (fitting : Dict Value) : Except PyException Bool := do
  let admitted ← isOneOf (Value.item fitting "outcome") ["would_execute", "would_queue"]
  return admitted && isTrue (Value.item fitting "success")

/-- The result has one outcome, for the window. -/
def overflowsAs (outcome : String) (payload : Dict Value) : Bool :=
  (Value.item payload "outcome").asStr? = some outcome &&
    (Value.item payload "reason_code").asStr? = some "CONTEXT_OVERFLOW"

/-- The runtime has not produced a message. -/
def neverExecuted (rejected : Dict Value) : Bool :=
  match Value.item rejected "payload" with
  | .dict payload => (Dict.get? payload "assistant_message").isNone
  | _ => true

/-- The checks that failed, with one more. -/
def noting (failures : List String) (name : String) (passed : Bool) : List String :=
  if passed then failures else failures ++ [name]

/-- A prompt of the prompt-admission check. -/
def promptArguments (message model : String) (maxTokens : Int) : Dict Value :=
  [("message", .str message), ("model_name", .str model), ("max_tokens", .int maxTokens)]

/-- Source: `live_check.py`, `run_prompt_admission_live`, `drive`. -/
def drivePromptAdmission (server : LiveServer σ) (model : String) : Live σ Int := do
  let counted ← call server "token_count"
    [("message", .str "Count the tokens of this sentence."), ("model_name", .str model)]
  let failures := noting [] "token-count-text" (← lift (countedByRuntime (commandPayload counted)))
  let fitting ← call server "estimate" (promptArguments "Would this prompt fit?" model 16)
  let failures := noting failures "estimate-fitting" (← lift (admitsFitting (commandPayload fitting)))
  let oversized ← call server "estimate" (promptArguments "short" model 10000000)
  let failures := noting failures "estimate-oversized" (overflowsAs "would_reject" (commandPayload oversized))
  let rejected ← call server "chat" (promptArguments "short" model 10000000)
  let failures := noting failures "chat-oversized"
    (overflowsAs "rejected" (commandPayload rejected) && neverExecuted (commandPayload rejected))
  return if failures.isEmpty then 0 else 1

/-- The start of a live check: what it needs of its environment, or the status of a check that could not
run. -/
def starting {α : Type} (needed : Except PyException α) (run : α → Live σ Int) : Live σ Int :=
  match needed with
  | .ok a => run a
  | .error exc => if exc.kind = "RuntimeError" then pure 1 else lift (.error exc)

/-- Source: `live_check.py`, `run_prompt_admission_live`. -/
def runPromptAdmissionLive (environ : String → Option String) (server : LiveServer σ) : Live σ Int :=
  starting (do
      let _ ← settings environ
      acceptanceModels environ)
    fun models => drivePromptAdmission server models.1

end checks

end LiveCheck

/-! ## The deployed server -/

/-- Outcomes have different names. -/
theorem CommandOutcome.text_injective : Function.Injective CommandOutcome.text := by
  intro a b h
  rcases a with _ | _ | _ | _ | _ | _
  all_goals
    rcases b with _ | _ | _ | _ | _ | _
    all_goals first
      | rfl
      | exact absurd h (by decide)

/-- The payload of a response, for what a command returns or raises. -/
def payloadOf : Except PyException DomainResult → Dict Value
  | .ok result => result.payload
  | .error _ => []

/-- **The envelopes do not matter** to the payload either. -/
theorem commandPayload_wrap (command : CommandName) (out : Except PyException DomainResult)
    (envelope : Envelope) : commandPayload (envelope.wrap (execute command out)) = payloadOf out := by
  have hresult : Dict.get? (execute command out) "result" = none := by
    rcases out with exc | result
    all_goals rfl
  have hjob : Dict.get? (execute command out) "job_id" = none := by
    rcases out with exc | result
    all_goals rfl
  have hplain : commandPayload (.dict (execute command out)) = payloadOf out := by
    rcases out with exc | result
    all_goals rfl
  rcases envelope with _ | fields | ⟨fields, facts, jobId⟩
  · exact hplain
  · rw [← hplain]
    simp only [Envelope.wrap, commandPayload, Dict.get?_set_self, hresult, Option.getD_some, Option.getD_none]
  · have hid : Dict.get? (Dict.set (Dict.set facts "job_id" jobId) "result" (.dict (execute command out)))
        "job_id" = some jobId := by
      rw [Dict.get?_set_of_ne _ _ (by decide), Dict.get?_set_self]
    have hinner : Value.item (Dict.set (Dict.set facts "job_id" jobId) "result" (.dict (execute command out)))
        "result" = .dict (execute command out) := by
      rw [Value.item, Dict.get?_set_self]
      rfl
    rw [← hplain]
    simp only [Envelope.wrap, commandPayload, Dict.get?_set_self, hresult, Option.getD_some, Option.getD_none,
      unwrapJob, hid, hinner, hjob]

namespace LiveCheck

open Effects

/-- A deployment: what the server reads at each request of a check, and what the framework does to it. -/
structure Deployment where
  readings : Nat → PublicReadings
  framework : Nat → Framework

/-- What the commands read of a store at a request. -/
def Deployment.reads (d : Deployment) (store : CacheStore) (n : Nat) : Readings := (d.readings n).withStore store

/-- The deployed server, the completions it has sent to the runtime, and the requests it has answered. -/
structure Watched where
  state : PublicState
  sent : List (Dict Value) := []
  answered : Nat := 0

/-- The next request, answered. -/
def Deployment.serve (d : Deployment) (w : Watched) (request : ClientRequest) : Served :=
  w.state.serve (d.readings w.answered) (d.framework w.answered) request

/-- The server of a deployment, which no one else sends requests to. -/
def deployed (d : Deployment) : LiveServer Watched := fun w request =>
  let served := d.serve w request
  (.response served.response,
    { state := served.state, sent := w.sent ++ served.calls, answered := w.answered + 1 })

/-- A call of the deployed server. -/
theorem call_deployed (d : Deployment) (w : Watched) {command : String} {arguments : Dict Value}
    {request : ClientRequest} (h : LmrsClient.invoke command arguments = .ok request) :
    call (deployed d) command arguments w =
      ⟨.ok (d.serve w request).response, (deployed d w request).2, [request]⟩ := by
  unfold call
  rw [h]
  rfl

theorem invoke_tokenCount (message model : String) :
    LmrsClient.invoke "token_count" [("message", .str message), ("model_name", .str model)] =
      .ok { command := .tokenCount
            params := [("reserved_output_tokens", .int 0), ("message", .str message),
              ("model_name", .str model)] } := rfl

theorem invoke_estimate (message model : String) (maxTokens : Int) :
    LmrsClient.invoke "estimate" (promptArguments message model maxTokens) =
      .ok { command := .estimate, params := promptArguments message model maxTokens } := rfl

/-- What an estimate passes as fitting is what would execute or wait. -/
theorem admitsFitting_payload {out : Except PyException CommandResult}
    (hwords : ∀ result, out = .ok result → result.outcome = .wouldExecute ∨ result.outcome = .wouldQueue →
      result.success = true) :
    ∃ passed, admitsFitting (payloadOf (out.map .command)) = .ok passed ∧
      (passed = true ↔ ∃ result, out = .ok result ∧
        (result.outcome = .wouldExecute ∨ result.outcome = .wouldQueue)) := by
  rcases out with exc | result
  · exact ⟨false, rfl, by simp⟩
  · refine ⟨(["would_execute", "would_queue"].any fun word => some result.outcome.text = some word) &&
      result.success, ?_, ?_⟩
    · show (Except.ok (_ && isTrue (.bool result.success)) : Except PyException Bool) = _
      rcases result.success with _ | _
      all_goals rfl
    · have hsuccess := hwords result rfl
      rcases houtcome : result.outcome with _ | _ | _ | _ | _ | _
      all_goals simp_all [CommandOutcome.text]

/-- A result with one outcome, for the window. -/
theorem overflowsAs_payload {out : Except PyException CommandResult} (outcome : CommandOutcome) :
    overflowsAs outcome.text (payloadOf (out.map .command)) = true ↔
      ∃ result, out = .ok result ∧ result.outcome = outcome ∧ result.SaysOverflow := by
  rcases out with exc | result
  · refine iff_of_false (by simp [payloadOf, Except.map, overflowsAs, Value.item, Dict.get?, Value.asStr?]) ?_
    rintro ⟨_, ⟨⟩, -⟩
  · have hpayload : overflowsAs outcome.text (payloadOf ((Except.ok result).map .command)) =
        ((decide (some result.outcome.text = some outcome.text)) &&
          decide ((reasonValue result.reasonCode).asStr? = some "CONTEXT_OVERFLOW")) := rfl
    have hreason : (reasonValue result.reasonCode).asStr? = result.reasonCode.map ReasonCode.text := by
      rcases result.reasonCode with _ | code
      all_goals rfl
    rw [hpayload, hreason]
    simp only [Bool.and_eq_true, decide_eq_true_eq, Option.some.injEq]
    constructor
    · rintro ⟨hword, hsays⟩
      exact ⟨result, rfl, CommandOutcome.text_injective hword, hsays⟩
    · rintro ⟨_, ⟨⟩, hword, hsays⟩
      exact ⟨congrArg CommandOutcome.text hword, hsays⟩

/-- The count of a prompt passes exactly when the tokenizer of the runtime answered a positive one. -/
theorem countedByRuntime_payload {s : AdapterState} {r : Readings} {params : Dict Value} {message model : String}
    (hmessage : Value.item params "message" = .str message) (hmessage_ne : message ≠ "")
    (hmodel : Value.item params "model_name" = .str model) (hmodel_ne : model ≠ "")
    (hreserved : Dict.get? params "reserved_output_tokens" = some (.int 0)) :
    ∃ passed, countedByRuntime (payloadOf ((TokenCountCommand.delegate s r params).map .mapping)) = .ok passed ∧
      (passed = true ↔ ∃ n, countedTokens r model (messagesFromParams params message) = some n ∧ 0 < n) := by
  have hbreakdown : TokenCountCommand.breakdown s r params =
      .ok (promptTokenBreakdown r model (messagesFromParams params message) 0) := by
    have htext : (Value.item params "message").asStr?.filter (fun text => text ≠ "") = some message := by
      rw [hmessage]
      simp [Value.asStr?, hmessage_ne]
    have hresolve : resolveTargetModel s r params = some model := by
      simp [resolveTargetModel, hmodel, Value.asStr?, hmodel_ne]
    unfold TokenCountCommand.breakdown
    rw [htext, hresolve]
    unfold intParam
    rw [hreserved]
    rfl
  unfold TokenCountCommand.delegate
  rw [hbreakdown]
  unfold promptTokenBreakdown
  rcases hcounted : countedTokens r model (messagesFromParams params message) with _ | n
  · refine ⟨false, ?_, by simp⟩
    dsimp only [bind, Except.bind]
    split
    · rfl
    · rfl
  · dsimp only [bind, Except.bind]
    split
    · next exc hnegative =>
        refine ⟨false, rfl, ?_⟩
        refine iff_of_false (by decide) ?_
        rintro ⟨_, ⟨⟩, hpositive⟩
        have hok := calculateRequiredTokens_eq_ok.mpr
          (⟨⟨by dsimp only; omega, le_rfl, le_rfl, le_rfl⟩, rfl⟩ : TokenBreakdown.NonNegative
            { inputTokens := n, toolTokens := 0, serviceTokens := 0, reservedOutputTokens := 0
              tokenizerName := model, tokenizerAccuracy := "runtime_tokenizer", roughEstimate := false } ∧ _)
        rw [hok] at hnegative
        cases hnegative
    · exact ⟨decide (0 < n), rfl, by simp⟩

theorem invoke_chat (message model : String) (maxTokens : Int) :
    LmrsClient.invoke "chat" (promptArguments message model maxTokens) =
      .ok { command := .chat, params := promptArguments message model maxTokens } := rfl

/-! ### The prompt-admission check -/

/-- What a deployment has to be like to pass the prompt-admission check, by what is read at its four requests: the
runtime counts the first prompt, the second fits, and the third overflows when it is estimated and when it is sent,
each time after what the estimates before it have measured. -/
structure AcceptsPrompts (s : AdapterState) (r : Nat → Readings) (model : String) : Prop where
  counted : ∃ n, countedTokens (r 0) model [⟨"user", "Count the tokens of this sentence."⟩] = some n ∧ 0 < n
  fits : PromptFits s (r 1) model [⟨"user", "Would this prompt fit?"⟩] 16
  overflows : PromptOverflows (s.measured (r 1)) (r 2) model [⟨"user", "short"⟩] 10000000
  refused : PromptOverflows ((s.measured (r 1)).measured (r 2)) (r 3) model [⟨"user", "short"⟩] 10000000
  expiry : ExpiryIsDate (r 3)

/-- An estimate of a prompt that is measured writes down what it has measured. -/
theorem estimate_measured {s : AdapterState} {r : Readings} {params : Dict Value} {message modelName : String}
    {maxTokens : Int} {messages : List ChatMessage} {profile : {p : KVCacheProfile // p.Positive}}
    {capacity : CapacitySnapshot} (h : TextRequest params message modelName maxTokens)
    (hmeasured : PromptMeasured s r modelName messages maxTokens profile capacity) :
    (EstimateCommand.delegate s r params).state = s.measured r := by
  rw [EstimateCommand.delegate_of_text h 0, hmeasured.profile_eq]

/-- What raises nothing is answered. -/
theorem lift_ok {σ α : Type} {x : Except PyException α} {a : α} (h : x = .ok a) (s : σ) :
    (lift x : Live σ α) s = ⟨.ok a, s, []⟩ := by
  rw [h]
  rfl

/-- No check has failed when none had before and this one passed. -/
theorem noting_isEmpty (failures : List String) (name : String) (passed : Bool) :
    (noting failures name passed).isEmpty = (failures.isEmpty && passed) := by
  unfold noting
  rcases passed with _ | _
  · simp
  · simp

/-- A check that is answered four times: its status, and the four requests it sent. -/
theorem drivePromptAdmission_run {σ : Type} {server : LiveServer σ} {model : String} {s₀ s₁ s₂ s₃ s₄ : σ}
    {counted fitting oversized rejected : Value} {q₁ q₂ q₃ q₄ : ClientRequest} {countedPassed fittingPassed : Bool}
    (h₁ : call server "token_count"
      [("message", .str "Count the tokens of this sentence."), ("model_name", .str model)] s₀ =
        ⟨.ok counted, s₁, [q₁]⟩)
    (h₂ : call server "estimate" (promptArguments "Would this prompt fit?" model 16) s₁ =
      ⟨.ok fitting, s₂, [q₂]⟩)
    (h₃ : call server "estimate" (promptArguments "short" model 10000000) s₂ = ⟨.ok oversized, s₃, [q₃]⟩)
    (h₄ : call server "chat" (promptArguments "short" model 10000000) s₃ = ⟨.ok rejected, s₄, [q₄]⟩)
    (hcounted : countedByRuntime (commandPayload counted) = .ok countedPassed)
    (hfitting : admitsFitting (commandPayload fitting) = .ok fittingPassed) :
    drivePromptAdmission server model s₀ =
      ⟨.ok (if countedPassed = true ∧ fittingPassed = true ∧
          overflowsAs "would_reject" (commandPayload oversized) = true ∧
          overflowsAs "rejected" (commandPayload rejected) = true ∧ neverExecuted (commandPayload rejected) = true
          then 0 else 1), s₄, [q₁, q₂, q₃, q₄]⟩ := by
  unfold drivePromptAdmission
  rw [Effect.bind_ok h₁]
  dsimp only
  rw [Effect.bind_ok (lift_ok hcounted s₁)]
  dsimp only
  rw [Effect.bind_ok h₂]
  dsimp only
  rw [Effect.bind_ok (lift_ok hfitting s₂)]
  dsimp only
  rw [Effect.bind_ok h₃]
  dsimp only
  rw [Effect.bind_ok h₄]
  simp only [pure, Effect.answer, noting_isEmpty, List.isEmpty_nil, Bool.true_and, Bool.and_eq_true, and_assoc]
  rfl

/-- The served model has a name. -/
theorem acceptanceModels_ne {environ : String → Option String} {served scratch : String}
    (h : acceptanceModels environ = .ok (served, scratch)) : served ≠ "" ∧ scratch ≠ served := by
  unfold acceptanceModels at h
  rcases hserved : (environ "LMRS_LIVE_MODEL").filter (fun served => served ≠ "") with _ | name
  · rw [hserved] at h
    cases h
  · rw [hserved] at h
    dsimp only at h
    split_ifs at h with hsame
    cases h
    exact ⟨by simpa using (Option.filter_eq_some_iff.mp hserved).2, hsame⟩

section deployment

variable (p : PublicReadings) (f : Framework) (s : PublicState)

/-- A prompt of the check, as the server is handed it. -/
theorem promptArguments_text {message model : String} (hmessage : message ≠ "") (hmodel : model ≠ "")
    (maxTokens : Int) :
    TextRequest (f.deliver (promptArguments message model maxTokens)) message model maxTokens ∧
      messagesFromParams (f.deliver (promptArguments message model maxTokens)) message = [⟨"user", message⟩] := by
  have hitem (key : String) (hkey : key ∈ schemaProperties) :=
    f.item_deliver (promptArguments message model maxTokens) hkey
  constructor
  · constructor
    · exact hitem "message" (by simp [schemaProperties])
    · exact hmessage
    · exact hitem "model_name" (by simp [schemaProperties])
    · exact hmodel
    · unfold maxTokensParam
      rw [f.get?_deliver _ (by simp [schemaProperties])]
      rfl
  · unfold messagesFromParams
    rw [hitem "system" (by simp [schemaProperties])]
    rfl

/-- The count of the check. -/
theorem serve_counted {message model : String} (hmessage : message ≠ "") (hmodel : model ≠ "") :
    let request : ClientRequest :=
      { command := .tokenCount
        params := [("reserved_output_tokens", .int 0), ("message", .str message), ("model_name", .str model)] }
    ∃ passed, countedByRuntime (commandPayload (s.serve p f request).response) = .ok passed ∧
      (passed = true ↔
        ∃ n, countedTokens (p.withStore s.store) model [⟨"user", message⟩] = some n ∧ 0 < n) := by
  intro request
  have hitem (key : String) (hkey : key ∈ schemaProperties) := f.item_deliver request.params hkey
  have hmessages : messagesFromParams (f.deliver request.params) message = [⟨"user", message⟩] := by
    unfold messagesFromParams
    rw [hitem "system" (by simp [schemaProperties])]
    rfl
  have hcounted := countedByRuntime_payload (s := s.adapter) (r := p.withStore s.store)
    (hitem "message" (by simp [schemaProperties])) hmessage (hitem "model_name" (by simp [schemaProperties])) hmodel
    (f.get?_deliver request.params (by simp [schemaProperties]))
  rw [hmessages] at hcounted
  unfold PublicState.serve
  rw [commandPayload_wrap]
  exact hcounted

/-- A result without a payload of its own has not been executed. -/
theorem neverExecuted_payload {result : CommandResult} (h : result.payload = none) :
    neverExecuted (payloadOf ((Except.ok result).map .command)) = true := by
  show neverExecuted (DomainResult.command result).payload = true
  have hitem : Value.item (DomainResult.command result).payload "payload" =
      optionValue (fun payload => .dict payload.asdict) result.payload := rfl
  unfold neverExecuted
  rw [hitem, h]
  rfl

end deployment

/-- **What passing the prompt-admission check means.** For every deployment, whatever it reads and however its
framework treats each of the requests, and every environment that names it and its models: the check finishes, and
passes exactly when the tokenizer of the runtime counts the first prompt, the second one fits the window of the served
model and the whole pool with its reply, and the third one overflows the window with its reply, both when it is
estimated and when it is sent, with an expiry of a queue entry that is a date. When it passes, nothing was sent to the
runtime and the queue is as it was. -/
theorem prompt_admission_live_iff (d : Deployment) (s : PublicState) (environ : String → Option String)
    (connection : Dict Value) (served scratch : String) (hsettings : settings environ = .ok connection)
    (hmodels : acceptanceModels environ = .ok (served, scratch)) :
    let run := runPromptAdmissionLive environ (deployed d) { state := s }
    ∃ status, run.result = .ok status ∧
      (status = 0 ↔ AcceptsPrompts s.adapter (d.reads s.store) served) ∧
      (status = 0 → run.state.sent = [] ∧ run.state.state.adapter.queue = s.adapter.queue) := by
  have hserved := (acceptanceModels_ne hmodels).1
  have hrun : runPromptAdmissionLive environ (deployed d) { state := s } =
      drivePromptAdmission (deployed d) served { state := s } := by
    unfold runPromptAdmissionLive
    rw [hsettings]
    show starting (acceptanceModels environ) _ _ = _
    rw [hmodels]
    rfl
  let r := d.reads s.store
  let sizing (message : String) (maxTokens : Int) : ClientRequest :=
    { command := .estimate, params := promptArguments message served maxTokens }
  let sending : ClientRequest := { command := .chat, params := promptArguments "short" served 10000000 }
  -- the states before the second estimate and before the chat
  let s₂ := (s.serve (d.readings 1) (d.framework 1) (sizing "Would this prompt fit?" 16)).state
  let s₃ := (s₂.serve (d.readings 2) (d.framework 2) (sizing "short" 10000000)).state
  obtain ⟨hfitting_text, hfitting_messages⟩ :=
    promptArguments_text (d.framework 1) (show "Would this prompt fit?" ≠ "" by decide) hserved 16
  obtain ⟨hshort_text, hshort_messages⟩ :=
    promptArguments_text (d.framework 2) (show "short" ≠ "" by decide) hserved 10000000
  obtain ⟨hsent_text, hsent_messages⟩ :=
    promptArguments_text (d.framework 3) (show "short" ≠ "" by decide) hserved 10000000
  have hqueue₂ : s₂.adapter.queue = s.adapter.queue := EstimateCommand.state_queue ..
  have hqueue₃ : s₃.adapter.queue = s.adapter.queue := (EstimateCommand.state_queue ..).trans hqueue₂
  have hmeasured₂ (hfits : PromptFits s.adapter (r 1) served [⟨"user", "Would this prompt fit?"⟩] 16) :
      s₂.adapter = s.adapter.measured (r 1) := by
    obtain ⟨profile, capacity, hmeasured, -⟩ := hfits
    exact estimate_measured hfitting_text hmeasured
  have hmeasured₃ (hoverflows : PromptOverflows s₂.adapter (r 2) served [⟨"user", "short"⟩] 10000000) :
      s₃.adapter = s₂.adapter.measured (r 2) := by
    obtain ⟨profile, capacity, hmeasured, -⟩ := hoverflows
    exact estimate_measured hshort_text hmeasured
  -- what the four responses carry
  obtain ⟨countedPassed, hcounted, hcounted_iff⟩ := serve_counted (d.readings 0) (d.framework 0) s
    (show "Count the tokens of this sentence." ≠ "" by decide) hserved
  obtain ⟨fittingPassed, hfitting, hfitting_iff⟩ := admitsFitting_payload
    fun _ hresult => (EstimateCommand.success_iff (s := s.adapter) (r := r 1) hfitting_text hresult).mpr
  rw [estimate_fits_iff hfitting_text (by omega), hfitting_messages] at hfitting_iff
  have hresponse₂ : commandPayload (s.serve (d.readings 1) (d.framework 1) (sizing "Would this prompt fit?" 16)).response =
      payloadOf ((EstimateCommand.delegate s.adapter (r 1)
        ((d.framework 1).deliver (promptArguments "Would this prompt fit?" served 16))).result.map .command) :=
    commandPayload_wrap ..
  have hresponse₃ : commandPayload (s₂.serve (d.readings 2) (d.framework 2) (sizing "short" 10000000)).response =
      payloadOf ((EstimateCommand.delegate s₂.adapter (r 2)
        ((d.framework 2).deliver (promptArguments "short" served 10000000))).result.map .command) :=
    commandPayload_wrap ..
  have hresponse₄ : commandPayload (s₃.serve (d.readings 3) (d.framework 3) sending).response =
      payloadOf ((ChatCommand.delegate s₃.adapter (r 3)
        ((d.framework 3).deliver (promptArguments "short" served 10000000))).result.map .command) :=
    commandPayload_wrap ..
  have hoversized : overflowsAs "would_reject"
      (commandPayload (s₂.serve (d.readings 2) (d.framework 2) (sizing "short" 10000000)).response) = true ↔
        PromptOverflows s₂.adapter (r 2) served [⟨"user", "short"⟩] 10000000 := by
    rw [hresponse₃, show "would_reject" = CommandOutcome.wouldReject.text from rfl, overflowsAs_payload,
      estimate_overflows_iff hshort_text (by omega), hshort_messages]
  have hrejected : overflowsAs "rejected"
      (commandPayload (s₃.serve (d.readings 3) (d.framework 3) sending).response) = true ↔
        PromptOverflows s₃.adapter (r 3) served [⟨"user", "short"⟩] 10000000 ∧ ExpiryIsDate (r 3) := by
    rw [hresponse₄, show "rejected" = CommandOutcome.rejected.text from rfl, overflowsAs_payload,
      chat_overflows_iff hsent_text (by omega), hsent_messages]
  have hkept (hoverflows : PromptOverflows s₃.adapter (r 3) served [⟨"user", "short"⟩] 10000000)
      (hexpiry : ExpiryIsDate (r 3)) :
      (s₃.serve (d.readings 3) (d.framework 3) sending).calls = [] ∧
        neverExecuted (commandPayload (s₃.serve (d.readings 3) (d.framework 3) sending).response) = true ∧
        (s₃.serve (d.readings 3) (d.framework 3) sending).state.adapter.queue = s.adapter.queue := by
    rw [← hsent_messages] at hoverflows
    obtain ⟨hcalls, result, hresult, houtcome, -, hpayload⟩ :=
      chat_overflows hsent_text (by omega) (fun _ => hexpiry) hoverflows
    refine ⟨hcalls, ?_, ?_⟩
    · rw [hresponse₄, hresult]
      exact neverExecuted_payload hpayload
    · have hnot : (ChatCommand.delegate s₃.adapter (r 3)
          ((d.framework 3).deliver (promptArguments "short" served 10000000))).outcome ≠ some .queued := by
        unfold CommandRun.outcome
        rw [hresult]
        simp [Except.toOption, houtcome]
      exact (ChatCommand.queue_of_outcome hnot).trans hqueue₃
  rw [← hresponse₂] at hfitting
  have hdrive := drivePromptAdmission_run
    (call_deployed d { state := s } (invoke_tokenCount "Count the tokens of this sentence." served))
    (call_deployed d _ (invoke_estimate "Would this prompt fit?" served 16))
    (call_deployed d _ (invoke_estimate "short" served 10000000))
    (call_deployed d _ (invoke_chat "short" served 10000000)) hcounted hfitting
  rw [hrun, hdrive]
  have hstatus {passes : Prop} [Decidable passes] : (if passes then (0 : Int) else 1) = 0 ↔ passes := by
    split_ifs with hpasses
    · exact iff_of_true rfl hpasses
    · exact iff_of_false (by decide) hpasses
  refine ⟨_, rfl, ?_, ?_⟩
  · rw [hstatus]
    constructor
    · rintro ⟨hfirst, hsecond, hthird, hfourth, -⟩
      have hfits := hfitting_iff.mp hsecond
      have hoverflows := hoversized.mp hthird
      obtain ⟨hrefused, hexpiry⟩ := hrejected.mp hfourth
      rw [hmeasured₃ hoverflows, hmeasured₂ hfits] at hrefused
      rw [hmeasured₂ hfits] at hoverflows
      exact ⟨hcounted_iff.mp hfirst, hfits, hoverflows, hrefused, hexpiry⟩
    · rintro ⟨hfirst, hfits, hoverflows, hrefused, hexpiry⟩
      rw [← hmeasured₂ hfits] at hoverflows
      rw [← hmeasured₂ hfits, ← hmeasured₃ hoverflows] at hrefused
      exact ⟨hcounted_iff.mpr hfirst, hfitting_iff.mpr hfits, hoversized.mpr hoverflows,
        hrejected.mpr ⟨hrefused, hexpiry⟩, (hkept hrefused hexpiry).2.1⟩
  · rw [hstatus]
    rintro ⟨-, -, -, hfourth, -⟩
    obtain ⟨hrefused, hexpiry⟩ := hrejected.mp hfourth
    obtain ⟨hcalls, -, hqueue⟩ := hkept hrefused hexpiry
    exact ⟨hcalls, hqueue⟩

/-- An environment that names a deployment of the small model. -/
def smallEnviron (name : String) : Option String :=
  if name = "LMRS_LIVE_HOST" then some "h" else if name = "LMRS_LIVE_MODEL" then some "small" else none

/-- A deployment of the small model, whose tokenizer answers and whose clock goes on from request to request. -/
def countingDeployment : Deployment where
  readings n := { bareReadings with readings := { countingHost with now := n } }
  framework _ := bareFramework

/-- The deployment of the small model accepts prompts. -/
theorem acceptsPrompts_counting :
    AcceptsPrompts roomyState.adapter (countingDeployment.reads roomyState.store) "small" where
  counted := ⟨5, rfl, by decide⟩
  fits := ⟨_, _, ⟨rfl, rfl, by decide, by decide⟩, by decide, by decide⟩
  overflows := ⟨_, _, ⟨rfl, rfl, by decide, by decide⟩, by decide⟩
  refused := ⟨_, _, ⟨rfl, rfl, by decide, by decide⟩, by decide⟩
  expiry := by unfold ExpiryIsDate; decide

/-- The check of that deployment passes. -/
theorem prompt_admission_live_iff_counting :
    (runPromptAdmissionLive smallEnviron (deployed countingDeployment) { state := roomyState }).result = .ok 0 := by
  obtain ⟨status, hresult, hpasses, -⟩ :=
    prompt_admission_live_iff countingDeployment roomyState smallEnviron _ "small" _ rfl rfl
  rw [hresult, hpasses.mpr acceptsPrompts_counting]

end LiveCheck

end Lmrs
