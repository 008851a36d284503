import Lmrs.Lib.Dicts
import Lmrs.Lib.Text
import Lmrs.RuntimeClient

/-!
# What a completion is sent, and how its failure is told

Source: `lmrs/runtime_client.py`, `VLLMOpenAIClient._json_request`, `VLLMOpenAIClient.chat_completion`,
`RuntimeClient._vllm_options`, `RuntimeClient._execute_vllm`.

* `OwnPayload`: the model and the messages of a completion are those of the admitted request.
  `ownPayload_iff`: so it is exactly when no other model is given as an option.
* `Exchange`: how an exchange with the runtime can fail. `told_iff`: when the failure signal tells a
  runtime that did not answer from one that answered with an error.
-/

namespace Lmrs

open Python VLLMOpenAIClient

namespace RuntimeClient

variable {client : RuntimeClient} {server : CompletionServer} {request payload : Dict Value}
  {executor : Option (Dict Value → Except PyException ExecutorResult)}

/-! ## The exchange of an execution -/

/-- With an option that clashes with a parameter nothing is sent. -/
theorem executeVllm_clash {requestId name : String}
    (h : clashingOption (client.vllmOptions request) = some name) :
    (client.executeVllm server requestId request).calls = [] := by
  unfold executeVllm chatCompletion
  rw [h]
  dsimp only
  split
  · rfl
  · split
    · rfl
    · split_ifs <;> rfl

/-- **A completion that is sent is the one exchange of the execution**, without a clashing option. -/
theorem execute_exchanged (h : payload ∈ (client.execute server request executor).calls) :
    ∃ requestId modelName vllm,
      Exchanged client server requestId request modelName vllm
          (client.execute server request executor) ∧
        clashingOption (client.vllmOptions request) = none := by
  unfold execute at h ⊢
  dsimp only at h ⊢
  generalize ((requestValue request ["request_id", "id"]).or (.str "unknown")).text = requestId at h ⊢
  cases executor with
  | some run =>
      dsimp only at h
      split at h <;> simp at h
  | none =>
      dsimp only at h ⊢
      split_ifs at h ⊢ with hvllm
      · rcases executeVllm_cases client server requestId request with
          ⟨hcalls, -⟩ | ⟨modelName, vllm, hexchanged⟩
        · simp [hcalls] at h
        · refine ⟨requestId, modelName, vllm, hexchanged, ?_⟩
          cases hclash : clashingOption (client.vllmOptions request) with
          | none => rfl
          | some name => simp [executeVllm_clash hclash] at h
      · exact absurd h List.not_mem_nil

/-! ## The options of a completion -/

/-- The option given under a name: that of the request where it has one, else the client's own. -/
def optionGiven (client : RuntimeClient) (request : Dict Value) (name : String) : Option Value :=
  ((requestValue request ["options"]).asDict?.bind fun options => Dict.get? options name).or
    (Dict.get? client.defaultOptions name)

/-- The options given are mappings that have a key once. -/
structure DistinctOptions (client : RuntimeClient) (request : Dict Value) : Prop where
  defaults : Dict.Distinct client.defaultOptions
  options : ∀ options, (requestValue request ["options"]).asDict? = some options → Dict.Distinct options

/-- Options taken from the top level of a request leave the others as they are. -/
theorem topLevel_options (request : Dict Value) (names : List String) {options : Dict Value}
    (hdistinct : Dict.Distinct options) {name : String} (hname : name ∉ names) :
    let merged := names.foldl (fun acc name =>
      let value := requestValue request [name]
      if value.isNone then acc else Dict.set acc name value) options
    Dict.Distinct merged ∧ Dict.get? merged name = Dict.get? options name := by
  induction names generalizing options with
  | nil => exact ⟨hdistinct, rfl⟩
  | cons first names ih =>
      rw [List.mem_cons, not_or] at hname
      rw [List.foldl_cons]
      dsimp only
      split_ifs
      · exact ih hdistinct hname.2
      · obtain ⟨hmerged, hget⟩ := ih (hdistinct.set first _) hname.2
        exact ⟨hmerged, hget.trans (Dict.get?_set_of_ne _ _ hname.1)⟩

/-- **An option that is not taken from the top level is the one given.** -/
theorem vllmOptions_given (h : client.DistinctOptions request) {name : String}
    (hname : name ∉ topLevelOptions) :
    Dict.Distinct (client.vllmOptions request) ∧
      Dict.get? (client.vllmOptions request) name = client.optionGiven request name := by
  unfold vllmOptions optionGiven
  cases hoptions : (requestValue request ["options"]).asDict? with
  | none =>
      obtain ⟨hdistinct, hget⟩ := topLevel_options request topLevelOptions h.defaults hname
      exact ⟨hdistinct, by simpa using hget⟩
  | some options =>
      obtain ⟨hdistinct, hget⟩ := topLevel_options request topLevelOptions (h.defaults.update options) hname
      refine ⟨hdistinct, hget.trans ?_⟩
      exact (h.options options hoptions).get?_update client.defaultOptions name

/-! ## The payload -/

/-- The model and the messages of a completion are those of the admitted request. -/
structure OwnPayload (request payload : Dict Value) : Prop where
  model : Dict.get? payload "model" = some (requestValue request ["model_name", "model"])
  messages : Dict.get? payload "messages" = some (.list (chatMessages request))

/-- A value that is a string is that string. -/
theorem eq_str_of_asStr? {v : Value} {s : String} (h : v.asStr? = some s) : v = .str s := by
  cases v with
  | str s' => exact congrArg Value.str (Option.some.inj h)
  | _ => cases h

/-- The messages of a completion that is sent are not replaced. -/
theorem no_messages_option {options : Dict Value} (h : clashingOption options = none) :
    Dict.get? options "messages" = none := by
  unfold clashingOption at h
  apply List.lookup_eq_none_iff.mpr
  intro entry hentry
  have hclash := List.find?_eq_none.mp h entry.1 (List.mem_map_of_mem hentry)
  simp only [List.mem_cons, decide_eq_true_eq, not_or] at hclash
  simpa using Ne.symm hclash.2.2.1

/-- **A completion carries the model and the messages of its request exactly when no other model is given as
an option.** For every client, request, server and executor: of the payload an execution posts this is so if
and only if the option `model`, of the request or else of the client's defaults, is absent or names the
request's model. -/
theorem ownPayload_iff (client : RuntimeClient) (server : CompletionServer) (request : Dict Value)
    (executor : Option (Dict Value → Except PyException ExecutorResult)) {payload : Dict Value}
    (hoptions : client.DistinctOptions request)
    (hcall : payload ∈ (client.execute server request executor).calls) :
    OwnPayload request payload ↔
      ∀ model, client.optionGiven request "model" = some model →
        model = requestValue request ["model_name", "model"] := by
  obtain ⟨requestId, modelName, vllm, hexchanged, hclash⟩ := execute_exchanged hcall
  rw [hexchanged.calls, List.mem_singleton] at hcall
  have hoption : "model" ∉ topLevelOptions := by decide
  obtain ⟨hdistinct, hmodel⟩ := vllmOptions_given hoptions hoption
  have hname := eq_str_of_asStr? hexchanged.named
  have hsent : Dict.get? payload "model" =
      (client.optionGiven request "model").or (some (.str modelName)) := by
    rw [hcall, completionPayload, hdistinct.get?_update, hmodel]
    rfl
  have hmessages : Dict.get? payload "messages" = some (.list (chatMessages request)) := by
    rw [hcall, completionPayload, hdistinct.get?_update, no_messages_option hclash]
    rfl
  rw [hname]
  constructor
  · intro hown model hgiven
    have hkept := hown.model
    rw [hsent, hgiven, hname] at hkept
    exact Option.some.inj hkept
  · intro hsame
    refine ⟨?_, hmessages⟩
    rw [hsent, hname]
    cases hgiven : client.optionGiven request "model" with
    | none => rfl
    | some model => simp [hsame model hgiven]

/-- A client of the local runtime. -/
def localClient : RuntimeClient where
  backend := .vllm
  vllmClient := some {}

/-- A request with one message, and options of its own. -/
def optionRequest (options : Dict Value) : Dict Value :=
  [("model_name", .str "m"), ("messages", .list [roleMessage "user" "hi"]), ("options", .dict options)]

/-- What is posted for a request with the option `model`. -/
def otherPayload : Dict Value :=
  completionPayload "m" [roleMessage "user" "hi"] [("model", .str "other")]

theorem optionRequest_distinct (v : Value) :
    localClient.DistinctOptions (optionRequest [("model", v)]) := by
  refine ⟨List.nodup_nil, ?_⟩
  rintro _ ⟨⟩
  exact List.nodup_singleton _

/-- The statement of a request with the option `model`. -/
theorem ownPayload_option : OwnPayload (optionRequest [("model", .str "other")]) otherPayload ↔
    ∀ model, localClient.optionGiven (optionRequest [("model", .str "other")]) "model" = some model →
      model = requestValue (optionRequest [("model", .str "other")]) ["model_name", "model"] :=
  ownPayload_iff localClient { answer := fun _ => .urlError "refused" } _ none (optionRequest_distinct _)
    (List.mem_singleton.mpr rfl)

/-- **An option replaces the model of a completion.** -/
theorem option_replaces_model :
    ¬ ∀ (client : RuntimeClient) (server : CompletionServer) (request payload : Dict Value),
        client.DistinctOptions request → payload ∈ (client.execute server request none).calls →
          OwnPayload request payload := by
  intro hclaim
  have hown := hclaim localClient { answer := fun _ => .urlError "refused" }
    (optionRequest [("model", .str "other")]) otherPayload (optionRequest_distinct _)
    (List.mem_singleton.mpr rfl)
  have hmodel : some (Value.str "other") = some (.str "m") := hown.model
  simp at hmodel

/-! ## How a failure is told -/

/-- How an exchange with the runtime fails: an answer with an error status, a connection that is not made, no
answer in time, or a connection that breaks once the request is sent, with what the socket raises. -/
inductive Exchange where
  | errorStatus (code : Int) (body : String)
  | connectionFailure (reason : String)
  | readTimeout (secure : Bool)
  | connectionLost (exc : PyException)

namespace Exchange

/-- What `urlopen` makes of it. It wraps what is raised while the request is sent, and nothing after that. -/
def outcome : Exchange → HttpOutcome
  | errorStatus code body => .httpError code body
  | connectionFailure reason => .urlError reason
  | readTimeout secure =>
      .raised ⟨"TimeoutError", if secure then "The read operation timed out" else "timed out"⟩
  | connectionLost exc => .raised exc

/-- The runtime answered, with an error. -/
def Answered : Exchange → Prop
  | errorStatus _ _ => True
  | _ => False

/-- What tells whether the runtime answered says so: an error body does not speak of anything unavailable,
and what is raised after the request was sent does. -/
def ToldApart : Exchange → Prop
  | errorStatus _ body => contains "unavailable" body = false
  | connectionFailure _ => True
  | readTimeout _ => False
  | connectionLost exc => contains "unavailable" exc.message = true

/-- What a failed exchange raises. -/
theorem jsonRequest_outcome (exchange : Exchange) : ∃ error, jsonRequest exchange.outcome = .error error := by
  cases exchange <;> exact ⟨_, rfl⟩

/-- **What is raised speaks of something unavailable exactly when nothing answered**, if the exchange is told
apart, and otherwise exactly when something did. -/
theorem unavailable_iff {exchange : Exchange} {error : PyException}
    (h : jsonRequest exchange.outcome = .error error) :
    (contains "unavailable" error.message = true ↔ ¬ exchange.Answered) ↔ exchange.ToldApart := by
  cases exchange with
  | errorStatus code body =>
      cases h
      have hletter (n : Int) : 'u' ∉ (toString n).toList := by
        intro hmem
        rcases toList_toString_int n 'u' hmem with heq | hdigit
        · exact absurd heq (by decide)
        · exact absurd hdigit (by decide)
      have hbody : contains "unavailable" ("vLLM HTTP " ++ toString code ++ ": " ++ body) =
          contains "unavailable" body := by
        apply contains_append (show "unavailable".toList = 'u' :: "navailable".toList from rfl)
        rw [String.toList_append, String.toList_append]
        simp only [List.mem_append, not_or]
        exact ⟨⟨by decide, hletter code⟩, by decide⟩
      show (contains "unavailable" ("vLLM HTTP " ++ toString code ++ ": " ++ body) = true ↔ ¬ True) ↔ _
      rw [hbody]
      simp [ToldApart]
  | connectionFailure reason =>
      cases h
      have hpart : contains "unavailable" ("vLLM unavailable: " ++ reason) = true := by
        rw [contains_iff, String.toList_append]
        exact List.infix_append_of_infix_left ⟨"vLLM ".toList, ": ".toList, by decide⟩
      show (contains "unavailable" ("vLLM unavailable: " ++ reason) = true ↔ ¬ False) ↔ True
      simp [hpart]
  | readTimeout secure =>
      cases h
      cases secure <;> simp only [ToldApart, Answered] <;> decide
  | connectionLost exc =>
      cases h
      simp [ToldApart, Answered]

end Exchange

/-- The signal tells a runtime that did not answer, which may be asked again, from one that answered with an
error, which may not. -/
structure Told (exchange : Exchange) (signal : RuntimeFailureSignal) : Prop where
  unavailable : (signal.reasonCode = .vllmUnavailable ∧ signal.retriable = true) ↔ ¬ exchange.Answered
  failed : (signal.reasonCode = .runtimeCallFailed ∧ signal.retriable = false) ↔ exchange.Answered

/-- A failure signal is of one kind or of the other. -/
theorem completionFailure_told (client : RuntimeClient) {exchange : Exchange} {error : PyException}
    (requestId modelName baseUrl : String) (h : jsonRequest exchange.outcome = .error error) :
    Told exchange (client.completionFailure requestId modelName baseUrl error) ↔ exchange.ToldApart := by
  rw [← exchange.unavailable_iff h]
  unfold completionFailure
  cases hpart : contains "unavailable" error.message with
  | true =>
      constructor
      · intro htold
        simpa using htold.unavailable
      · intro hnone
        have hunanswered : ¬ exchange.Answered := hnone.mp rfl
        exact ⟨by simp [hunanswered], by simp [hunanswered]⟩
  | false =>
      constructor
      · intro htold
        simpa using htold.unavailable
      · intro hnone
        have hanswered : exchange.Answered := by simpa using hnone
        exact ⟨by simp [hanswered], by simp [hanswered]⟩

/-- **The failure of an exchange is told as it is exactly when its text says so.** For every client, request,
server and executor, and every way the exchange of a payload that is posted can fail: the execution reports a
failure signal, and that is the retriable `VLLM_UNAVAILABLE` if and only if the runtime did not answer and
the `RUNTIME_CALL_FAILED` that is not retriable if and only if it answered, exactly when the connection was
not made, or the body of the error has no `unavailable` in it, or what the socket raised later has. -/
theorem told_iff (client : RuntimeClient) (server : CompletionServer) (request : Dict Value)
    (executor : Option (Dict Value → Except PyException ExecutorResult)) {payload : Dict Value}
    {exchange : Exchange} (hcall : payload ∈ (client.execute server request executor).calls)
    (hexchange : server.answer payload = exchange.outcome) :
    (∃ signal, (client.execute server request executor).outcome = .failed signal ∧ Told exchange signal) ↔
      exchange.ToldApart := by
  obtain ⟨requestId, modelName, vllm, hexchanged, -⟩ := execute_exchanged hcall
  rw [hexchanged.calls, List.mem_singleton] at hcall
  obtain ⟨error, herror⟩ := exchange.jsonRequest_outcome
  have houtcome : (client.execute server request executor).outcome =
      .failed (client.completionFailure requestId modelName vllm.baseUrl error) := by
    rw [hexchanged.outcome, ← hcall, hexchange, herror]
  rw [houtcome, ← completionFailure_told client requestId modelName vllm.baseUrl herror]
  constructor
  · rintro ⟨signal, heq, htold⟩
    cases heq
    exact htold
  · exact fun htold => ⟨_, rfl, htold⟩

/-- What is posted for a request without options. -/
def plainPayload : Dict Value := completionPayload "m" [roleMessage "user" "hi"] []

/-- The statement of an error that speaks of something unavailable. -/
theorem told_unavailable_body :
    (∃ signal, (localClient.execute
          { answer := fun _ => (Exchange.errorStatus 404 "tool unavailable").outcome } (optionRequest []) none).outcome
          = .failed signal ∧
        Told (.errorStatus 404 "tool unavailable") signal) ↔
      (Exchange.errorStatus 404 "tool unavailable").ToldApart :=
  told_iff localClient { answer := fun _ => (Exchange.errorStatus 404 "tool unavailable").outcome }
    (optionRequest []) none (show plainPayload ∈ _ from List.mem_singleton.mpr rfl) rfl

/-- **An error that speaks of something unavailable is told as no answer, and a timeout as an answer.** -/
theorem not_told_apart :
    (∃ signal, (localClient.execute
          { answer := fun _ => (Exchange.errorStatus 404 "tool unavailable").outcome } (optionRequest []) none).outcome
          = .failed signal ∧ signal.reasonCode = .vllmUnavailable ∧ signal.retriable = true) ∧
      (∃ signal, (localClient.execute
          { answer := fun _ => (Exchange.readTimeout false).outcome } (optionRequest []) none).outcome
          = .failed signal ∧ signal.reasonCode = .runtimeCallFailed ∧ signal.retriable = false) ∧
      ¬ ∀ (client : RuntimeClient) (server : CompletionServer) (request payload : Dict Value)
          (exchange : Exchange), payload ∈ (client.execute server request none).calls →
            server.answer payload = exchange.outcome →
              ∃ signal, (client.execute server request none).outcome = .failed signal ∧
                Told exchange signal := by
  have htimeout : (localClient.execute { answer := fun _ => (Exchange.readTimeout false).outcome }
      (optionRequest []) none).outcome =
        .failed (localClient.completionFailure "unknown" "m" ({} : VLLMOpenAIClient).baseUrl
          ⟨"TimeoutError", "timed out"⟩) := rfl
  refine ⟨⟨_, rfl, by decide, by decide⟩, ⟨_, htimeout, by decide, by decide⟩, ?_⟩
  intro hclaim
  obtain ⟨signal, heq, htold⟩ := hclaim localClient
    { answer := fun _ => (Exchange.readTimeout false).outcome } (optionRequest []) plainPayload (.readTimeout false)
    (List.mem_singleton.mpr rfl) rfl
  rw [htimeout] at heq
  cases heq
  exact absurd (htold.unavailable.mpr not_false).1 (by decide)

end RuntimeClient

end Lmrs
