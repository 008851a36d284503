import Lmrs.Adapter.EstimateOutcome
import Lmrs.Adapter.PromptVerdicts
import Lmrs.Client.CommandLine
import Lmrs.Client.Deployment

/-!
# Sizing a prompt before sending it

Source: `client/lmrs_client/cli.py`, `main`, over `lmrs/adapter/registration.py`.

The command line against the server: its exit code is what the command reported, and an `estimate` says what a
`chat` with the same flags would come to.

* `cli_reports`: the exit code of every subcommand.
* `agree_of_same_text`: an estimate and a chat for the same text agree, whatever else they carry.
* `SizedAlike`: two states, with what is read in them, that size a prompt alike. `SizedAlike.estimate`: then the dry
  runs come to one verdict. `sizedAlike_after`: right after an estimate, with nothing read anew, the states do.
* `estimate_sizes_chat`: the exit code of `estimate` foretells a later chat whose prompt is sized alike.
-/

namespace Lmrs

open Python

/-! ## An estimate and a chat for the same text -/

section text

variable {s : AdapterState} {r : Readings} {dry real : Dict Value} {message modelName : String}
  {maxTokens : Int}

/-- **An estimate and a chat for the same text agree**, when the expiry of the chat is a date or its model
cannot be sized: only the message, the system text, the model and the reply length matter. -/
theorem agree_of_same_text (hdry : TextRequest dry message modelName maxTokens)
    (hreal : TextRequest real message modelName maxTokens)
    (hsystem : Value.item dry "system" = Value.item real "system")
    (hexpiry : Sizable r modelName → ExpiryIsDate r) :
    Agree s.queue (EstimateCommand.delegate s r dry) (ChatCommand.delegate s r real) := by
  have hplan := ChatCommand.plan_of_text (r := r) hreal
  rcases hprofile : modelKvProfile r modelName with exc | _ | profile
  · rw [hprofile] at hplan
    rw [EstimateCommand.delegate_of_text hdry 0, hprofile]
    unfold ChatCommand.delegate
    rw [hplan]
    exact .failed ⟨nofun, nofun⟩ ⟨rfl, nofun⟩ rfl
  · rw [hprofile] at hplan
    rw [EstimateCommand.delegate_of_text hdry 0, hprofile]
    unfold ChatCommand.delegate
    rw [hplan]
    exact .failed ⟨nofun, nofun⟩ ⟨rfl, nofun⟩ ⟨rfl, rfl, rfl⟩
  · obtain ⟨expiresAt, hdate⟩ := addSeconds_of_expiry (hexpiry ⟨profile, hprofile⟩)
    rw [hprofile, hdate] at hplan
    rw [EstimateCommand.delegate_of_text hdry expiresAt, hprofile]
    have hmessages : messagesFromParams dry message = messagesFromParams real message := by
      unfold messagesFromParams
      rw [hsystem]
    have hrun (requestId : String) :
        (textPlan r dry message modelName maxTokens profile expiresAt).dryRun s r requestId =
          (textPlan r real message modelName maxTokens profile expiresAt).dryRun s r requestId := by
      unfold ChatPlan.dryRun textPlan ChatPlan.request
      rw [hmessages]
    dsimp only
    rw [hrun]
    exact agree_of_plan hplan _ _

/-- An estimate of a text request succeeds exactly when it would execute or wait. -/
theorem EstimateCommand.success_iff (h : TextRequest dry message modelName maxTokens) {result : CommandResult}
    (hresult : (EstimateCommand.delegate s r dry).result = .ok result) :
    result.success = true ↔ result.outcome = .wouldExecute ∨ result.outcome = .wouldQueue := by
  rw [EstimateCommand.delegate_of_text h 0] at hresult
  rcases hprofile : modelKvProfile r modelName with exc | _ | profile
  · rw [hprofile] at hresult
    cases hresult
  · rw [hprofile] at hresult
    cases hresult
    simp [unsizedResult, PublicCommandExecutor.failureResult]
  · rw [hprofile] at hresult
    obtain ⟨capacity, -, hresult⟩ := bind_eq_ok.mp hresult
    obtain ⟨houtcome, hsuccess⟩ := CanonicalChatHandler.estimate_dryRun hresult
    rcases hword : result.outcome with _ | _ | _ | _ | _ | _
    all_goals simp_all

/-- A chat that does not wait leaves the queue as it was. -/
theorem ChatCommand.queue_of_outcome
    (h : (ChatCommand.delegate s r real).outcome ≠ some .queued) :
    (ChatCommand.delegate s r real).state.queue = s.queue := by
  rw [ChatCommand.delegate_eq_admission] at h ⊢
  rcases ChatCommand.admission_cases s r real with ⟨_, hcase⟩ | ⟨_, hcase⟩ |
    ⟨_, _, -, -, ⟨_, _, _, hstep, hcase⟩ | ⟨_, _, -, hcase⟩⟩
  · rw [hcase]
  · rw [hcase]
    rfl
  · exfalso
    apply h
    rw [hcase]
    rcases CanonicalChatHandler.chatStep_cases hstep with ⟨_, hrefused, -⟩ |
      ⟨_, _, -, ⟨_, _, _, hqueued, -, -, -, houtcome⟩ | ⟨hadmitted, -⟩⟩
    · cases hrefused
    · cases hqueued
      exact congrArg some houtcome
    · cases hadmitted
  · rw [hcase]
    rfl

/-- A chat leaves the queue as it was, or with its entry added. -/
theorem ChatCommand.queue_cases (s : AdapterState) (r : Readings) (real : Dict Value) :
    (ChatCommand.delegate s r real).state.queue = s.queue ∨
      ∃ entry, (ChatCommand.delegate s r real).state.queue = s.queue.add entry := by
  rw [ChatCommand.delegate_eq_admission]
  rcases ChatCommand.admission_cases s r real with ⟨_, hcase⟩ | ⟨_, hcase⟩ |
    ⟨_, _, -, -, ⟨_, entry, _, hstep, hcase⟩ | ⟨_, _, -, hcase⟩⟩
  · rw [hcase]
    exact Or.inl rfl
  · rw [hcase]
    exact Or.inl rfl
  · rw [hcase]
    exact Or.inr ⟨entry, (CanonicalChatHandler.chatStep_queued hstep).1⟩
  · rw [hcase]
    exact Or.inl rfl

/-- A queue with an entry added is another queue. -/
theorem RequestQueue.add_ne (queue : RequestQueue) (entry : QueueEntry) : queue.add entry ≠ queue := by
  intro h
  have hlength := congrArg (fun q => q.entries.length) h
  simp [RequestQueue.add] at hlength

/-- **What the exit of an estimate foretells**: it succeeds exactly when the chat calls the runtime or waits in
the queue; otherwise the chat does neither, and fails as the estimate did. -/
theorem Agree.foretells {queue : RequestQueue} {estimate chat : CommandRun CommandResult}
    (h : Agree queue estimate chat)
    (hsuccess : ∀ result, estimate.result = .ok result →
      (result.success = true ↔ result.outcome = .wouldExecute ∨ result.outcome = .wouldQueue))
    (hqueue : chat.outcome ≠ some .queued → chat.state.queue = queue) :
    ((∃ result, estimate.result = .ok result ∧ result.success = true) ↔
        chat.calls ≠ [] ∨ ∃ entry, chat.state.queue = queue.add entry) ∧
      ((¬ ∃ result, estimate.result = .ok result ∧ result.success = true) →
        SameFailure estimate.result chat.result) := by
  have hword : (∃ result, estimate.result = .ok result ∧ result.success = true) ↔
      estimate.outcome = some .wouldExecute ∨ estimate.outcome = some .wouldQueue := by
    unfold CommandRun.outcome
    rcases hresult : estimate.result with exc | result
    · simp [Except.toOption]
    · simpa [Except.toOption] using hsuccess result hresult
  have hwaits : (∃ entry, chat.state.queue = queue.add entry) ↔ estimate.outcome = some .wouldQueue := by
    rw [h.queues]
    constructor
    · rintro ⟨entry, hentry⟩
      refine ⟨?_, entry, hentry⟩
      by_contra hnot
      exact queue.add_ne entry (hentry.symm.trans (hqueue hnot))
    · exact And.right
  refine ⟨?_, ?_⟩
  · rw [hword, hwaits, h.executes]
  · intro hnone
    rw [hword, not_or] at hnone
    exact h.otherwise hnone.1 hnone.2

end text

/-! ## One prompt, sized twice -/

/-- The figures of a snapshot that a verdict is on. -/
def CapacitySnapshot.pools (capacity : CapacitySnapshot) : Int × Int :=
  (capacity.usableDynamicVramBytes, capacity.maxDynamicPoolBytes)

/-- What a dry run comes to. -/
def CommandResult.verdict (result : CommandResult) : CommandOutcome × Bool × Option ReasonCode :=
  (result.outcome, result.success, result.reasonCode)

/-- Two states, each with what is read in it, size a prompt alike: with one KV profile of its model, as many tokens,
the same overheads and the same pools, and with its model being switched to in both or in neither. -/
structure SizedAlike (s s' : AdapterState) (r r' : Readings) (modelName : String) (messages : List ChatMessage)
    (maxTokens : Int) : Prop where
  profile : modelKvProfile r' modelName = modelKvProfile r modelName
  tokens : promptTokens r' modelName messages maxTokens = promptTokens r modelName messages maxTokens
  overheads : ∀ name ∈ ["LMRS_PER_REQUEST_OVERHEAD_BYTES", "LMRS_RUNTIME_BATCH_OVERHEAD_BYTES"],
    intEnv r' name = intEnv r name
  pools : (capacitySnapshot s' r' modelName).map CapacitySnapshot.pools =
    (capacitySnapshot s r modelName).map CapacitySnapshot.pools
  switching : modelName ∈ s'.switches ↔ modelName ∈ s.switches

/-- The verdict of a request, without its ids. -/
def admissionVerdict (request : AdmissionRequest) : Except PyException (Decision × ReasonCode) :=
  (CanonicalChatHandler.estimateAndAdmit request).map fun both => (both.2.decision, both.2.reasonCode)

section plans

variable {plan plan' : ChatPlan} {capacity capacity' : CapacitySnapshot}

/-- The verdict of a plan is on its figures. -/
theorem admissionVerdict_plan (hprofile : plan'.profile = plan.profile)
    (htokens : calculateRequiredTokens plan'.breakdown = calculateRequiredTokens plan.breakdown)
    (hrequest : plan'.perRequestOverheadBytes = plan.perRequestOverheadBytes)
    (hbatch : plan'.runtimeBatchOverheadBytes = plan.runtimeBatchOverheadBytes)
    (hpools : capacity'.pools = capacity.pools) :
    admissionVerdict (plan'.request capacity') = admissionVerdict (plan.request capacity) := by
  obtain ⟨husable, hmax⟩ := Prod.mk.injEq .. ▸ hpools
  unfold admissionVerdict CanonicalChatHandler.estimateAndAdmit estimateRequestCapacity
  simp only [ChatPlan.request, hprofile, htokens, hrequest, hbatch]
  rcases calculateRequiredTokens plan.breakdown with exc | tokens
  · rfl
  rcases hbytes : calculateDynamicVramRequirement tokens plan.profile.1.kvBytesPerToken plan.perRequestOverheadBytes
    plan.runtimeBatchOverheadBytes with exc | bytes
  · simp only [bind, Except.bind, hbytes]
  · simp only [bind, Except.bind, hbytes, pure, Except.pure, Except.map, decideAdmission, husable, hmax]
    split_ifs
    all_goals rfl

end plans

section alike

variable {s s' : AdapterState} {r r' : Readings} {params : Dict Value} {message modelName : String} {maxTokens : Int}

/-- The dry run of a text request reports its verdict. -/
theorem ChatPlan.dryRun_verdict_eq (plan : ChatPlan) (s : AdapterState) (r : Readings) (requestId : String) :
    (plan.dryRun s r requestId).map CommandResult.verdict =
      capacitySnapshot s r plan.modelName >>= fun capacity =>
        if plan.modelName ∈ s.switches then .ok (.wouldReject, false, some .modelSwitching)
        else (admissionVerdict (plan.request capacity)).map fun verdict =>
          (PublicCommandExecutor.dryRunOutcome verdict.1,
            decide (PublicCommandExecutor.dryRunOutcome verdict.1 ≠ .wouldReject), some verdict.2) := by
  unfold ChatPlan.dryRun
  rcases capacitySnapshot s r plan.modelName with exc | capacity
  · rfl
  show ((chatHandler s).estimate { plan.request capacity with requestId }).map CommandResult.verdict = ite ..
  split_ifs with hswitch
  · have hrefused : (chatHandler s).estimate { plan.request capacity with requestId } =
        .ok (CanonicalChatHandler.switchingRejection { plan.request capacity with requestId } true) := by
      unfold CanonicalChatHandler.estimate
      exact if_pos (decide_eq_true hswitch)
    rw [hrefused]
    rfl
  · rw [estimate_of_requestId (plan.request capacity) requestId (chatHandler_switching.mpr hswitch)]
    unfold admissionVerdict
    rcases CanonicalChatHandler.estimateAndAdmit (plan.request capacity) with exc | both
    · rfl
    · rfl

/-- What a prompt requires is its tokens. -/
theorem requiredTokens_prompt {messages : List ChatMessage}
    (h : promptTokens r' modelName messages maxTokens = promptTokens r modelName messages maxTokens) :
    calculateRequiredTokens (promptTokenBreakdown r' modelName messages maxTokens) =
      calculateRequiredTokens (promptTokenBreakdown r modelName messages maxTokens) := by
  have hrest (r : Readings) : (promptTokenBreakdown r modelName messages maxTokens).toolTokens = 0 ∧
      (promptTokenBreakdown r modelName messages maxTokens).serviceTokens = 0 ∧
      (promptTokenBreakdown r modelName messages maxTokens).reservedOutputTokens = maxTokens := by
    unfold promptTokenBreakdown
    rcases countedTokens r modelName messages with _ | n
    · exact ⟨rfl, rfl, rfl⟩
    · exact ⟨rfl, rfl, rfl⟩
  obtain ⟨htool, hservice, hreserved⟩ := hrest r
  obtain ⟨htool', hservice', hreserved'⟩ := hrest r'
  have hinput : (promptTokenBreakdown r' modelName messages maxTokens).inputTokens =
      (promptTokenBreakdown r modelName messages maxTokens).inputTokens := by
    unfold promptTokens at h
    omega
  unfold calculateRequiredTokens TokenBreakdown.total
  rw [hinput, htool, htool', hservice, hservice', hreserved, hreserved']

/-- **A prompt that is sized alike gets one verdict.** -/
theorem SizedAlike.estimate (hdry : TextRequest params message modelName maxTokens)
    (h : SizedAlike s s' r r' modelName (messagesFromParams params message) maxTokens) :
    (EstimateCommand.delegate s' r' params).result.map CommandResult.verdict =
      (EstimateCommand.delegate s r params).result.map CommandResult.verdict := by
  rw [EstimateCommand.delegate_of_text hdry 0, EstimateCommand.delegate_of_text hdry 0, h.profile]
  rcases modelKvProfile r modelName with exc | _ | profile
  · rfl
  · rfl
  dsimp only
  rw [ChatPlan.dryRun_verdict_eq, ChatPlan.dryRun_verdict_eq]
  have hpools := h.pools
  show capacitySnapshot s' r' modelName >>= _ = capacitySnapshot s r modelName >>= _
  generalize capacitySnapshot s r modelName = snapshot at hpools ⊢
  generalize capacitySnapshot s' r' modelName = snapshot' at hpools ⊢
  rcases snapshot with exc | capacity
  · rcases snapshot' with exc' | capacity'
    · cases hpools
      rfl
    · cases hpools
  · rcases snapshot' with exc' | capacity'
    · cases hpools
    · let plan := textPlan r params message modelName maxTokens profile 0
      let plan' := textPlan r' params message modelName maxTokens profile 0
      have hprofile : plan'.profile = plan.profile := rfl
      have hverdict := admissionVerdict_plan hprofile (requiredTokens_prompt h.tokens) (h.overheads _ (by simp))
        (h.overheads _ (by simp)) (Except.ok.inj hpools)
      show ite (modelName ∈ s'.switches) _ (Except.map _ (admissionVerdict (plan'.request capacity'))) =
        ite (modelName ∈ s.switches) _ (Except.map _ (admissionVerdict (plan.request capacity)))
      simp only [h.switching, hverdict]

/-- Agreement reads the verdict of a dry run. -/
theorem Agree.of_verdict {queue : RequestQueue} {estimate estimate' chat : CommandRun CommandResult}
    (h : Agree queue estimate' chat)
    (hsame : estimate'.result.map CommandResult.verdict = estimate.result.map CommandResult.verdict) :
    Agree queue estimate chat := by
  have hword (run : CommandRun CommandResult) :
      run.outcome = (run.result.map CommandResult.verdict).toOption.map Prod.fst := by
    unfold CommandRun.outcome
    rcases run.result with _ | _
    · rfl
    · rfl
  have houtcome : estimate'.outcome = estimate.outcome := by
    rw [hword, hword, hsame]
  constructor
  · rw [← houtcome]
    exact h.executes
  · rw [← houtcome]
    exact h.queues
  · intro hexecute hqueue
    rw [← houtcome] at hexecute hqueue
    have hfailure := h.otherwise hexecute hqueue
    rcases hresult' : estimate'.result with exc' | result'
    · rcases hresult : estimate.result with exc | result
      · rw [hresult, hresult'] at hsame
        rw [hresult'] at hfailure
        cases hsame
        exact hfailure
      · rw [hresult, hresult'] at hsame
        cases hsame
    · rcases hresult : estimate.result with exc | result
      · rw [hresult, hresult'] at hsame
        cases hsame
      · rw [hresult, hresult'] at hsame
        rw [hresult'] at hfailure
        have hsuccess : result'.success = result.success := congrArg (·.2.1) (Except.ok.inj hsame)
        have hreason : result'.reasonCode = result.reasonCode := congrArg (·.2.2) (Except.ok.inj hsame)
        rcases hchat : chat.result with exc | answered
        · rw [hchat] at hfailure
          exact hfailure
        · rw [hchat] at hfailure
          exact ⟨hsuccess ▸ hfailure.1, hfailure.2.1, hreason ▸ hfailure.2.2⟩

end alike

/-! ## The command line against the server -/

/-- The server, as a connection to it answers. -/
def PublicState.answers (s : PublicState) (p : PublicReadings) (f : Framework) :
    Dict Value → ClientRequest → ClientAnswer :=
  fun _ request => .response (s.serve p f request).response

/-- What a run of the command line shows of what a command returned or raised. -/
structure CliRun.Shows (run : CliRun) (out : Except PyException DomainResult) : Prop where
  status : run.exitCode = 0 ∨ run.exitCode = 1
  success : run.exitCode = 0 ↔ ∃ result, out = .ok result ∧ result.reportsFailure = false
  quiet : run.exitCode = 0 → run.stderr = none
  failure : ∀ result, out = .ok result → result.reportsFailure = true →
    ∃ code, result.reasonCode = some code ∧ run.stderr = some ("verdict: FAIL (" ++ code ++ ")")
  exception : ∀ exc, out = .error exc → run.stderr = some ("verdict: FAIL (" ++ exc.kind ++ ")")

section commandLine

variable {host : CliHost} {args settings : Dict Value} {s : PublicState} {p : PublicReadings} {f : Framework}

/-- A run of the command line that reaches its request. -/
theorem cliRun_of_request {subcommand : String} {request : ClientRequest}
    {send : Dict Value → ClientRequest → ClientAnswer} (hconnection : connection host args = .ok settings)
    (hrequest : cliRequest host.floats subcommand args = .ok request) :
    cliRun host subcommand args send = .finished (cliMain (send settings request)) := by
  unfold cliRun
  obtain ⟨m, hfind, -⟩ := bind_eq_ok.mp hrequest
  rw [hfind, hconnection]
  dsimp only
  rw [hrequest]

/-- **What the command line shows** is what the command came to. -/
theorem shows_served (s : PublicState) (p : PublicReadings) (f : Framework) (request : ClientRequest) :
    (cliMain (.response (s.serve p f request).response)).Shows
      (delegate p s request.command (f.deliver request.params)).result := by
  obtain ⟨hsuccess, hfailure, hexception⟩ := verdict_of_ends request.command
    (delegate_ends p s (f.deliver request.params) request.command) f.envelope
  unfold cliMain PublicState.serve
  dsimp only
  rcases hverdict : (verdict (f.envelope.wrap (execute request.command
    (delegate p s request.command (f.deliver request.params)).result))).1 with _ | _
  · rw [hverdict] at hsuccess
    constructor
    · exact Or.inr rfl
    · simpa using hsuccess
    · intro h
      cases h
    · intro result hresult hfails
      exact ⟨_, hfailure result hresult hfails, rfl⟩
    · intro exc hexc
      rw [← hexception exc hexc]
      rfl
  · rw [hverdict] at hsuccess
    obtain ⟨result, hok, hreports⟩ := hsuccess.mp rfl
    constructor
    · exact Or.inl rfl
    · simpa using ⟨result, hok, hreports⟩
    · exact fun _ => rfl
    · intro result' hresult hfails
      rw [hok] at hresult
      cases hresult
      rw [hreports] at hfails
      cases hfails
    · intro exc hexc
      rw [hok] at hexc
      cases hexc

/-- **The exit code of every subcommand.** For every method but `estimate`, every namespace that has the flags
the method requires and every setting of the connection: whatever the server keeps and reads, the run sends the
one request of the method, with the flags and the defaults where there is none, and its exit code and its
verdict line are what the command reported. -/
theorem cli_reports (s : PublicState) (p : PublicReadings) (f : Framework) (host : CliHost)
    (args settings : Dict Value) (m : ClientMethod) (hm : m ∈ LmrsClient.methods)
    (hvar : m.signature.varKeyword = false)
    (hrequired : ∀ p ∈ m.signature.parameters, p.default = none → (Value.item args p.name).isNone = false)
    (hconnection : connection host args = .ok settings) :
    let request := m.request (m.signature.parameters.map fun p => (p.name, flagOrDefault args p))
    request.command.text = m.name ∧
      ∃ run, cliRun host (kebab m.name) args (s.answers p f) = .finished run ∧
        run.Shows (delegate p s request.command (f.deliver request.params)).result := by
  have hrequest := cliRequest_of_flags host.floats hm hvar hrequired
  refine ⟨LmrsClient.command_text hm _, _, cliRun_of_request hconnection hrequest, ?_⟩
  exact shows_served s p f _

/-- A shell without variables. -/
def plainShell : CliHost where
  environ _ := none
  floats := wholeFloats
  round q := .finite q

/-- `lmrs-client --host h cancel --request-id r1` shows what the cancellation came to. -/
theorem cli_reports_cancel :
    ∃ run, cliRun plainShell "cancel" [("host", .str "h"), ("request_id", .str "r1")]
        (waitingState.answers bareReadings {}) = .finished run ∧
      run.Shows (delegate bareReadings waitingState .cancel [("request_id", .str "r1")]).result :=
  (cli_reports waitingState bareReadings {} plainShell [("host", .str "h"), ("request_id", .str "r1")] _
    LmrsClient.cancel (by simp [LmrsClient.methods]) rfl (by
      intro p hp _
      rw [List.mem_singleton.mp hp]
      rfl) rfl).2

end commandLine

/-! ## Sizing on the command line -/

/-- Two namespaces carry one text: a message and a model, and the system text and the reply length where they
are given. The first has no body of its own. -/
structure SameText (dry real : Dict Value) (message modelName : String) : Prop where
  message_eq : Value.item dry "message" = .str message
  message_ne : message ≠ ""
  modelName_eq : Value.item dry "model_name" = .str modelName
  modelName_ne : modelName ≠ ""
  maxTokens : Value.item dry "max_tokens" = .none ∨ ∃ n, Value.item dry "max_tokens" = .int n
  same : ∀ name ∈ ["message", "model_name", "system", "max_tokens"], Value.item real name = Value.item dry name
  bodyless : Value.item dry "json" = .none

/-- The reply length a namespace asks for. -/
def replyLength (args : Dict Value) : Int := ((Value.item args "max_tokens").asInt?).getD 128

/-- A flag, as it is passed on. -/
def flag? (args : Dict Value) (name : String) : Option Value :=
  if (Value.item args name).isNone then none else some (Value.item args name)

section flags

variable {args : Dict Value}

/-- One flag among what is passed on. -/
theorem get?_given (args : Dict Value) (name key : String) :
    Dict.get? (given args name) key = if key = name then flag? args name else none := by
  unfold given flag?
  rcases (Value.item args name).isNone with _ | _
  · exact Dict.get?_cons ..
  · exact (ite_self _).symm

/-- Among all flags that are passed on. -/
theorem get?_flatMap_given (args : Dict Value) (names : List String) (key : String) :
    Dict.get? (names.flatMap (given args)) key = if key ∈ names then flag? args key else none := by
  induction names with
  | nil => rfl
  | cons name names ih =>
      have happend : Dict.get? (given args name ++ names.flatMap (given args)) key =
          (Dict.get? (given args name) key).or (Dict.get? (names.flatMap (given args)) key) :=
        List.lookup_append
      rw [List.flatMap_cons, happend, get?_given, ih]
      by_cases hname : key = name
      · subst hname
        rw [if_pos rfl, if_pos List.mem_cons_self]
        rcases flag? args key with _ | value
        · exact ite_self _
        · rfl
      · rw [if_neg hname, Option.none_or]
        simp [hname]

/-- A flag that is passed on is what the namespace has. -/
theorem getD_flag (args : Dict Value) (name : String) :
    (flag? args name).getD .none = Value.item args name := by
  unfold flag?
  rcases h : Value.item args name
  all_goals rfl

/-- The flags of `estimate` have a key once. -/
theorem givenEstimateFlags_distinct (args : Dict Value) : Dict.Distinct (givenEstimateFlags args) := by
  have hsub : List.Sublist ((givenEstimateFlags args).map Prod.fst) estimateFlags := by
    unfold givenEstimateFlags
    induction estimateFlags with
    | nil => exact .slnil
    | cons name names ih =>
        rw [List.flatMap_cons, List.map_append]
        unfold given
        split_ifs
        · exact ih.cons name
        · exact ih.cons_cons name
  exact hsub.nodup (by decide)

/-- What `estimate` sends without a body. -/
theorem get?_estimate (args : Dict Value) {key : String} (hkey : key ∈ estimateFlags) :
    Dict.get? (Dict.update [] (givenEstimateFlags args)) key = flag? args key := by
  rw [(givenEstimateFlags_distinct args).get?_update]
  unfold givenEstimateFlags
  rw [get?_flatMap_given, if_pos hkey]
  exact Option.or_none

/-- A text and a reply length as a command reads them, from what a namespace passes on. -/
theorem textRequest_of_flags {params : Dict Value} {message modelName : String}
    (hmessage : Value.item args "message" = .str message) (hmessage_ne : message ≠ "")
    (hmodel : Value.item args "model_name" = .str modelName) (hmodel_ne : modelName ≠ "")
    (hmax : Value.item args "max_tokens" = .none ∨ ∃ n, Value.item args "max_tokens" = .int n)
    (hparams : ∀ key ∈ ["message", "model_name", "max_tokens"], Dict.get? params key = flag? args key) :
    TextRequest params message modelName (replyLength args) := by
  have hitem (key : String) (hkey : key ∈ ["message", "model_name", "max_tokens"]) :
      Value.item params key = Value.item args key := by
    rw [← getD_flag args key, ← hparams key hkey]
    rfl
  constructor
  · exact (hitem "message" (by simp)).trans hmessage
  · exact hmessage_ne
  · exact (hitem "model_name" (by simp)).trans hmodel
  · exact hmodel_ne
  · unfold maxTokensParam replyLength
    rw [hparams "max_tokens" (by simp)]
    unfold flag?
    rcases hmax with hnone | ⟨n, hn⟩
    · rw [hnone]
      rfl
    · rw [hn]
      rfl

/-- What `chat` sends: its flags. -/
theorem cliRequest_chat (floats : Json.FloatText) {args : Dict Value}
    (hmessage : (Value.item args "message").isNone = false)
    (hmodel : (Value.item args "model_name").isNone = false) :
    ∃ params, cliRequest floats "chat" args = .ok { command := .chat, params } ∧
      ∀ key ∈ ["message", "model_name", "system", "max_tokens"], Dict.get? params key = flag? args key := by
  have hmem : LmrsClient.chat ∈ LmrsClient.methods := by simp [LmrsClient.methods]
  have hrequired : ∀ p ∈ LmrsClient.chat.signature.parameters, p.default = none →
      (Value.item args p.name).isNone = false := by
    intro p hp hdefault
    simp only [LmrsClient.chat, List.mem_cons, List.not_mem_nil, or_false] at hp
    rcases hp with rfl | rfl | rfl | rfl | rfl
    · exact hmessage
    · exact hmodel
    all_goals cases hdefault
  have hrequest := cliRequest_of_flags floats hmem rfl hrequired
  rw [show kebab LmrsClient.chat.name = "chat" by decide] at hrequest
  have hbound (name : String) (hname : name ∈ LmrsClient.chat.signature.names) :
      Value.item (LmrsClient.chat.signature.parameters.map fun p => (p.name, flagOrDefault args p)) name =
        Value.item args name := by
    have hflag (p : Parameter) (hp : p.default.getD .none = .none) :
        flagOrDefault args p = Value.item args p.name := by
      unfold flagOrDefault
      rw [hp]
      rcases Value.item args p.name
      all_goals rfl
    simp only [LmrsClient.chat, Signature.names, List.map_cons, List.map_nil, List.mem_cons, List.not_mem_nil,
      or_false] at hname ⊢
    rcases hname with rfl | rfl | rfl | rfl | rfl
    all_goals
      rw [Value.item, Dict.get?]
      simp [List.lookup_cons, required, optional, hflag]
  refine ⟨_, hrequest, ?_⟩
  generalize LmrsClient.chat.signature.parameters.map (fun p => (p.name, flagOrDefault args p)) = bound at hbound
  have hflag (name : String) (hname : name ∈ LmrsClient.chat.signature.names) :
      flag? bound name = flag? args name := by
    unfold flag?
    rw [hbound name hname]
  have happend (d e : Dict Value) (key : String) :
      Dict.get? (d ++ e) key = (Dict.get? d key).or (Dict.get? e key) := List.lookup_append
  intro key hkey
  have hname : key ∈ LmrsClient.chat.signature.names := by
    simp only [List.mem_cons, List.not_mem_nil, or_false] at hkey
    rcases hkey with rfl | rfl | rfl | rfl
    all_goals simp [LmrsClient.chat, Signature.names, required, optional]
  rw [← hflag key hname]
  have hmessage' : (Value.item bound "message").isNone = false := by
    rw [hbound "message" (by simp [LmrsClient.chat, Signature.names, required])]
    exact hmessage
  have hmodel' : (Value.item bound "model_name").isNone = false := by
    rw [hbound "model_name" (by simp [LmrsClient.chat, Signature.names, required])]
    exact hmodel
  simp only [happend, get?_given]
  simp only [List.mem_cons, List.not_mem_nil, or_false] at hkey
  rcases hkey with rfl | rfl | rfl | rfl
  · simp [passed, Dict.get?_cons, flag?, hmessage']
  · simp [passed, Dict.get?_cons, flag?, hmodel']
  · simp [passed, Dict.get?, List.lookup_cons]
  · simp [passed, Dict.get?, List.lookup_cons]

end flags

section sizing

variable (s : PublicState) (p : PublicReadings) (f f' : Framework)

/-- **Right after an estimate, with nothing read anew, every prompt is sized alike.** -/
theorem sizedAlike_after (params : Dict Value) (modelName : String) (messages : List ChatMessage) (maxTokens : Int) :
    let after := (s.serve p f { command := .estimate, params }).state
    SizedAlike s.adapter after.adapter (p.withStore s.store) (p.withStore after.store) modelName messages maxTokens := by
  intro after
  have hadapter : after.adapter =
      (EstimateCommand.delegate s.adapter (p.withStore s.store) (f.deliver params)).state := rfl
  have hstore : after.store = s.store := rfl
  rw [hstore, hadapter]
  rcases EstimateCommand.state_cases s.adapter (p.withStore s.store) (f.deliver params) with hstate | hstate
  · rw [hstate]
    exact ⟨rfl, rfl, fun _ _ => rfl, rfl, Iff.rfl⟩
  · rw [hstate]
    exact ⟨rfl, rfl, fun _ _ => rfl, by rw [capacitySnapshot_measured], Iff.rfl⟩

/-- A command shows success exactly when its result is one. -/
theorem CliRun.Shows.command_success {run : CliRun} {out : Except PyException CommandResult}
    (h : run.Shows (out.map .command)) :
    run.exitCode = 0 ↔ ∃ result, out = .ok result ∧ result.success = true := by
  rw [h.success]
  rcases out with exc | result
  · simp [Except.map]
  · simp [Except.map, DomainResult.reportsFailure]

/-- Two commands that fail alike show one verdict line. -/
theorem CliRun.Shows.same_verdict {run run' : CliRun} {estimate chat : Except PyException CommandResult}
    (h : run.Shows (estimate.map .command)) (h' : run'.Shows (chat.map .command))
    (hsame : SameFailure estimate chat) : run'.exitCode = 1 ∧ run'.stderr = run.stderr := by
  have hfails (failing : CliRun) {out : Except PyException DomainResult} (hshows : failing.Shows out)
      (hnone : ∀ result, out = .ok result → result.reportsFailure = true) : failing.exitCode = 1 := by
    rcases hshows.status with hzero | hone
    · obtain ⟨result, hok, hreports⟩ := hshows.success.mp hzero
      rw [hnone result hok] at hreports
      cases hreports
    · exact hone
  rcases estimate with exc | result
  · rcases chat with exc' | result'
    · obtain rfl : exc = exc' := hsame
      refine ⟨hfails run' h' (by rintro _ ⟨⟩), ?_⟩
      rw [h.exception exc rfl, h'.exception exc rfl]
    · exact hsame.elim
  · rcases chat with exc' | result'
    · exact hsame.elim
    · obtain ⟨hfailed, hfailed', hreason⟩ := hsame
      have hreports : (DomainResult.command result).reportsFailure = true := by
        simp [DomainResult.reportsFailure, hfailed]
      have hreports' : (DomainResult.command result').reportsFailure = true := by
        simp [DomainResult.reportsFailure, hfailed']
      obtain ⟨code, hcode, hline⟩ := h.failure _ rfl hreports
      obtain ⟨code', hcode', hline'⟩ := h'.failure _ rfl hreports'
      refine ⟨hfails run' h' ?_, ?_⟩
      · rintro _ ⟨⟩
        exact hreports'
      · have hsame : (DomainResult.command result).reasonCode = (DomainResult.command result').reasonCode :=
          congrArg (Option.map ReasonCode.text) hreason
        rw [hcode, hcode'] at hsame
        rw [hline, hline', Option.some.inj hsame]

end sizing

/-- **The exit code of `estimate` foretells the chat.** For every pair of command lines with one message, one model,
one system text and one reply length, every state of the server at the estimate and every later one at the chat, and
whatever is read at either: as long as the two size the prompt alike, `estimate` exits with 0 exactly when the `chat`
calls the runtime or waits in the queue; otherwise that chat calls nothing, leaves the queue as it was and exits with
1, with the verdict line of the estimate. The present plus the configured time to live of a queue entry is a date at
the chat, or the model cannot be sized. -/
theorem estimate_sizes_chat (s t : PublicState) (p p' : PublicReadings) (f f' : Framework) (host : CliHost)
    (dry real settings settings' : Dict Value) (message modelName : String)
    (hconnection : connection host dry = .ok settings) (hconnection' : connection host real = .ok settings')
    (htext : SameText dry real message modelName)
    (halike : SizedAlike s.adapter t.adapter (p.withStore s.store) (p'.withStore t.store) modelName
      (messagesFromParams dry message) (replyLength dry))
    (hexpiry : Sizable (p'.withStore t.store) modelName → ExpiryIsDate (p'.withStore t.store)) :
    ∃ sizing sending sized sent,
      cliRequest host.floats "estimate" dry = .ok sizing ∧ cliRequest host.floats "chat" real = .ok sending ∧
      cliRun host "estimate" dry (s.answers p f) = .finished sized ∧
      cliRun host "chat" real (t.answers p' f') = .finished sent ∧
      (sized.exitCode = 0 ↔ (t.serve p' f' sending).calls ≠ [] ∨
        ∃ entry, (t.serve p' f' sending).state.adapter.queue = t.adapter.queue.add entry) ∧
      (sized.exitCode ≠ 0 → (t.serve p' f' sending).calls = [] ∧
        (t.serve p' f' sending).state.adapter.queue = t.adapter.queue ∧ sent.exitCode = 1 ∧
        sent.stderr = sized.stderr) := by
  have hsizing : cliRequest host.floats "estimate" dry =
      .ok { command := .estimate, params := Dict.update [] (givenEstimateFlags dry) } := by
    rw [cliRequest_of_estimate, htext.bodyless]
    rfl
  have hmessage : Value.item real "message" = .str message :=
    (htext.same "message" (by simp)).trans htext.message_eq
  have hmodel : Value.item real "model_name" = .str modelName :=
    (htext.same "model_name" (by simp)).trans htext.modelName_eq
  have hmax := htext.same "max_tokens" (by simp)
  obtain ⟨params, hsending, hparams⟩ := cliRequest_chat host.floats
    (show (Value.item real "message").isNone = false by rw [hmessage]; rfl)
    (show (Value.item real "model_name").isNone = false by rw [hmodel]; rfl)
  -- what the two commands read of what they are handed
  have hdelivered (key : String) (hkey : key ∈ ["message", "model_name", "system", "max_tokens"]) :
      Dict.get? (f.deliver (Dict.update [] (givenEstimateFlags dry))) key = flag? dry key ∧
        Dict.get? (f'.deliver params) key = flag? real key := by
    have hdeclared : key ∈ schemaProperties ∧ key ∈ estimateFlags := by
      simp only [List.mem_cons, List.not_mem_nil, or_false] at hkey
      rcases hkey with rfl | rfl | rfl | rfl
      all_goals simp [schemaProperties, estimateFlags]
    rw [f.get?_deliver _ hdeclared.1, f'.get?_deliver _ hdeclared.1, hparams key hkey]
    exact ⟨get?_estimate dry hdeclared.2, rfl⟩
  have hdry : TextRequest (f.deliver (Dict.update [] (givenEstimateFlags dry))) message modelName
      (replyLength dry) := by
    apply textRequest_of_flags htext.message_eq htext.message_ne htext.modelName_eq htext.modelName_ne
      htext.maxTokens
    intro key hkey
    exact (hdelivered key (by simp only [List.mem_cons, List.not_mem_nil, or_false] at hkey ⊢; tauto)).1
  have hreal : TextRequest (f'.deliver params) message modelName (replyLength dry) := by
    have hlength : replyLength dry = replyLength real := by
      unfold replyLength
      rw [hmax]
    rw [hlength]
    apply textRequest_of_flags hmessage htext.message_ne hmodel htext.modelName_ne
    · rw [hmax]
      exact htext.maxTokens
    · intro key hkey
      exact (hdelivered key (by simp only [List.mem_cons, List.not_mem_nil, or_false] at hkey ⊢; tauto)).2
  have hsystem : Value.item (f.deliver (Dict.update [] (givenEstimateFlags dry))) "system" = Value.item dry "system" ∧
      Value.item (f'.deliver params) "system" = Value.item dry "system" := by
    obtain ⟨hleft, hright⟩ := hdelivered "system" (by simp)
    unfold Value.item
    rw [hleft, hright, getD_flag, getD_flag, htext.same "system" (by simp)]
    exact ⟨rfl, rfl⟩
  have hmessages : messagesFromParams (f.deliver (Dict.update [] (givenEstimateFlags dry))) message =
      messagesFromParams dry message := by
    unfold messagesFromParams
    rw [hsystem.1]
  -- the chat against the estimate there would be in its place, and that against the one there was
  have hagree := (agree_of_same_text (s := t.adapter) hdry hreal (hsystem.1.trans hsystem.2.symm) hexpiry).of_verdict
    (SizedAlike.estimate hdry (hmessages ▸ halike))
  obtain ⟨hsuccess, hfailure⟩ := hagree.foretells (fun _ => EstimateCommand.success_iff hdry) ChatCommand.queue_of_outcome
  let size : ClientRequest := { command := .estimate, params := Dict.update [] (givenEstimateFlags dry) }
  have hsized : (cliMain (.response (s.serve p f size).response)).Shows
      ((EstimateCommand.delegate s.adapter (p.withStore s.store) (f.deliver size.params)).result.map .command) :=
    shows_served s p f size
  refine ⟨_, _, _, _, hsizing, hsending, cliRun_of_request hconnection hsizing,
    cliRun_of_request hconnection' hsending, ?_, ?_⟩
  · exact hsized.command_success.trans hsuccess
  · intro hstatus
    have hnone := mt hsized.command_success.mpr hstatus
    have hneither := mt hsuccess.mpr hnone
    rw [not_or, not_ne_iff, not_exists] at hneither
    have hsent : (cliMain (.response (t.serve p' f' { command := .chat, params }).response)).Shows
        ((ChatCommand.delegate t.adapter (p'.withStore t.store) (f'.deliver params)).result.map .command) :=
      shows_served t p' f' { command := .chat, params }
    obtain ⟨hcode, hline⟩ := hsized.same_verdict hsent (hfailure hnone)
    refine ⟨hneither.1, ?_, hcode, hline⟩
    rcases ChatCommand.queue_cases t.adapter (p'.withStore t.store) (f'.deliver params) with hkept | ⟨entry, hadded⟩
    · exact hkept
    · exact absurd hadded (hneither.2 entry)

/-- The flags of a small prompt. -/
def helloFlags : Dict Value :=
  [("host", .str "h"), ("message", .str "hello"), ("model_name", .str "small"), ("max_tokens", .int 10)]

/-- A server with the small model, and a GPU with room for it. -/
def roomyState : PublicState where
  adapter := {}
  store := { waitingState.store with records := [smallRecord] }

@[inherit_doc roomyState]
def roomyReadings : PublicReadings := { bareReadings with readings := smallHost 1000 }

/-- What is read a second later, under another id. -/
def laterReadings : PublicReadings :=
  { bareReadings with readings := { smallHost 1000 with now := Datetime.microsPerSecond, uuid := "b" } }

/-- The requests of a small prompt, as they are sent. -/
def helloSizing : ClientRequest := { command := .estimate, params := Dict.update [] (givenEstimateFlags helloFlags) }

@[inherit_doc helloSizing]
def helloSending : ClientRequest where
  command := .chat
  params := [("message", .str "hello"), ("model_name", .str "small"), ("max_tokens", .int 10)]

/-- The server after the estimate of a small prompt. -/
def sizedState : PublicState := (roomyState.serve roomyReadings bareFramework helloSizing).state

/-- A second later the small prompt is sized alike. -/
theorem sizedAlike_hello :
    SizedAlike roomyState.adapter sizedState.adapter (roomyReadings.withStore roomyState.store)
      (laterReadings.withStore sizedState.store) "small" (messagesFromParams helloFlags "hello")
      (replyLength helloFlags) :=
  ⟨rfl, rfl, fun _ _ => rfl, rfl, Iff.rfl⟩

/-- The small prompt is sent. -/
theorem helloSending_calls : (sizedState.serve laterReadings bareFramework helloSending).calls ≠ [] :=
  List.cons_ne_nil _ _

/-- The estimate of a prompt there is room for exits with 0, and the chat a second later calls the runtime. -/
theorem estimate_sizes_chat_hello :
    ∃ sized sent,
      cliRun plainShell "estimate" helloFlags (roomyState.answers roomyReadings bareFramework) = .finished sized ∧
      cliRun plainShell "chat" helloFlags (sizedState.answers laterReadings bareFramework) = .finished sent ∧
      sized.exitCode = 0 ∧ (sizedState.serve laterReadings bareFramework helloSending).calls ≠ [] := by
  obtain ⟨sizing, sending, sized, sent, -, hsending, hsized, hsent, hforetells, -⟩ :=
    estimate_sizes_chat roomyState sizedState roomyReadings laterReadings bareFramework bareFramework plainShell
      helloFlags helloFlags _ _ "hello" "small" rfl rfl
      ⟨rfl, by decide, rfl, by decide, Or.inr ⟨10, rfl⟩, fun _ _ => rfl, rfl⟩ sizedAlike_hello
      (fun _ => by unfold ExpiryIsDate; decide)
  have hsame : helloSending = sending := Except.ok.inj hsending
  rw [← hsame] at hforetells
  exact ⟨sized, sent, hsized, hsent, hforetells.mpr (Or.inl helloSending_calls), helloSending_calls⟩

end Lmrs
