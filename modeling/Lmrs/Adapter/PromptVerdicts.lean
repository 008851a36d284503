import Lmrs.Adapter.EstimateChat

/-!
# The verdict on a prompt

Source: `lmrs/adapter/registration.py`, `EstimateCommand._text_mode_estimate`, `ChatCommand.delegate`;
`lmrs/admission.py`, `decide_admission`.

The verdict is on figures: the tokens of a prompt with its reply against the window of its model, its bytes
against the pool.

* `estimate_fits_iff`, `estimate_overflows_iff`: what an estimate says, by the figures.
* `chat_overflows`, `chat_overflows_iff`: a chat whose tokens overflow the window is rejected for that and calls
  nothing.
-/

namespace Lmrs

open Python

/-! ## When an estimate refuses -/

section refusals

variable {s : AdapterState} {r : Readings} {params : Dict Value} {message modelName : String}
  {maxTokens : Int}

/-- A prompt as it is counted and measured: the KV profile of its model and the capacity there is, with no
switch running for the model and no negative count. -/
structure PromptMeasured (s : AdapterState) (r : Readings) (modelName : String) (messages : List ChatMessage)
    (maxTokens : Int) (profile : {p : KVCacheProfile // p.Positive}) (capacity : CapacitySnapshot) : Prop where
  profile_eq : modelKvProfile r modelName = .ok (some profile)
  capacity_eq : capacitySnapshot s r modelName = .ok capacity
  notSwitching : modelName ∉ s.switches
  input_nonneg : 0 ≤ (promptTokenBreakdown r modelName messages maxTokens).inputTokens

/-- The tokens of a prompt with its reply. -/
def promptTokens (r : Readings) (modelName : String) (messages : List ChatMessage) (maxTokens : Int) : Int :=
  (promptTokenBreakdown r modelName messages maxTokens).inputTokens + maxTokens

/-- The bytes of a prompt with its reply. -/
def promptBytes (r : Readings) (modelName : String) (messages : List ChatMessage) (maxTokens : Int)
    (profile : {p : KVCacheProfile // p.Positive}) : Int :=
  promptTokens r modelName messages maxTokens * profile.1.kvBytesPerToken +
    intEnv r "LMRS_PER_REQUEST_OVERHEAD_BYTES" + intEnv r "LMRS_RUNTIME_BATCH_OVERHEAD_BYTES"

/-- A prompt fits: its tokens the window of its model, its bytes the whole pool. -/
def PromptFits (s : AdapterState) (r : Readings) (modelName : String) (messages : List ChatMessage)
    (maxTokens : Int) : Prop :=
  ∃ profile capacity, PromptMeasured s r modelName messages maxTokens profile capacity ∧
    promptTokens r modelName messages maxTokens ≤ profile.1.declaredContextWindow ∧
    promptBytes r modelName messages maxTokens profile ≤ capacity.maxDynamicPoolBytes

/-- A prompt overflows the window of its model. -/
def PromptOverflows (s : AdapterState) (r : Readings) (modelName : String) (messages : List ChatMessage)
    (maxTokens : Int) : Prop :=
  ∃ profile capacity, PromptMeasured s r modelName messages maxTokens profile capacity ∧
    profile.1.declaredContextWindow < promptTokens r modelName messages maxTokens

/-- The plan of a text request is planned. -/
theorem textPlan_planned (h : TextRequest params message modelName maxTokens)
    {profile : {p : KVCacheProfile // p.Positive}} (hprofile : modelKvProfile r modelName = .ok (some profile)) :
    (textPlan r params message modelName maxTokens profile
      (r.now + intEnv r "LMRS_QUEUE_TTL_SECONDS" 300 * Datetime.microsPerSecond)).Planned r params where
  modelName_ne := h.modelName_ne
  modelName := h.modelName_eq
  messages := ⟨message, rfl⟩
  breakdown := rfl
  admittedAt := rfl
  expiresAt := rfl
  profile := hprofile
  perRequest := rfl
  batch := rfl

/-- The result gives the window as its reason. -/
def CommandResult.SaysOverflow (result : CommandResult) : Prop :=
  result.reasonCode.map ReasonCode.text = some "CONTEXT_OVERFLOW"

/-- What an estimate of a text request comes to, and the verdict of a measured one. -/
inductive TextVerdict (s : AdapterState) (r : Readings) (modelName : String) (messages : List ChatMessage)
    (maxTokens : Int) : Except PyException CommandResult → Prop where
  /-- Not measured: an exception, or a refusal for another reason than the window. -/
  | unmeasured {out : Except PyException CommandResult}
      (absent : ∀ profile capacity, ¬ PromptMeasured s r modelName messages maxTokens profile capacity)
      (refused : ∀ result, out = .ok result →
        (result.outcome = .rejected ∨ result.outcome = .wouldReject) ∧ ¬ result.SaysOverflow) :
      TextVerdict s r modelName messages maxTokens out
  /-- Measured: the verdict on its figures. -/
  | measured {result : CommandResult} {profile : {p : KVCacheProfile // p.Positive}}
      {capacity : CapacitySnapshot} {e : RequestCapacityEstimate}
      (present : PromptMeasured s r modelName messages maxTokens profile capacity)
      (tokens : e.requiredTokens = promptTokens r modelName messages maxTokens)
      (window : e.declaredContextWindow = profile.1.declaredContextWindow)
      (bytes : (decideAdmission e capacity).requiredDynamicVramBytes =
        promptBytes r modelName messages maxTokens profile)
      (result_eq : result = PublicCommandExecutor.estimateResult (decideAdmission e capacity).decision
        (some (decideAdmission e capacity).reasonCode) (some e.tokenBreakdown) (some capacity)) :
      TextVerdict s r modelName messages maxTokens (.ok result)

/-- What a dry run of a plan comes to. -/
theorem ChatPlan.Planned.dryRun_verdict {plan : ChatPlan} (hplanned : plan.Planned r params)
    (hmax : 0 ≤ plan.maxTokens) (requestId : String) :
    TextVerdict s r plan.modelName plan.messages plan.maxTokens (plan.dryRun s r requestId) := by
  unfold ChatPlan.dryRun
  rcases hcapacity : capacitySnapshot s r plan.modelName with exc | capacity
  · refine .unmeasured ?_ (by rintro _ ⟨⟩)
    intro profile capacity hmeasured
    rw [hmeasured.capacity_eq] at hcapacity
    cases hcapacity
  · show TextVerdict s r plan.modelName plan.messages plan.maxTokens
      ((chatHandler s).estimate { plan.request capacity with requestId })
    by_cases hswitch : plan.modelName ∈ s.switches
    · have hrefused : (chatHandler s).estimate { plan.request capacity with requestId } =
          .ok (CanonicalChatHandler.switchingRejection { plan.request capacity with requestId } true) := by
        unfold CanonicalChatHandler.estimate
        exact if_pos (decide_eq_true hswitch)
      rw [hrefused]
      refine .unmeasured (fun _ _ hmeasured => hmeasured.notSwitching hswitch) ?_
      rintro _ ⟨⟩
      refine ⟨Or.inr rfl, ?_⟩
      unfold CommandResult.SaysOverflow
      exact (by decide : some "MODEL_SWITCHING" ≠ some "CONTEXT_OVERFLOW")
    · rw [estimate_of_requestId (plan.request capacity) requestId (chatHandler_switching.mpr hswitch)]
      rcases hboth : CanonicalChatHandler.estimateAndAdmit (plan.request capacity) with exc | ⟨e, v⟩
      · refine .unmeasured ?_ (by rintro _ ⟨⟩)
        intro profile capacity' hmeasured
        have hinput := hmeasured.input_nonneg
        rw [← hplanned.breakdown] at hinput
        obtain ⟨e, hestimated⟩ := hplanned.estimateAndAdmit_isOk capacity ⟨hinput, hmax⟩
        rw [hestimated] at hboth
        cases hboth
      · obtain ⟨⟨hinput, -⟩, htokens, hbytes, -, hwindow⟩ := hplanned.estimate_figures hboth
        obtain ⟨-, -, -, -, -, -, -, -, hv⟩ := CanonicalChatHandler.estimateAndAdmit_eq_ok hboth
        subst hv
        rw [hplanned.breakdown] at hinput htokens
        refine .measured ⟨hplanned.profile, hcapacity, hswitch, hinput⟩ htokens hwindow ?_ rfl
        refine hbytes.trans ?_
        unfold ChatPlan.requiredBytes promptBytes promptTokens
        rw [hplanned.breakdown, hplanned.perRequest, hplanned.batch]

/-- **What an estimate of a text request comes to.** -/
theorem estimate_verdict (h : TextRequest params message modelName maxTokens) (hmax : 0 ≤ maxTokens) :
    TextVerdict s r modelName (messagesFromParams params message) maxTokens
      (EstimateCommand.delegate s r params).result := by
  rw [EstimateCommand.delegate_of_text h
    (r.now + intEnv r "LMRS_QUEUE_TTL_SECONDS" 300 * Datetime.microsPerSecond)]
  rcases hprofile : modelKvProfile r modelName with exc | _ | profile
  · refine .unmeasured ?_ (by rintro _ ⟨⟩)
    intro profile capacity hmeasured
    rw [hmeasured.profile_eq] at hprofile
    cases hprofile
  · refine .unmeasured ?_ ?_
    · intro profile capacity hmeasured
      rw [hmeasured.profile_eq] at hprofile
      cases hprofile
    · rintro _ ⟨⟩
      refine ⟨Or.inl rfl, ?_⟩
      unfold CommandResult.SaysOverflow
      exact (by decide : some "HARDWARE_CAPACITY_UNKNOWN" ≠ some "CONTEXT_OVERFLOW")
  · exact (textPlan_planned h hprofile).dryRun_verdict hmax _

/-- A prompt is measured in one way. -/
theorem PromptMeasured.unique {messages : List ChatMessage} {profile profile' : {p : KVCacheProfile // p.Positive}}
    {capacity capacity' : CapacitySnapshot} (h : PromptMeasured s r modelName messages maxTokens profile capacity)
    (h' : PromptMeasured s r modelName messages maxTokens profile' capacity') :
    profile' = profile ∧ capacity' = capacity := by
  have hprofile := h.profile_eq.symm.trans h'.profile_eq
  have hcapacity := h.capacity_eq.symm.trans h'.capacity_eq
  exact ⟨(Option.some.inj (Except.ok.inj hprofile)).symm, (Except.ok.inj hcapacity).symm⟩

/-- The word of a dry run is not a rejection exactly for what fits the window and the pool. -/
theorem dryRunOutcome_fits_iff {e : RequestCapacityEstimate} {capacity : CapacitySnapshot} :
    (PublicCommandExecutor.dryRunOutcome (decideAdmission e capacity).decision = .wouldExecute ∨
        PublicCommandExecutor.dryRunOutcome (decideAdmission e capacity).decision = .wouldQueue) ↔
      e.requiredTokens ≤ e.declaredContextWindow ∧
        (decideAdmission e capacity).requiredDynamicVramBytes ≤ capacity.maxDynamicPoolBytes := by
  unfold PublicCommandExecutor.dryRunOutcome
  rcases decideAdmission_cases e capacity false none with ⟨hd, -, h⟩ | ⟨hd, -, h⟩ | ⟨hd, -, h⟩
  · rw [hd]
    refine iff_of_false (by simp [canonicalDecision]) ?_
    omega
  · rw [hd]
    exact iff_of_true (by simp [canonicalDecision]) ⟨h.1, h.2.1⟩
  · rw [hd]
    exact iff_of_true (by simp [canonicalDecision]) ⟨h.1, h.2.1⟩

/-- A verdict is for the window exactly for what overflows it, and then a rejection. -/
theorem decideAdmission_overflow_iff (e : RequestCapacityEstimate) (capacity : CapacitySnapshot) :
    ((decideAdmission e capacity).reasonCode.text = "CONTEXT_OVERFLOW" ↔
        e.declaredContextWindow < e.requiredTokens) ∧
      (e.declaredContextWindow < e.requiredTokens →
        canonicalDecision (decideAdmission e capacity).decision = .reject) := by
  unfold decideAdmission
  dsimp only
  split_ifs with htokens
  · exact ⟨iff_of_true rfl htokens, fun _ => rfl⟩
  all_goals exact ⟨iff_of_false (by simp [ReasonCode.text]) htokens, fun h => absurd h htokens⟩

/-- An estimate would execute or wait exactly for a prompt that fits. -/
theorem estimate_fits_iff (h : TextRequest params message modelName maxTokens) (hmax : 0 ≤ maxTokens) :
    (∃ result, (EstimateCommand.delegate s r params).result = .ok result ∧
        (result.outcome = .wouldExecute ∨ result.outcome = .wouldQueue)) ↔
      PromptFits s r modelName (messagesFromParams params message) maxTokens := by
  have hverdict := estimate_verdict (s := s) (r := r) h hmax
  generalize (EstimateCommand.delegate s r params).result = out at hverdict
  rcases hverdict with ⟨habsent, hrefused⟩ | ⟨hpresent, htokens, hwindow, hbytes, hresult⟩
  · refine iff_of_false ?_ ?_
    · rintro ⟨result, hout, hword⟩
      obtain ⟨hrejected, -⟩ := hrefused result hout
      rcases hword with hword | hword
      all_goals simp [hword] at hrejected
    · rintro ⟨profile, capacity, hmeasured, -⟩
      exact habsent profile capacity hmeasured
  · subst hresult
    constructor
    · rintro ⟨_, ⟨⟩, hword⟩
      obtain ⟨hfits, hpool⟩ := dryRunOutcome_fits_iff.mp hword
      rw [htokens, hwindow] at hfits
      rw [hbytes] at hpool
      exact ⟨_, _, hpresent, hfits, hpool⟩
    · rintro ⟨profile, capacity, hmeasured, hfits, hpool⟩
      obtain ⟨rfl, rfl⟩ := hpresent.unique hmeasured
      rw [← htokens, ← hwindow] at hfits
      rw [← hbytes] at hpool
      exact ⟨_, rfl, dryRunOutcome_fits_iff.mpr ⟨hfits, hpool⟩⟩

/-- An estimate is refused for the window exactly for a prompt that overflows it. -/
theorem estimate_overflows_iff (h : TextRequest params message modelName maxTokens) (hmax : 0 ≤ maxTokens) :
    (∃ result, (EstimateCommand.delegate s r params).result = .ok result ∧
        result.outcome = .wouldReject ∧ result.SaysOverflow) ↔
      PromptOverflows s r modelName (messagesFromParams params message) maxTokens := by
  have hverdict := estimate_verdict (s := s) (r := r) h hmax
  generalize (EstimateCommand.delegate s r params).result = out at hverdict
  rcases hverdict with ⟨habsent, hrefused⟩ | ⟨hpresent, htokens, hwindow, -, hresult⟩
  · refine iff_of_false ?_ ?_
    · rintro ⟨result, hout, -, hreason⟩
      exact (hrefused result hout).2 hreason
    · rintro ⟨profile, capacity, hmeasured, -⟩
      exact habsent profile capacity hmeasured
  · subst hresult
    constructor
    · rintro ⟨_, ⟨⟩, -, hreason⟩
      have hoverflows := (decideAdmission_overflow_iff _ _).1.mp (Option.some.inj hreason)
      rw [htokens, hwindow] at hoverflows
      exact ⟨_, _, hpresent, hoverflows⟩
    · rintro ⟨profile, capacity, hmeasured, hoverflows⟩
      obtain ⟨rfl, rfl⟩ := hpresent.unique hmeasured
      rw [← htokens, ← hwindow] at hoverflows
      obtain ⟨hreason, hrejects⟩ := decideAdmission_overflow_iff _ _
      refine ⟨_, rfl, ?_, congrArg some (hreason.mpr hoverflows)⟩
      unfold PublicCommandExecutor.estimateResult PublicCommandExecutor.dryRunOutcome
      dsimp only
      rw [hrejects hoverflows]

/-- **A chat that overflows the window** is rejected for it, and calls nothing. -/
theorem chat_overflows (h : TextRequest params message modelName maxTokens) (hmax : 0 ≤ maxTokens)
    (hexpiry : Sizable r modelName → ExpiryIsDate r)
    (hoverflows : PromptOverflows s r modelName (messagesFromParams params message) maxTokens) :
    (ChatCommand.delegate s r params).calls = [] ∧
      ∃ result, (ChatCommand.delegate s r params).result = .ok result ∧ result.outcome = .rejected ∧
        result.SaysOverflow ∧ result.payload = none := by
  obtain ⟨profile, capacity, hmeasured, hoverflows⟩ := hoverflows
  obtain ⟨expiresAt, hdate⟩ := addSeconds_of_expiry (hexpiry ⟨profile, hmeasured.profile_eq⟩)
  have hplan := ChatCommand.plan_of_text (r := r) h
  rw [hmeasured.profile_eq, hdate] at hplan
  have hplanned := ChatCommand.plan_spec hplan
  have hinput := hmeasured.input_nonneg
  obtain ⟨e, hboth⟩ := hplanned.estimateAndAdmit_isOk capacity ⟨hinput, hmax⟩
  obtain ⟨-, htokens, -, -, hwindow⟩ := hplanned.estimate_figures hboth
  have hexceeds : e.declaredContextWindow < e.requiredTokens := by
    rw [htokens, hwindow]
    exact hoverflows
  obtain ⟨hreason, hrejects⟩ := decideAdmission_overflow_iff e capacity
  have hdelegate := ChatCommand.delegate_of_plan (s := s) hplan
  rw [show capacitySnapshot s r (textPlan r params message modelName maxTokens profile expiresAt).modelName =
    .ok capacity from hmeasured.capacity_eq] at hdelegate
  dsimp only at hdelegate
  rw [CanonicalChatHandler.chatStep_of_reject (chatHandler_switching.mpr hmeasured.notSwitching) hboth
    (hrejects hexceeds)] at hdelegate
  rw [hdelegate]
  refine ⟨rfl, _, rfl, ?_, congrArg some (hreason.mpr hexceeds), rfl⟩
  unfold PublicCommandExecutor.chatResult PublicCommandExecutor.executionOutcome
  dsimp only
  rw [hrejects hexceeds]

/-- A runtime call that fails does not give the window as its reason. -/
theorem finishChat_called {plan : ChatPlan} (hplanned : plan.Planned r params) (request : AdmissionRequest)
    (e : RequestCapacityEstimate) {v : AdmissionVerdict} (hexecute : canonicalDecision v.decision = .execute) :
    let result := CanonicalChatHandler.finishChat request e v
      ((runtimeClient r).execute r.completion plan.admittedRequest none).outcome
    result.outcome = .rejected → ¬ result.SaysOverflow := by
  intro result hrejected
  unfold result at hrejected ⊢
  rw [hplanned.execution_eq] at hrejected ⊢
  rcases hanswer : jsonRequest (r.completion.answer plan.payload) with error | payload
  · have hreason : (if contains "unavailable" error.message then ReasonCode.vllmUnavailable
        else .runtimeCallFailed).text ≠ "CONTEXT_OVERFLOW" := by
      split_ifs
      · decide
      · decide
    exact fun hsays => hreason (Option.some.inj hsays)
  · rw [hanswer] at hrejected
    simp [CanonicalChatHandler.finishChat, PublicCommandExecutor.chatResult, PublicCommandExecutor.executionOutcome,
      hexecute] at hrejected

/-- A chat that calls the runtime does not give the window as its reason when it fails. -/
theorem chat_called (hcalls : (ChatCommand.delegate s r params).calls ≠ []) {result : CommandResult}
    (hresult : (ChatCommand.delegate s r params).result = .ok result) (hrejected : result.outcome = .rejected) :
    ¬ result.SaysOverflow := by
  rw [ChatCommand.delegate_eq_admission] at hcalls hresult
  rcases ChatCommand.admission_cases s r params with ⟨_, hcase⟩ | ⟨_, hcase⟩ |
    ⟨plan, capacity, hplan, -, ⟨_, _, _, -, hcase⟩ | ⟨e, v, hstep, hcase⟩⟩
  · rw [hcase] at hcalls
    exact absurd rfl hcalls
  · rw [hcase] at hcalls
    exact absurd rfl hcalls
  · rw [hcase] at hcalls
    exact absurd rfl hcalls
  · rw [hcase] at hresult
    rcases CanonicalChatHandler.chatStep_cases hstep with ⟨_, hrefused, -⟩ |
      ⟨e', v', -, ⟨_, _, _, hqueued, -⟩ | ⟨hadmitted, -, hexecute⟩⟩
    · cases hrefused
    · cases hqueued
    · cases hadmitted
      cases hresult
      exact finishChat_called (ChatCommand.plan_spec hplan) _ e hexecute hrejected

/-- **A chat is rejected for the window exactly for a prompt that overflows it**, when the expiry is a date. -/
theorem chat_overflows_iff (h : TextRequest params message modelName maxTokens) (hmax : 0 ≤ maxTokens) :
    (∃ result, (ChatCommand.delegate s r params).result = .ok result ∧ result.outcome = .rejected ∧
        result.SaysOverflow) ↔
      PromptOverflows s r modelName (messagesFromParams params message) maxTokens ∧ ExpiryIsDate r := by
  constructor
  · rintro ⟨result, hresult, hrejected, hsays⟩
    have hexpiry : Sizable r modelName → ExpiryIsDate r := by
      intro hsizable
      by_contra hnot
      have hraises := (ChatCommand.delegate_of_overflow (s := s) h hsizable hnot).2
      rw [hresult] at hraises
      cases hraises
    have hagree := agree_of_expiry (s := s) h hexpiry
    have hnotExecuted : (EstimateCommand.delegate s r params).outcome ≠ some .wouldExecute :=
      fun hexecutes => chat_called (hagree.executes.mp hexecutes) hresult hrejected hsays
    have hnotQueued : (EstimateCommand.delegate s r params).outcome ≠ some .wouldQueue := by
      intro hqueues
      have hqueued := (hagree.queues.mp hqueues).1
      unfold CommandRun.outcome at hqueued
      rw [hresult] at hqueued
      rw [Option.some.inj hqueued] at hrejected
      cases hrejected
    have hsame := hagree.otherwise hnotExecuted hnotQueued
    rw [hresult] at hsame
    rcases hestimate : (EstimateCommand.delegate s r params).result with exc | estimated
    · rw [hestimate] at hsame
      exact hsame.elim
    · rw [hestimate] at hsame
      obtain ⟨-, -, hreason⟩ := hsame
      have hestimated : estimated.SaysOverflow := by
        unfold CommandResult.SaysOverflow
        rw [hreason]
        exact hsays
      have hverdict := estimate_verdict (s := s) (r := r) h hmax
      rw [hestimate] at hverdict
      rcases hverdict with ⟨-, hrefused⟩ | ⟨hpresent, htokens, hwindow, -, heq⟩
      · exact absurd hestimated (hrefused estimated rfl).2
      · rw [heq] at hestimated
        have hoverflows := (decideAdmission_overflow_iff _ _).1.mp (Option.some.inj hestimated)
        rw [htokens, hwindow] at hoverflows
        exact ⟨⟨_, _, hpresent, hoverflows⟩, hexpiry ⟨_, hpresent.profile_eq⟩⟩
  · rintro ⟨hoverflows, hexpiry⟩
    obtain ⟨-, result, hresult, hrejected, hsays, -⟩ := chat_overflows (s := s) h hmax (fun _ => hexpiry) hoverflows
    exact ⟨result, hresult, hrejected, hsays⟩

end refusals

end Lmrs
