import Lmrs.Adapter.PublicCommands
import Lmrs.Reporting

/-!
# What a public command reports when it fails

Every public command ends in a result whose failure has a code, or in an exception with the name of its
class (`delegate_ends`). This is shown for each family of commands; the readings over the disk cache of the
process are the only source of exceptions that is not in the commands themselves.
-/

namespace Lmrs

open Python Posix Raising

/-! ## The handler -/

/-- The reason of a verdict is one of four. -/
theorem decideAdmission_text (e : RequestCapacityEstimate) (c : CapacitySnapshot) (hit : Bool)
    (adjusted : Option Int) : (decideAdmission e c hit adjusted).reasonCode.text ≠ "" := by
  simp only [decideAdmission]
  split_ifs <;> simp [ReasonCode.text]

/-- A result of the handler reports a failure with a code. -/
def CommandResult.Coded (r : CommandResult) : Prop := Lmrs.Coded r.success r.reasonCode

/-- A result whose reason is known and has a text is coded. -/
theorem CommandResult.Coded.of_reason {r : CommandResult} {code : ReasonCode} (h : r.reasonCode = some code)
    (hcode : code.text ≠ "") : r.Coded := fun _ => ⟨code, h, hcode⟩

namespace CanonicalChatHandler

variable (handler : CanonicalChatHandler) (request : AdmissionRequest)

theorem estimateAndAdmit_ends :
    Ends (fun both => both.2.reasonCode.text ≠ "") Named (estimateAndAdmit request) :=
  (named_of_onlyRaises (estimateRequestCapacity_raises _ _ _ _ _ _ _ _) (by decide)).thenEnds fun e =>
    .ok (decideAdmission_text e _ _ _)

theorem switchingRejection_coded (dryRun : Bool) : (switchingRejection request dryRun).Coded := by
  unfold switchingRejection
  split_ifs
  · exact .of_reason rfl (by decide)
  · exact .of_reason rfl (by decide)

/-- **A dry run ends in a coded result or a named exception.** -/
theorem estimate_ends : Ends CommandResult.Coded Named (handler.estimate request) := by
  refine .ite (.ok (switchingRejection_coded request true)) ?_
  exact (estimateAndAdmit_ends request).bind fun both hreason => .ok (.of_reason rfl hreason)

/-- What a step of a chat says is coded. -/
def CodedStep : ChatStep → Prop
  | .refused result => result.Coded
  | .queued _ _ result => result.Coded
  | .admitted _ verdict => verdict.reasonCode.text ≠ ""

theorem buildQueueEntryRequest_named (v : AdmissionVerdict) (e : RequestCapacityEstimate)
    (req queue : Dict Value) : Raises Named (buildQueueEntryRequest v e req queue) :=
  .ite (.error (.ofKind (by decide)))
    (.ite (.error (.ofKind (by decide))) (.ite (.error (.ofKind (by decide))) (.ok _)))

theorem queueEntryFromRecord_named (record : Dict Value) : Raises Named (queueEntryFromRecord record) := by
  have htext (name : String) := getItem_named record name
  have hfigure {α : Type} (name : String) {f : Int → Except PyException α}
      (hf : ∀ n, Raises Named (f n)) : Raises Named (Value.getItem record name >>= fun v => toInt v >>= f) :=
    (htext name).bind fun v => (toInt_named v).bind hf
  exact (htext _).bind fun _ => (htext _).bind fun _ => (htext _).bind fun _ =>
    hfigure _ fun _ => hfigure _ fun _ => (htext _).bind fun _ => (htext _).bind fun _ =>
      hfigure _ fun _ => (htext _).bind fun _ => .ok _

/-- **A chat before its runtime call ends in a coded step or a named exception.** -/
theorem chatStep_ends (queue : RequestQueue) (req queueMeta : Dict Value) :
    Ends CodedStep Named (handler.chatStep queue req queueMeta request) := by
  refine .ite (.ok (switchingRejection_coded request false)) ?_
  refine (estimateAndAdmit_ends request).bind fun both hreason => ?_
  obtain ⟨e, v⟩ := both
  dsimp only at hreason ⊢
  cases canonicalDecision v.decision with
  | reject => exact .ok (CommandResult.Coded.of_reason (by rfl) hreason)
  | queue =>
      refine (buildQueueEntryRequest_named v e req queueMeta).thenEnds fun record => ?_
      refine (queueEntryFromRecord_named record).thenEnds fun entry => ?_
      exact .ok (CommandResult.Coded.of_reason (by rfl) hreason)
  | execute => exact .ok hreason

end CanonicalChatHandler

/-! ### The runtime -/

/-- A failure the runtime client reports has a code. -/
def RuntimeOutcome.Coded (outcome : RuntimeOutcome) : Prop :=
  ∀ signal, outcome = .failed signal → signal.reasonCode.text ≠ ""

theorem RuntimeOutcome.Coded.failed {signal : RuntimeFailureSignal} (h : signal.reasonCode.text ≠ "") :
    (RuntimeOutcome.failed signal).Coded := by
  intro _ heq
  cases heq
  exact h

namespace RuntimeClient

variable (client : RuntimeClient) (server : VLLMOpenAIClient.CompletionServer)

theorem completionFailure_text (requestId modelName baseUrl : String) (error : PyException) :
    (client.completionFailure requestId modelName baseUrl error).reasonCode.text ≠ "" := by
  unfold completionFailure
  dsimp only
  split_ifs <;> decide

theorem executeVllm_coded (requestId : String) (request : Dict Value) :
    (client.executeVllm server requestId request).outcome.Coded := by
  unfold executeVllm
  split
  · exact .failed (by simp [ReasonCode.text])
  · split
    · exact .failed (by simp [ReasonCode.text])
    · dsimp only
      split_ifs
      · exact .failed (by simp [ReasonCode.text])
      · exact .failed (by simp [ReasonCode.text])
      · split
        · exact .failed (client.completionFailure_text _ _ _ _)
        · exact fun _ heq => (nomatch heq)

/-- **Without an executor of the profile, a failure has a code.** -/
theorem execute_coded (request : Dict Value) : (client.execute server request none).outcome.Coded := by
  unfold execute
  dsimp only
  split_ifs
  · exact client.executeVllm_coded server _ request
  · exact .failed (by simp [ReasonCode.text])

end RuntimeClient

/-- The result of an admitted request is coded. -/
theorem CanonicalChatHandler.finishChat_coded (request : AdmissionRequest) (e : RequestCapacityEstimate)
    {v : AdmissionVerdict} {outcome : RuntimeOutcome} (hreason : v.reasonCode.text ≠ "")
    (houtcome : outcome.Coded) : (finishChat request e v outcome).Coded := by
  cases outcome with
  | failed signal => exact .of_reason rfl (houtcome signal rfl)
  | normalized result => exact .of_reason rfl hreason

/-! ## Parameters -/

theorem param_named (params : Dict Value) (name : String) : Raises Named (param params name) := by
  unfold param
  split
  · exact .ite (.error (.ofKind (by decide))) (.ok _)
  · exact .error (.ofKind (by decide))

theorem coerceTokenBreakdown_named (value : Dict Value) : Raises Named (coerceTokenBreakdown value) :=
  (toInt_named _).bind fun _ => (toInt_named _).bind fun _ => (toInt_named _).bind fun _ =>
    (toInt_named _).bind fun _ => .ok _

theorem coerceCapacity_named (value : Dict Value) : Raises Named (coerceCapacity value) :=
  (toInt_named _).bind fun _ => (toInt_named _).bind fun _ => .ok _

namespace EstimateCommand

theorem Coerced.ofValue_named {α : Type} {coerce : Dict Value → Except PyException α}
    (h : ∀ mapping, Raises Named (coerce mapping)) (value : Value) :
    Raises Named (Coerced.ofValue coerce value) := by
  unfold Coerced.ofValue
  split
  · exact (h _).map _
  · exact .ok _

theorem Coerced.read_named {α : Type} (input : Coerced α) (name : String) : Raises Named (input.read name) := by
  unfold Coerced.read
  split
  · exact .ok _
  · exact .error (.ofKind (by decide))

theorem nonNegative_named (name : String) (value : Value) : Raises Named (value.nonNegative name) := by
  unfold Value.nonNegative
  split
  · exact .error (.ofKind (by decide))
  · exact .ite (.error (.ofKind (by decide))) (.ok _)

theorem rawDynamicVramRequirement_named (round : ℚ → PyFloat) (tokens : Int) (kv perRequest batch : Value) :
    Raises Named (rawDynamicVramRequirement round tokens kv perRequest batch) := by
  refine (named_of_onlyRaises (requireNonNegative_raises _ _) (by decide)).bind fun _ => ?_
  refine (nonNegative_named _ _).bind fun kv => (nonNegative_named _ _).bind fun perRequest => ?_
  refine (nonNegative_named _ _).bind fun batch => ?_
  refine (named_of_onlyRaises (Number.mul_raises _ _ _) (by decide)).bind fun cost => ?_
  exact (named_of_onlyRaises (Number.add_raises _ _ _) (by decide)).bind fun sum =>
    named_of_onlyRaises (Number.add_raises _ _ _) (by decide)

/-- A decision on raw figures is coded, or a comparison raises. -/
theorem rawDecision_ends (tokens : Int) (bytes : Number) (window : Value) (capacity : CapacitySnapshot) :
    Ends (fun decided => decided.2.text ≠ "") Named (rawDecision tokens bytes window capacity) := by
  have hcompared : Raises Named (window.lessThanInt tokens) := by
    unfold Value.lessThanInt
    split
    · exact .error (.ofKind (by decide))
    · exact .ok _
  refine hcompared.thenEnds fun overflow => ?_
  exact .ite (.ok (by decide)) (.ite (.ok (by decide)) (.ite (.ok (by decide)) (.ok (by decide))))

end EstimateCommand

/-! ## Commands over readings -/

/-- What is read for a command is legible: the disk cache raises named exceptions, and a preload is
clear. -/
structure Readings.Legible (r : Readings) : Prop where
  record : ∀ modelName, Raises Named (r.cache.record modelName)
  preload : ∀ modelName, Ends CacheCommandResult.Clear Named (r.preload modelName)

section readings

variable {r : Readings} (h : r.Legible) (s : AdapterState) (params : Dict Value)
include h

theorem Readings.Legible.status (modelName : String) : Raises Named (r.cache.status modelName) :=
  (h.record modelName).map _

theorem modelKvProfile_named (modelName : String) : Raises Named (modelKvProfile r modelName) := by
  refine (h.status modelName).bind fun status => ?_
  split
  · exact .ok _
  · refine .ite (.ok _) ?_
    split
    · exact .ok _
    · exact .ok _

/-- A plan is refused with a code. -/
theorem ChatCommand.plan_ends :
    Ends (fun planned => ∀ refusal, planned = .inl refusal → refusal.Coded) Named
      (ChatCommand.plan r params) := by
  refine (param_named params _).thenEnds fun message => ?_
  refine (param_named params _).thenEnds fun modelName => ?_
  refine (toInt_named _).thenEnds fun maxTokens => ?_
  refine (modelKvProfile_named h modelName).thenEnds fun profile => ?_
  cases profile with
  | none =>
      refine .ok fun refusal heq => ?_
      cases heq
      exact .of_reason rfl (by decide)
  | some profile =>
      refine (addSeconds_named r.now (intEnv r "LMRS_QUEUE_TTL_SECONDS" 300)).thenEnds fun expiresAt => ?_
      refine .ok fun refusal heq => ?_
      cases heq

/-- **A chat ends in a coded result or a named exception.** -/
theorem ChatCommand.delegate_ends :
    Ends CommandResult.Coded Named (ChatCommand.delegate s r params).result := by
  have hplan := ChatCommand.plan_ends h params
  unfold ChatCommand.delegate
  cases hplanned : ChatCommand.plan r params with
  | error exc => exact .error (hplan.raises exc hplanned)
  | ok planned =>
      cases planned with
      | inl refusal => exact .ok (hplan.gives _ hplanned refusal rfl)
      | inr plan =>
          dsimp only
          cases hsnapshot : capacitySnapshot s r plan.modelName with
          | error exc =>
              exact .error (named_of_onlyRaises (capacitySnapshot_raises s r _) (by decide) exc hsnapshot)
          | ok capacity =>
              have hstep := (chatHandler s).chatStep_ends (plan.request capacity) s.queue
                plan.requestMetadata plan.queueMetadata
              dsimp only [CanonicalChatHandler.chat]
              cases hstepped : (chatHandler s).chatStep s.queue plan.requestMetadata plan.queueMetadata
                  (plan.request capacity) with
              | error exc => exact .error (hstep.raises exc hstepped)
              | ok step =>
                  have hcoded := hstep.gives step hstepped
                  cases step with
                  | refused result => exact .ok hcoded
                  | queued updated entry result => exact .ok hcoded
                  | admitted e v =>
                      exact .ok (CanonicalChatHandler.finishChat_coded _ e hcoded
                        (RuntimeClient.execute_coded _ _ _))

omit h in
open EstimateCommand in
theorem EstimateCommand.rawEstimate_ends :
    Ends CommandResult.Coded Named (EstimateCommand.rawEstimate s r params) := by
  refine .ite (.error (.ofKind (by decide))) ?_
  refine (Coerced.ofValue_named coerceTokenBreakdown_named _).thenEnds fun tokenBreakdown => ?_
  refine (Coerced.ofValue_named coerceCapacity_named _).thenEnds fun capacity => ?_
  refine .ite (.ok (.of_reason rfl (by decide))) ?_
  refine (capacity.read_named _).thenEnds fun snapshot => ?_
  refine (tokenBreakdown.read_named _).thenEnds fun breakdown => ?_
  refine (named_of_onlyRaises (calculateRequiredTokens_raises breakdown) (by decide)).thenEnds fun tokens => ?_
  refine (rawDynamicVramRequirement_named _ _ _ _ _).thenEnds fun bytes => ?_
  exact (rawDecision_ends tokens bytes _ snapshot).bind fun decided hdecided => .ok (.of_reason rfl hdecided)

/-- **An estimate ends in a coded result or a named exception.** -/
theorem EstimateCommand.delegate_ends :
    Ends CommandResult.Coded Named (EstimateCommand.delegate s r params).result := by
  unfold EstimateCommand.delegate
  split
  · exact EstimateCommand.rawEstimate_ends s params
  · exact EstimateCommand.rawEstimate_ends s params
  · unfold EstimateCommand.textModeEstimate
    split
    · exact .ok (.of_reason rfl (by decide))
    · exact .ok (.of_reason rfl (by decide))
    · rename_i modelName _ _
      have hprofile := modelKvProfile_named h modelName
      split
      · rename_i exc hprofiled
        exact .error (hprofile exc hprofiled)
      · exact .ok (.of_reason rfl (by decide))
      · split
        · rename_i exc htokens
          exact .error (toInt_named _ exc htokens)
        · exact (named_of_onlyRaises (capacitySnapshot_raises s r _) (by decide)).thenEnds fun capacity =>
            CanonicalChatHandler.estimate_ends _ _

/-! ### The lifecycle commands -/

/-- The lifecycle of the process has named collaborators. -/
theorem lifecycle_named : (lifecycle r).NamedCollaborators where
  cache status hstatus := by
    cases hstatus
    exact h.status
  probe probe hprobe := by
    cases hprobe
    exact fun _ => .ok _
  recorder record hrecord modelName file := by
    cases hrecord
    exact .ite (.ok _) ((h.status modelName).bind fun _ => .ok _)

/-- A result of the lifecycle is coded. -/
def LifecycleCommandResult.Coded (r : LifecycleCommandResult) : Prop := Lmrs.Coded r.success r.reasonCode

omit h in
/-- Adopting what a command leaves keeps how it ends. -/
theorem AdapterState.adopt_ends {out : Except PyException (ModelMemoryLifecycle.Outcome VramFactsStore.File)}
    (hout : Ends ModelMemoryLifecycle.Outcome.Coded Named out) :
    Ends LifecycleCommandResult.Coded Named (s.adopt out).result := by
  cases out with
  | error exc => exact .error (hout.raises exc rfl)
  | ok out => exact .ok (hout.gives out rfl)

/-- **A load, a reload and an unload end in a coded result or a named exception.** -/
theorem LocalModelLoadCommand.delegate_ends :
    Ends LifecycleCommandResult.Coded Named (LocalModelLoadCommand.delegate s r params).result :=
  s.adopt_ends ((param_named params "model_name").thenEnds fun modelName =>
    ModelMemoryLifecycle.loadModel_ends (lifecycle_named h) s.residency s.facts modelName
      (Value.item params "allow_preload").truthy)

theorem LocalModelReloadCommand.delegate_ends :
    Ends LifecycleCommandResult.Coded Named (LocalModelReloadCommand.delegate s r params).result :=
  s.adopt_ends ((param_named params "model_name").thenEnds fun modelName =>
    ModelMemoryLifecycle.reloadModel_ends (lifecycle_named h) s.residency s.facts modelName)

omit h in
theorem LocalModelUnloadCommand.delegate_ends :
    Ends LifecycleCommandResult.Coded Named (LocalModelUnloadCommand.delegate s r params).result := by
  unfold LocalModelUnloadCommand.delegate
  cases hname : param params "model_name" with
  | error exc => exact .error (param_named params _ exc hname)
  | ok modelName => exact .ok (ModelMemoryLifecycle.unloadModel_coded s.residency modelName (lifecycle r))

omit h in
theorem ModelStatusCommand.delegate_ends :
    Ends LifecycleCommandResult.Coded Named (ModelStatusCommand.delegate s params) :=
  (param_named params _).mapEnds (ModelMemoryLifecycle.modelStatus_coded s.residency)

end readings

/-! ## Commands that answer with a mapping -/

/-- A mapping a client reads no verdict from. -/
structure Plain (fields : Dict Value) : Prop where
  success : Value.item fields "success" = .none
  status : Value.item fields "status" ≠ .str "failed"

/-- A key that is not there reads as `None`. -/
theorem item_of_absent {fields : Dict Value} {name : String} (h : name ∉ fields.map Prod.fst) :
    Value.item fields name = .none := by
  have habsent : Dict.get? fields name = none := by
    refine List.lookup_eq_none_iff.mpr fun kv hkv => ?_
    simpa using fun heq : name = kv.1 => h (heq ▸ List.mem_map_of_mem hkv)
  unfold Value.item
  rw [habsent]
  rfl

/-- A mapping without the two keys is plain. -/
theorem Plain.of_keys {fields : Dict Value} (hsuccess : "success" ∉ fields.map Prod.fst)
    (hstatus : "status" ∉ fields.map Prod.fst) : Plain fields where
  success := item_of_absent hsuccess
  status := by rw [item_of_absent hstatus]; nofun

theorem CapacityCommand.delegate_ends (s : AdapterState) (r : Readings) :
    Raises Named (CapacityCommand.delegate s r).result :=
  (named_of_onlyRaises (payloadPools_raises s r) (by decide)).bind fun _ => .ok _

theorem TokenCountCommand.breakdown_named (s : AdapterState) (r : Readings) (params : Dict Value) :
    Raises Named (TokenCountCommand.breakdown s r params) := by
  have hfigure (name : String) : Raises Named (intParam params name) := toInt_named _
  unfold TokenCountCommand.breakdown
  split
  · exact (hfigure _).bind fun _ => .ok _
  · refine .ite (.error (.ofKind (by decide))) ?_
    exact (hfigure _).bind fun _ => (hfigure _).bind fun _ => (hfigure _).bind fun _ =>
      (hfigure _).bind fun _ => (param_named params _).bind fun _ => (param_named params _).bind fun _ =>
        .ok _

theorem calculateRequiredTokens_named (b : TokenBreakdown) : Raises Named (calculateRequiredTokens b) := by
  have hcheck (name : String) (n : Int) : Raises Named (requireNonNegative name n) :=
    .ite (.error (.ofKind (by decide))) (.ok _)
  exact (hcheck _ _).bind fun _ => (hcheck _ _).bind fun _ => (hcheck _ _).bind fun _ =>
    (hcheck _ _).bind fun _ => .ok _

/-- **A token count ends in a plain mapping or a named exception.** -/
theorem TokenCountCommand.delegate_ends (s : AdapterState) (r : Readings) (params : Dict Value) :
    Ends Plain Named (TokenCountCommand.delegate s r params) := by
  refine (TokenCountCommand.breakdown_named s r params).thenEnds fun breakdown => ?_
  refine (calculateRequiredTokens_named breakdown).thenEnds fun requiredTokens => .ok ?_
  exact .of_keys (by simp) (by simp)

theorem buildLmcacheTelemetry_named (policy : LMCachePolicy) (observations : Dict Value) :
    Raises Named (buildLmcacheTelemetry policy observations) := by
  have hfigure (name : String) : Raises Named (observedInt observations name) := toInt_named _
  exact (hfigure _).bind fun _ => (hfigure _).bind fun _ => (hfigure _).bind fun _ =>
    (hfigure _).bind fun _ => (hfigure _).bind fun _ => .ok _

theorem lmcacheObservations_named (policy : LMCachePolicy) (disk : Disk) (totals : Option (Dict PyFloat)) :
    Raises Named (lmcacheObservations policy disk totals) := by
  have hcounters (totals : Dict PyFloat) : Raises Named (externalCounters totals) := by
    unfold externalCounters
    split
    · exact (toInt_named _).bind fun _ => (toInt_named _).bind fun _ => .ok _
    · exact .ok _
  unfold lmcacheObservations
  cases totals with
  | none => exact .ok _
  | some totals => exact ((hcounters totals).bind fun _ => .ok _).bind fun _ => .ok _

/-- **A status of the tiers ends in a plain mapping or a named exception.** -/
theorem LocalLmcacheStatusCommand.delegate_ends (p : PublicReadings) (disk : Disk) :
    Ends Plain Named (LocalLmcacheStatusCommand.delegate p disk) := by
  refine (lmcacheObservations_named p.lmcache disk p.metricTotals).thenEnds fun observations => ?_
  refine (buildLmcacheTelemetry_named p.lmcache observations).thenEnds fun telemetry => ?_
  split
  · exact .ok (.of_keys (by simp) (by simp))
  · exact .error (.ofKind (by decide))

theorem removeArtifact_named (t : Tree) (target : RawPath) : Raises Named (removeArtifact t target).result := by
  unfold removeArtifact
  split
  · dsimp only
    split
    · exact .ok _
    · exact .error (refusalError_named _)
  · dsimp only
    split
    · exact .ok _
    · exact .error (refusalError_named _)

theorem removeArtifacts_named (t : Tree) (targets : List RawPath) :
    Raises Named (removeArtifacts t targets).result := by
  induction targets generalizing t with
  | nil => exact .ok _
  | cons target targets ih =>
      unfold removeArtifacts
      dsimp only
      cases hfirst : (removeArtifact t target).result with
      | error exc => exact .error (removeArtifact_named t target exc hfirst)
      | ok count => exact (ih _).map _

/-- **A purge ends in a plain mapping or a named exception.** -/
theorem LocalLmcachePurgeCommand.delegate_ends (t : Tree) (policy : LMCacheStoragePolicy)
    (params : Dict Value) : Ends Plain Named (LocalLmcachePurgeCommand.delegate t policy params).result := by
  have hsummary (scope : String) (count : Nat) :
      Plain [("scope", .str scope), ("removed_count", .int count)] := .of_keys (by simp) (by simp)
  unfold LocalLmcachePurgeCommand.delegate purgeLmcache
  dsimp only
  split
  · exact .ok (hsummary _ 0)
  · exact (removeArtifacts_named t _).mapEnds (hsummary _)

/-! ## All commands -/

namespace DomainResult

/-- Results told apart by their success flag alone. -/
theorem Legible.of_coded {d : DomainResult} {success : Bool} {reasonCode : Option ReasonCode}
    (hreports : d.reportsFailure = !success) (hreason : d.reasonCode = reasonCode.map ReasonCode.text)
    (hcoded : Coded success reasonCode)
    (hstatus : success = true → Value.item d.payload "status" ≠ .str "failed") : d.Legible where
  coded hfails := by
    obtain ⟨code, hcode, htext⟩ := hcoded (by simpa [hreports] using hfails)
    exact ⟨code.text, by rw [hreason, hcode]; rfl, htext⟩
  status hfails := hstatus (by simpa [hreports] using hfails)

theorem Legible.command {r : CommandResult} (h : r.Coded) : (DomainResult.command r).Legible := by
  have hstatus : "status" ∉ (DomainResult.command r).payload.map Prod.fst := by
    simp [payload, CommandResult.asdict]
  exact .of_coded rfl rfl h fun _ => by rw [item_of_absent hstatus]; nofun

theorem Legible.lifecycle {r : LifecycleCommandResult} (h : r.Coded) : (DomainResult.lifecycle r).Legible := by
  have hstatus : "status" ∉ (DomainResult.lifecycle r).payload.map Prod.fst := by
    simp [payload, LifecycleCommandResult.asdict]
  exact .of_coded rfl rfl h fun _ => by rw [item_of_absent hstatus]; nofun

theorem Legible.cache {r : CacheCommandResult} (h : r.Clear) : (DomainResult.cache r).Legible := by
  refine .of_coded rfl rfl h.coded fun hsuccess => ?_
  have htext : r.status.text ≠ "failed" := by
    have hstate := h.state hsuccess
    cases hstatus : r.status with
    | failed => exact absurd hstatus hstate
    | _ => decide
  simpa [payload, CacheCommandResult.asdict, Value.item, Dict.get?_cons] using htext

theorem Legible.mapping {fields : Dict Value} (h : Plain fields) : (DomainResult.mapping fields).Legible where
  coded hfails := by
    rw [reportsFailure, h.success] at hfails
    cases hfails
  status _ := h.status

theorem Legible.switch {modelName : String} {result : ModelMemoryLifecycle.SwitchResult}
    (h : result.Coded) (progress : List ModelMemoryLifecycle.SwitchStage) :
    (DomainResult.switch modelName result progress).Legible := by
  cases result with
  | failed reasonCode stage =>
      refine ⟨fun _ => ⟨reasonCode.text, rfl, h reasonCode stage rfl⟩, fun hfails => ?_⟩
      cases hfails
  | loadedInMemory load =>
      refine ⟨fun hfails => ?_, fun _ => ?_⟩
      · cases hfails
      · simp [payload, ModelMemoryLifecycle.SwitchResult.fields, CacheState.text, Value.item,
          Dict.get?_cons]

end DomainResult

section delegate

variable (p : PublicReadings) (s : PublicState) (params : Dict Value)

/-- **The readings over the disk cache are legible.** -/
theorem PublicReadings.withStore_legible (store : CacheStore) : (p.withStore store).Legible where
  record := p.cache.record_named store
  preload := p.cache.preload_ends p.host store

/-- A command on what the process keeps ends as the command does. -/
theorem PublicState.run_ends {α : Type} {Q : α → Prop} {out : CommandRun α} {wrap : α → DomainResult}
    (hout : Ends Q Named out.result) (hwrap : ∀ a, Q a → (wrap a).Legible) :
    Ends DomainResult.Legible Named (s.run out wrap).result := hout.map hwrap

/-- A command on the disk cache ends as the command does. -/
theorem PublicState.cacheRun_ends {command : String → Except PyException CacheCommandResult × CacheStore}
    (h : ∀ modelName, Ends CacheCommandResult.Clear Named (command modelName).1) :
    Ends DomainResult.Legible Named (s.cacheRun (param params "model_name") command).result := by
  unfold PublicState.cacheRun
  cases hname : param params "model_name" with
  | error exc => exact .error (param_named params _ exc hname)
  | ok modelName => exact (h modelName).map fun _ => .cache

/-- **A switch ends in a legible result or a named exception.** -/
theorem LocalModelSwitchCommand.delegateOn_ends :
    Ends DomainResult.Legible Named (LocalModelSwitchCommand.delegateOn p s params).result := by
  unfold LocalModelSwitchCommand.delegateOn
  cases hname : param params "model_name" with
  | error exc => exact .error (param_named params _ exc hname)
  | ok modelName =>
      have hbefore := p.withStore_legible s.store
      refine .ok (.switch (ModelMemoryLifecycle.switchModel_coded
        (lifecycle_named (p.withStore_legible _)) _ _ _ ⟨?_, ?_, ?_⟩) _)
      · exact hbefore.status
      · exact hbefore.preload
      · exact fun _ => .ok _

/-- **Every public command ends in a legible result or a named exception.** -/
theorem delegate_ends (command : CommandName) :
    Ends DomainResult.Legible Named (delegate p s command params).result := by
  have hr := p.withStore_legible s.store
  cases command with
  | healthcheck => exact .ok (.mapping ⟨rfl, by simp [HealthcheckCommand.delegate, Value.item, Dict.get?_cons]⟩)
  | modelStatus => exact (ModelStatusCommand.delegate_ends s.adapter params).map fun _ => .lifecycle
  | capacity =>
      exact (CapacityCommand.delegate_ends s.adapter _).mapEnds fun payload =>
        .mapping (.of_keys (by simp [VramPayload.fields]) (by simp [VramPayload.fields]))
  | tokenCount => exact (TokenCountCommand.delegate_ends s.adapter _ params).map fun _ => .mapping
  | estimate => exact s.run_ends (EstimateCommand.delegate_ends hr s.adapter params) fun _ => .command
  | chat => exact s.run_ends (ChatCommand.delegate_ends hr s.adapter params) fun _ => .command
  | queueStatus => exact .ok (.mapping (.of_keys (by simp) (by simp)))
  | cancel =>
      have hcancel : Raises Named (CancelCommand.delegate s.adapter params).result := by
        unfold CancelCommand.delegate
        cases hid : param params "request_id" with
        | error exc => exact .error (param_named params _ exc hid)
        | ok requestId => exact .ok _
      exact hcancel.mapEnds fun out => .mapping (.of_keys (by simp) (by simp))
  | localModelCachePreload =>
      exact s.cacheRun_ends params (p.cache.preload_ends p.host s.store)
  | localModelCacheStatus => exact s.cacheRun_ends params (p.cache.status_ends s.store)
  | localModelCacheDelete => exact s.cacheRun_ends params (p.cache.delete_ends p.host s.store)
  | localModelLoad =>
      exact s.run_ends (LocalModelLoadCommand.delegate_ends hr s.adapter params) fun _ => .lifecycle
  | localModelUnload =>
      exact s.run_ends (LocalModelUnloadCommand.delegate_ends s.adapter params) fun _ => .lifecycle
  | localModelReload =>
      exact s.run_ends (LocalModelReloadCommand.delegate_ends hr s.adapter params) fun _ => .lifecycle
  | localLmcacheStatus => exact (LocalLmcacheStatusCommand.delegate_ends p s.store.disk).map fun _ => .mapping
  | localLmcachePurge =>
      exact (LocalLmcachePurgeCommand.delegate_ends s.store.disk.tree _ params).map fun _ => .mapping
  | localModelSwitch => exact LocalModelSwitchCommand.delegateOn_ends p s params
  | info => exact .ok (.mapping (.of_keys (by simp [buildInfoPayload]) (by simp [buildInfoPayload])))

end delegate

end Lmrs
