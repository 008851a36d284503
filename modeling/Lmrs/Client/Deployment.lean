import Lmrs.Adapter.EstimateChat
import Lmrs.Adapter.QueueReports
import Lmrs.Adapter.Switching
import Lmrs.CacheIsolation
import Lmrs.Client.Methods
import Lmrs.Client.Verdict
import Lmrs.Lib.Transition

/-!
# The deployed server, as its clients meet it

Source: `lmrs/adapter/registration.py`, the command classes; `client/lmrs_client/client.py`, `LmrsClient._call`.

The framework hands a command the parameters that were sent, with keys of its own beside them, and wraps its
response. `PublicState.serve` answers one request; a session is the requests of any number of clients, one after
another.

* `delegate_same`, `session_same`: what a command, and a session, leave as it was. A part of the state changes
  only through the commands that write it (`CommandName.writes`).
* `resident_stays`: on the deployed server a resident model stays through every switch and every unload; only
  a load that allows a preload, or a reload, of another model replaces it.
-/

namespace Lmrs

open Python

/-! ## The framework -/

/-- The parameters the schemas of the commands declare. -/
def schemaProperties : List String :=
  ["model_name", "allow_preload", "message", "system", "temperature", "max_tokens", "request_id", "session_id",
   "input_tokens", "tool_tokens", "service_tokens", "reserved_output_tokens", "tokenizer_name",
   "tokenizer_accuracy", "rough_estimate", "token_breakdown", "declared_context_window", "capacity",
   "kv_bytes_per_token", "per_request_overhead_bytes", "runtime_batch_overhead_bytes", "namespace", "session"]

/-- What the framework does to one call: the keys it adds to the parameters, none of them a declared one, and
what it puts around the response. -/
structure Framework where
  injected : Dict Value := []
  envelope : Envelope := .direct
  injected_private : ∀ key ∈ injected.map Prod.fst, key ∉ schemaProperties := by simp

/-- A framework that adds nothing and answers directly. -/
def bareFramework : Framework := {}

/-- The parameters a command is handed. -/
def Framework.deliver (f : Framework) (params : Dict Value) : Dict Value := Dict.update params f.injected

/-- A declared parameter arrives as it was sent. -/
theorem Framework.get?_deliver (f : Framework) (params : Dict Value) {key : String}
    (h : key ∈ schemaProperties) : Dict.get? (f.deliver params) key = Dict.get? params key := by
  apply Dict.get?_update_of_not_mem
  intro hmem
  exact f.injected_private key hmem h

/-- A declared parameter arrives as it was sent. -/
theorem Framework.item_deliver (f : Framework) (params : Dict Value) {key : String}
    (h : key ∈ schemaProperties) : Value.item (f.deliver params) key = Value.item params key := by
  unfold Value.item
  rw [f.get?_deliver params h]

/-! ## One request -/

/-- An answered request: the response, the state afterwards, and the completions sent to the runtime. -/
structure Served where
  response : Value
  state : PublicState
  calls : List (Dict Value) := []

/-- The completions a command sends to the runtime: only a chat sends any. -/
def completions (p : PublicReadings) (s : PublicState) (params : Dict Value) : CommandName → List (Dict Value)
  | .chat => (ChatCommand.delegate s.adapter (p.withStore s.store) params).calls
  | _ => []

/-- One request, answered. -/
def PublicState.serve (s : PublicState) (p : PublicReadings) (f : Framework) (request : ClientRequest) :
    Served :=
  let params := f.deliver request.params
  let run := delegate p s request.command params
  { response := f.envelope.wrap (execute request.command run.result)
    state := run.state
    calls := completions p s params request.command }

/-- A request with what the server reads when it runs it. -/
structure Exchange where
  readings : PublicReadings
  framework : Framework
  request : ClientRequest

/-- The state after a request. -/
def PublicState.exchange (s : PublicState) (x : Exchange) : PublicState :=
  (s.serve x.readings x.framework x.request).state

/-! ## What a command leaves as it was -/

/-- The parts of what the process and its disk keep. -/
inductive Part where
  | queue | facts | residency | switches | disk | records
  deriving DecidableEq

/-- Two states have one part alike. -/
def Part.Same (s t : PublicState) : Part → Prop
  | .queue => t.adapter.queue = s.adapter.queue
  | .facts => t.adapter.facts = s.adapter.facts
  | .residency => t.adapter.residency = s.adapter.residency
  | .switches => t.adapter.switches = s.adapter.switches
  | .disk => t.store.disk = s.store.disk
  | .records => t.store.records = s.store.records

/-- The parts a command may change. -/
def CommandName.writes : CommandName → List Part
  | .chat => [.queue, .facts]
  | .cancel => [.queue]
  | .capacity | .estimate | .info => [.facts]
  | .localModelLoad | .localModelReload => [.residency, .facts]
  | .localModelUnload => [.residency]
  | .localModelSwitch => [.residency, .facts, .switches, .disk]
  | .localModelCachePreload | .localLmcachePurge => [.disk]
  | .localModelCacheDelete => [.disk, .records]
  | .healthcheck | .modelStatus | .tokenCount | .queueStatus | .localModelCacheStatus
  | .localLmcacheStatus => []

theorem Part.Same.refl (s : PublicState) (part : Part) : part.Same s s := by
  rcases part with _ | _ | _ | _ | _ | _
  all_goals rfl

theorem Part.Same.trans {s t u : PublicState} {part : Part} (h : part.Same s t) (h' : part.Same t u) :
    part.Same s u := by
  rcases part with _ | _ | _ | _ | _ | _
  all_goals exact Eq.trans h' h

/-- A command on what the process keeps changes what its run changes, and nothing on the disk. -/
theorem Part.Same.run {α : Type} {s : PublicState} {out : CommandRun α} {wrap : α → DomainResult} {part : Part}
    (hqueue : part = .queue → out.state.queue = s.adapter.queue)
    (hfacts : part = .facts → out.state.facts = s.adapter.facts)
    (hresidency : part = .residency → out.state.residency = s.adapter.residency)
    (hswitches : part = .switches → out.state.switches = s.adapter.switches) :
    part.Same s (s.run out wrap).state := by
  rcases part with _ | _ | _ | _ | _ | _
  · exact hqueue rfl
  · exact hfacts rfl
  · exact hresidency rfl
  · exact hswitches rfl
  · rfl
  · rfl

/-- A command on the disk cache changes what its store changes, and nothing the process keeps. -/
theorem Part.Same.cacheRun {s : PublicState} {modelName : Except PyException String}
    {command : String → Except PyException CacheCommandResult × CacheStore} {part : Part}
    (hdisk : part = .disk → ∀ name, (command name).2.disk = s.store.disk)
    (hrecords : part = .records → ∀ name, (command name).2.records = s.store.records) :
    part.Same s (s.cacheRun modelName command).state := by
  rcases modelName with exc | name
  · exact .refl s part
  · rcases part with _ | _ | _ | _ | _ | _
    · rfl
    · rfl
    · rfl
    · rfl
    · exact hdisk rfl name
    · exact hrecords rfl name

/-! ### One command -/

section commands

variable {p : PublicReadings} {s : PublicState} {params : Dict Value}

/-- A switch leaves the supplied records as they were. -/
theorem LocalModelSwitchCommand.storeAfter_records (p : PublicReadings) (store : CacheStore) (name : String) :
    (LocalModelSwitchCommand.storeAfter p store name).records = store.records := by
  unfold LocalModelSwitchCommand.storeAfter
  split
  · split
    · rfl
    · exact p.cache.preload_records ..
  · rfl

/-- A chat changes the queue and the facts file. -/
theorem ChatCommand.state_other (s : AdapterState) (r : Readings) (params : Dict Value) :
    (ChatCommand.delegate s r params).state.residency = s.residency ∧
      (ChatCommand.delegate s r params).state.switches = s.switches := by
  unfold ChatCommand.delegate
  split
  · exact ⟨rfl, rfl⟩
  · exact ⟨rfl, rfl⟩
  · split
    · exact ⟨rfl, rfl⟩
    · split
      · exact ⟨rfl, rfl⟩
      · exact ⟨rfl, rfl⟩

/-- An estimate changes the facts file at most. -/
theorem EstimateCommand.state_other (s : AdapterState) (r : Readings) (params : Dict Value) :
    (EstimateCommand.delegate s r params).state.residency = s.residency ∧
      (EstimateCommand.delegate s r params).state.switches = s.switches := by
  rcases EstimateCommand.state_cases s r params with h | h
  · rw [h]
    exact ⟨rfl, rfl⟩
  · rw [h]
    exact ⟨rfl, rfl⟩

/-- A cancellation changes the queue at most. -/
theorem CancelCommand.state_other (s : AdapterState) (params : Dict Value) :
    (CancelCommand.delegate s params).state.facts = s.facts ∧
      (CancelCommand.delegate s params).state.residency = s.residency ∧
      (CancelCommand.delegate s params).state.switches = s.switches := by
  unfold CancelCommand.delegate
  split
  · exact ⟨rfl, rfl, rfl⟩
  · exact ⟨rfl, rfl, rfl⟩

/-- A load or a reload changes the residency record and the facts file at most. -/
theorem AdapterState.adopt_other (s : AdapterState)
    (out : Except PyException (ModelMemoryLifecycle.Outcome VramFactsStore.File)) :
    (s.adopt out).state.queue = s.queue ∧ (s.adopt out).state.switches = s.switches := by
  rcases out with exc | out
  · exact ⟨rfl, rfl⟩
  · exact ⟨rfl, rfl⟩

/-- An unload changes the residency record at most. -/
theorem LocalModelUnloadCommand.state_other (s : AdapterState) (r : Readings) (params : Dict Value) :
    (LocalModelUnloadCommand.delegate s r params).state.queue = s.queue ∧
      (LocalModelUnloadCommand.delegate s r params).state.facts = s.facts ∧
      (LocalModelUnloadCommand.delegate s r params).state.switches = s.switches := by
  unfold LocalModelUnloadCommand.delegate
  split
  · exact ⟨rfl, rfl, rfl⟩
  · exact ⟨rfl, rfl, rfl⟩

/-- A switch leaves the queue and the supplied records as they were. -/
theorem LocalModelSwitchCommand.state_other (p : PublicReadings) (s : PublicState) (params : Dict Value) :
    (LocalModelSwitchCommand.delegateOn p s params).state.adapter.queue = s.adapter.queue ∧
      (LocalModelSwitchCommand.delegateOn p s params).state.store.records = s.store.records := by
  unfold LocalModelSwitchCommand.delegateOn
  split
  · exact ⟨rfl, rfl⟩
  · exact ⟨rfl, LocalModelSwitchCommand.storeAfter_records ..⟩

/-- **What a command leaves as it was**: every part it does not write. -/
theorem delegate_same (p : PublicReadings) (s : PublicState) (command : CommandName) (params : Dict Value)
    {part : Part} (h : part ∉ command.writes) : part.Same s (delegate p s command params).state := by
  let r := p.withStore s.store
  rcases command with _ | _ | _ | _ | _ | _ | _ | _ | _ | _ | _ | _ | _ | _ | _ | _ | _ | _
  · -- healthcheck
    exact .refl s part
  · -- model_status
    exact .refl s part
  · -- capacity
    apply Part.Same.run
    · exact fun _ => rfl
    · rintro rfl
      exact absurd List.mem_cons_self h
    · exact fun _ => rfl
    · exact fun _ => rfl
  · -- token_count
    exact .refl s part
  · -- estimate
    obtain ⟨hresidency, hswitches⟩ := EstimateCommand.state_other s.adapter r params
    apply Part.Same.run
    · exact fun _ => EstimateCommand.state_queue s.adapter r params
    · rintro rfl
      exact absurd List.mem_cons_self h
    · exact fun _ => hresidency
    · exact fun _ => hswitches
  · -- chat
    obtain ⟨hresidency, hswitches⟩ := ChatCommand.state_other s.adapter r params
    apply Part.Same.run
    · rintro rfl
      exact absurd (by simp [CommandName.writes]) h
    · rintro rfl
      exact absurd (by simp [CommandName.writes]) h
    · exact fun _ => hresidency
    · exact fun _ => hswitches
  · -- queue_status
    apply Part.Same.run <;> exact fun _ => rfl
  · -- cancel
    obtain ⟨hfacts, hresidency, hswitches⟩ := CancelCommand.state_other s.adapter params
    apply Part.Same.run
    · rintro rfl
      exact absurd (by simp [CommandName.writes]) h
    · exact fun _ => hfacts
    · exact fun _ => hresidency
    · exact fun _ => hswitches
  · -- local_model_cache_preload
    apply Part.Same.cacheRun
    · rintro rfl
      exact absurd (by simp [CommandName.writes]) h
    · exact fun _ name => p.cache.preload_records p.host s.store name
  · -- local_model_cache_status
    apply Part.Same.cacheRun <;> exact fun _ _ => rfl
  · -- local_model_cache_delete
    apply Part.Same.cacheRun
    · rintro rfl
      exact absurd (by simp [CommandName.writes]) h
    · rintro rfl
      exact absurd (by simp [CommandName.writes]) h
  · -- local_model_load
    obtain ⟨hqueue, hswitches⟩ := AdapterState.adopt_other s.adapter (do
      let modelName ← param params "model_name"
      (lifecycle r).loadModel s.adapter.residency s.adapter.facts modelName
        (Value.item params "allow_preload").truthy)
    apply Part.Same.run
    · exact fun _ => hqueue
    · rintro rfl
      exact absurd (by simp [CommandName.writes]) h
    · rintro rfl
      exact absurd (by simp [CommandName.writes]) h
    · exact fun _ => hswitches
  · -- local_model_unload
    obtain ⟨hqueue, hfacts, hswitches⟩ := LocalModelUnloadCommand.state_other s.adapter r params
    apply Part.Same.run
    · exact fun _ => hqueue
    · exact fun _ => hfacts
    · rintro rfl
      exact absurd (by simp [CommandName.writes]) h
    · exact fun _ => hswitches
  · -- local_model_reload
    obtain ⟨hqueue, hswitches⟩ := AdapterState.adopt_other s.adapter (do
      let modelName ← param params "model_name"
      (lifecycle r).reloadModel s.adapter.residency s.adapter.facts modelName)
    apply Part.Same.run
    · exact fun _ => hqueue
    · rintro rfl
      exact absurd (by simp [CommandName.writes]) h
    · rintro rfl
      exact absurd (by simp [CommandName.writes]) h
    · exact fun _ => hswitches
  · -- local_lmcache_status
    exact .refl s part
  · -- local_lmcache_purge
    rcases part with _ | _ | _ | _ | _ | _
    · rfl
    · rfl
    · rfl
    · rfl
    · exact absurd (by simp [CommandName.writes]) h
    · rfl
  · -- local_model_switch
    obtain ⟨hqueue, hrecords⟩ := LocalModelSwitchCommand.state_other p s params
    rcases part with _ | _ | _ | _ | _ | _
    · exact hqueue
    · exact absurd (by simp [CommandName.writes]) h
    · exact absurd (by simp [CommandName.writes]) h
    · exact absurd (by simp [CommandName.writes]) h
    · exact absurd (by simp [CommandName.writes]) h
    · exact hrecords
  · -- info
    apply Part.Same.run
    · exact fun _ => rfl
    · rintro rfl
      exact absurd List.mem_cons_self h
    · exact fun _ => rfl
    · exact fun _ => rfl

end commands

/-! ### A session -/

/-- **What a session leaves as it was**: over any requests of any number of clients, with anything they read,
a part of the state changes only if a command that writes it was among them. -/
theorem session_same (s : PublicState) (session : List Exchange) {part : Part}
    (h : ∀ x ∈ session, part ∉ x.request.command.writes) :
    part.Same s (Transition.runAll PublicState.exchange s session) := by
  induction session using List.reverseRecOn with
  | nil => exact .refl s part
  | append_singleton session x ih =>
      rw [Transition.runAll_concat]
      have hbefore := ih fun y hy => h y (List.mem_append_left _ hy)
      apply hbefore.trans
      exact delegate_same x.readings _ x.request.command _ (h x (by simp))

/-- A request of a bare server. -/
def bareExchange (command : CommandName) (params : Dict Value) : Exchange where
  readings := bareReadings
  framework := {}
  request := { command, params }

/-- A cancellation and a look at the queue leave the disk as it was. -/
theorem session_same_disk :
    Part.disk.Same waitingState (Transition.runAll PublicState.exchange waitingState
      [bareExchange .cancel [("request_id", .str "r1")], bareExchange .queueStatus []]) :=
  session_same waitingState _ (by
    intro x hx
    simp only [List.mem_cons, List.not_mem_nil, or_false] at hx
    rcases hx with rfl | rfl
    · simp [bareExchange, CommandName.writes]
    · simp [bareExchange, CommandName.writes])

/-! ## The resident model -/

namespace ModelMemoryLifecycle

variable {σ : Type} {lifecycle : ModelMemoryLifecycle σ} (collab : SwitchCollaborators)
  (resident : ModelResidency) (recorder : σ) {target : String}

/-- A run of a switch that left the record and the recorder as they were. -/
def SwitchRun.Keeps (run : SwitchRun σ) (resident : ModelResidency) (recorder : σ) : Prop :=
  run.residency = some resident ∧ run.recorder = recorder

/-- A run of a switch that failed before its load, at the unload because the runtime cannot unload. -/
def SwitchRun.Blocked (run : SwitchRun σ) : Prop :=
  ∃ reason stage, run.result = .failed reason stage ∧
    (stage = .unloading → reason = .vllmDynamicUnloadUnsupported)

/-- Behind a runtime probe a resident model is not unloaded, whichever its name. -/
theorem unloadModel_self (hprobe : lifecycle.modelProbe.isSome = true) :
    (lifecycle.unloadModel (some resident) resident.modelName).1.success = false ∧
      (lifecycle.unloadModel (some resident) resident.modelName).1.reasonCode =
        some .vllmDynamicUnloadUnsupported := by
  simp [unloadModel, hprobe]

/-- A switch to another model than the resident one ends at its unload. -/
theorem switchUnload_blocked (hprobe : lifecycle.modelProbe.isSome = true)
    (hname : resident.modelName ≠ target) (announced : List SwitchStage) :
    (lifecycle.switchUnload collab announced (some resident) recorder target).Keeps resident recorder ∧
      (lifecycle.switchUnload collab announced (some resident) recorder target).Blocked := by
  unfold switchUnload
  dsimp only
  rw [if_neg hname]
  split
  · refine ⟨⟨rfl, rfl⟩, _, _, rfl, ?_⟩
    intro h
    cases h
  · obtain ⟨hfailed, hreason⟩ := unloadModel_self resident hprobe
    rw [if_neg (by simp [hfailed])]
    refine ⟨⟨unloadModel_of_probe hprobe, rfl⟩, _, _, rfl, ?_⟩
    intro _
    rw [hreason]
    rfl

/-- A switch to the resident model loads nothing. -/
theorem switchUnload_self (announced : List SwitchStage) :
    (lifecycle.switchUnload collab announced (some resident) recorder resident.modelName).Keeps resident
      recorder := by
  unfold switchUnload
  dsimp only
  rw [if_pos rfl]
  unfold switchLoad
  dsimp only
  split
  · exact ⟨rfl, rfl⟩
  · have hload : lifecycle.loadModel (some resident) recorder resident.modelName true =
        .ok ⟨_, some resident, recorder⟩ := if_pos rfl
    rw [hload]
    dsimp only
    split
    · exact ⟨rfl, rfl⟩
    · exact ⟨rfl, rfl⟩

/-- **Behind a runtime probe a switch keeps the resident model**, and a switch to another model fails. -/
theorem switchModel_keeps (hprobe : lifecycle.modelProbe.isSome = true) :
    (lifecycle.switchModel collab (some resident) recorder target).Keeps resident recorder ∧
      (resident.modelName ≠ target →
        (lifecycle.switchModel collab (some resident) recorder target).Blocked) := by
  have hunload (announced : List SwitchStage) :
      (lifecycle.switchUnload collab announced (some resident) recorder target).Keeps resident recorder ∧
        (resident.modelName ≠ target →
          (lifecycle.switchUnload collab announced (some resident) recorder target).Blocked) := by
    by_cases hname : resident.modelName = target
    · subst hname
      exact ⟨switchUnload_self collab resident recorder announced, fun h => absurd rfl h⟩
    · obtain ⟨hkeeps, hblocked⟩ := switchUnload_blocked collab resident recorder hprobe hname announced
      exact ⟨hkeeps, fun _ => hblocked⟩
  have hstopped (run : SwitchRun σ) {reason : ReasonCode} {stage : SwitchStage}
      (hresult : run.result = .failed reason stage) (hstage : stage ≠ .unloading)
      (hkeeps : run.Keeps resident recorder) :
      run.Keeps resident recorder ∧ (resident.modelName ≠ target → run.Blocked) :=
    ⟨hkeeps, fun _ => ⟨reason, stage, hresult, fun h => absurd h hstage⟩⟩
  unfold switchModel
  split
  · exact hstopped _ rfl (by decide) ⟨rfl, rfl⟩
  · split_ifs
    · exact hunload _
    · split
      · exact hstopped _ rfl (by decide) ⟨rfl, rfl⟩
      · split
        · exact hstopped _ rfl (by decide) ⟨rfl, rfl⟩
        · split_ifs
          · exact hunload _
          · exact hstopped _ rfl (by decide) ⟨rfl, rfl⟩

end ModelMemoryLifecycle

/-- A request that leaves the resident model where it is: no load of another model that allows a preload, and no
reload of another model. -/
def ClientRequest.Spares (request : ClientRequest) (name : String) : Prop :=
  ∀ other, param request.params "model_name" = .ok other → other ≠ name →
    request.command ≠ .localModelReload ∧
      (request.command = .localModelLoad → (Value.item request.params "allow_preload").truthy = false)

/-- A declared text parameter arrives as it was sent. -/
theorem Framework.param_deliver (f : Framework) (params : Dict Value) {key : String}
    (h : key ∈ schemaProperties) : param (f.deliver params) key = param params key := by
  unfold param
  rw [f.item_deliver params h]

section resident

variable {s : PublicState} {resident : ModelResidency} {x : Exchange}

/-- A load that spares the resident model leaves the record as it was. -/
theorem LocalModelLoadCommand.residency_of_spares {s : AdapterState} (r : Readings) {params : Dict Value}
    (hresident : s.residency = some resident)
    (hspares : ∀ other, param params "model_name" = .ok other → other ≠ resident.modelName →
      (Value.item params "allow_preload").truthy = false) :
    (LocalModelLoadCommand.delegate s r params).state.residency = some resident := by
  unfold LocalModelLoadCommand.delegate
  rcases hname : param params "model_name" with exc | name
  · exact hresident
  · rw [hresident]
    by_cases hsame : resident.modelName = name
    · have hload (allow : Bool) : (lifecycle r).loadModel (some resident) s.facts name allow =
          .ok ⟨_, some resident, s.facts⟩ := if_pos hsame
      simp only [bind, Except.bind, hload]
      rfl
    · have hallow := hspares name hname (Ne.symm hsame)
      have hload : ∃ result, (lifecycle r).loadModel (some resident) s.facts name false =
          .ok ⟨result, some resident, s.facts⟩ := by
        simp only [ModelMemoryLifecycle.loadModel, if_neg hsame, if_true]
        exact ⟨_, rfl⟩
      obtain ⟨result, hload⟩ := hload
      simp only [bind, Except.bind, hallow, hload]
      rfl

/-- A reload that spares the resident model leaves its record, as that of a loaded model. -/
theorem LocalModelReloadCommand.residency_of_spares {s : AdapterState} (r : Readings) {params : Dict Value}
    (hresident : s.residency = some resident)
    (hspares : ∀ other, param params "model_name" = .ok other → other = resident.modelName) :
    (LocalModelReloadCommand.delegate s r params).state.residency = some resident ∨
      (LocalModelReloadCommand.delegate s r params).state.residency =
        some { resident with state := .loaded } := by
  unfold LocalModelReloadCommand.delegate
  rcases hname : param params "model_name" with exc | name
  · exact Or.inl hresident
  · obtain rfl := hspares name hname
    rw [hresident]
    simp only [bind, Except.bind, ModelMemoryLifecycle.reloadModel, ne_eq, not_true_eq_false, if_false]
    exact Or.inr rfl

/-- A switch leaves the resident model where it is; to another model it fails. -/
theorem LocalModelSwitchCommand.residency_kept (p : PublicReadings) {params : Dict Value}
    (hresident : s.adapter.residency = some resident) :
    (LocalModelSwitchCommand.delegateOn p s params).state.adapter.residency = some resident ∧
      ∀ target, param params "model_name" = .ok target → target ≠ resident.modelName →
        ∃ reason stage announced,
          (LocalModelSwitchCommand.delegateOn p s params).result =
            .ok (.switch target (.failed reason stage) announced) ∧
          (stage = .unloading → reason = .vllmDynamicUnloadUnsupported) := by
  unfold LocalModelSwitchCommand.delegateOn
  rcases param params "model_name" with exc | target
  · refine ⟨hresident, ?_⟩
    intro target htarget
    cases htarget
  · dsimp only
    rw [hresident]
    obtain ⟨⟨hkept, -⟩, hblocked⟩ := ModelMemoryLifecycle.switchModel_keeps
      { status := (p.withStore s.store).cache.status, preload := (p.withStore s.store).preload }
      resident s.adapter.facts
      (show (lifecycle (p.withStore
        (LocalModelSwitchCommand.storeAfter p s.store target))).modelProbe.isSome = true from rfl)
    refine ⟨hkept, ?_⟩
    intro target' htarget hne
    cases htarget
    obtain ⟨reason, stage, hresult, hstage⟩ := hblocked (Ne.symm hne)
    exact ⟨reason, stage, _, by rw [hresult], hstage⟩

/-- **One request keeps the resident model**, when it spares it. -/
theorem exchange_resident_cases (x : Exchange) (hresident : s.adapter.residency = some resident)
    (hspares : x.request.Spares resident.modelName) :
    (s.exchange x).adapter.residency = some resident ∨
      (s.exchange x).adapter.residency = some { resident with state := .loaded } := by
  have hparam : param (x.framework.deliver x.request.params) "model_name" =
      param x.request.params "model_name" :=
    x.framework.param_deliver _ (by simp [schemaProperties])
  by_cases hwrites : Part.residency ∉ x.request.command.writes
  · exact Or.inl (Eq.trans (delegate_same x.readings s x.request.command _ hwrites) hresident)
  · obtain ⟨readings, framework, command, params, queued⟩ := x
    dsimp only at hwrites hspares hparam
    unfold PublicState.exchange PublicState.serve
    rcases command with _ | _ | _ | _ | _ | _ | _ | _ | _ | _ | _ | _ | _ | _ | _ | _ | _ | _
    case localModelLoad =>
      left
      apply LocalModelLoadCommand.residency_of_spares _ hresident
      intro other hother hne
      rw [framework.item_deliver params (by simp [schemaProperties])]
      exact (hspares other (hparam.symm.trans hother) hne).2 rfl
    case localModelReload =>
      apply LocalModelReloadCommand.residency_of_spares _ hresident
      intro other hother
      by_contra hne
      exact (hspares other (hparam.symm.trans hother) hne).1 rfl
    case localModelUnload =>
      have hkept : ∀ name, ((lifecycle (readings.withStore s.store)).unloadModel s.adapter.residency name).2 =
          s.adapter.residency := fun name => ModelMemoryLifecycle.unloadModel_of_probe rfl
      refine Or.inl (Eq.trans ?_ hresident)
      dsimp only [delegate, PublicState.run, LocalModelUnloadCommand.delegate]
      split
      · rfl
      · exact hkept _
    case localModelSwitch => exact Or.inl (LocalModelSwitchCommand.residency_kept readings hresident).1
    all_goals exact absurd (by simp [CommandName.writes]) hwrites

/-- One request keeps the record of a loaded model as it is, when it spares it. -/
theorem exchange_resident (x : Exchange) (hresident : s.adapter.residency = some resident)
    (hloaded : resident.state = .loaded) (hspares : x.request.Spares resident.modelName) :
    (s.exchange x).adapter.residency = some resident := by
  rcases exchange_resident_cases x hresident hspares with hkept | hkept
  · exact hkept
  · rw [hkept, ← hloaded]

/-- **A resident model stays.** On the deployed server, over any requests of any number of clients with
anything they read: while no load of another model allows a preload and no other model is reloaded, the record
of a loaded model stays as it is through every switch and every unload, and every switch to another model
fails, as its client sees; where it got as far as the unload, because the runtime cannot unload. -/
theorem resident_stays (s : PublicState) (session : List Exchange) (resident : ModelResidency)
    (hresident : s.adapter.residency = some resident) (hloaded : resident.state = .loaded)
    (hspares : ∀ x ∈ session, x.request.Spares resident.modelName) :
    (Transition.runAll PublicState.exchange s session).adapter.residency = some resident ∧
      ∀ before x after target, session = before ++ x :: after → x.request.command = .localModelSwitch →
        param x.request.params "model_name" = .ok target → target ≠ resident.modelName →
          ∃ reason stage announced,
            (delegate x.readings (Transition.runAll PublicState.exchange s before) .localModelSwitch
                (x.framework.deliver x.request.params)).result =
              .ok (.switch target (.failed reason stage) announced) ∧
            (stage = .unloading → reason = .vllmDynamicUnloadUnsupported) ∧
            (verdict ((Transition.runAll PublicState.exchange s before).serve x.readings x.framework
              x.request).response).1 = false := by
  have hrun : ∀ before, (∀ x ∈ before, x.request.Spares resident.modelName) →
      (Transition.runAll PublicState.exchange s before).adapter.residency = some resident := by
    intro before hbefore
    induction before using List.reverseRecOn with
    | nil => exact hresident
    | append_singleton before x ih =>
        rw [Transition.runAll_concat]
        have hkept := ih fun y hy => hbefore y (List.mem_append_left _ hy)
        exact exchange_resident x hkept hloaded (hbefore x (by simp))
  refine ⟨hrun session hspares, ?_⟩
  rintro before x after target rfl hcommand htarget hne
  have hkept := hrun before fun y hy => hspares y (List.mem_append_left _ hy)
  have hparam : param (x.framework.deliver x.request.params) "model_name" = .ok target :=
    (x.framework.param_deliver _ (by simp [schemaProperties])).trans htarget
  obtain ⟨reason, stage, announced, hresult, hstage⟩ :=
    (LocalModelSwitchCommand.residency_kept x.readings hkept).2 target hparam hne
  refine ⟨reason, stage, announced, hresult, hstage, ?_⟩
  unfold PublicState.serve
  rw [hcommand]
  have hverdict := (verdict_of_ends .localModelSwitch
    (delegate_ends x.readings (Transition.runAll PublicState.exchange s before)
      (x.framework.deliver x.request.params) .localModelSwitch) x.framework.envelope).1
  apply Bool.eq_false_iff.mpr
  intro hsuccess
  obtain ⟨result, hok, hreports⟩ := hverdict.mp hsuccess
  have hsame : DomainResult.switch target (.failed reason stage) announced = result :=
    Except.ok.inj (hresult.symm.trans hok)
  rw [← hsame] at hreports
  cases hreports

end resident

/-- The small model stays resident when another one is switched to. -/
theorem resident_stays_small :
    (Transition.runAll PublicState.exchange { adapter := smallResident, store := waitingState.store }
        [bareExchange .localModelSwitch [("model_name", .str "other")]]).adapter.residency =
      smallResident.residency :=
  (resident_stays { adapter := smallResident, store := waitingState.store } _ _ rfl rfl (by
    intro x hx other _ _
    rw [List.mem_singleton.mp hx]
    simp [bareExchange])).1

end Lmrs
