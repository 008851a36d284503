import Lmrs.Adapter.RawEstimate

/-!
# The other adapter commands, and the adapter as a system

Source: `lmrs/adapter/registration.py`, the command classes; `lmrs/adapter/runtime.py`,
`record_service_baseline_vram`; `lmrs/model_lifecycle.py`, `switch_model`.

`AdapterState.step` runs one command to its end, in the state the commands before it left. A
restart of the process keeps the facts file and nothing else.

* `AdapterState.step_queue`: only a chat that waits, a cancellation and a restart change the queue.
-/

namespace Lmrs

open Python

/-! ## Dry-run estimate -/

/-- Source: `registration.py`, `_resolve_target_model`. -/
def resolveTargetModel (s : AdapterState) (r : Readings) (params : Dict Value) : Option String :=
  let explicit := ((Value.item params "model_name").asStr?).filter fun name => name ≠ ""
  let served := (r.vllm.listModels r.targetProbe).servedModels.head?
  explicit.or ((s.residency.map fun m => m.modelName).or served)

namespace EstimateCommand

/-- Source: `registration.py`, `EstimateCommand._text_mode_estimate`. -/
def textModeEstimate (s : AdapterState) (r : Readings) (params : Dict Value) (message : String) :
    CommandRun CommandResult :=
  match resolveTargetModel s r params with
  | none | some "" =>
      { result := .ok (PublicCommandExecutor.failureResult .estimate .hardwareCapacityUnknown none
          [("detail", .str ("no model_name was given and no model is resident or served, " ++
              "so there is nothing to size against"))])
        state := s }
  | some modelName =>
      match modelKvProfile r modelName with
      | .error exc => { result := .error exc, state := s }
      | .ok none => { result := .ok (unsizedResult .estimate modelName), state := s }
      | .ok (some profile) =>
          match maxTokensParam params with
          | .error exc => { result := .error exc, state := s }
          | .ok maxTokens =>
              { result := do
                  let capacity ← capacitySnapshot s r modelName
                  (chatHandler s).estimate
                    { requestId := textParam params "request_id" ("estimate-" ++ r.uuid)
                      modelName, capacity
                      tokenBreakdown := promptTokenBreakdown r modelName
                        (messagesFromParams params message) maxTokens
                      declaredContextWindow := profile.1.declaredContextWindow
                      kvBytesPerToken := profile.1.kvBytesPerToken
                      perRequestOverheadBytes := intEnv r "LMRS_PER_REQUEST_OVERHEAD_BYTES"
                      runtimeBatchOverheadBytes := intEnv r "LMRS_RUNTIME_BATCH_OVERHEAD_BYTES" }
                state := s.measured r }

/-- Source: `registration.py`, `EstimateCommand.delegate`. -/
def delegate (s : AdapterState) (r : Readings) (params : Dict Value) : CommandRun CommandResult :=
  match (Value.item params "message").asStr? with
  | none | some "" => { result := rawEstimate s r params, state := s }
  | some message => textModeEstimate s r params message

end EstimateCommand

/-! ## Queue and capacity -/

/-- Source: `registration.py`, `CancelCommand.delegate`; `_QueueHolder.cancel`. -/
def CancelCommand.delegate (s : AdapterState) (params : Dict Value) :
    CommandRun (String × List (Dict Value)) :=
  match param params "request_id" with
  | .error exc => { result := .error exc, state := s }
  | .ok requestId =>
      let queue := s.queue.cancel requestId
      { result := .ok (requestId, queue.snapshot), state := { s with queue } }

/-- Source: `registration.py`, `QueueStatusCommand.delegate`. -/
def QueueStatusCommand.delegate (s : AdapterState) : CommandRun (List (Dict Value)) :=
  { result := .ok s.queue.snapshot, state := s }

/-- Source: `registration.py`, `CapacityCommand.delegate`. -/
def CapacityCommand.delegate (s : AdapterState) (r : Readings) : CommandRun VramPayload :=
  { result := vramPayload s r, state := s.measured r }

/-! ## Model lifecycle -/

/-- Source: `registration.py`, `record_model_load_measurement`. -/
def recordModelLoadMeasurement (r : Readings) (modelName : String) (file : VramFactsStore.File) :
    Except PyException (Dict Value × VramFactsStore.File) :=
  if r.gpu.ok = false then .ok ([("measurement_error", textValue r.gpu.error)], file)
  else do
    let status ← r.cache.status modelName
    return VramFactsStore.recordModelLoaded r.store file modelName r.gpu RuntimeBackend.vllm.text
      ((status.record.map fun record => record.quantizationProfile).getD "")

/-- The lifecycle owner of the process. Source: `registration.py`, `_LIFECYCLE`. -/
def lifecycle (r : Readings) : ModelMemoryLifecycle VramFactsStore.File where
  modelProbe := some fun modelName => .ok (r.vllm.isModelServed r.servedProbe modelName)
  diskCache := some r.cache.status
  vramRecorder := some (recordModelLoadMeasurement r)
  now := Datetime.isoformat r.now

/-- The state a lifecycle command leaves. -/
def AdapterState.adopt (s : AdapterState)
    (out : Except PyException (ModelMemoryLifecycle.Outcome VramFactsStore.File)) :
    CommandRun LifecycleCommandResult :=
  match out with
  | .error exc => { result := .error exc, state := s }
  | .ok out =>
      { result := .ok out.result
        state := { s with residency := out.residency, facts := out.recorder } }

/-- Source: `registration.py`, `LocalModelLoadCommand.delegate`. -/
def LocalModelLoadCommand.delegate (s : AdapterState) (r : Readings) (params : Dict Value) :
    CommandRun LifecycleCommandResult :=
  s.adopt do
    let modelName ← param params "model_name"
    (lifecycle r).loadModel s.residency s.facts modelName
      (Value.item params "allow_preload").truthy

/-- Source: `registration.py`, `LocalModelReloadCommand.delegate`. -/
def LocalModelReloadCommand.delegate (s : AdapterState) (r : Readings) (params : Dict Value) :
    CommandRun LifecycleCommandResult :=
  s.adopt do
    let modelName ← param params "model_name"
    (lifecycle r).reloadModel s.residency s.facts modelName

/-- Source: `registration.py`, `LocalModelUnloadCommand.delegate`. -/
def LocalModelUnloadCommand.delegate (s : AdapterState) (r : Readings) (params : Dict Value) :
    CommandRun LifecycleCommandResult :=
  match param params "model_name" with
  | .error exc => { result := .error exc, state := s }
  | .ok modelName =>
      let (result, residency) := (lifecycle r).unloadModel s.residency modelName
      { result := .ok result, state := { s with residency } }

/-- Source: `registration.py`, `LocalModelSwitchCommand.delegate`, run to its end. -/
def LocalModelSwitchCommand.delegate (s : AdapterState) (r : Readings) (params : Dict Value) :
    CommandRun (ModelMemoryLifecycle.SwitchResult × List ModelMemoryLifecycle.SwitchStage) :=
  match param params "model_name" with
  | .error exc => { result := .error exc, state := s }
  | .ok modelName =>
      let run := (lifecycle r).switchModel { status := r.cache.status, preload := r.preload }
        s.residency s.facts modelName
      { result := .ok (run.result, run.announced)
        state := { s with residency := run.residency, facts := run.recorder
                          switches := s.switches.filter fun name => name ≠ modelName } }

/-! ## The adapter as a system -/

/-- Source: `runtime.py`, `record_service_baseline_vram`: the facts file afterwards. -/
def recordServiceBaselineVram (s : AdapterState) (r : Readings) : VramFactsStore.File :=
  if r.gpu.ok = false then s.facts
  else
    let probe := r.vllm.listModels r.baselineProbe
    (VramFactsStore.recordServiceBaseline r.store s.facts r.gpu (residentServices r)
      (probe.ok && !probe.servedModels.isEmpty)).2

/-- What happens to the adapter: a command, or a restart of its process. -/
inductive Command where
  | chat (params : Dict Value)
  | estimate (params : Dict Value)
  | cancel (params : Dict Value)
  | queueStatus
  | capacity
  | modelLoad (params : Dict Value)
  | modelReload (params : Dict Value)
  | modelUnload (params : Dict Value)
  | modelSwitch (params : Dict Value)
  | restart

/-- The state after one command run to its end, and the completions it sent. -/
def AdapterState.step (s : AdapterState) (r : Readings) :
    Command → AdapterState × List (Dict Value)
  | .chat params =>
      let run := ChatCommand.delegate s r params
      (run.state, run.calls)
  | .estimate params => ((EstimateCommand.delegate s r params).state, [])
  | .cancel params => ((CancelCommand.delegate s params).state, [])
  | .queueStatus => ((QueueStatusCommand.delegate s).state, [])
  | .capacity => ((CapacityCommand.delegate s r).state, [])
  | .modelLoad params => ((LocalModelLoadCommand.delegate s r params).state, [])
  | .modelReload params => ((LocalModelReloadCommand.delegate s r params).state, [])
  | .modelUnload params => ((LocalModelUnloadCommand.delegate s r params).state, [])
  | .modelSwitch params => ((LocalModelSwitchCommand.delegate s r params).state, [])
  | .restart => ({ facts := recordServiceBaselineVram s r }, [])

/-- One command of the adapter, run with the readings it gets. -/
def AdapterStep (s : AdapterState) (label : Command × Readings) (t : AdapterState) : Prop :=
  t = (s.step label.2 label.1).1

/-! ## What a command does to the queue -/

section queue

variable {s : AdapterState} {r : Readings}

/-- A chat leaves the queue as it was, or leaves the one its handler handed to the sink. -/
theorem ChatCommand.state_queue (s : AdapterState) (r : Readings) (params : Dict Value) :
    (ChatCommand.delegate s r params).state.queue = s.queue ∨
      ∃ plan capacity entry result, ChatCommand.plan r params = .ok (.inr plan) ∧
        capacitySnapshot s r plan.modelName = .ok capacity ∧
        (chatHandler s).chatStep s.queue plan.requestMetadata plan.queueMetadata
            (plan.request capacity) =
          .ok (.queued (ChatCommand.delegate s r params).state.queue entry result) := by
  rw [ChatCommand.delegate_eq_admission]
  rcases ChatCommand.admission_cases s r params with ⟨_, hcase⟩ | ⟨_, hcase⟩ |
    ⟨plan, capacity, hplan, hcapacity, ⟨updated, entry, result, hstep, hcase⟩ | ⟨_, _, -, hcase⟩⟩
  · rw [hcase]
    exact Or.inl rfl
  · rw [hcase]
    exact Or.inl rfl
  · rw [hcase]
    exact Or.inr ⟨plan, capacity, entry, result, hplan, hcapacity, hstep⟩
  · rw [hcase]
    exact Or.inl rfl

/-- An estimate leaves the queue as it was. -/
theorem EstimateCommand.state_queue (s : AdapterState) (r : Readings) (params : Dict Value) :
    (EstimateCommand.delegate s r params).state.queue = s.queue := by
  unfold EstimateCommand.delegate
  split
  · rfl
  · rfl
  · unfold EstimateCommand.textModeEstimate
    repeat' split
    all_goals rfl

/-- A lifecycle command leaves the queue as it was. -/
theorem AdapterState.adopt_queue (s : AdapterState)
    (out : Except PyException (ModelMemoryLifecycle.Outcome VramFactsStore.File)) :
    (s.adopt out).state.queue = s.queue := by
  cases out <;> rfl

/-- **What a command does to the queue**: nothing; a chat asked to wait joins it; a cancellation
drops its request; a restart empties it. -/
theorem AdapterState.step_queue (s : AdapterState) (r : Readings) (c : Command) :
    (s.step r c).1.queue = s.queue ∨
      (∃ params plan capacity entry result, c = .chat params ∧
        ChatCommand.plan r params = .ok (.inr plan) ∧
        capacitySnapshot s r plan.modelName = .ok capacity ∧
        (chatHandler s).chatStep s.queue plan.requestMetadata plan.queueMetadata
            (plan.request capacity) = .ok (.queued (s.step r c).1.queue entry result)) ∨
      (∃ params requestId, c = .cancel params ∧
        (s.step r c).1.queue = s.queue.cancel requestId) ∨
      (c = .restart ∧ (s.step r c).1.queue = {}) := by
  cases c with
  | chat params =>
      rcases ChatCommand.state_queue s r params with hsame |
        ⟨plan, capacity, entry, result, hplan, hcapacity, hstep⟩
      · exact Or.inl hsame
      · exact Or.inr (Or.inl ⟨params, plan, capacity, entry, result, rfl, hplan, hcapacity, hstep⟩)
  | estimate params => exact Or.inl (EstimateCommand.state_queue s r params)
  | cancel params =>
      show (CancelCommand.delegate s params).state.queue = s.queue ∨ _
      unfold CancelCommand.delegate
      cases hid : param params "request_id" with
      | error exc => exact Or.inl rfl
      | ok requestId =>
          refine Or.inr (Or.inr (Or.inl ⟨params, requestId, rfl, ?_⟩))
          show (CancelCommand.delegate s params).state.queue = _
          unfold CancelCommand.delegate
          rw [hid]
  | queueStatus => exact Or.inl rfl
  | capacity => exact Or.inl rfl
  | modelLoad params => exact Or.inl (s.adopt_queue _)
  | modelReload params => exact Or.inl (s.adopt_queue _)
  | modelUnload params =>
      left
      show (LocalModelUnloadCommand.delegate s r params).state.queue = s.queue
      unfold LocalModelUnloadCommand.delegate
      split <;> rfl
  | modelSwitch params =>
      left
      show (LocalModelSwitchCommand.delegate s r params).state.queue = s.queue
      unfold LocalModelSwitchCommand.delegate
      split <;> rfl
  | restart => exact Or.inr (Or.inr (Or.inr ⟨rfl, rfl⟩))

end queue

end Lmrs
