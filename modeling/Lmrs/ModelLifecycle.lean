import Lmrs.ModelCache
import Lmrs.RuntimeClient

/-!
# Model memory lifecycle

Source: `lmrs/model_lifecycle.py`.

One model at most is recorded resident. `loadModel`, `unloadModel` and `reloadModel` are the
transitions of that record; each returns the report of the command with the record afterwards. The
collaborators of the owner (the runtime probe, the disk cache, the VRAM recorder) are fields of
`ModelMemoryLifecycle`; the recorder acts on a state of its own, `σ`.

A switch runs preload, unload and load in this order and stops at the first that fails.

* `loadModel_cases`: a load that returns leaves the record as it was or makes resident a record it
  vouches for (`Loaded`).
* `unloadModel_cases`: an unload leaves no record when it succeeds and the same one when it fails;
  with a runtime probe configured it never succeeds.
-/

namespace Lmrs

open Python

/-- Source: `model_lifecycle.py`, `LifecycleState`. -/
inductive LifecycleState where
  | notLoaded | loading | loaded | unloading | reloading | failed | keepLoaded
  deriving DecidableEq, Repr

/-- Source: `model_lifecycle.py`, `ModelResidency`. -/
structure ModelResidency where
  modelName : String
  runtimeBackend : RuntimeBackend
  state : LifecycleState
  keepLoaded : Bool := true
  measuredModelStaticVramBytes : Option Int := none
  modelLoadedFreeVramBytes : Option Int := none
  loadedAt : Option String := none
  metadata : Dict Value := []

/-- Source: `model_lifecycle.py`, `LifecycleCommandResult`. -/
structure LifecycleCommandResult where
  command : String
  modelName : String
  state : LifecycleState
  success : Bool
  reasonCode : Option ReasonCode := none
  measuredModelStaticVramBytes : Option Int := none
  modelLoadedFreeVramBytes : Option Int := none
  metadata : Dict Value := []

/-- Source: `model_lifecycle.py`, `ModelMemoryLifecycle`: the configuration and the collaborators.
The residency record is passed beside it. -/
structure ModelMemoryLifecycle (σ : Type) where
  runtimeBackend : RuntimeBackend := .vllm
  modelProbe : Option (String → Except PyException VLLMModelProbeResult) := none
  diskCache : Option (String → Except PyException CacheCommandResult) := none
  vramRecorder : Option (String → σ → Except PyException (Dict Value × σ)) := none
  /-- `datetime.now(UTC).isoformat()` at the moment of a load. -/
  now : String

namespace ModelMemoryLifecycle

variable {σ : Type}

/-- What a command leaves: its report, the residency record, and the recorder's state. -/
structure Outcome (σ : Type) where
  result : LifecycleCommandResult
  residency : Option ModelResidency
  recorder : σ

/-- The disk check of a load: the metadata it adds, or the refusal. -/
def checkDiskCache (lifecycle : ModelMemoryLifecycle σ) (modelName : String) (allowPreload : Bool) :
    Except PyException (LifecycleCommandResult ⊕ Dict Value) :=
  match lifecycle.diskCache, allowPreload with
  | some status, false => do
      let cacheStatus ← status modelName
      if cacheStatus.status ≠ .cachedOnDisk then
        return .inl
          { command := "load_model", modelName, state := .notLoaded, success := false
            reasonCode := some .modelNotCached
            metadata :=
              [("cache_status", .str cacheStatus.status.text),
               ("cache_reason_code", match cacheStatus.reasonCode with
                  | some code => .str code.text
                  | none => .none),
               ("hint", .str "call this command with allow_preload to fetch the model first")] }
      else return .inr [("cache_status", .str cacheStatus.status.text)]
  | _, _ => .ok (.inr [])

/-- The runtime check of a load: the metadata gathered so far with the probe's, or the refusal. -/
def checkProbe (lifecycle : ModelMemoryLifecycle σ) (modelName : String) (gathered : Dict Value) :
    Except PyException (LifecycleCommandResult ⊕ Dict Value) :=
  match lifecycle.modelProbe with
  | none => .ok (.inr gathered)
  | some probe => do
      let answer ← probe modelName
      let gathered := Dict.update (Dict.update gathered
        [("runtime_probe", .str "vllm_openai_models"),
         ("served_models", .list (answer.servedModels.map .str))]) answer.metadata
      if answer.ok then return .inr gathered
      else
        return .inl
          { command := "load_model", modelName, state := .failed, success := false
            reasonCode := some .modelNotServedByVllm
            metadata := Dict.set gathered "error"
              (match answer.error with
               | some error => if error = "" then .str "model is not served by vLLM" else .str error
               | none => .str "model is not served by vLLM") }

/-- The measurement of a load: the metadata, the two figures, and the recorder's state. -/
def measureLoad (lifecycle : ModelMemoryLifecycle σ) (modelName : String) (gathered : Dict Value)
    (recorder : σ) : Except PyException (Dict Value × Option Int × Option Int × σ) :=
  match lifecycle.vramRecorder with
  | none => .ok (gathered, none, none, recorder)
  | some record => do
      let (facts, recorder) ← record modelName recorder
      return (Dict.set gathered "vram_facts" (.dict facts),
              (Value.item facts "measured_model_static_vram_bytes").asInt?,
              (Value.item facts "model_loaded_free_vram_bytes").asInt?, recorder)

/-- The part of a load after the residency checks. -/
def loadUnresident (lifecycle : ModelMemoryLifecycle σ) (residency : Option ModelResidency)
    (recorder : σ) (modelName : String) (allowPreload : Bool) :
    Except PyException (Outcome σ) := do
  match ← lifecycle.checkDiskCache modelName allowPreload with
  | .inl refusal => return ⟨refusal, residency, recorder⟩
  | .inr cacheMetadata =>
      match ← lifecycle.checkProbe modelName (
          ("allow_preload", .bool allowPreload) :: cacheMetadata) with
      | .inl refusal => return ⟨refusal, residency, recorder⟩
      | .inr gathered =>
          let (metadata, static, free, recorder) ←
            lifecycle.measureLoad modelName gathered recorder
          return {
            result :=
              { command := "load_model", modelName, state := .loaded, success := true, metadata
                measuredModelStaticVramBytes := static, modelLoadedFreeVramBytes := free }
            residency := some
              { modelName, runtimeBackend := lifecycle.runtimeBackend, state := .loaded, metadata
                measuredModelStaticVramBytes := static, modelLoadedFreeVramBytes := free
                loadedAt := some lifecycle.now }
            recorder }

/-- Source: `model_lifecycle.py`, `ModelMemoryLifecycle.load_model`. -/
def loadModel (lifecycle : ModelMemoryLifecycle σ) (residency : Option ModelResidency)
    (recorder : σ) (modelName : String) (allowPreload : Bool := false) :
    Except PyException (Outcome σ) :=
  match residency with
  | some resident =>
      if resident.modelName = modelName then
        .ok ⟨{ command := "load_model", modelName, state := resident.state, success := true
               reasonCode := some .modelAlreadyLoaded
               measuredModelStaticVramBytes := resident.measuredModelStaticVramBytes
               modelLoadedFreeVramBytes := resident.modelLoadedFreeVramBytes
               metadata := resident.metadata }, residency, recorder⟩
      else if allowPreload = false then
        .ok ⟨{ command := "load_model", modelName, state := resident.state, success := false
               reasonCode := some .modelAlreadyLoaded
               metadata := [("resident_model", .str resident.modelName)] }, residency, recorder⟩
      else lifecycle.loadUnresident residency recorder modelName allowPreload
  | none => lifecycle.loadUnresident residency recorder modelName allowPreload

/-- The report on a model that is not the resident one. -/
def notLoaded (command modelName : String) : LifecycleCommandResult :=
  { command, modelName, state := .notLoaded, success := false, reasonCode := some .modelNotLoaded }

/-- Source: `model_lifecycle.py`, `ModelMemoryLifecycle.unload_model`. -/
def unloadModel (lifecycle : ModelMemoryLifecycle σ) (residency : Option ModelResidency)
    (modelName : String) : LifecycleCommandResult × Option ModelResidency :=
  match residency with
  | none => (notLoaded "unload_model" modelName, residency)
  | some previous =>
      if previous.modelName ≠ modelName then (notLoaded "unload_model" modelName, residency)
      else if lifecycle.modelProbe.isSome then
        ({ command := "unload_model", modelName, state := previous.state, success := false
           reasonCode := some .vllmDynamicUnloadUnsupported
           measuredModelStaticVramBytes := previous.measuredModelStaticVramBytes
           modelLoadedFreeVramBytes := previous.modelLoadedFreeVramBytes
           metadata := [("resident_model", .str previous.modelName),
                        ("runtime_backend", .str previous.runtimeBackend.text)] }, residency)
      else
        ({ command := "unload_model", modelName, state := .notLoaded, success := true
           measuredModelStaticVramBytes := previous.measuredModelStaticVramBytes
           modelLoadedFreeVramBytes := previous.modelLoadedFreeVramBytes }, none)

/-- Source: `model_lifecycle.py`, `ModelMemoryLifecycle.reload_model`. -/
def reloadModel (lifecycle : ModelMemoryLifecycle σ) (residency : Option ModelResidency)
    (recorder : σ) (modelName : String) : Except PyException (Outcome σ) :=
  match residency with
  | none => lifecycle.loadModel residency recorder modelName true
  | some previous =>
      if previous.modelName ≠ modelName then lifecycle.loadModel residency recorder modelName true
      else
        .ok ⟨{ command := "reload_model", modelName, state := .loaded, success := true
               measuredModelStaticVramBytes := previous.measuredModelStaticVramBytes
               modelLoadedFreeVramBytes := previous.modelLoadedFreeVramBytes
               metadata := [("reloaded", .bool true)] },
             some { previous with modelName, state := .loaded }, recorder⟩

/-- Source: `model_lifecycle.py`, `ModelMemoryLifecycle.model_status`. -/
def modelStatus (residency : Option ModelResidency) (modelName : String) :
    LifecycleCommandResult :=
  match residency with
  | none => notLoaded "model_status" modelName
  | some resident =>
      if resident.modelName ≠ modelName then notLoaded "model_status" modelName
      else
        { command := "model_status", modelName, state := resident.state, success := true
          measuredModelStaticVramBytes := resident.measuredModelStaticVramBytes
          modelLoadedFreeVramBytes := resident.modelLoadedFreeVramBytes
          metadata := resident.metadata }

/-! ## Switching the resident model -/

/-- The stages of a switch, as they are announced. -/
inductive SwitchStage where
  | preloading | unloading | loading
  deriving DecidableEq, Repr

/-- How a switch ends. Source: `model_lifecycle.py`, `_switch_failure` and the success mapping of
`switch_model`. -/
inductive SwitchResult where
  | failed (reasonCode : ReasonCode) (failedStage : SwitchStage)
  | loadedInMemory (load : LifecycleCommandResult)

/-- What a switch leaves: its result, the stages announced, the residency record and the recorder's
state. -/
structure SwitchRun (σ : Type) where
  result : SwitchResult
  announced : List SwitchStage
  residency : Option ModelResidency
  recorder : σ

/-- The collaborators of a switch beside the lifecycle: the disk cache and the progress callback. -/
structure SwitchCollaborators where
  status : String → Except PyException CacheCommandResult
  preload : String → Except PyException CacheCommandResult
  progressCallback : SwitchStage → Except PyException Unit := fun _ => .ok ()

/-- The failure of a switch one of whose steps raised: the exception's name, at the loading stage. -/
def SwitchResult.ofException (exc : PyException) : SwitchResult :=
  .failed (.other exc.kind) .loading

/-- The last stage of a switch: load the target. -/
def switchLoad (lifecycle : ModelMemoryLifecycle σ) (collab : SwitchCollaborators)
    (announced : List SwitchStage) (residency : Option ModelResidency) (recorder : σ)
    (target : String) : SwitchRun σ :=
  let announced := announced ++ [.loading]
  match collab.progressCallback .loading with
  | .error exc => ⟨.ofException exc, announced, residency, recorder⟩
  | .ok () =>
      match lifecycle.loadModel residency recorder target true with
      | .error exc => ⟨.ofException exc, announced, residency, recorder⟩
      | .ok out =>
          if out.result.success then
            ⟨.loadedInMemory out.result, announced, out.residency, out.recorder⟩
          else
            ⟨.failed (out.result.reasonCode.getD .modelLoadFailed) .loading, announced,
              out.residency, out.recorder⟩

/-- The middle stage of a switch: unload the resident model when it is another one. -/
def switchUnload (lifecycle : ModelMemoryLifecycle σ) (collab : SwitchCollaborators)
    (announced : List SwitchStage) (residency : Option ModelResidency) (recorder : σ)
    (target : String) : SwitchRun σ :=
  match residency with
  | none => lifecycle.switchLoad collab announced residency recorder target
  | some resident =>
      if resident.modelName = target then
        lifecycle.switchLoad collab announced residency recorder target
      else
        let announced := announced ++ [.unloading]
        match collab.progressCallback .unloading with
        | .error exc => ⟨.ofException exc, announced, residency, recorder⟩
        | .ok () =>
            let (unload, residency) := lifecycle.unloadModel residency resident.modelName
            if unload.success then
              lifecycle.switchLoad collab announced residency recorder target
            else
              ⟨.failed (unload.reasonCode.getD .modelUnloadFailed) .unloading, announced,
                residency, recorder⟩

/-- Source: `model_lifecycle.py`, `switch_model`, with the lifecycle and the cache supplied. -/
def switchModel (lifecycle : ModelMemoryLifecycle σ) (collab : SwitchCollaborators)
    (residency : Option ModelResidency) (recorder : σ) (target : String) : SwitchRun σ :=
  match collab.status target with
  | .error exc => ⟨.ofException exc, [], residency, recorder⟩
  | .ok status =>
      if status.status = .cachedOnDisk then
        lifecycle.switchUnload collab [] residency recorder target
      else
        match collab.progressCallback .preloading with
        | .error exc => ⟨.ofException exc, [.preloading], residency, recorder⟩
        | .ok () =>
            match collab.preload target with
            | .error exc => ⟨.ofException exc, [.preloading], residency, recorder⟩
            | .ok preload =>
                if preload.success then
                  lifecycle.switchUnload collab [.preloading] residency recorder target
                else
                  ⟨.failed (preload.reasonCode.getD .modelCachePreloadFailed) .preloading,
                    [.preloading], residency, recorder⟩

/-! ## The residency record across commands -/

/-- **What a load vouches for**: the record names the model as loaded; the probe, where one is
configured, answered that it is served; the disk cache, where it was consulted, that it is cached;
and the two figures are what the recorder returned. -/
structure Loaded (lifecycle : ModelMemoryLifecycle σ) (recorder : σ) (modelName : String)
    (allowPreload : Bool) (record : ModelResidency) : Prop where
  name : record.modelName = modelName
  state : record.state = .loaded
  probed : ∀ probe, lifecycle.modelProbe = some probe →
    ∃ answer, probe modelName = .ok answer ∧ answer.ok = true
  cached : allowPreload = false → ∀ status, lifecycle.diskCache = some status →
    ∃ answer, status modelName = .ok answer ∧ answer.status = .cachedOnDisk
  measured : ∀ record', lifecycle.vramRecorder = some record' →
    ∃ facts recorder', record' modelName recorder = .ok (facts, recorder') ∧
      record.measuredModelStaticVramBytes =
        (Value.item facts "measured_model_static_vram_bytes").asInt? ∧
      record.modelLoadedFreeVramBytes = (Value.item facts "model_loaded_free_vram_bytes").asInt?
  unmeasured : lifecycle.vramRecorder = none →
    record.measuredModelStaticVramBytes = none ∧ record.modelLoadedFreeVramBytes = none

section residency

variable {lifecycle : ModelMemoryLifecycle σ} {residency : Option ModelResidency} {recorder : σ}
  {modelName : String} {allowPreload : Bool} {out : Outcome σ}

/-- A refusal of the disk check is no success; a pass means the model is cached or was not asked
about. -/
theorem checkDiskCache_cases {checked : LifecycleCommandResult ⊕ Dict Value}
    (h : lifecycle.checkDiskCache modelName allowPreload = .ok checked) :
    (∃ refusal, checked = .inl refusal ∧ refusal.success = false) ∨
      ∃ metadata, checked = .inr metadata ∧
        (allowPreload = false → ∀ status, lifecycle.diskCache = some status →
          ∃ answer, status modelName = .ok answer ∧ answer.status = .cachedOnDisk) := by
  unfold checkDiskCache at h
  split at h
  · rename_i status hcache
    obtain ⟨answer, hanswer, h⟩ := bind_eq_ok.mp h
    by_cases hstatus : answer.status ≠ .cachedOnDisk
    · rw [if_pos hstatus] at h
      cases h
      exact Or.inl ⟨_, rfl, rfl⟩
    · rw [if_neg hstatus] at h
      cases h
      refine Or.inr ⟨_, rfl, ?_⟩
      intro _ status' hstatus'
      rw [hcache] at hstatus'
      cases hstatus'
      exact ⟨answer, hanswer, not_not.mp hstatus⟩
  · rename_i hnone
    cases h
    refine Or.inr ⟨_, rfl, ?_⟩
    intro hpreload status hstatus
    exact absurd hpreload (hnone status hstatus)

/-- A refusal of the runtime check is no success; a pass means the probe, where one is configured,
answered that the model is served. -/
theorem checkProbe_cases {gathered : Dict Value} {checked : LifecycleCommandResult ⊕ Dict Value}
    (h : lifecycle.checkProbe modelName gathered = .ok checked) :
    (∃ refusal, checked = .inl refusal ∧ refusal.success = false) ∨
      ∃ metadata, checked = .inr metadata ∧ ∀ probe, lifecycle.modelProbe = some probe →
        ∃ answer, probe modelName = .ok answer ∧ answer.ok = true := by
  unfold checkProbe at h
  split at h
  · rename_i hnone
    cases h
    refine Or.inr ⟨_, rfl, ?_⟩
    intro probe hprobe
    simp [hnone] at hprobe
  · rename_i probe hprobe
    obtain ⟨answer, hanswer, h⟩ := bind_eq_ok.mp h
    cases hok : answer.ok with
    | true =>
        simp only [hok, if_true] at h
        cases h
        refine Or.inr ⟨_, rfl, ?_⟩
        intro probe' hprobe'
        rw [hprobe] at hprobe'
        cases hprobe'
        exact ⟨answer, hanswer, hok⟩
    | false =>
        simp only [hok, Bool.false_eq_true, if_false] at h
        cases h
        exact Or.inl ⟨_, rfl, rfl⟩

/-- The figures of a measurement are the recorder's. -/
theorem measureLoad_figures {gathered metadata : Dict Value} {static free : Option Int}
    {recorder' : σ}
    (h : lifecycle.measureLoad modelName gathered recorder = .ok (metadata, static, free, recorder')) :
    (∀ record, lifecycle.vramRecorder = some record →
      ∃ facts recorder', record modelName recorder = .ok (facts, recorder') ∧
        static = (Value.item facts "measured_model_static_vram_bytes").asInt? ∧
        free = (Value.item facts "model_loaded_free_vram_bytes").asInt?) ∧
      (lifecycle.vramRecorder = none → static = none ∧ free = none) := by
  unfold measureLoad at h
  split at h
  · rename_i hnone
    cases h
    constructor
    · intro record hrecord
      simp [hnone] at hrecord
    · intro _
      exact ⟨rfl, rfl⟩
  · rename_i record hrecord
    obtain ⟨⟨facts, recorder''⟩, hfacts, h⟩ := bind_eq_ok.mp h
    cases h
    constructor
    · intro record' hrecord'
      rw [hrecord] at hrecord'
      cases hrecord'
      exact ⟨facts, recorder', hfacts, rfl, rfl⟩
    · intro hnone
      simp [hnone] at hrecord

/-- **A load past the residency checks** leaves everything as it was without success, or makes
resident a record it vouches for. -/
theorem loadUnresident_cases
    (h : lifecycle.loadUnresident residency recorder modelName allowPreload = .ok out) :
    (out.residency = residency ∧ out.recorder = recorder ∧ out.result.success = false) ∨
      ∃ record, out.residency = some record ∧
        lifecycle.Loaded recorder modelName allowPreload record ∧ out.result.success = true := by
  unfold loadUnresident at h
  obtain ⟨checked, hchecked, h⟩ := bind_eq_ok.mp h
  rcases checkDiskCache_cases hchecked with ⟨refusal, rfl, hrefused⟩ | ⟨cacheMetadata, rfl, hcached⟩
  · cases h
    exact Or.inl ⟨rfl, rfl, hrefused⟩
  · obtain ⟨checked, hchecked, h⟩ := bind_eq_ok.mp h
    rcases checkProbe_cases hchecked with ⟨refusal, rfl, hrefused⟩ | ⟨gathered, rfl, hprobed⟩
    · cases h
      exact Or.inl ⟨rfl, rfl, hrefused⟩
    · obtain ⟨⟨metadata, static, free, recorder'⟩, hmeasured, h⟩ := bind_eq_ok.mp h
      cases h
      obtain ⟨hfigures, hnone⟩ := measureLoad_figures hmeasured
      exact Or.inr ⟨_, rfl, ⟨rfl, rfl, hprobed, hcached, hfigures, hnone⟩, rfl⟩

/-- **A load that returns**: the model is resident already; or the load fails and the record is as
it was; or it made resident a record it vouches for. -/
theorem loadModel_cases
    (h : lifecycle.loadModel residency recorder modelName allowPreload = .ok out) :
    (∃ resident, residency = some resident ∧ resident.modelName = modelName ∧
        out.residency = residency ∧ out.result.success = true) ∨
      (out.residency = residency ∧ out.result.success = false) ∨
      ∃ record, out.residency = some record ∧
        lifecycle.Loaded recorder modelName allowPreload record ∧ out.result.success = true := by
  have hpast (hload : lifecycle.loadUnresident residency recorder modelName allowPreload = .ok out) :
      (out.residency = residency ∧ out.result.success = false) ∨
        ∃ record, out.residency = some record ∧
          lifecycle.Loaded recorder modelName allowPreload record ∧ out.result.success = true := by
    rcases loadUnresident_cases hload with ⟨hsame, -, hfailed⟩ | hloaded
    · exact Or.inl ⟨hsame, hfailed⟩
    · exact Or.inr hloaded
  cases residency with
  | none => exact Or.inr (hpast h)
  | some resident =>
      simp only [loadModel] at h
      split_ifs at h with hname
      · cases h
        exact Or.inl ⟨resident, rfl, hname, rfl, rfl⟩
      · cases h
        exact Or.inr (Or.inl ⟨rfl, rfl⟩)
      · exact Or.inr (hpast h)

/-- **An unload** reports success and leaves no record, or reports failure and leaves the record as
it was; it succeeds only for the resident model, and with no runtime probe configured. -/
theorem unloadModel_cases (lifecycle : ModelMemoryLifecycle σ) (residency : Option ModelResidency)
    (modelName : String) :
    ((lifecycle.unloadModel residency modelName).1.success = false ∧
        (lifecycle.unloadModel residency modelName).2 = residency) ∨
      ((lifecycle.unloadModel residency modelName).1.success = true ∧
        (lifecycle.unloadModel residency modelName).2 = none ∧ lifecycle.modelProbe = none ∧
        ∃ previous, residency = some previous ∧ previous.modelName = modelName) := by
  cases residency with
  | none => exact Or.inl ⟨rfl, rfl⟩
  | some previous =>
      simp only [unloadModel]
      split_ifs with hname hprobe
      · exact Or.inl ⟨rfl, rfl⟩
      · exact Or.inl ⟨rfl, rfl⟩
      · refine Or.inr ⟨rfl, rfl, ?_, previous, rfl, not_not.mp hname⟩
        simpa using hprobe

/-- With a runtime probe configured an unload never changes the residency record. -/
theorem unloadModel_of_probe (hprobe : lifecycle.modelProbe.isSome = true) :
    (lifecycle.unloadModel residency modelName).2 = residency := by
  rcases unloadModel_cases lifecycle residency modelName with ⟨-, hsame⟩ | ⟨-, -, hnone, -⟩
  · exact hsame
  · simp [hnone] at hprobe

end residency

/-! ## The recorder's state across commands -/

/-- A command leaves the recorder's state as it was, or as one call of the recorder left it. -/
def RecorderStep (lifecycle : ModelMemoryLifecycle σ) (recorder recorder' : σ) : Prop :=
  recorder' = recorder ∨ ∃ record modelName facts, lifecycle.vramRecorder = some record ∧
    record modelName recorder = .ok (facts, recorder')

section recorder

variable {lifecycle : ModelMemoryLifecycle σ} {residency : Option ModelResidency} {recorder : σ}
  {modelName : String} {allowPreload : Bool} {out : Outcome σ}

/-- A command that does not record. -/
theorem RecorderStep.refl : lifecycle.RecorderStep recorder recorder := Or.inl rfl

/-- A load records at most once. -/
theorem loadUnresident_recorder
    (h : lifecycle.loadUnresident residency recorder modelName allowPreload = .ok out) :
    lifecycle.RecorderStep recorder out.recorder := by
  obtain ⟨checked, -, h⟩ := bind_eq_ok.mp h
  cases checked with
  | inl refusal =>
      cases h
      exact .refl
  | inr cacheMetadata =>
      obtain ⟨probed, -, h⟩ := bind_eq_ok.mp h
      cases probed with
      | inl refusal =>
          cases h
          exact .refl
      | inr gathered =>
          obtain ⟨⟨metadata, static, free, recorder'⟩, hmeasured, h⟩ := bind_eq_ok.mp h
          cases h
          unfold measureLoad at hmeasured
          split at hmeasured
          · cases hmeasured
            exact .refl
          · next record hrecord =>
              obtain ⟨⟨facts, recorder''⟩, hfacts, hmeasured⟩ := bind_eq_ok.mp hmeasured
              cases hmeasured
              exact Or.inr ⟨record, modelName, facts, hrecord, hfacts⟩

/-- A load records at most once. -/
theorem loadModel_recorder
    (h : lifecycle.loadModel residency recorder modelName allowPreload = .ok out) :
    lifecycle.RecorderStep recorder out.recorder := by
  unfold loadModel at h
  split at h
  · split_ifs at h
    · cases h
      exact .refl
    · cases h
      exact .refl
    · exact loadUnresident_recorder h
  · exact loadUnresident_recorder h

/-- A reload records at most once. -/
theorem reloadModel_recorder (h : lifecycle.reloadModel residency recorder modelName = .ok out) :
    lifecycle.RecorderStep recorder out.recorder := by
  unfold reloadModel at h
  split at h
  · exact loadModel_recorder h
  · split_ifs at h
    · exact loadModel_recorder h
    · cases h
      exact .refl

/-- The last stage of a switch records at most once. -/
theorem switchLoad_recorder (collab : SwitchCollaborators) (announced : List SwitchStage)
    (residency : Option ModelResidency) (recorder : σ) (target : String) :
    lifecycle.RecorderStep recorder
      (lifecycle.switchLoad collab announced residency recorder target).recorder := by
  unfold switchLoad
  dsimp only
  split
  · exact .refl
  · split
    · exact .refl
    · next hload =>
        split_ifs
        · exact loadModel_recorder hload
        · exact loadModel_recorder hload

/-- The last two stages of a switch record at most once. -/
theorem switchUnload_recorder (collab : SwitchCollaborators) (announced : List SwitchStage)
    (residency : Option ModelResidency) (recorder : σ) (target : String) :
    lifecycle.RecorderStep recorder
      (lifecycle.switchUnload collab announced residency recorder target).recorder := by
  unfold switchUnload
  dsimp only
  split
  · exact switchLoad_recorder ..
  · split_ifs
    · exact switchLoad_recorder ..
    · split
      · exact .refl
      · exact switchLoad_recorder ..
    · split
      · exact .refl
      · exact .refl

/-- **A switch records at most once.** -/
theorem switchModel_recorder (collab : SwitchCollaborators) (residency : Option ModelResidency)
    (recorder : σ) (target : String) :
    lifecycle.RecorderStep recorder
      (lifecycle.switchModel collab residency recorder target).recorder := by
  unfold switchModel
  split
  · exact .refl
  · split_ifs
    · exact switchUnload_recorder ..
    · split
      · exact .refl
      · split
        · exact .refl
        · split_ifs
          · exact switchUnload_recorder ..
          · exact .refl

end recorder

end ModelMemoryLifecycle

end Lmrs
