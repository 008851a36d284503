import Lmrs.LifecycleRuns
import Lmrs.Lib.Effects

/-!
# The lifecycle commands with the calls they make

Source: `lmrs/model_lifecycle.py`, `ModelMemoryLifecycle`.

The commands once more, statement by statement: each call of a collaborator is logged with its answer, the
record is assigned where the source assigns it, and an exception leaves it as it is at that point.

* `ends_loadModel`, `ends_unloadModel`, `ends_reloadModel`: they end as the functions of
  `ModelMemoryLifecycle` of these names say.
* `loadModel_triple`, `reloadModel_triple`: what they log, and what they leave when they answer and when they
  raise.
-/

namespace Lmrs

open Python Transition Effects

/-- What is logged: each call with its answer, an unload and a load when they are called and when they end. -/
inductive LifecycleStep where
  | status (modelName : String) (answer : Except PyException CacheCommandResult)
  | preload (modelName : String) (answer : Except PyException CacheCommandResult)
  | probe (modelName : String) (answer : Except PyException VLLMModelProbeResult)
  | recordVram (modelName : String) (answer : Except PyException (Dict Value))
  | report (stage : ModelMemoryLifecycle.SwitchStage) (answer : Except PyException Unit)
  | callUnload (modelName : String)
  | endUnload (modelName : String) (answer : Except PyException LifecycleCommandResult)
  /-- The call of a load, with the model resident at that moment. -/
  | callLoad (modelName : String) (resident : Option String)
  | endLoad (modelName : String) (answer : Except PyException LifecycleCommandResult)

/-- What a command acts on. -/
structure LifecycleWorld (σ : Type) where
  residency : Option ModelResidency
  recorder : σ

/-- The name of the resident model. -/
def LifecycleWorld.resident {σ : Type} (w : LifecycleWorld σ) : Option String :=
  w.residency.map ModelResidency.modelName

/-- A program of the lifecycle. -/
abbrev LifecycleEffect (σ : Type) : Type → Type := Effect (LifecycleWorld σ) LifecycleStep PyException

namespace LifecycleEffect

variable {σ : Type} (lifecycle : ModelMemoryLifecycle σ)

/-- The disk check of a load: the metadata it adds, or the refusal. -/
def checkDiskCache (modelName : String) (allowPreload : Bool) :
    LifecycleEffect σ (LifecycleCommandResult ⊕ Dict Value) :=
  match lifecycle.diskCache, allowPreload with
  | some status, false => do
      let cacheStatus ← Effect.ask (status modelName) (.status modelName)
      if cacheStatus.status ≠ .cachedOnDisk then
        return .inl
          { command := "load_model", modelName, state := .notLoaded, success := false
            reasonCode := some .modelNotCached
            metadata :=
              [("cache_status", .str cacheStatus.status.text),
               ("cache_reason_code", match cacheStatus.reasonCode with
                  | some code => .str code.text
                  | none => .none),
               ("hint", .str "call this command with allow_preload to fetch the model first")] }
      else return .inr [("cache_status", .str cacheStatus.status.text)]
  | _, _ => return .inr []

/-- The runtime check of a load: the metadata gathered so far with the probe's, or the refusal. -/
def checkProbe (modelName : String) (gathered : Dict Value) :
    LifecycleEffect σ (LifecycleCommandResult ⊕ Dict Value) :=
  match lifecycle.modelProbe with
  | none => return .inr gathered
  | some probe => do
      let answer ← Effect.ask (probe modelName) (.probe modelName)
      let gathered := Dict.update (Dict.update gathered
        [("runtime_probe", .str "vllm_openai_models"),
         ("served_models", .list (answer.servedModels.map .str))]) answer.metadata
      if answer.ok then return .inr gathered
      else
        return .inl
          { command := "load_model", modelName, state := .failed, success := false
            reasonCode := some .modelNotServedByVllm
            metadata := Dict.set gathered "error"
              (match answer.error with
               | some error => if error = "" then .str "model is not served by vLLM" else .str error
               | none => .str "model is not served by vLLM") }

/-- The recorder's call: the facts it measured, and the state it leaves. -/
def recordCall (record : String → σ → Except PyException (Dict Value × σ)) (modelName : String)
    (w : LifecycleWorld σ) : Except PyException (Dict Value) × LifecycleWorld σ :=
  match record modelName w.recorder with
  | .error exc => (.error exc, w)
  | .ok (facts, recorder) => (.ok facts, { w with recorder })

/-- The measurement of a load: the metadata and the two figures. -/
def measureLoad (modelName : String) (gathered : Dict Value) :
    LifecycleEffect σ (Dict Value × Option Int × Option Int) :=
  match lifecycle.vramRecorder with
  | none => return (gathered, none, none)
  | some record => do
      let facts ← Effect.call (recordCall record modelName) (.recordVram modelName)
      return (Dict.set gathered "vram_facts" (.dict facts),
              (Value.item facts "measured_model_static_vram_bytes").asInt?,
              (Value.item facts "model_loaded_free_vram_bytes").asInt?)

/-- The record of a load is assigned and reported. -/
def recordLoaded (modelName : String) (measured : Dict Value × Option Int × Option Int) :
    LifecycleEffect σ LifecycleCommandResult := do
  Effect.change fun w =>
    { w with
      residency := some
        { modelName, runtimeBackend := lifecycle.runtimeBackend, state := .loaded, metadata := measured.1
          measuredModelStaticVramBytes := measured.2.1, modelLoadedFreeVramBytes := measured.2.2
          loadedAt := some lifecycle.now } }
  return { command := "load_model", modelName, state := .loaded, success := true, metadata := measured.1
           measuredModelStaticVramBytes := measured.2.1, modelLoadedFreeVramBytes := measured.2.2 }

/-- The part of a load after the runtime check. -/
def finishLoad (modelName : String) :
    LifecycleCommandResult ⊕ Dict Value → LifecycleEffect σ LifecycleCommandResult
  | .inl refusal => return refusal
  | .inr gathered => do
      let measured ← measureLoad lifecycle modelName gathered
      recordLoaded lifecycle modelName measured

/-- The part of a load after the disk check. -/
def probeLoad (modelName : String) (allowPreload : Bool) :
    LifecycleCommandResult ⊕ Dict Value → LifecycleEffect σ LifecycleCommandResult
  | .inl refusal => return refusal
  | .inr cacheMetadata => do
      let probed ← checkProbe lifecycle modelName (("allow_preload", .bool allowPreload) :: cacheMetadata)
      finishLoad lifecycle modelName probed

/-- The part of a load after the residency checks. -/
def loadUnresident (modelName : String) (allowPreload : Bool) :
    LifecycleEffect σ LifecycleCommandResult := do
  let checked ← checkDiskCache lifecycle modelName allowPreload
  probeLoad lifecycle modelName allowPreload checked

/-- A load that found this record. -/
def loadOver (modelName : String) (allowPreload : Bool) :
    Option ModelResidency → LifecycleEffect σ LifecycleCommandResult
  | some resident =>
      if resident.modelName = modelName then
        return { command := "load_model", modelName, state := resident.state, success := true
                 reasonCode := some .modelAlreadyLoaded
                 measuredModelStaticVramBytes := resident.measuredModelStaticVramBytes
                 modelLoadedFreeVramBytes := resident.modelLoadedFreeVramBytes
                 metadata := resident.metadata }
      else if allowPreload = false then
        return { command := "load_model", modelName, state := resident.state, success := false
                 reasonCode := some .modelAlreadyLoaded
                 metadata := [("resident_model", .str resident.modelName)] }
      else loadUnresident lifecycle modelName allowPreload
  | none => loadUnresident lifecycle modelName allowPreload

/-- Source: `model_lifecycle.py`, `ModelMemoryLifecycle.load_model`. -/
def loadModel (modelName : String) (allowPreload : Bool := false) :
    LifecycleEffect σ LifecycleCommandResult := do
  let residency ← Effect.read LifecycleWorld.residency
  loadOver lifecycle modelName allowPreload residency

/-- An unload that found this record. -/
def unloadOver (modelName : String) : Option ModelResidency → LifecycleEffect σ LifecycleCommandResult
  | none => return ModelMemoryLifecycle.notLoaded "unload_model" modelName
  | some previous =>
      if previous.modelName ≠ modelName then
        return ModelMemoryLifecycle.notLoaded "unload_model" modelName
      else if lifecycle.modelProbe.isSome then
        return { command := "unload_model", modelName, state := previous.state, success := false
                 reasonCode := some .vllmDynamicUnloadUnsupported
                 measuredModelStaticVramBytes := previous.measuredModelStaticVramBytes
                 modelLoadedFreeVramBytes := previous.modelLoadedFreeVramBytes
                 metadata := [("resident_model", .str previous.modelName),
                              ("runtime_backend", .str previous.runtimeBackend.text)] }
      else do
        Effect.change fun w => { w with residency := none }
        return { command := "unload_model", modelName, state := .notLoaded, success := true
                 measuredModelStaticVramBytes := previous.measuredModelStaticVramBytes
                 modelLoadedFreeVramBytes := previous.modelLoadedFreeVramBytes }

/-- Source: `model_lifecycle.py`, `ModelMemoryLifecycle.unload_model`. -/
def unloadModel (modelName : String) : LifecycleEffect σ LifecycleCommandResult := do
  let residency ← Effect.read LifecycleWorld.residency
  unloadOver lifecycle modelName residency

/-- The record of a reload is assigned and reported. -/
def recordReloaded (modelName : String) (previous : ModelResidency) :
    LifecycleEffect σ LifecycleCommandResult := do
  Effect.change fun w => { w with residency := some { previous with modelName, state := .loaded } }
  return { command := "reload_model", modelName, state := .loaded, success := true
           measuredModelStaticVramBytes := previous.measuredModelStaticVramBytes
           modelLoadedFreeVramBytes := previous.modelLoadedFreeVramBytes
           metadata := [("reloaded", .bool true)] }

/-- A reload that found this record. -/
def reloadOver (modelName : String) : Option ModelResidency → LifecycleEffect σ LifecycleCommandResult
  | none => loadModel lifecycle modelName true
  | some previous =>
      if previous.modelName ≠ modelName then loadModel lifecycle modelName true
      else recordReloaded modelName previous

/-- Source: `model_lifecycle.py`, `ModelMemoryLifecycle.reload_model`. -/
def reloadModel (modelName : String) : LifecycleEffect σ LifecycleCommandResult := do
  let residency ← Effect.read LifecycleWorld.residency
  reloadOver lifecycle modelName residency

/-! ## The commands end as their outcomes say -/

section refinement

variable (w : LifecycleWorld σ)

/-- The end of a command with this outcome. -/
def settle : Except PyException (ModelMemoryLifecycle.Outcome σ) →
    Except PyException LifecycleCommandResult × LifecycleWorld σ
  | .error exc => (.error exc, w)
  | .ok out => (.ok out.result, ⟨out.residency, out.recorder⟩)

theorem ends_checkDiskCache (modelName : String) (allowPreload : Bool) :
    (checkDiskCache lifecycle modelName allowPreload w).ends =
      (lifecycle.checkDiskCache modelName allowPreload, w) := by
  unfold checkDiskCache ModelMemoryLifecycle.checkDiskCache
  cases lifecycle.diskCache with
  | none => rfl
  | some status =>
      cases allowPreload with
      | true => rfl
      | false =>
          apply Effect.ends_bind_of_pure (k := fun checked => (checked, w)) (Effect.ends_ask w _ _)
            (fun _ => rfl)
          intro cacheStatus _
          by_cases hcached : cacheStatus.status ≠ .cachedOnDisk
          · rw [if_pos hcached, if_pos hcached]
            rfl
          · rw [if_neg hcached, if_neg hcached]
            rfl

theorem ends_checkProbe (modelName : String) (gathered : Dict Value) :
    (checkProbe lifecycle modelName gathered w).ends = (lifecycle.checkProbe modelName gathered, w) := by
  unfold checkProbe ModelMemoryLifecycle.checkProbe
  cases lifecycle.modelProbe with
  | none => rfl
  | some probe =>
      apply Effect.ends_bind_of_pure (k := fun checked => (checked, w)) (Effect.ends_ask w _ _)
        (fun _ => rfl)
      intro answer _
      cases hok : answer.ok with
      | true => rfl
      | false => rfl

/-- The measurement, with the recorder's state it leaves. -/
theorem ends_measureLoad (modelName : String) (gathered : Dict Value) :
    (measureLoad lifecycle modelName gathered w).ends =
      match lifecycle.measureLoad modelName gathered w.recorder with
      | .error exc => (.error exc, w)
      | .ok (metadata, static, free, recorder) => (.ok (metadata, static, free), { w with recorder }) := by
  unfold measureLoad ModelMemoryLifecycle.measureLoad
  cases lifecycle.vramRecorder with
  | none => rfl
  | some record =>
      dsimp only
      cases hrecord : record modelName w.recorder with
      | error exc =>
          have hraised : (Effect.call (recordCall record modelName) (LifecycleStep.recordVram modelName) w).ends =
              (.error exc, w) := by
            simp [recordCall, hrecord]
          rw [Effect.ends_bind_error hraised]
          rfl
      | ok measured =>
          rw [Effect.ends_bind_ok (a := measured.1) (t := { w with recorder := measured.2 })
            (by simp [recordCall, hrecord])]
          rfl

theorem ends_loadUnresident (modelName : String) (allowPreload : Bool) :
    (loadUnresident lifecycle modelName allowPreload w).ends =
      settle w (lifecycle.loadUnresident w.residency w.recorder modelName allowPreload) := by
  apply Effect.ends_bind_of_pure (ends_checkDiskCache lifecycle w modelName allowPreload) (fun _ => rfl)
  intro checked _
  cases checked with
  | inl refusal => rfl
  | inr cacheMetadata =>
      apply Effect.ends_bind_of_pure (ends_checkProbe lifecycle w modelName _) (fun _ => rfl)
      intro probed _
      cases probed with
      | inl refusal => rfl
      | inr gathered =>
          have hmeasure := ends_measureLoad lifecycle w modelName gathered
          show ((measureLoad lifecycle modelName gathered >>= recordLoaded lifecycle modelName) w).ends = _
          cases hmeasured : lifecycle.measureLoad modelName gathered w.recorder with
          | error exc =>
              rw [hmeasured] at hmeasure
              rw [Effect.ends_bind_error hmeasure]
              simp [bind, Except.bind, settle, hmeasured]
          | ok measured =>
              rw [hmeasured] at hmeasure
              rw [Effect.ends_bind_ok hmeasure]
              simp [bind, Except.bind, settle, hmeasured]
              rfl

theorem ends_loadModel (modelName : String) (allowPreload : Bool) :
    (loadModel lifecycle modelName allowPreload w).ends =
      settle w (lifecycle.loadModel w.residency w.recorder modelName allowPreload) := by
  show (loadOver lifecycle modelName allowPreload w.residency w).ends = _
  cases w with
  | mk residency recorder =>
      cases residency with
      | none => exact ends_loadUnresident lifecycle ⟨none, recorder⟩ modelName allowPreload
      | some resident =>
          simp only [loadOver, ModelMemoryLifecycle.loadModel]
          split_ifs with hname hallow
          · rfl
          · rfl
          · exact ends_loadUnresident lifecycle ⟨some resident, recorder⟩ modelName allowPreload

theorem ends_unloadModel (modelName : String) :
    (unloadModel lifecycle modelName w).ends =
      (.ok (lifecycle.unloadModel w.residency modelName).1,
        { w with residency := (lifecycle.unloadModel w.residency modelName).2 }) := by
  show (unloadOver lifecycle modelName w.residency w).ends = _
  cases w with
  | mk residency recorder =>
      cases residency with
      | none => rfl
      | some previous =>
          simp only [unloadOver, ModelMemoryLifecycle.unloadModel]
          split_ifs with hname hprobe
          · rfl
          · rfl
          · rfl

theorem ends_reloadModel (modelName : String) :
    (reloadModel lifecycle modelName w).ends =
      settle w (lifecycle.reloadModel w.residency w.recorder modelName) := by
  show (reloadOver lifecycle modelName w.residency w).ends = _
  cases w with
  | mk residency recorder =>
      cases residency with
      | none => exact ends_loadModel lifecycle ⟨none, recorder⟩ modelName true
      | some previous =>
          simp only [reloadOver, ModelMemoryLifecycle.reloadModel]
          split_ifs with hname
          · exact ends_loadModel lifecycle ⟨some previous, recorder⟩ modelName true
          · rfl

end refinement

/-! ## What a load logs and leaves -/

/-- The calls a load makes; it asks the disk cache only without `allow_preload`. -/
def OfLoad (allowPreload : Bool) : LifecycleStep → Prop
  | .status _ _ => allowPreload = false
  | .probe _ _ | .recordVram _ _ => True
  | _ => False

/-- Since `before`, only calls of a load were made. -/
def OnlyLoadCalls (allowPreload : Bool) (before history : List LifecycleStep) : Prop :=
  ∃ steps, history = before ++ steps ∧ ∀ step ∈ steps, OfLoad allowPreload step

section triples

variable {lifecycle} {ok : List LifecycleStep → LifecycleStep → Prop} {before : List LifecycleStep}
  {residency : Option ModelResidency} {modelName : String} {allowPreload : Bool}

/-- Nothing but calls of a load since `before`, and the record it found. -/
def Untouched (allowPreload : Bool) (before : List LifecycleStep) (residency : Option ModelResidency)
    (history : List LifecycleStep) (w : LifecycleWorld σ) : Prop :=
  OnlyLoadCalls allowPreload before history ∧ w.residency = residency

theorem Untouched.start (history : List LifecycleStep) (w : LifecycleWorld σ) :
    Untouched allowPreload history w.residency history w :=
  ⟨⟨[], by simp, fun _ hmem => absurd hmem List.not_mem_nil⟩, rfl⟩

/-- A call of the load leaves it so. -/
theorem Untouched.snoc {history : List LifecycleStep} {w w' : LifecycleWorld σ} {step : LifecycleStep}
    (h : Untouched allowPreload before residency history w) (hstep : OfLoad allowPreload step)
    (hsame : w'.residency = w.residency) :
    Untouched allowPreload before residency (history ++ [step]) w' := by
  obtain ⟨⟨steps, rfl, hsteps⟩, hresidency⟩ := h
  refine ⟨⟨steps ++ [step], by simp, ?_⟩, hsame.trans hresidency⟩
  intro other hother
  rcases List.mem_append.mp hother with hold | hnew
  · exact hsteps other hold
  · rw [List.mem_singleton.mp hnew]
    exact hstep

/-- The probe, where one is configured, answered that the model is served. -/
def Probed (lifecycle : ModelMemoryLifecycle σ) (modelName : String) (history : List LifecycleStep) : Prop :=
  lifecycle.modelProbe.isSome = true →
    ∃ answer, LifecycleStep.probe modelName (.ok answer) ∈ history ∧ answer.ok = true

/-- A refusal of one of the checks of a load. -/
def Refuses (checked : LifecycleCommandResult ⊕ Dict Value) : Prop :=
  ∀ refusal, checked = .inl refusal →
    refusal.success = false ∧ refusal.reasonCode ≠ some .modelAlreadyLoaded

theorem checkDiskCache_triple (hok : ∀ history step, OfLoad allowPreload step → ok history step) :
    Triple ok (Untouched allowPreload before residency) (checkDiskCache lifecycle modelName allowPreload)
      (fun checked history w => Untouched allowPreload before residency history w ∧ Refuses checked)
      fun _ => Untouched allowPreload before residency := by
  unfold checkDiskCache
  split
  · apply Triple.bind (M := fun _ => Untouched false before residency)
    · refine Triple.ask (fun history w _ => hok history _ rfl) ?_ ?_
      · intro history w answer h _
        exact h.snoc rfl rfl
      · intro history w exc h _
        exact h.snoc rfl rfl
    · intro cacheStatus
      refine Triple.ite (fun _ => Triple.pure ?_) fun _ => Triple.pure ?_
      · intro history w h
        exact ⟨h, fun refusal heq => by cases heq; exact ⟨rfl, by simp⟩⟩
      · intro history w h
        exact ⟨h, fun refusal heq => nomatch heq⟩
  · refine Triple.pure ?_
    intro history w h
    exact ⟨h, fun refusal heq => nomatch heq⟩

/-- What a runtime check that passes leaves. -/
theorem checkProbe_triple (hok : ∀ history step, OfLoad allowPreload step → ok history step)
    (gathered : Dict Value) :
    Triple ok (Untouched allowPreload before residency) (checkProbe lifecycle modelName gathered)
      (fun probed history w => Untouched allowPreload before residency history w ∧ Refuses probed ∧
        ∀ gathered, probed = .inr gathered → Probed lifecycle modelName history)
      fun _ => Untouched allowPreload before residency := by
  unfold checkProbe
  split
  · rename_i hnone
    refine Triple.pure ?_
    intro history w h
    refine ⟨h, fun refusal heq => (nomatch heq), fun _ _ hsome => ?_⟩
    simp [hnone] at hsome
  · apply Triple.bind (M := fun answer history w => Untouched allowPreload before residency history w ∧
      LifecycleStep.probe modelName (.ok answer) ∈ history)
    · refine Triple.ask (fun history w _ => hok history _ trivial) ?_ ?_
      · intro history w answer h _
        exact ⟨h.snoc trivial rfl, by simp⟩
      · intro history w exc h _
        exact h.snoc trivial rfl
    · intro answer
      refine Triple.ite (fun hserved => Triple.pure ?_) fun _ => Triple.pure ?_
      · intro history w ⟨h, hmem⟩
        exact ⟨h, fun refusal heq => (nomatch heq), fun _ _ _ => ⟨answer, hmem, hserved⟩⟩
      · intro history w ⟨h, _⟩
        refine ⟨h, fun refusal heq => ?_, fun _ heq => nomatch heq⟩
        cases heq
        exact ⟨rfl, by simp⟩

theorem measureLoad_triple (hok : ∀ history step, OfLoad allowPreload step → ok history step)
    (gathered : Dict Value) :
    Triple ok
      (fun history w => Untouched allowPreload before residency history w ∧
        Probed lifecycle modelName history)
      (measureLoad lifecycle modelName gathered)
      (fun _ history w => Untouched allowPreload before residency history w ∧
        Probed lifecycle modelName history)
      fun _ => Untouched allowPreload before residency := by
  unfold measureLoad
  have hsame (record : String → σ → Except PyException (Dict Value × σ)) (w : LifecycleWorld σ) :
      (recordCall record modelName w).2.residency = w.residency := by
    unfold recordCall
    split <;> rfl
  split
  · exact Triple.pure fun _ _ h => h
  · rename_i record _
    refine Triple.bind ?_ fun facts => Triple.pure fun _ _ h => h
    refine Triple.call (fun history w _ => hok history _ trivial) ?_ ?_
    · intro history w facts ⟨h, hprobed⟩ _
      refine ⟨h.snoc trivial (hsame record w), fun hsome => ?_⟩
      obtain ⟨answer, hmem, hserved⟩ := hprobed hsome
      exact ⟨answer, List.mem_append_left _ hmem, hserved⟩
    · intro history w exc ⟨h, _⟩ _
      exact h.snoc trivial (hsame record w)

/-- How a load past the residency checks ends: as a failure that leaves the record as it was, or with the
model on record, which the probe, where one is configured, answered to be served. -/
structure LoadEnds (lifecycle : ModelMemoryLifecycle σ) (modelName : String) (allowPreload : Bool)
    (before : List LifecycleStep) (residency : Option ModelResidency) (result : LifecycleCommandResult)
    (history : List LifecycleStep) (w : LifecycleWorld σ) : Prop where
  calls : OnlyLoadCalls allowPreload before history
  reason : result.reasonCode ≠ some .modelAlreadyLoaded
  outcome : (result.success = false ∧ w.residency = residency) ∨
    (result.success = true ∧ Probed lifecycle modelName history ∧
      ∃ record, w.residency = some record ∧ record.modelName = modelName ∧ record.state = .loaded)

/-- A refusal is a failed load. -/
theorem LoadEnds.refused {refusal : LifecycleCommandResult} {history : List LifecycleStep}
    {w : LifecycleWorld σ} (h : Untouched allowPreload before residency history w)
    (hrefuses : Refuses (.inl refusal)) :
    LoadEnds lifecycle modelName allowPreload before residency refusal history w := by
  obtain ⟨hfailed, hreason⟩ := hrefuses refusal rfl
  exact ⟨h.1, hreason, Or.inl ⟨hfailed, h.2⟩⟩

/-- **What a load past the residency checks logs and leaves.** -/
theorem loadUnresident_triple (hok : ∀ history step, OfLoad allowPreload step → ok history step) :
    Triple ok (Untouched allowPreload before residency) (loadUnresident lifecycle modelName allowPreload)
      (LoadEnds lifecycle modelName allowPreload before residency)
      fun _ => Untouched allowPreload before residency := by
  refine Triple.bind (checkDiskCache_triple hok) fun checked => ?_
  cases checked with
  | inl refusal => exact Triple.pure fun history w ⟨h, hrefuses⟩ => .refused h hrefuses
  | inr cacheMetadata =>
      refine Triple.bind (Triple.mono (checkProbe_triple hok _) (fun _ _ h => h.1) (fun _ _ _ h => h)
        fun _ _ _ h => h) fun probed => ?_
      cases probed with
      | inl refusal => exact Triple.pure fun history w ⟨h, hrefuses, _⟩ => .refused h hrefuses
      | inr gathered =>
          refine Triple.bind (Triple.mono (measureLoad_triple hok gathered)
            (fun _ _ h => ⟨h.1, h.2.2 gathered rfl⟩) (fun _ _ _ h => h) fun _ _ _ h => h)
            fun measured => ?_
          apply Triple.bind (M := fun _ history w =>
            OnlyLoadCalls allowPreload before history ∧ Probed lifecycle modelName history ∧
              ∃ record, w.residency = some record ∧ record.modelName = modelName ∧ record.state = .loaded)
          · exact Triple.change fun history w ⟨h, hprobed⟩ => ⟨h.1, hprobed, _, rfl, rfl, rfl⟩
          · intro _
            exact Triple.pure fun history w ⟨hcalls, hprobed, hrecord⟩ =>
              ⟨hcalls, nofun, Or.inr ⟨rfl, hprobed, hrecord⟩⟩

/-- How a load ends, from the record it finds. -/
structure LoadLeaves (lifecycle : ModelMemoryLifecycle σ) (modelName : String) (allowPreload : Bool)
    (before : List LifecycleStep) (residency : Option ModelResidency) (result : LifecycleCommandResult)
    (history : List LifecycleStep) (w : LifecycleWorld σ) : Prop where
  calls : OnlyLoadCalls allowPreload before history
  failed : result.success = false → w.residency = residency
  done : result.success = true → ∃ record, w.residency = some record ∧ record.modelName = modelName
  probed : result.success = true → residency.map ModelResidency.modelName ≠ some modelName →
    Probed lifecycle modelName history
  waived : allowPreload = true → residency.map ModelResidency.modelName ≠ some modelName →
    result.reasonCode ≠ some .modelAlreadyLoaded

theorem LoadEnds.leaves {result : LifecycleCommandResult} {history : List LifecycleStep}
    {w : LifecycleWorld σ}
    (h : LoadEnds lifecycle modelName allowPreload before residency result history w) :
    LoadLeaves lifecycle modelName allowPreload before residency result history w := by
  obtain ⟨hcalls, hreason, ⟨hfailed, hsame⟩ | ⟨hdone, hprobed, record, hrecord, hname, -⟩⟩ := h
  · refine ⟨hcalls, fun _ => hsame, fun hsuccess => ?_, fun hsuccess => ?_, fun _ _ => hreason⟩
    · simp [hfailed] at hsuccess
    · simp [hfailed] at hsuccess
  · refine ⟨hcalls, fun hfailed => ?_, fun _ => ⟨record, hrecord, hname⟩, fun _ _ => hprobed,
      fun _ _ => hreason⟩
    simp [hdone] at hfailed

variable (lifecycle modelName allowPreload) in
/-- **What a load logs and leaves.** -/
theorem loadModel_triple (hok : ∀ history step, OfLoad allowPreload step → ok history step) :
    Triple ok (Untouched allowPreload before residency) (loadModel lifecycle modelName allowPreload)
      (LoadLeaves lifecycle modelName allowPreload before residency)
      fun _ => Untouched allowPreload before residency := by
  have hpast : Triple ok (Untouched allowPreload before residency)
      (loadUnresident lifecycle modelName allowPreload)
      (LoadLeaves lifecycle modelName allowPreload before residency)
      fun _ => Untouched allowPreload before residency :=
    Triple.mono (loadUnresident_triple hok) (fun _ _ h => h) (fun _ _ _ h => h.leaves) fun _ _ _ h => h
  apply Triple.bind (M := fun found history w => found = residency ∧
    Untouched allowPreload before residency history w)
  · exact Triple.read fun history w h => ⟨h.2, h⟩
  · intro found
    refine Triple.assume fun hfound => ?_
    subst hfound
    cases found with
    | none => exact hpast
    | some resident =>
        refine Triple.ite (fun hname => Triple.pure ?_) fun hname => ?_
        · intro history w ⟨hcalls, hsame⟩
          exact ⟨hcalls, nofun, fun _ => ⟨resident, hsame, hname⟩, fun _ hother => absurd (by simp [hname]) hother,
            fun _ hother => absurd (by simp [hname]) hother⟩
        · refine Triple.ite (fun hallow => Triple.pure ?_) fun _ => hpast
          intro history w ⟨hcalls, hsame⟩
          exact ⟨hcalls, fun _ => hsame, nofun, nofun, fun hwaived => by simp [hallow] at hwaived⟩

variable (lifecycle modelName allowPreload) in
/-- A load makes no other calls. -/
theorem loadModel_calls (w : LifecycleWorld σ) :
    OnlyLoadCalls allowPreload [] (loadModel lifecycle modelName allowPreload w).events := by
  obtain ⟨-, hgives, hraises⟩ := loadModel_triple lifecycle modelName allowPreload (fun _ _ _ => trivial)
    [] w (.start [] w)
  cases hresult : (loadModel lifecycle modelName allowPreload w).result with
  | ok result => exact (hgives result hresult).calls
  | error exc => exact (hraises exc hresult).1

variable (lifecycle modelName) in
/-- **What an unload leaves**: it calls nothing and raises nothing. -/
theorem unloadModel_triple :
    Triple ok (fun history w => history = before ∧ w.residency = residency)
      (unloadModel lifecycle modelName)
      (fun result history w => history = before ∧ (result.success = false → w.residency = residency) ∧
        (result.success = true → w.residency = none))
      fun _ _ _ => False := by
  apply Triple.bind (M := fun _ history w => history = before ∧ w.residency = residency)
  · exact Triple.read fun _ _ h => h
  · intro found
    cases found with
    | none => exact Triple.pure fun _ _ h => ⟨h.1, fun _ => h.2, nofun⟩
    | some previous =>
        refine Triple.ite (fun _ => Triple.pure fun _ _ h => ⟨h.1, fun _ => h.2, nofun⟩) fun _ => ?_
        refine Triple.ite (fun _ => Triple.pure fun _ _ h => ⟨h.1, fun _ => h.2, nofun⟩) fun _ => ?_
        apply Triple.bind (M := fun _ history w => history = before ∧ w.residency = none)
        · exact Triple.change fun _ _ h => ⟨h.1, rfl⟩
        · intro _
          exact Triple.pure fun _ _ h => ⟨h.1, nofun, fun _ => h.2⟩

variable (lifecycle modelName) in
/-- **What a reload logs and leaves**: of another model than the resident one it is a load, and of the
resident one it never fails. -/
theorem reloadModel_triple (hok : ∀ history step, OfLoad true step → ok history step) :
    Triple ok (Untouched true before residency) (reloadModel lifecycle modelName)
      (fun result history w => (result.success = false → w.residency = residency) ∧
        (residency.map ModelResidency.modelName ≠ some modelName →
          LoadLeaves lifecycle modelName true before residency result history w))
      fun _ => Untouched true before residency := by
  apply Triple.bind (M := fun found history w => found = residency ∧ Untouched true before residency history w)
  · exact Triple.read fun history w h => ⟨h.2, h⟩
  · intro found
    refine Triple.assume fun hfound => ?_
    subst hfound
    have hload : Triple ok (Untouched true before found) _ _ _ := loadModel_triple lifecycle modelName true hok
    cases found with
    | none =>
        exact Triple.mono hload (fun _ _ h => h) (fun _ _ _ h => ⟨h.failed, fun _ => h⟩) fun _ _ _ h => h
    | some previous =>
        refine Triple.ite (fun _ => ?_) fun hname => ?_
        · exact Triple.mono hload (fun _ _ h => h) (fun _ _ _ h => ⟨h.failed, fun _ => h⟩) fun _ _ _ h => h
        · apply Triple.bind (M := fun _ _ _ => True)
          · exact Triple.change fun _ _ _ => trivial
          · intro _
            exact Triple.pure fun _ _ _ => ⟨nofun, fun hother => absurd (by simpa using hname) hother⟩

end triples

end LifecycleEffect

end Lmrs
