import Lmrs.Adapter.Startup
import Lmrs.SwitchEffects

/-!
# Bringing up the default model

Source: `lmrs/adapter/runtime.py`, `autoload_default_model`.

The autoload with the calls it makes, for any cache and any owner of the residency. Its one handler is put
where the report it completes is known: around the load, and around what comes before the preload has
succeeded. The message to the logger is left out.

* `ends_autoloadDefaultModel`: with the adapter's cache and lifecycle it ends as `Lmrs.autoloadDefaultModel`
  says.
* `autoload_survives`: what it reports and what it leaves, whatever its collaborators do.
-/

namespace Lmrs

open Python Effects

/-- Source: `model_lifecycle.py`, `DiskCacheLike`. -/
structure DiskCacheLike where
  status : String → Except PyException CacheCommandResult
  preload : String → Except PyException CacheCommandResult

namespace LifecycleEffect

variable {σ : Type} (lifecycle : ModelMemoryLifecycle σ) (cache : DiskCacheLike)

/-- What an autoload that raises reports. -/
def autoloadFailure (modelName : String) (preloaded : Bool) (exc : PyException) :
    LifecycleEffect σ AutoloadOutcome :=
  return { attempted := true, modelName := some modelName, preloaded, reasonCode := some exc.kind }

/-- The load of an autoload. -/
def runAutoloadLoad (modelName : String) (preloaded : Bool) : LifecycleEffect σ AutoloadOutcome := do
  Effect.log fun w => .callLoad modelName w.resident
  let load ← Effect.observe (.endLoad modelName) (loadModel lifecycle modelName true)
  return { attempted := true, modelName := some modelName, preloaded, loaded := load.success
           reasonCode := load.reasonCode.map ReasonCode.text }

/-- The load of an autoload, with or without a preload before it. -/
def autoloadLoad (modelName : String) (preloaded : Bool) : LifecycleEffect σ AutoloadOutcome :=
  Effect.handle (runAutoloadLoad lifecycle modelName preloaded) (autoloadFailure modelName preloaded)

/-- What follows a preload. -/
def autoloadAfter (modelName : String) (preload : CacheCommandResult) : LifecycleEffect σ AutoloadOutcome :=
  if preload.success then autoloadLoad lifecycle modelName true
  else
    return { attempted := true, modelName := some modelName
             reasonCode := some ((preload.reasonCode.map ReasonCode.text).getD "MODEL_CACHE_PRELOAD_FAILED") }

/-- What follows the status of the cache. -/
def autoloadPreload (modelName : String) (status : CacheCommandResult) : LifecycleEffect σ AutoloadOutcome :=
  if status.status = .cachedOnDisk then autoloadLoad lifecycle modelName false
  else do
    let preload ← Effect.ask (cache.preload modelName) (.preload modelName)
    autoloadAfter lifecycle modelName preload

/-- The autoload of a model, as the `try` block runs it. -/
def autoloadStages (modelName : String) : LifecycleEffect σ AutoloadOutcome := do
  let status ← Effect.ask (cache.status modelName) (.status modelName)
  autoloadPreload lifecycle cache modelName status

/-- Source: `runtime.py`, `autoload_default_model`. -/
def autoloadDefaultModel (config : Option (Dict Value)) : LifecycleEffect σ AutoloadOutcome :=
  match resolveDefaultModelName config with
  | none => return { attempted := false, reasonCode := some "NO_DEFAULT_MODEL_CONFIGURED" }
  | some modelName =>
      Effect.handle (autoloadStages lifecycle cache modelName) (autoloadFailure modelName false)

theorem autoloadDefaultModel_of_none {config : Option (Dict Value)}
    (h : resolveDefaultModelName config = none) (w : LifecycleWorld σ) :
    autoloadDefaultModel lifecycle cache config w =
      ⟨.ok { attempted := false, reasonCode := some "NO_DEFAULT_MODEL_CONFIGURED" }, w, []⟩ := by
  unfold autoloadDefaultModel
  rw [h]
  rfl

theorem autoloadDefaultModel_of_some {config : Option (Dict Value)} {modelName : String}
    (h : resolveDefaultModelName config = some modelName) (w : LifecycleWorld σ) :
    autoloadDefaultModel lifecycle cache config w =
      Effect.handle (autoloadStages lifecycle cache modelName) (autoloadFailure modelName false) w := by
  unfold autoloadDefaultModel
  rw [h]

/-! ## The adapter's autoload -/

section refinement

/-- What the adapter's lifecycle answers at the load: as it is read at once, or after the preload. -/
def autoloadReadings (r afterPreload : Readings) (modelName : String) : Readings :=
  match r.cache.status modelName with
  | .error _ => r
  | .ok status => if status.status = .cachedOnDisk then r else afterPreload

/-- The end of an autoload that leaves this. -/
def settleAutoload (left : AutoloadOutcome × AdapterState) :
    Except PyException AutoloadOutcome × LifecycleWorld VramFactsStore.File :=
  (.ok left.1, ⟨left.2.residency, left.2.facts⟩)

theorem ends_autoloadLoad (s : AdapterState) (r : Readings) (modelName : String) (preloaded : Bool) :
    (autoloadLoad (Lmrs.lifecycle r) modelName preloaded ⟨s.residency, s.facts⟩).ends =
      settleAutoload (Lmrs.autoloadLoad s r modelName preloaded) := by
  have hload := ends_loadModel (Lmrs.lifecycle r) ⟨s.residency, s.facts⟩ modelName true
  unfold autoloadLoad runAutoloadLoad Lmrs.autoloadLoad
  rw [Effect.ends_handle_bind_ok (a := ()) (t := ⟨s.residency, s.facts⟩) rfl]
  dsimp only at hload
  cases hloaded : (Lmrs.lifecycle r).loadModel s.residency s.facts modelName true with
  | error exc =>
      rw [hloaded] at hload
      exact Effect.ends_handle_bind_error ((Effect.ends_observe _ _ _).trans hload)
  | ok out =>
      rw [hloaded] at hload
      exact Effect.ends_handle_bind_ok ((Effect.ends_observe _ _ _).trans hload)

/-- An autoload whose load is handled already is not handled again. -/
theorem ends_handle_autoloadLoad (w : LifecycleWorld σ) (modelName : String) (preloaded : Bool) :
    (Effect.handle (autoloadLoad lifecycle modelName preloaded) (autoloadFailure modelName false) w).ends =
      (autoloadLoad lifecycle modelName preloaded w).ends := by
  have hanswers : ∃ outcome t, (autoloadLoad lifecycle modelName preloaded w).ends = (.ok outcome, t) := by
    unfold autoloadLoad
    cases hends : (runAutoloadLoad lifecycle modelName preloaded w).ends with
    | mk result t =>
        cases result with
        | ok outcome => exact ⟨outcome, t, Effect.ends_handle_ok hends⟩
        | error exc => exact ⟨_, t, Effect.ends_handle_error hends⟩
  obtain ⟨outcome, t, hends⟩ := hanswers
  rw [Effect.ends_handle_ok hends, hends]

/-- **The adapter's autoload**, with what it reads before and after a preload. -/
theorem ends_autoloadDefaultModel (s : AdapterState) (r afterPreload : Readings)
    (config : Option (Dict Value)) {modelName : String} (hname : resolveDefaultModelName config = some modelName) :
    (autoloadDefaultModel (Lmrs.lifecycle (autoloadReadings r afterPreload modelName))
        ⟨r.cache.status, r.preload⟩ config ⟨s.residency, s.facts⟩).ends =
      settleAutoload (Lmrs.autoloadDefaultModel s r afterPreload config) := by
  rw [autoloadDefaultModel_of_some _ _ hname]
  unfold autoloadStages Lmrs.autoloadDefaultModel autoloadReadings
  rw [hname]
  dsimp only
  cases hstatus : r.cache.status modelName with
  | error exc => exact Effect.ends_handle_bind_error (Effect.ends_ask _ _ _)
  | ok status =>
      rw [Effect.ends_handle_bind_ok (Effect.ends_ask _ _ _)]
      unfold autoloadPreload
      dsimp only
      by_cases hcached : status.status = .cachedOnDisk
      · rw [if_pos hcached, if_pos hcached, if_pos hcached, ends_handle_autoloadLoad]
        exact ends_autoloadLoad s r modelName false
      · rw [if_neg hcached, if_neg hcached, if_neg hcached]
        cases hpreload : r.preload modelName with
        | error exc => exact Effect.ends_handle_bind_error (Effect.ends_ask _ _ _)
        | ok preload =>
            rw [Effect.ends_handle_bind_ok (Effect.ends_ask _ _ _)]
            unfold autoloadAfter
            dsimp only
            by_cases hsuccess : preload.success = true
            · rw [if_pos hsuccess, if_pos hsuccess, ends_handle_autoloadLoad]
              exact ends_autoloadLoad s afterPreload modelName true
            · rw [if_neg hsuccess, if_neg hsuccess]
              rfl

end refinement

/-! ## What an autoload does and leaves -/

/-- A load of the model is called only once its weights are on disk. -/
def LoadsFromDisk (modelName : String) (history : List LifecycleStep) : LifecycleStep → Prop
  | .callLoad name _ => name = modelName ∧ WeightsOnDisk modelName history
  | _ => True

/-- How an attempted autoload ends: with the model on record, or with the record as it was. -/
structure AutoloadEnds (modelName : String) (residency : Option ModelResidency) (outcome : AutoloadOutcome)
    (history : List LifecycleStep) (w : LifecycleWorld σ) : Prop where
  attempted : outcome.attempted = true
  loaded : outcome.loaded = true → ∃ record, w.residency = some record ∧ record.modelName = modelName
  unloaded : outcome.loaded = false → w.residency = residency
  called : history ≠ []

section triples

variable {lifecycle cache} {modelName : String} {residency : Option ModelResidency}

/-- What an autoload that raises leaves. -/
theorem autoloadFailure_triple {ok : List LifecycleStep → LifecycleStep → Prop} (preloaded : Bool)
    (exc : PyException) :
    Triple ok (fun history (w : LifecycleWorld σ) => history ≠ [] ∧ w.residency = residency)
      (autoloadFailure modelName preloaded exc) (AutoloadEnds modelName residency) fun _ _ _ => False :=
  Triple.pure fun _ _ h => ⟨rfl, nofun, fun _ => h.2, h.1⟩

/-- **The load of an autoload**, with the weights on disk, never raises. -/
theorem autoloadLoad_triple (preloaded : Bool) :
    Triple (LoadsFromDisk modelName)
      (fun history w => WeightsOnDisk modelName history ∧ w.residency = residency)
      (autoloadLoad lifecycle modelName preloaded) (AutoloadEnds modelName residency)
      fun _ _ _ => False := by
  refine Triple.handle (M := fun _ history w => history ≠ [] ∧ w.residency = residency) ?_
    fun exc => autoloadFailure_triple preloaded exc
  apply Triple.bind (M := fun _ history w => history ≠ [] ∧ w.residency = residency)
  · exact Triple.log fun history w ⟨hdisk, hsame⟩ => ⟨⟨rfl, hdisk⟩, by simp, hsame⟩
  · intro _
    apply Triple.bind (M := fun load history w => history ≠ [] ∧
      (load.success = true → ∃ record, w.residency = some record ∧ record.modelName = modelName) ∧
      (load.success = false → w.residency = residency))
    · refine Triple.start fun before w ⟨_, hsame⟩ => ?_
      have hload : Triple (LoadsFromDisk modelName) (Untouched true before w.residency) _ _ _ :=
        loadModel_triple lifecycle modelName true fun history step hstep => by
          cases step with
          | status | probe | recordVram => trivial
          | preload | report | callUnload | endUnload | callLoad | endLoad => exact hstep.elim
      have hstart : Triple (LoadsFromDisk modelName) (fun history v => history = before ∧ v = w) _ _ _ :=
        hload.mono (by rintro _ _ ⟨rfl, rfl⟩; exact .start _ _) (fun _ _ _ h => h) fun _ _ _ h => h
      refine Triple.observe hstart ?_ ?_
      · intro load history v h
        exact ⟨trivial, by simp, h.done, fun hfailed => (h.failed hfailed).trans hsame⟩
      · intro exc history v h
        exact ⟨trivial, by simp, h.2.trans hsame⟩
    · intro load
      exact Triple.pure fun _ _ ⟨hcalled, hdone, hfailed⟩ => ⟨rfl, hdone, hfailed, hcalled⟩

/-- **The stages of an autoload.** -/
theorem autoloadStages_triple :
    Triple (LoadsFromDisk modelName) (fun history w => history = [] ∧ w.residency = residency)
      (autoloadStages lifecycle cache modelName) (AutoloadEnds modelName residency)
      fun _ history w => history ≠ [] ∧ w.residency = residency := by
  have hpast {P : List LifecycleStep → LifecycleWorld σ → Prop} (preloaded : Bool)
      (hP : ∀ history w, P history w → WeightsOnDisk modelName history ∧ w.residency = residency) :
      Triple (LoadsFromDisk modelName) P (autoloadLoad lifecycle modelName preloaded)
        (AutoloadEnds modelName residency) fun _ history w => history ≠ [] ∧ w.residency = residency :=
    (autoloadLoad_triple preloaded).mono hP (fun _ _ _ h => h) fun _ _ _ h => h.elim
  apply Triple.bind (M := fun status history w =>
    LifecycleStep.status modelName (.ok status) ∈ history ∧ w.residency = residency)
  · refine Triple.ask (fun _ _ _ => trivial) ?_ ?_
    · exact fun history w status h _ => ⟨by simp, h.2⟩
    · exact fun history w exc h _ => ⟨by simp, h.2⟩
  · intro status
    refine Triple.ite (fun hcached => hpast false ?_) fun _ => ?_
    · exact fun history w ⟨hmem, hsame⟩ => ⟨Or.inl ⟨status, hmem, hcached⟩, hsame⟩
    · apply Triple.bind (M := fun preload history w =>
        LifecycleStep.preload modelName (.ok preload) ∈ history ∧ w.residency = residency)
      · refine Triple.ask (fun _ _ _ => trivial) ?_ ?_
        · exact fun history w preload h _ => ⟨by simp, h.2⟩
        · exact fun history w exc h _ => ⟨by simp, h.2⟩
      · intro preload
        refine Triple.ite (fun hsuccess => hpast true ?_) fun _ => Triple.pure ?_
        · exact fun history w ⟨hmem, hsame⟩ => ⟨Or.inr ⟨preload, hmem, hsuccess⟩, hsame⟩
        · exact fun history w ⟨hmem, hsame⟩ => ⟨rfl, nofun, fun _ => hsame, List.ne_nil_of_mem hmem⟩

end triples

end LifecycleEffect

open LifecycleEffect

/-- The configuration sets no default model that is a string and not empty. -/
def SetsNoDefaultModel (config : Option (Dict Value)) : Prop :=
  ∀ document modelName, config = some document → ¬ SetsDefaultModel document modelName

theorem setsNoDefaultModel_iff {config : Option (Dict Value)} :
    SetsNoDefaultModel config ↔ resolveDefaultModelName config = none := by
  unfold SetsNoDefaultModel
  cases config with
  | none => simp [resolveDefaultModelName]
  | some document =>
      rw [Option.eq_none_iff_forall_ne_some]
      constructor
      · exact fun h modelName hname => h document modelName rfl (resolveDefaultModelName_eq_some.mp hname)
      · rintro h _ modelName ⟨⟩ hsets
        exact h modelName (resolveDefaultModelName_eq_some.mpr hsets)

/-- **A startup survives its autoload.** For every configuration, every record and whatever the cache, the
probe and the recorder answer or raise: the autoload reports an outcome; when it says `loaded` the default
model of the configuration is on record, and in every other case the record is exactly what it was; a load is
called only of that model and only after the cache answered that it is on disk or its preload succeeded; and
nothing is attempted, or called, exactly when the configuration sets no default model. -/
theorem autoload_survives {σ : Type} (lifecycle : ModelMemoryLifecycle σ) (cache : DiskCacheLike)
    (config : Option (Dict Value)) (w : LifecycleWorld σ) :
    let run := LifecycleEffect.autoloadDefaultModel lifecycle cache config w
    ∃ outcome, run.result = .ok outcome ∧
      (outcome.loaded = true → ∃ document record, config = some document ∧
        SetsDefaultModel document record.modelName ∧ run.state.residency = some record) ∧
      (outcome.loaded = false → run.state.residency = w.residency) ∧
      (∀ before modelName resident after, run.events = before ++ .callLoad modelName resident :: after →
        WeightsOnDisk modelName before ∧
          ∃ document, config = some document ∧ SetsDefaultModel document modelName) ∧
      (outcome.attempted = false ↔ SetsNoDefaultModel config) ∧
      (run.events = [] ↔ SetsNoDefaultModel config) := by
  intro run
  rw [setsNoDefaultModel_iff]
  cases hname : resolveDefaultModelName config with
  | none =>
      have hrun : run = _ := autoloadDefaultModel_of_none lifecycle cache hname w
      rw [hrun]
      refine ⟨_, rfl, nofun, fun _ => rfl, ?_, by simp, by simp⟩
      intro before modelName resident after hsplit
      exact absurd hsplit (by simp)
  | some modelName =>
      have hrun : run = _ := autoloadDefaultModel_of_some lifecycle cache hname w
      have hsets : ∃ document, config = some document ∧ SetsDefaultModel document modelName := by
        cases config with
        | none => cases hname
        | some document => exact ⟨document, rfl, resolveDefaultModelName_eq_some.mp hname⟩
      have hspec : Triple (LoadsFromDisk modelName)
          (fun history (v : LifecycleWorld σ) => history = [] ∧ v.residency = w.residency)
          (Effect.handle (autoloadStages lifecycle cache modelName) (autoloadFailure modelName false))
          (AutoloadEnds modelName w.residency) fun _ _ _ => False :=
        Triple.handle autoloadStages_triple fun exc => autoloadFailure_triple false exc
      obtain ⟨hallowed, hgives, hraises⟩ := hspec [] w ⟨rfl, rfl⟩
      rw [← hrun] at hallowed hgives hraises
      cases hresult : run.result with
      | error exc => exact (hraises exc hresult).elim
      | ok outcome =>
          have hends := hgives outcome hresult
          refine ⟨outcome, rfl, ?_, hends.unloaded, ?_, ?_, ?_⟩
          · intro hloaded
            obtain ⟨document, hconfig, hsets⟩ := hsets
            obtain ⟨record, hrecord, rfl⟩ := hends.loaded hloaded
            exact ⟨document, record, hconfig, hsets, hrecord⟩
          · intro before name resident after hsplit
            obtain ⟨rfl, hdisk⟩ := allowed_iff.mp hallowed before _ after hsplit
            exact ⟨hdisk, hsets⟩
          · simp [hends.attempted]
          · simpa using hends.called

end Lmrs
