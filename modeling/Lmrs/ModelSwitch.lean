import Lmrs.ModelLifecycle

/-!
# Switching the resident model, step by step

Source: `lmrs/model_lifecycle.py`, `switch_model`, `model_switch_in_progress`.

`ModelMemoryLifecycle.switchModel` runs the stages of a switch to their end. Here the same stages are
the steps of a machine, `SwitchState.advance`, so that other commands can run between them, and the
call is completed with its argument check and with the registry of the switches in progress.

* `switchModel_cases`: the residency record a switch leaves, by how it ends.
* `ends_switchModel`: the machine, left alone, ends as `switchModel` does.
* `callSwitchModel_supplied`: with both collaborators supplied a call returns, and its target is not
  flagged afterwards.
-/

namespace Lmrs

open Python

namespace ModelMemoryLifecycle

variable {σ : Type}

/-! ## How a switch ends -/

/-- The switch reports `loaded_in_memory`. -/
def SwitchResult.loaded : SwitchResult → Bool
  | .failed _ _ => false
  | .loadedInMemory _ => true

/-- The record is the one before, or there is none because the unload of another resident model than
`target` went through. -/
def KeptOrUnloaded (lifecycle : ModelMemoryLifecycle σ) (before : Option ModelResidency)
    (target : String) (after : Option ModelResidency) : Prop :=
  after = before ∨
    after = none ∧ ∃ previous, before = some previous ∧ previous.modelName ≠ target ∧
      (lifecycle.unloadModel before previous.modelName).1.success = true

/-- The record names `target`: it did before, or it was made by a load of this call. -/
def TargetResident (lifecycle : ModelMemoryLifecycle σ) (before : Option ModelResidency) (recorder : σ)
    (target : String) (after : Option ModelResidency) : Prop :=
  (∃ resident, before = some resident ∧ resident.modelName = target ∧ after = before) ∨
    ∃ record, after = some record ∧ lifecycle.Loaded recorder target true record

section ends

variable (lifecycle : ModelMemoryLifecycle σ) (collab : SwitchCollaborators)
  (announced : List SwitchStage) (residency : Option ModelResidency) (recorder : σ) (target : String)

/-- The loading stage fails with the record as it was, or leaves the target resident. -/
theorem switchLoad_cases :
    ((lifecycle.switchLoad collab announced residency recorder target).result.loaded = false ∧
        (lifecycle.switchLoad collab announced residency recorder target).residency = residency) ∨
      ((lifecycle.switchLoad collab announced residency recorder target).result.loaded = true ∧
        lifecycle.TargetResident residency recorder target
          (lifecycle.switchLoad collab announced residency recorder target).residency) := by
  unfold switchLoad
  dsimp only
  cases collab.progressCallback .loading with
  | error exc => exact Or.inl ⟨rfl, rfl⟩
  | ok _ =>
      dsimp only
      cases hload : lifecycle.loadModel residency recorder target true with
      | error exc => exact Or.inl ⟨rfl, rfl⟩
      | ok out =>
          dsimp only
          rcases loadModel_cases hload with ⟨resident, hres, hname, hsame, hok⟩ | ⟨hsame, hfailed⟩ |
            ⟨record, hrecord, hloaded, hok⟩
          · rw [if_pos hok]
            exact Or.inr ⟨rfl, Or.inl ⟨resident, hres, hname, hsame⟩⟩
          · rw [if_neg (by simp [hfailed])]
            exact Or.inl ⟨rfl, hsame⟩
          · rw [if_pos hok]
            exact Or.inr ⟨rfl, Or.inr ⟨record, hrecord, hloaded⟩⟩

/-- From the unloading stage on, a switch fails with the record kept or unloaded, or leaves the target
resident. -/
theorem switchUnload_cases :
    ((lifecycle.switchUnload collab announced residency recorder target).result.loaded = false ∧
        lifecycle.KeptOrUnloaded residency target
          (lifecycle.switchUnload collab announced residency recorder target).residency) ∨
      ((lifecycle.switchUnload collab announced residency recorder target).result.loaded = true ∧
        lifecycle.TargetResident residency recorder target
          (lifecycle.switchUnload collab announced residency recorder target).residency) := by
  unfold switchUnload
  cases residency with
  | none =>
      rcases lifecycle.switchLoad_cases collab announced none recorder target with
        ⟨hfailed, hsame⟩ | hloaded
      · exact Or.inl ⟨hfailed, Or.inl hsame⟩
      · exact Or.inr hloaded
  | some resident =>
      dsimp only
      by_cases hname : resident.modelName = target
      · rw [if_pos hname]
        rcases lifecycle.switchLoad_cases collab announced (some resident) recorder target with
          ⟨hfailed, hsame⟩ | hloaded
        · exact Or.inl ⟨hfailed, Or.inl hsame⟩
        · exact Or.inr hloaded
      · rw [if_neg hname]
        cases collab.progressCallback .unloading with
        | error exc => exact Or.inl ⟨rfl, Or.inl rfl⟩
        | ok _ =>
            dsimp only
            rcases unloadModel_cases lifecycle (some resident) resident.modelName with
              ⟨hfailed, hsame⟩ | ⟨hok, hnone, -⟩
            · rw [if_neg (by simp [hfailed])]
              exact Or.inl ⟨rfl, Or.inl hsame⟩
            · rw [if_pos hok, hnone]
              rcases lifecycle.switchLoad_cases collab (announced ++ [.unloading]) none recorder
                target with ⟨hfailed, hsame⟩ | ⟨hloaded, ⟨_, habsent, -⟩ | hrecord⟩
              · exact Or.inl ⟨hfailed, Or.inr ⟨hsame, resident, rfl, hname, hok⟩⟩
              · cases habsent
              · exact Or.inr ⟨hloaded, Or.inr hrecord⟩

/-- **The record a switch leaves**: a failed one keeps the record, or has unloaded the previous model;
one that reports success leaves the target resident. -/
theorem switchModel_cases :
    ((lifecycle.switchModel collab residency recorder target).result.loaded = false ∧
        lifecycle.KeptOrUnloaded residency target
          (lifecycle.switchModel collab residency recorder target).residency) ∨
      ((lifecycle.switchModel collab residency recorder target).result.loaded = true ∧
        lifecycle.TargetResident residency recorder target
          (lifecycle.switchModel collab residency recorder target).residency) := by
  unfold switchModel
  cases collab.status target with
  | error exc => exact Or.inl ⟨rfl, Or.inl rfl⟩
  | ok status =>
      dsimp only
      by_cases hcached : status.status = .cachedOnDisk
      · rw [if_pos hcached]
        exact lifecycle.switchUnload_cases collab [] residency recorder target
      · rw [if_neg hcached]
        cases collab.progressCallback .preloading with
        | error exc => exact Or.inl ⟨rfl, Or.inl rfl⟩
        | ok _ =>
            dsimp only
            cases collab.preload target with
            | error exc => exact Or.inl ⟨rfl, Or.inl rfl⟩
            | ok preload =>
                dsimp only
                by_cases hpreload : preload.success = true
                · rw [if_pos hpreload]
                  exact lifecycle.switchUnload_cases collab [.preloading] residency recorder target
                · rw [if_neg hpreload]
                  exact Or.inl ⟨rfl, Or.inl rfl⟩

end ends

/-! ## The stages as steps -/

/-- What a running switch does next. -/
inductive SwitchPoint where
  /-- `cache.status(target)`. -/
  | checking
  /-- `_report(progress_callback, "preloading")`. -/
  | announcingPreload
  /-- `cache.preload(target)`. -/
  | preloading
  /-- `resident = lifecycle.current_residency`. -/
  | inspecting
  /-- `_report(progress_callback, "unloading")`, with the model read as resident. -/
  | announcingUnload (resident : String)
  /-- `lifecycle.unload_model(resident.model_name)`. -/
  | unloading (resident : String)
  /-- `_report(progress_callback, "loading")`. -/
  | announcingLoad
  /-- `lifecycle.load_model(target, allow_preload=True)`. -/
  | loading
  /-- The result is known; the `finally` block is left to run. -/
  | ended (result : SwitchResult)

/-- A running `switch_model` call. -/
structure SwitchCall where
  target : String
  point : SwitchPoint := .checking
  announced : List SwitchStage := []

/-- A running call with the state it acts on. -/
structure SwitchState (σ : Type) where
  call : SwitchCall
  residency : Option ModelResidency
  recorder : σ

namespace SwitchState

variable (lifecycle : ModelMemoryLifecycle σ) (collab : SwitchCollaborators)

/-- The call goes on at another point. -/
def goto (s : SwitchState σ) (point : SwitchPoint) : SwitchState σ :=
  { s with call := { s.call with point } }

/-- A stage is announced; the callback may raise. -/
def announce (s : SwitchState σ) (stage : SwitchStage) (point : SwitchPoint) : SwitchState σ :=
  let told := { s with call := { s.call with announced := s.call.announced ++ [stage] } }
  match collab.progressCallback stage with
  | .error exc => told.goto (.ended (.ofException exc))
  | .ok () => told.goto point

/-- One step of a running switch. Source: `model_lifecycle.py`, `switch_model`. -/
def advance (s : SwitchState σ) : SwitchState σ :=
  match s.call.point with
  | .checking =>
      match collab.status s.call.target with
      | .error exc => s.goto (.ended (.ofException exc))
      | .ok status =>
          s.goto (if status.status = .cachedOnDisk then .inspecting else .announcingPreload)
  | .announcingPreload => s.announce collab .preloading .preloading
  | .preloading =>
      match collab.preload s.call.target with
      | .error exc => s.goto (.ended (.ofException exc))
      | .ok preload =>
          if preload.success then s.goto .inspecting
          else s.goto (.ended (.failed (preload.reasonCode.getD .modelCachePreloadFailed) .preloading))
  | .inspecting =>
      match s.residency with
      | none => s.goto .announcingLoad
      | some resident =>
          s.goto (if resident.modelName = s.call.target then .announcingLoad
            else .announcingUnload resident.modelName)
  | .announcingUnload resident => s.announce collab .unloading (.unloading resident)
  | .unloading resident =>
      let (unload, residency) := lifecycle.unloadModel s.residency resident
      let s := { s with residency }
      if unload.success then s.goto .announcingLoad
      else s.goto (.ended (.failed (unload.reasonCode.getD .modelUnloadFailed) .unloading))
  | .announcingLoad => s.announce collab .loading .loading
  | .loading =>
      match lifecycle.loadModel s.residency s.recorder s.call.target true with
      | .error exc => s.goto (.ended (.ofException exc))
      | .ok out =>
          let s := { s with residency := out.residency, recorder := out.recorder }
          if out.result.success then s.goto (.ended (.loadedInMemory out.result))
          else s.goto (.ended (.failed (out.result.reasonCode.getD .modelLoadFailed) .loading))
  | .ended _ => s

/-- The state a finished run has reached. -/
def ofRun (target : String) (run : SwitchRun σ) : SwitchState σ where
  call := { target, point := .ended run.result, announced := run.announced }
  residency := run.residency
  recorder := run.recorder

/-- Left alone, the call comes to its end as `run` says. -/
def Ends (s : SwitchState σ) (run : SwitchRun σ) : Prop :=
  ∃ n, (advance lifecycle collab)^[n] s = ofRun s.call.target run

section alone

variable {lifecycle collab} {s t : SwitchState σ} {run : SwitchRun σ}

/-- No step changes the target of a call. -/
theorem advance_target : (s.advance lifecycle collab).call.target = s.call.target := by
  unfold advance announce
  cases s.call.point with
  | checking =>
      dsimp only
      split <;> rfl
  | announcingPreload =>
      dsimp only
      split <;> rfl
  | preloading =>
      dsimp only
      split
      · rfl
      · split_ifs <;> rfl
  | inspecting =>
      dsimp only
      split <;> rfl
  | announcingUnload resident =>
      dsimp only
      split <;> rfl
  | unloading resident =>
      dsimp only
      split_ifs <;> rfl
  | announcingLoad =>
      dsimp only
      split <;> rfl
  | loading =>
      dsimp only
      split
      · rfl
      · split_ifs <;> rfl
  | ended result => rfl

/-- A call that has ended stays as it is. -/
theorem ends_ofRun (target : String) (run : SwitchRun σ) :
    (ofRun target run).Ends lifecycle collab run := ⟨0, rfl⟩

/-- A call ends as it does after one step. -/
theorem Ends.of_advance (hstep : s.advance lifecycle collab = t) (h : t.Ends lifecycle collab run) :
    s.Ends lifecycle collab run := by
  obtain ⟨n, hn⟩ := h
  refine ⟨n + 1, ?_⟩
  have htarget : t.call.target = s.call.target := hstep ▸ advance_target
  rw [Function.iterate_succ_apply, hstep, hn, htarget]

/-- A call whose next step is its last one ends. -/
theorem ends_of_last {target : String} (hstep : s.advance lifecycle collab = ofRun target run) :
    s.Ends lifecycle collab run :=
  Ends.of_advance hstep (ends_ofRun target run)

variable (target : String) (announced : List SwitchStage) (residency : Option ModelResidency)
  (recorder : σ)

/-- The loading stage, left alone, ends as `switchLoad` does. -/
theorem ends_switchLoad :
    Ends lifecycle collab ⟨⟨target, .announcingLoad, announced⟩, residency, recorder⟩
      (lifecycle.switchLoad collab announced residency recorder target) := by
  unfold switchLoad
  dsimp only
  cases hcallback : collab.progressCallback .loading with
  | error exc => exact ends_of_last (by simp only [advance, announce, hcallback]; rfl)
  | ok _ =>
      apply Ends.of_advance (t := ⟨⟨target, .loading, announced ++ [.loading]⟩, residency, recorder⟩)
      · simp only [advance, announce, hcallback]
        rfl
      · dsimp only
        cases hload : lifecycle.loadModel residency recorder target true with
        | error exc => exact ends_of_last (by simp only [advance, hload]; rfl)
        | ok out =>
            cases hok : out.result.success with
            | true => exact ends_of_last (by simp only [advance, hload, hok, if_true]; rfl)
            | false =>
                exact ends_of_last (by
                  simp only [advance, hload, hok, Bool.false_eq_true, if_false]
                  rfl)

/-- From the reading of the residency on, a call left alone ends as `switchUnload` does. -/
theorem ends_switchUnload :
    Ends lifecycle collab ⟨⟨target, .inspecting, announced⟩, residency, recorder⟩
      (lifecycle.switchUnload collab announced residency recorder target) := by
  unfold switchUnload
  cases residency with
  | none => exact Ends.of_advance rfl (ends_switchLoad target announced none recorder)
  | some resident =>
      dsimp only
      by_cases hname : resident.modelName = target
      · rw [if_pos hname]
        apply Ends.of_advance _ (ends_switchLoad target announced (some resident) recorder)
        simp only [advance, hname, if_true]
        rfl
      · rw [if_neg hname]
        apply Ends.of_advance (t :=
          ⟨⟨target, .announcingUnload resident.modelName, announced⟩, some resident, recorder⟩)
        · simp only [advance, hname, if_false]
          rfl
        · cases hcallback : collab.progressCallback .unloading with
          | error exc => exact ends_of_last (by simp only [advance, announce, hcallback]; rfl)
          | ok _ =>
              apply Ends.of_advance (t :=
                ⟨⟨target, .unloading resident.modelName, announced ++ [.unloading]⟩,
                  some resident, recorder⟩)
              · simp only [advance, announce, hcallback]
                rfl
              · dsimp only
                cases hok : (lifecycle.unloadModel (some resident) resident.modelName).1.success with
                | true =>
                    rw [if_pos rfl]
                    have hload : Ends lifecycle collab _ _ := ends_switchLoad target
                      (announced ++ [SwitchStage.unloading])
                      (lifecycle.unloadModel (some resident) resident.modelName).2 recorder
                    apply Ends.of_advance _ hload
                    simp only [advance, hok, if_true]
                    rfl
                | false =>
                    rw [if_neg (by simp)]
                    exact ends_of_last (by
                      simp only [advance, hok, Bool.false_eq_true, if_false]
                      rfl)

/-- **A switch left alone ends as `switchModel` does.** -/
theorem ends_switchModel :
    Ends lifecycle collab ⟨{ target }, residency, recorder⟩
      (lifecycle.switchModel collab residency recorder target) := by
  unfold switchModel
  cases hstatus : collab.status target with
  | error exc => exact ends_of_last (by simp only [advance, hstatus]; rfl)
  | ok status =>
      dsimp only
      by_cases hcached : status.status = .cachedOnDisk
      · rw [if_pos hcached]
        apply Ends.of_advance _ (ends_switchUnload target [] residency recorder)
        simp only [advance, hstatus, hcached, if_true]
        rfl
      · rw [if_neg hcached]
        apply Ends.of_advance (t := ⟨⟨target, .announcingPreload, []⟩, residency, recorder⟩)
        · simp only [advance, hstatus, hcached, if_false]
          rfl
        · cases hcallback : collab.progressCallback .preloading with
          | error exc => exact ends_of_last (by simp only [advance, announce, hcallback]; rfl)
          | ok _ =>
              apply Ends.of_advance (t := ⟨⟨target, .preloading, [.preloading]⟩, residency, recorder⟩)
              · simp only [advance, announce, hcallback]
                rfl
              · dsimp only
                cases hpreload : collab.preload target with
                | error exc => exact ends_of_last (by simp only [advance, hpreload]; rfl)
                | ok preload =>
                    cases hok : preload.success with
                    | true =>
                        dsimp only
                        rw [if_pos hok]
                        apply Ends.of_advance _
                          (ends_switchUnload target [SwitchStage.preloading] residency recorder)
                        simp only [advance, hpreload, hok, if_true]
                        rfl
                    | false =>
                        dsimp only
                        rw [if_neg (by simp [hok])]
                        exact ends_of_last (by
                          simp only [advance, hpreload, hok, Bool.false_eq_true, if_false]
                          rfl)

end alone

end SwitchState

/-! ## The registry of the switches in progress -/

/-- Source: `model_lifecycle.py`, `_SWITCHES_IN_PROGRESS.add`. -/
def flagSwitch (registry : List String) (target : String) : List String :=
  if target ∈ registry then registry else registry ++ [target]

/-- Source: `model_lifecycle.py`, `_SWITCHES_IN_PROGRESS.discard`. -/
def unflagSwitch (registry : List String) (target : String) : List String :=
  registry.filter fun name => name ≠ target

/-- Source: `model_lifecycle.py`, `model_switch_in_progress`. -/
def modelSwitchInProgress (registry : List String) (modelName : String) : Bool :=
  decide (modelName ∈ registry)

@[simp] theorem mem_flagSwitch {registry : List String} {target name : String} :
    name ∈ flagSwitch registry target ↔ name ∈ registry ∨ name = target := by
  unfold flagSwitch
  split_ifs with h
  · constructor
    · exact Or.inl
    · rintro (hname | rfl)
      · exact hname
      · exact h
  · simp

@[simp] theorem mem_unflagSwitch {registry : List String} {target name : String} :
    name ∈ unflagSwitch registry target ↔ name ∈ registry ∧ name ≠ target := by
  simp [unflagSwitch]

/-- What a `switch_model` call leaves. -/
structure SwitchCallRun (σ : Type) where
  result : Except PyException SwitchResult
  announced : List SwitchStage
  residency : Option ModelResidency
  recorder : σ
  registry : List String

/-- Source: `model_lifecycle.py`, `switch_model`. -/
def callSwitchModel (registry : List String) (lifecycle : Option (ModelMemoryLifecycle σ))
    (cache : Option SwitchCollaborators) (residency : Option ModelResidency) (recorder : σ)
    (target : String) : SwitchCallRun σ :=
  match lifecycle, cache with
  | some lifecycle, some collab =>
      let run := lifecycle.switchModel collab residency recorder target
      { result := .ok run.result, announced := run.announced, residency := run.residency
        recorder := run.recorder, registry := unflagSwitch (flagSwitch registry target) target }
  | _, _ =>
      { result := .error (valueError
          "switch_model requires the lifecycle and disk cache owned by the caller")
        announced := [], residency, recorder, registry }

/-- With both collaborators supplied a call returns the result of its stages, and its target is not
flagged afterwards. -/
theorem callSwitchModel_supplied (registry : List String) (lifecycle : ModelMemoryLifecycle σ)
    (collab : SwitchCollaborators) (residency : Option ModelResidency) (recorder : σ)
    (target : String) :
    let call := callSwitchModel registry (some lifecycle) (some collab) residency recorder target
    let run := lifecycle.switchModel collab residency recorder target
    call.result = .ok run.result ∧ call.residency = run.residency ∧ target ∉ call.registry := by
  refine ⟨rfl, rfl, ?_⟩
  simp [callSwitchModel]

end ModelMemoryLifecycle

end Lmrs
