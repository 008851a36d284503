import Lmrs.LifecycleEffects
import Lmrs.ModelSwitch

/-!
# A switch with the calls it makes

Source: `lmrs/model_lifecycle.py`, `_report`, `_switch_failure`, `switch_model`.

The stages of a switch once more, statement by statement, with one handler for all of them.

* `ends_switchModel`: they end as `ModelMemoryLifecycle.switchModel` says.
* `switchStages_triple`: what the stages do only after what, and what they leave.
* `switch_in_order`: the same of a call.
-/

namespace Lmrs

open Python Effects ModelMemoryLifecycle

namespace LifecycleEffect

variable {σ : Type} (lifecycle : ModelMemoryLifecycle σ) (collab : SwitchCollaborators)

/-- Source: `model_lifecycle.py`, `_report`. -/
def report (stage : SwitchStage) : LifecycleEffect σ Unit :=
  Effect.ask (collab.progressCallback stage) (.report stage)

/-- The end of the loading stage. -/
def settleLoad (load : LifecycleCommandResult) : LifecycleEffect σ SwitchResult :=
  if load.success then return .loadedInMemory load
  else return .failed (load.reasonCode.getD .modelLoadFailed) .loading

/-- The loading stage. -/
def switchLoad (target : String) : LifecycleEffect σ SwitchResult := do
  report collab .loading
  Effect.log fun w => .callLoad target w.resident
  let load ← Effect.observe (.endLoad target) (loadModel lifecycle target true)
  settleLoad load

/-- What follows an unload. -/
def settleUnload (target : String) (unload : LifecycleCommandResult) : LifecycleEffect σ SwitchResult :=
  if unload.success then switchLoad lifecycle collab target
  else return .failed (unload.reasonCode.getD .modelUnloadFailed) .unloading

/-- The unloading stage, for the record read before it, and what follows. -/
def switchUnload (target : String) : Option ModelResidency → LifecycleEffect σ SwitchResult
  | none => switchLoad lifecycle collab target
  | some resident =>
      if resident.modelName = target then switchLoad lifecycle collab target
      else do
        report collab .unloading
        Effect.log fun _ => .callUnload resident.modelName
        let unload ← Effect.observe (.endUnload resident.modelName)
          (unloadModel lifecycle resident.modelName)
        settleUnload lifecycle collab target unload

/-- What follows the preloading stage. -/
def switchResident (target : String) : LifecycleEffect σ SwitchResult := do
  let residency ← Effect.read LifecycleWorld.residency
  switchUnload lifecycle collab target residency

/-- What follows a preload. -/
def settlePreload (target : String) (preload : CacheCommandResult) : LifecycleEffect σ SwitchResult :=
  if preload.success then switchResident lifecycle collab target
  else return .failed (preload.reasonCode.getD .modelCachePreloadFailed) .preloading

/-- The preloading stage, for the status read before it, and what follows. -/
def switchPreload (target : String) (status : CacheCommandResult) : LifecycleEffect σ SwitchResult :=
  if status.status = .cachedOnDisk then switchResident lifecycle collab target
  else do
    report collab .preloading
    let preload ← Effect.ask (collab.preload target) (.preload target)
    settlePreload lifecycle collab target preload

/-- The stages, as the `try` block runs them. -/
def switchStages (target : String) : LifecycleEffect σ SwitchResult := do
  let status ← Effect.ask (collab.status target) (.status target)
  switchPreload lifecycle collab target status

/-- The `except` clause of the stages. -/
def switchFailure (exc : PyException) : LifecycleEffect σ SwitchResult := return .ofException exc

/-- Source: `model_lifecycle.py`, `switch_model`, with the lifecycle and the cache supplied. -/
def switchModel (target : String) : LifecycleEffect σ SwitchResult :=
  Effect.handle (switchStages lifecycle collab target) switchFailure

/-! ## The stages end as their run says -/

section refinement

variable (target : String) (announced : List SwitchStage) (w : LifecycleWorld σ)

/-- The end of a switch that leaves this. -/
def settleRun (run : SwitchRun σ) : Except PyException SwitchResult × LifecycleWorld σ :=
  (.ok run.result, ⟨run.residency, run.recorder⟩)

variable {collab} in
theorem ends_report {stage : SwitchStage} {answer : Except PyException Unit}
    (h : collab.progressCallback stage = answer) :
    (report collab stage w : Run _ LifecycleStep _ _).ends = (answer, w) := by
  rw [report, Effect.ends_ask, h]

theorem ends_handle_switchLoad :
    (Effect.handle (switchLoad lifecycle collab target) switchFailure w).ends =
      settleRun (lifecycle.switchLoad collab announced w.residency w.recorder target) := by
  unfold switchLoad ModelMemoryLifecycle.switchLoad
  cases hreport : collab.progressCallback .loading with
  | error exc => exact Effect.ends_handle_bind_error (ends_report _ hreport)
  | ok u =>
      rw [Effect.ends_handle_bind_ok (ends_report w hreport),
        Effect.ends_handle_bind_ok (a := ()) (t := w) rfl]
      have hload := ends_loadModel lifecycle w target true
      dsimp only
      cases hloaded : lifecycle.loadModel w.residency w.recorder target true with
      | error exc =>
          rw [hloaded] at hload
          exact Effect.ends_handle_bind_error ((Effect.ends_observe w _ _).trans hload)
      | ok out =>
          rw [hloaded] at hload
          rw [Effect.ends_handle_bind_ok ((Effect.ends_observe w _ _).trans hload)]
          unfold settleLoad
          dsimp only
          by_cases hsuccess : out.result.success = true
          · rw [if_pos hsuccess, if_pos hsuccess]
            rfl
          · rw [if_neg hsuccess, if_neg hsuccess]
            rfl

theorem ends_handle_switchUnload :
    (Effect.handle (switchUnload lifecycle collab target w.residency) switchFailure w).ends =
      settleRun (lifecycle.switchUnload collab announced w.residency w.recorder target) := by
  cases w with
  | mk residency recorder =>
      cases residency with
      | none => exact ends_handle_switchLoad lifecycle collab target announced ⟨none, recorder⟩
      | some resident =>
          simp only [switchUnload, ModelMemoryLifecycle.switchUnload]
          by_cases hname : resident.modelName = target
          · rw [if_pos hname, if_pos hname]
            exact ends_handle_switchLoad lifecycle collab target announced ⟨some resident, recorder⟩
          · rw [if_neg hname, if_neg hname]
            cases hreport : collab.progressCallback .unloading with
            | error exc => exact Effect.ends_handle_bind_error (ends_report _ hreport)
            | ok u =>
                have hunload := ends_unloadModel lifecycle ⟨some resident, recorder⟩ resident.modelName
                rw [Effect.ends_handle_bind_ok (ends_report _ hreport),
                  Effect.ends_handle_bind_ok (a := ()) (t := ⟨some resident, recorder⟩) rfl,
                  Effect.ends_handle_bind_ok ((Effect.ends_observe _ _ _).trans hunload)]
                unfold settleUnload
                dsimp only
                cases hsuccess : (lifecycle.unloadModel (some resident) resident.modelName).1.success with
                | true => exact ends_handle_switchLoad lifecycle collab target (announced ++ [.unloading]) _
                | false => rfl

theorem ends_handle_switchResident :
    (Effect.handle (switchResident lifecycle collab target) switchFailure w).ends =
      settleRun (lifecycle.switchUnload collab announced w.residency w.recorder target) :=
  (Effect.ends_handle_bind_ok (Effect.ends_read w _)).trans
    (ends_handle_switchUnload lifecycle collab target announced w)

/-- **The switch ends as its run says.** -/
theorem ends_switchModel :
    (switchModel lifecycle collab target w).ends =
      settleRun (lifecycle.switchModel collab w.residency w.recorder target) := by
  unfold switchModel switchStages ModelMemoryLifecycle.switchModel
  cases hstatus : collab.status target with
  | error exc => exact Effect.ends_handle_bind_error (Effect.ends_ask w _ _)
  | ok status =>
      rw [Effect.ends_handle_bind_ok (Effect.ends_ask w _ _)]
      unfold switchPreload
      dsimp only
      by_cases hcached : status.status = .cachedOnDisk
      · rw [if_pos hcached, if_pos hcached]
        exact ends_handle_switchResident lifecycle collab target [] w
      · rw [if_neg hcached, if_neg hcached]
        cases hreport : collab.progressCallback .preloading with
        | error exc => exact Effect.ends_handle_bind_error (ends_report _ hreport)
        | ok u =>
            rw [Effect.ends_handle_bind_ok (ends_report w hreport)]
            dsimp only
            cases hpreload : collab.preload target with
            | error exc => exact Effect.ends_handle_bind_error (Effect.ends_ask w _ _)
            | ok preload =>
                rw [Effect.ends_handle_bind_ok (Effect.ends_ask w _ _)]
                unfold settlePreload
                dsimp only
                cases hsuccess : preload.success with
                | true => exact ends_handle_switchResident lifecycle collab target [.preloading] w
                | false => rfl

end refinement

/-! ## What a switch does after what -/

/-- The cache answered that the target is on disk, or its preload succeeded. -/
def WeightsOnDisk (target : String) (history : List LifecycleStep) : Prop :=
  (∃ answer, LifecycleStep.status target (.ok answer) ∈ history ∧ answer.status = .cachedOnDisk) ∨
    ∃ answer, LifecycleStep.preload target (.ok answer) ∈ history ∧ answer.success = true

/-- The stage was reported, and the callback returned. -/
def Reported (stage : SwitchStage) (history : List LifecycleStep) : Prop :=
  LifecycleStep.report stage (.ok ()) ∈ history

/-- The stage a step reports. -/
def reportedStage : LifecycleStep → Option SwitchStage
  | .report stage _ => some stage
  | _ => none

/-- What a switch may do after a history. -/
def InOrder (target : String) (history : List LifecycleStep) : LifecycleStep → Prop
  | .preload _ _ => Reported .preloading history
  | .callUnload _ => WeightsOnDisk target history ∧ Reported .unloading history
  | .callLoad modelName resident =>
      modelName = target ∧ (∀ other, resident = some other → other = target) ∧ Reported .loading history
  | _ => True

theorem WeightsOnDisk.append {target : String} {history : List LifecycleStep}
    (h : WeightsOnDisk target history) (steps : List LifecycleStep) :
    WeightsOnDisk target (history ++ steps) := by
  rcases h with ⟨answer, hmem, hcached⟩ | ⟨answer, hmem, hsuccess⟩
  · exact Or.inl ⟨answer, List.mem_append_left _ hmem, hcached⟩
  · exact Or.inr ⟨answer, List.mem_append_left _ hmem, hsuccess⟩

/-- The calls of a load report no stage. -/
theorem OnlyLoadCalls.reported {allowPreload : Bool} {before history : List LifecycleStep}
    (h : OnlyLoadCalls allowPreload before history) :
    history.filterMap reportedStage = before.filterMap reportedStage := by
  obtain ⟨steps, rfl, hsteps⟩ := h
  have hnone : steps.filterMap reportedStage = [] := by
    apply List.filterMap_eq_nil_iff.mpr
    intro step hstep
    have hload := hsteps step hstep
    cases step with
    | report stage answer => exact hload.elim
    | _ => rfl
  rw [List.filterMap_append, hnone, List.append_nil]

/-- The weights are on disk and only these stages were reported, in this order. -/
def Ready (target : String) (stages : List SwitchStage) (history : List LifecycleStep) : Prop :=
  WeightsOnDisk target history ∧ (history.filterMap reportedStage).Sublist stages

/-- A step that reports no stage. -/
theorem Ready.snoc {target : String} {stages : List SwitchStage} {history : List LifecycleStep}
    (h : Ready target stages history) {step : LifecycleStep} (hstep : reportedStage step = none) :
    Ready target stages (history ++ [step]) := by
  refine ⟨h.1.append _, ?_⟩
  rw [List.filterMap_append, List.filterMap_cons_none hstep, List.filterMap_nil, List.append_nil]
  exact h.2

/-- A step that reports the next stage. -/
theorem Ready.report {target : String} {stages : List SwitchStage} {history : List LifecycleStep}
    (h : Ready target stages history) (stage : SwitchStage) (answer : Except PyException Unit) :
    Ready target (stages ++ [stage]) (history ++ [.report stage answer]) := by
  refine ⟨h.1.append _, ?_⟩
  rw [List.filterMap_append]
  exact h.2.append (List.Sublist.refl _)

/-- More stages may have been reported than were. -/
theorem Ready.mono {target : String} {stages stages' : List SwitchStage} {history : List LifecycleStep}
    (h : Ready target stages history) (hsub : stages.Sublist stages') : Ready target stages' history :=
  ⟨h.1, h.2.trans hsub⟩

section order

variable {lifecycle collab} {target : String}

/-- A stage is reported once the ones before it were. -/
theorem report_triple {stages : List SwitchStage} {stage : SwitchStage}
    {P : LifecycleWorld σ → Prop} :
    Triple (InOrder target) (fun history w => Ready target stages history ∧ P w) (report collab stage)
      (fun _ history w => Ready target (stages ++ [stage]) history ∧ Reported stage history ∧ P w)
      fun _ history _ => Ready target (stages ++ [stage]) history := by
  refine Triple.ask (fun _ _ _ => trivial) ?_ ?_
  · intro history w _ ⟨h, hP⟩ _
    exact ⟨h.report stage _, List.mem_append_right _ (List.mem_singleton.mpr rfl), hP⟩
  · intro history w exc ⟨h, _⟩ _
    exact h.report stage _

/-- **The loading stage**, with no other model than the target on record. -/
theorem switchLoad_triple :
    Triple (InOrder target)
      (fun history w => Ready target [.preloading, .unloading] history ∧
        ∀ record, w.residency = some record → record.modelName = target)
      (switchLoad lifecycle collab target)
      (fun _ history _ => Ready target [.preloading, .unloading, .loading] history)
      fun _ history _ => Ready target [.preloading, .unloading, .loading] history := by
  refine Triple.bind report_triple fun _ => ?_
  apply Triple.bind (M := fun _ history _ => Ready target [.preloading, .unloading, .loading] history)
  · refine Triple.log fun history w ⟨hready, hreported, honly⟩ => ?_
    refine ⟨⟨rfl, ?_, hreported⟩, hready.snoc rfl⟩
    intro other hother
    obtain ⟨record, hrecord, rfl⟩ := Option.map_eq_some_iff.mp hother
    exact honly record hrecord
  · intro _
    apply Triple.bind (M := fun _ history _ => Ready target [.preloading, .unloading, .loading] history)
    · refine Triple.start fun before w hready => ?_
      have hcalls {history : List LifecycleStep} (h : OnlyLoadCalls true before history) :
          Ready target [.preloading, .unloading, .loading] history := by
        refine ⟨?_, h.reported ▸ hready.2⟩
        obtain ⟨steps, rfl, -⟩ := h
        exact hready.1.append steps
      have hload : Triple (InOrder target) (Untouched true before w.residency) _ _ _ :=
        loadModel_triple lifecycle target true fun history step hstep => by
          cases step with
          | status | probe | recordVram => trivial
          | preload | report | callUnload | endUnload | callLoad | endLoad => exact hstep.elim
      have hstart : Triple (InOrder target) (fun history v => history = before ∧ v = w) _ _ _ :=
        hload.mono (by rintro _ _ ⟨rfl, rfl⟩; exact .start _ _) (fun _ _ _ h => h) fun _ _ _ h => h
      refine Triple.observe hstart ?_ ?_
      · exact fun _ history _ h => ⟨trivial, (hcalls h.calls).snoc rfl⟩
      · exact fun _ history _ h => ⟨trivial, (hcalls h.1).snoc rfl⟩
    · intro load
      exact Triple.ite (fun _ => Triple.pure fun _ _ h => h) fun _ => Triple.pure fun _ _ h => h

/-- **The unloading stage and what follows**, for the record it finds. -/
theorem switchUnload_triple (residency : Option ModelResidency) :
    Triple (InOrder target)
      (fun history w => Ready target [.preloading] history ∧ w.residency = residency)
      (switchUnload lifecycle collab target residency)
      (fun _ history _ => Ready target [.preloading, .unloading, .loading] history)
      fun _ history _ => Ready target [.preloading, .unloading, .loading] history := by
  have hpast {P : List LifecycleStep → LifecycleWorld σ → Prop}
      (hP : ∀ history w, P history w → Ready target [.preloading, .unloading] history ∧
        ∀ record, w.residency = some record → record.modelName = target) :
      Triple (InOrder target) P (switchLoad lifecycle collab target)
        (fun _ history _ => Ready target [.preloading, .unloading, .loading] history)
        fun _ history _ => Ready target [.preloading, .unloading, .loading] history :=
    switchLoad_triple.mono hP (fun _ _ _ h => h) fun _ _ _ h => h
  cases residency with
  | none =>
      refine hpast fun history w ⟨hready, hnone⟩ => ⟨hready.mono (by decide), ?_⟩
      intro record hrecord
      rw [hnone] at hrecord
      cases hrecord
  | some resident =>
      refine Triple.ite (fun hname => ?_) fun _ => ?_
      · refine hpast fun history w ⟨hready, hresident⟩ => ⟨hready.mono (by decide), ?_⟩
        intro record hrecord
        rw [hresident] at hrecord
        cases hrecord
        exact hname
      · refine Triple.bind (report_triple.mono (fun _ _ h => h) (fun _ _ _ h => h)
          fun _ _ _ h => h.mono (by decide)) fun _ => ?_
        apply Triple.bind (M := fun _ history w => Ready target [.preloading, .unloading] history ∧
          w.residency = some resident)
        · exact Triple.log fun history w ⟨hready, hreported, hsame⟩ =>
            ⟨⟨hready.1, hreported⟩, hready.snoc rfl, hsame⟩
        · intro _
          apply Triple.bind (M := fun unload history w =>
            Ready target [.preloading, .unloading] history ∧ (unload.success = true → w.residency = none))
          · refine Triple.start fun before w ⟨hready, _⟩ => ?_
            have hunload : Triple (InOrder target)
                (fun history (v : LifecycleWorld σ) => history = before ∧ v.residency = w.residency) _ _ _ :=
              unloadModel_triple lifecycle resident.modelName
            have hstart : Triple (InOrder target) (fun history v => history = before ∧ v = w) _ _ _ :=
              hunload.mono (fun _ _ h => ⟨h.1, congrArg LifecycleWorld.residency h.2⟩) (fun _ _ _ h => h)
                fun _ _ _ h => h
            refine Triple.observe hstart ?_ fun _ _ _ h => h.elim
            rintro unload history v ⟨rfl, -, hnone⟩
            exact ⟨trivial, hready.snoc rfl, hnone⟩
          · intro unload
            refine Triple.ite (fun hsuccess => hpast ?_) fun _ => Triple.pure fun _ _ h => h.1.mono (by decide)
            intro history w ⟨hready, hnone⟩
            refine ⟨hready, fun record hrecord => ?_⟩
            rw [hnone hsuccess] at hrecord
            cases hrecord

theorem switchResident_triple :
    Triple (InOrder target) (fun history _ => Ready target [.preloading] history)
      (switchResident (σ := σ) lifecycle collab target)
      (fun _ history _ => Ready target [.preloading, .unloading, .loading] history)
      fun _ history _ => Ready target [.preloading, .unloading, .loading] history := by
  apply Triple.bind (M := fun residency history w => Ready target [.preloading] history ∧
    w.residency = residency)
  · exact Triple.read fun _ _ h => ⟨h, rfl⟩
  · exact switchUnload_triple

/-- What every end of a switch leaves: the stages were reported in order, and the record is the one before or
the weights are on disk. -/
def SwitchLeaves (target : String) (residency : Option ModelResidency) (history : List LifecycleStep)
    (w : LifecycleWorld σ) : Prop :=
  (history.filterMap reportedStage).Sublist [.preloading, .unloading, .loading] ∧
    (w.residency = residency ∨ WeightsOnDisk target history)

/-- **What a switch does and leaves.** -/
theorem switchStages_triple (residency : Option ModelResidency) :
    Triple (InOrder target) (fun history w => history = [] ∧ w.residency = residency)
      (switchStages lifecycle collab target)
      (fun _ => SwitchLeaves target residency) fun _ => SwitchLeaves target residency := by
  have hpast {P : List LifecycleStep → LifecycleWorld σ → Prop}
      (hP : ∀ history w, P history w → Ready target [.preloading] history) :
      Triple (InOrder target) P (switchResident lifecycle collab target)
        (fun _ => SwitchLeaves target residency) fun _ => SwitchLeaves target residency :=
    switchResident_triple.mono hP (fun _ _ _ h => ⟨h.2, Or.inr h.1⟩) fun _ _ _ h => ⟨h.2, Or.inr h.1⟩
  have hnone (stages : List SwitchStage) : ([] : List SwitchStage).Sublist stages := List.nil_sublist stages
  have hone (stages : List SwitchStage) :
      [SwitchStage.preloading].Sublist ([.preloading] ++ stages) :=
    List.sublist_append_left _ stages
  apply Triple.bind (M := fun status history w => history = [.status target (.ok status)] ∧
    w.residency = residency)
  · refine Triple.ask (fun _ _ _ => trivial) ?_ ?_
    · rintro history w status ⟨rfl, hsame⟩ _
      exact ⟨rfl, hsame⟩
    · rintro history w exc ⟨rfl, hsame⟩ _
      exact ⟨hnone _, Or.inl hsame⟩
  · intro status
    refine Triple.ite (fun hcached => hpast ?_) fun _ => ?_
    · rintro history w ⟨rfl, -⟩
      exact ⟨Or.inl ⟨status, List.mem_singleton.mpr rfl, hcached⟩, hnone _⟩
    · apply Triple.bind (M := fun _ history w =>
        history = [.status target (.ok status), .report .preloading (.ok ())] ∧ w.residency = residency)
      · refine Triple.ask (fun _ _ _ => trivial) ?_ ?_
        · rintro history w _ ⟨rfl, hsame⟩ _
          exact ⟨rfl, hsame⟩
        · rintro history w exc ⟨rfl, hsame⟩ _
          exact ⟨hone [.unloading, .loading], Or.inl hsame⟩
      · intro _
        apply Triple.bind (M := fun preload history w =>
          history = [.status target (.ok status), .report .preloading (.ok ()),
            .preload target (.ok preload)] ∧ w.residency = residency)
        · refine Triple.ask ?_ ?_ ?_
          · rintro history w ⟨rfl, -⟩
            exact List.mem_cons_of_mem _ (List.mem_singleton.mpr rfl)
          · rintro history w preload ⟨rfl, hsame⟩ _
            exact ⟨rfl, hsame⟩
          · rintro history w exc ⟨rfl, hsame⟩ _
            exact ⟨hone [.unloading, .loading], Or.inl hsame⟩
        · intro preload
          refine Triple.ite (fun hsuccess => hpast ?_) fun _ => Triple.pure ?_
          · rintro history w ⟨rfl, -⟩
            exact ⟨Or.inr ⟨preload, by simp, hsuccess⟩, hone []⟩
          · rintro history w ⟨rfl, hsame⟩
            exact ⟨hone [.unloading, .loading], Or.inl hsame⟩

end order

end LifecycleEffect

open LifecycleEffect

/-- **What a switch does only after what.** From any record, with any disk cache and whatever the
collaborators answer or raise, within one call: the resident model is unloaded only after the cache answered
that the target is on disk or its preload succeeded; a load is called only of the target, and only with no
other model resident; the stages are reported in the order preloading, unloading, loading, each before its
work; and the record is given up only for weights that are on disk. -/
theorem switch_in_order {σ : Type} (lifecycle : ModelMemoryLifecycle σ) (collab : SwitchCollaborators)
    (w : LifecycleWorld σ) (target : String) :
    let run := LifecycleEffect.switchModel lifecycle collab target w
    (∀ before modelName after, run.events = before ++ .callUnload modelName :: after →
      WeightsOnDisk target before ∧ Reported .unloading before) ∧
    (∀ before modelName resident after, run.events = before ++ .callLoad modelName resident :: after →
      modelName = target ∧ (∀ other, resident = some other → other = target) ∧ Reported .loading before) ∧
    (∀ before modelName answer after, run.events = before ++ .preload modelName answer :: after →
      Reported .preloading before) ∧
    (run.events.filterMap reportedStage).Sublist [.preloading, .unloading, .loading] ∧
    (run.state.residency = w.residency ∨ WeightsOnDisk target run.events) := by
  intro run
  have hspec : Triple (InOrder target) (fun history v => history = [] ∧ v.residency = w.residency)
      (LifecycleEffect.switchModel lifecycle collab target)
      (fun _ => SwitchLeaves target w.residency) fun _ _ _ => False :=
    Triple.handle (switchStages_triple w.residency) fun _ => Triple.pure fun _ _ h => h
  obtain ⟨hallowed, hgives, hraises⟩ := hspec [] w ⟨rfl, rfl⟩
  have horder := allowed_iff.mp hallowed
  have hleaves : SwitchLeaves target w.residency run.events run.state := by
    cases hresult : run.result with
    | ok result => exact hgives result hresult
    | error exc => exact (hraises exc hresult).elim
  refine ⟨?_, ?_, ?_, hleaves.1, hleaves.2⟩
  · intro before modelName after hsplit
    exact horder before _ after hsplit
  · intro before modelName resident after hsplit
    exact horder before _ after hsplit
  · intro before modelName answer after hsplit
    exact horder before _ after hsplit

end Lmrs
