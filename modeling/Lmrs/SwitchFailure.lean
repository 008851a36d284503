import Lmrs.SwitchEffects

/-!
# The stage a failed switch names

Source: `lmrs/model_lifecycle.py`, `_switch_failure`, `switch_model`.

The handler of the stages serves every call in them, and names the loading stage whichever one raised.

* `judged_switchLoad`, `judged_switchUnload`, `judged_switchStages`: when the stages, from each of them on,
  name the one whose work failed.
* `failed_stage_iff`: the same of a call.
-/

namespace Lmrs

open Python Effects ModelMemoryLifecycle LifecycleEffect

/-- The stage whose work a step shows to have failed. A status that answers anything but `cached_on_disk` has
not failed: it is what the preload is for. -/
def LifecycleStep.failure : LifecycleStep → Option SwitchStage
  | .status _ (.error _) | .preload _ (.error _) => some .preloading
  | .preload _ (.ok answer) => if answer.success then none else some .preloading
  | .endUnload _ (.error _) => some .unloading
  | .endUnload _ (.ok answer) => if answer.success then none else some .unloading
  | .endLoad _ (.error _) => some .loading
  | .endLoad _ (.ok answer) => if answer.success then none else some .loading
  | .status _ (.ok _) | .probe _ _ | .recordVram _ _ | .report _ _ | .callUnload _ | .callLoad _ _ => none

/-- A run that reports a failed switch names the one stage whose work failed. -/
def NamesFailedStage {σ : Type} (run : Run (LifecycleWorld σ) LifecycleStep PyException SwitchResult) : Prop :=
  ∀ reason stage, run.result = .ok (.failed reason stage) →
    run.events.filterMap LifecycleStep.failure = [stage]

/-- Another model than the target is resident. -/
def Replaces (residency : Option ModelResidency) (target : String) : Prop :=
  ∃ resident, residency = some resident ∧ resident.modelName ≠ target

/-- The cache answers that the target is not on disk. -/
def NeedsPreload (collab : SwitchCollaborators) (target : String) : Prop :=
  ∃ status, collab.status target = .ok status ∧ status.status ≠ .cachedOnDisk

/-- The cache answers that the target is on disk, or brings it there. -/
def BringsToDisk (collab : SwitchCollaborators) (target : String) : Prop :=
  (∃ status, collab.status target = .ok status ∧ status.status = .cachedOnDisk) ∨
    NeedsPreload collab target ∧ ∃ preload, collab.preload target = .ok preload ∧ preload.success = true

/-- Nothing that a switch of this record calls beside the unload and the load raises. -/
structure Undisturbed {σ : Type} (lifecycle : ModelMemoryLifecycle σ) (collab : SwitchCollaborators)
    (residency : Option ModelResidency) (target : String) : Prop where
  status : ∃ answer, collab.status target = .ok answer
  preloading : NeedsPreload collab target →
    collab.progressCallback .preloading = .ok () ∧ ∃ answer, collab.preload target = .ok answer
  unloading : BringsToDisk collab target → Replaces residency target →
    collab.progressCallback .unloading = .ok ()
  loading : BringsToDisk collab target → (Replaces residency target → lifecycle.modelProbe = none) →
    collab.progressCallback .loading = .ok ()

namespace LifecycleEffect

variable {σ : Type} {lifecycle : ModelMemoryLifecycle σ} {collab : SwitchCollaborators}
  {w t : LifecycleWorld σ}

/-- Once the stages of `earlier` have failed, the run names the one stage that has: in its result, or as the
loading stage when it raises. -/
def Judged (earlier : List SwitchStage)
    (run : Run (LifecycleWorld σ) LifecycleStep PyException SwitchResult) : Prop :=
  (∀ reason stage, run.result = .ok (.failed reason stage) →
    earlier ++ run.events.filterMap LifecycleStep.failure = [stage]) ∧
  ∀ exc, run.result = .error exc → earlier ++ run.events.filterMap LifecycleStep.failure = [.loading]

section judged

variable {earlier : List SwitchStage} {α : Type} {m : LifecycleEffect σ α} {f : α → LifecycleEffect σ SwitchResult}
  {events : List LifecycleStep}

theorem judged_failed {reason : ReasonCode} {stage : SwitchStage} :
    Judged earlier ((pure (.failed reason stage) : LifecycleEffect σ SwitchResult) w) ↔ earlier = [stage] := by
  constructor
  · intro h
    simpa [pure, Effect.answer] using h.1 reason stage rfl
  · rintro rfl
    refine ⟨fun reason stage heq => ?_, fun exc heq => ?_⟩
    · cases heq
      rfl
    · cases heq

theorem judged_loaded {load : LifecycleCommandResult} :
    Judged earlier ((pure (.loadedInMemory load) : LifecycleEffect σ SwitchResult) w) :=
  ⟨fun _ _ heq => (nomatch heq), fun _ heq => nomatch heq⟩

/-- After a part that answers, the failures it logged are earlier ones. -/
theorem judged_bind_ok {a : α} (h : m w = ⟨.ok a, t, events⟩) :
    Judged earlier ((m >>= f) w) ↔ Judged (earlier ++ events.filterMap LifecycleStep.failure) (f a t) := by
  rw [Effect.bind_ok h]
  unfold Judged
  simp only [List.filterMap_append, List.append_assoc]

theorem judged_bind_error {exc : PyException} (h : m w = ⟨.error exc, t, events⟩) :
    Judged earlier ((m >>= f) w) ↔ earlier ++ events.filterMap LifecycleStep.failure = [.loading] := by
  rw [Effect.bind_error h]
  constructor
  · exact fun hjudged => hjudged.2 exc rfl
  · exact fun hnamed => ⟨fun _ _ heq => (nomatch heq), fun _ _ => hnamed⟩

/-- A callback that raises is a failure of no stage's work. -/
theorem judged_report {stage : SwitchStage} {f : Unit → LifecycleEffect σ SwitchResult} :
    Judged [] ((report collab stage >>= f) w) ↔
      collab.progressCallback stage = .ok () ∧ Judged [] (f () w) := by
  have hrun : report collab stage w =
      ⟨collab.progressCallback stage, w, [.report stage (collab.progressCallback stage)]⟩ := rfl
  have hclean : [LifecycleStep.report stage (collab.progressCallback stage)].filterMap
      LifecycleStep.failure = [] := rfl
  cases hreport : collab.progressCallback stage with
  | error exc =>
      rw [hreport] at hrun hclean
      rw [judged_bind_error hrun, hclean]
      simp
  | ok u =>
      rw [hreport] at hrun hclean
      rw [judged_bind_ok hrun, hclean]
      exact (and_iff_right rfl).symm

/-- A step logged that shows no failure. -/
theorem judged_log {event : LifecycleWorld σ → LifecycleStep} {f : Unit → LifecycleEffect σ SwitchResult}
    (h : (event w).failure = none) :
    Judged earlier ((Effect.log event >>= f) w) ↔ Judged earlier (f () w) := by
  have hrun : (Effect.log event : LifecycleEffect σ Unit) w = ⟨.ok (), w, [event w]⟩ := rfl
  rw [judged_bind_ok hrun, List.filterMap_cons_none h, List.filterMap_nil, List.append_nil]

/-- What a switch reports is what its stages name. -/
theorem namesFailedStage_iff {target : String} :
    NamesFailedStage (switchModel lifecycle collab target w) ↔
      Judged [] (switchStages lifecycle collab target w) := by
  unfold switchModel Effect.handle NamesFailedStage Judged
  cases hresult : (switchStages lifecycle collab target w).result with
  | ok result =>
      dsimp only
      rw [hresult]
      constructor
      · exact fun h => ⟨h, fun _ heq => nomatch heq⟩
      · exact fun h => h.1
  | error exc =>
      constructor
      · intro h
        refine ⟨fun _ _ heq => (nomatch heq), fun _ _ => ?_⟩
        simpa [switchFailure, pure, Effect.answer] using h _ _ rfl
      · rintro ⟨-, h⟩ reason stage heq
        cases heq
        simpa [switchFailure, pure, Effect.answer] using h exc rfl

/-- The loading stage names its failure unless the callback raises. -/
theorem judged_switchLoad {target : String} :
    Judged [] (switchLoad lifecycle collab target w) ↔ collab.progressCallback .loading = .ok () := by
  have hcalls : (loadModel lifecycle target true w).events.filterMap LifecycleStep.failure = [] := by
    obtain ⟨steps, heq, hsteps⟩ := loadModel_calls lifecycle target true w
    rw [heq]
    apply List.filterMap_eq_nil_iff.mpr
    intro step hstep
    have hload := hsteps step hstep
    cases step with
    | status => cases hload
    | probe | recordVram => rfl
    | preload | report | callUnload | endUnload | callLoad | endLoad => exact hload.elim
  unfold switchLoad
  rw [judged_report, judged_log rfl]
  refine and_iff_left ?_
  cases hresult : (loadModel lifecycle target true w).result with
  | error exc =>
      rw [judged_bind_error (Effect.observe_of_result hresult), List.filterMap_append, hcalls]
      rfl
  | ok load =>
      rw [judged_bind_ok (Effect.observe_of_result hresult), List.filterMap_append, hcalls]
      unfold settleLoad
      by_cases hsuccess : load.success = true
      · rw [if_pos hsuccess]
        exact judged_loaded
      · rw [if_neg hsuccess, judged_failed]
        simp [LifecycleStep.failure, hsuccess]

variable (lifecycle) in
/-- The unload of the resident model calls nothing, and succeeds when no probe is configured. -/
theorem run_unloadModel {resident : ModelResidency} (hresident : w.residency = some resident) :
    ∃ unload, (unloadModel lifecycle resident.modelName w).result = .ok unload ∧
      (unloadModel lifecycle resident.modelName w).events = [] ∧
      (unload.success = true ↔ lifecycle.modelProbe = none) := by
  obtain ⟨-, hgives, -⟩ : Leaves (fun _ _ => True) _ _ _ _ :=
    unloadModel_triple lifecycle resident.modelName [] w ⟨rfl, rfl⟩
  have hends := congrArg Prod.fst (ends_unloadModel lifecycle w resident.modelName)
  refine ⟨_, hends, (hgives _ hends).1, ?_⟩
  rw [hresident]
  cases hprobe : lifecycle.modelProbe <;> simp [ModelMemoryLifecycle.unloadModel, hprobe]

/-- The unloading stage and what follows name their failure unless a callback they reach raises. -/
theorem judged_switchUnload {target : String} :
    Judged [] (switchUnload lifecycle collab target w.residency w) ↔
      (Replaces w.residency target → collab.progressCallback .unloading = .ok ()) ∧
        ((Replaces w.residency target → lifecycle.modelProbe = none) →
          collab.progressCallback .loading = .ok ()) := by
  by_cases hreplaces : Replaces w.residency target
  · obtain ⟨resident, hresident, hname⟩ := id hreplaces
    obtain ⟨unload, hresult, hevents, hsuccess⟩ := run_unloadModel lifecycle hresident
    rw [hresident] at hreplaces ⊢
    simp only [switchUnload, if_neg hname]
    rw [judged_report, judged_log rfl, judged_bind_ok (Effect.observe_of_result hresult), hevents]
    simp only [hreplaces, true_implies, and_congr_right_iff]
    intro _
    unfold settleUnload
    by_cases hdone : unload.success = true
    · rw [if_pos hdone, ← hsuccess]
      have hclean : [LifecycleStep.endUnload resident.modelName (.ok unload)].filterMap
          LifecycleStep.failure = [] := List.filterMap_cons_none (if_pos hdone)
      rw [List.nil_append, List.nil_append, hclean, judged_switchLoad]
      exact ⟨fun h _ => h, fun h => h hdone⟩
    · rw [if_neg hdone, judged_failed, ← hsuccess]
      simp [LifecycleStep.failure, hdone]
  · have hload : switchUnload lifecycle collab target w.residency = switchLoad lifecycle collab target := by
      cases hresidency : w.residency with
      | none => rfl
      | some resident =>
          refine if_pos (not_not.mp fun hname => hreplaces ⟨resident, hresidency, hname⟩)
    rw [hload, judged_switchLoad]
    simp [hreplaces]

theorem judged_switchResident {target : String} :
    Judged [] (switchResident lifecycle collab target w) ↔
      (Replaces w.residency target → collab.progressCallback .unloading = .ok ()) ∧
        ((Replaces w.residency target → lifecycle.modelProbe = none) →
          collab.progressCallback .loading = .ok ()) := by
  have hread : (Effect.read LifecycleWorld.residency : LifecycleEffect σ _) w = ⟨.ok w.residency, w, []⟩ := rfl
  unfold switchResident
  rw [judged_bind_ok hread]
  exact judged_switchUnload

/-- A cache that answers with this status brings the target to disk, or not, by it or by the preload. -/
theorem bringsToDisk_iff {target : String} {status : CacheCommandResult}
    (hstatus : collab.status target = .ok status) :
    BringsToDisk collab target ↔ status.status = .cachedOnDisk ∨
      (status.status ≠ .cachedOnDisk ∧
        ∃ preload, collab.preload target = .ok preload ∧ preload.success = true) := by
  simp [BringsToDisk, NeedsPreload, hstatus]

/-- The preloading stage and what follows name their failure unless a call they reach raises. -/
theorem judged_switchPreload {target : String} {status : CacheCommandResult}
    (hstatus : collab.status target = .ok status) (hcached : status.status ≠ .cachedOnDisk) :
    Judged [] (switchPreload lifecycle collab target status w) ↔
      Undisturbed lifecycle collab w.residency target := by
  have hneeds : NeedsPreload collab target := ⟨status, hstatus, hcached⟩
  have hask : (Effect.ask (collab.preload target) (LifecycleStep.preload target) :
      LifecycleEffect σ _) w = ⟨collab.preload target, w, [.preload target (collab.preload target)]⟩ := rfl
  unfold switchPreload
  rw [if_neg hcached]
  refine judged_report.trans ?_
  cases hpreload : collab.preload target with
  | error exc =>
      rw [hpreload] at hask
      rw [judged_bind_error hask]
      constructor
      · rintro ⟨-, h⟩
        cases h
      · intro h
        obtain ⟨-, answer, hanswer⟩ := h.preloading hneeds
        rw [hpreload] at hanswer
        cases hanswer
  | ok preload =>
      have hbrings : BringsToDisk collab target ↔ preload.success = true := by
        simp [bringsToDisk_iff hstatus, hcached, hpreload]
      rw [hpreload] at hask
      rw [judged_bind_ok hask]
      unfold settlePreload
      by_cases hsuccess : preload.success = true
      · have hclean : [LifecycleStep.preload target (.ok preload)].filterMap LifecycleStep.failure = [] :=
          List.filterMap_cons_none (if_pos hsuccess)
        rw [if_pos hsuccess, hclean]
        refine (and_congr_right fun _ => judged_switchResident).trans ?_
        constructor
        · rintro ⟨hreport, hunloading, hloading⟩
          exact ⟨⟨status, hstatus⟩, fun _ => ⟨hreport, preload, hpreload⟩, fun _ => hunloading,
            fun _ => hloading⟩
        · intro h
          exact ⟨(h.preloading hneeds).1, h.unloading (hbrings.mpr hsuccess), h.loading (hbrings.mpr hsuccess)⟩
      · have hkept : ¬ BringsToDisk collab target := fun hbring => hsuccess (hbrings.mp hbring)
        rw [if_neg hsuccess, judged_failed]
        constructor
        · rintro ⟨hreport, -⟩
          exact ⟨⟨status, hstatus⟩, fun _ => ⟨hreport, preload, hpreload⟩, fun hbring => absurd hbring hkept,
            fun hbring => absurd hbring hkept⟩
        · intro h
          exact ⟨(h.preloading hneeds).1, by simp [LifecycleStep.failure, hsuccess]⟩

/-- **The stages name their failure** unless a call they reach, beside the unload and the load, raises. -/
theorem judged_switchStages {target : String} :
    Judged [] (switchStages lifecycle collab target w) ↔ Undisturbed lifecycle collab w.residency target := by
  have hask : (Effect.ask (collab.status target) (LifecycleStep.status target) : LifecycleEffect σ _) w =
      ⟨collab.status target, w, [.status target (collab.status target)]⟩ := rfl
  unfold switchStages
  cases hstatus : collab.status target with
  | error exc =>
      rw [hstatus] at hask
      rw [judged_bind_error hask]
      constructor
      · intro h
        cases h
      · rintro ⟨⟨answer, hanswer⟩, -, -, -⟩
        rw [hstatus] at hanswer
        cases hanswer
  | ok status =>
      rw [hstatus] at hask
      rw [judged_bind_ok hask]
      by_cases hcached : status.status = .cachedOnDisk
      · have hbrings : BringsToDisk collab target := Or.inl ⟨status, hstatus, hcached⟩
        unfold switchPreload
        rw [if_pos hcached]
        refine judged_switchResident.trans ?_
        constructor
        · rintro ⟨hunloading, hloading⟩
          refine ⟨⟨status, hstatus⟩, ?_, fun _ => hunloading, fun _ => hloading⟩
          rintro ⟨answer, hanswer, hother⟩
          rw [hstatus] at hanswer
          cases hanswer
          exact absurd hcached hother
        · intro h
          exact ⟨h.unloading hbrings, h.loading hbrings⟩
      · exact judged_switchPreload hstatus hcached

end judged

end LifecycleEffect

/-- **When a failed switch names the stage whose work failed.** For every record, disk cache, lifecycle and
progress callback: if the switch reports `failed`, the stage it names is the one whose work failed, exactly
when no call of the status, the preload or the callback that the switch reaches raises. -/
theorem failed_stage_iff {σ : Type} (lifecycle : ModelMemoryLifecycle σ) (collab : SwitchCollaborators)
    (w : LifecycleWorld σ) (target : String) :
    NamesFailedStage (LifecycleEffect.switchModel lifecycle collab target w) ↔
      Undisturbed lifecycle collab w.residency target :=
  namesFailedStage_iff.trans judged_switchStages

/-- A preload that raises is reported as a failure of the loading stage. -/
theorem raising_preload_named_loading :
    let collab : SwitchCollaborators :=
      { status := fun modelName =>
          .ok { command := "status", modelName, status := .notCached, success := false }
        preload := fun _ => .error ⟨"ConnectionError", "hub unreachable"⟩ }
    let lifecycle : ModelMemoryLifecycle Unit := { now := "" }
    let run := LifecycleEffect.switchModel lifecycle collab "big" ⟨none, ()⟩
    run.result = .ok (.failed (.other "ConnectionError") .loading) ∧
      run.events.filterMap LifecycleStep.failure = [.preloading] ∧ ¬ NamesFailedStage run := by
  refine ⟨rfl, rfl, fun hnames => ?_⟩
  cases hnames _ _ rfl

end Lmrs
