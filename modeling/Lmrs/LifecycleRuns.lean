import Lmrs.Lib.Transition
import Lmrs.ModelSwitch

/-!
# The residency record over runs of lifecycle commands

Source: `lmrs/model_lifecycle.py`.

A `LifecycleEvent` is one call on the owner of the residency with the answers its collaborators give
during that call; `LifecycleEvent.perform` is what it does to the record. A call that raises leaves the
record as it was.

* `perform_cases`: a call leaves no record, a record its load vouches for, or the record it found with
  the same figures.
* `residency_from_load`: every record comes from a load that vouches for it, and its figures are the
  ones of that load ever after.
* `switch_ends_consistently`: how a switch leaves the record, from every state a run reaches.
-/

namespace Lmrs

open Python Transition

/-- A call on the owner of the residency. -/
inductive LifecycleCall where
  | load (modelName : String) (allowPreload : Bool)
  | unload (modelName : String)
  | reload (modelName : String)
  | status (modelName : String)
  | switch (target : String) (collab : ModelMemoryLifecycle.SwitchCollaborators)

/-- The model a call may load, and whether it does so with `allow_preload`. -/
def LifecycleCall.loading : LifecycleCall → Option (String × Bool)
  | .load modelName allowPreload => some (modelName, allowPreload)
  | .reload modelName => some (modelName, true)
  | .switch target _ => some (target, true)
  | .unload _ | .status _ => none

/-- A call with the answers of the collaborators during it. -/
structure LifecycleEvent (σ : Type) where
  call : LifecycleCall
  lifecycle : ModelMemoryLifecycle σ
  recorder : σ

/-- The record names the same model with the same figures. -/
structure ModelResidency.SameFigures (record previous : ModelResidency) : Prop where
  name : record.modelName = previous.modelName
  static : record.measuredModelStaticVramBytes = previous.measuredModelStaticVramBytes
  free : record.modelLoadedFreeVramBytes = previous.modelLoadedFreeVramBytes

/-- A record has the figures of itself. -/
theorem ModelResidency.SameFigures.refl (record : ModelResidency) : record.SameFigures record :=
  ⟨rfl, rfl, rfl⟩

/-- Same figures twice over. -/
theorem ModelResidency.SameFigures.trans {a b c : ModelResidency} (hab : a.SameFigures b)
    (hbc : b.SameFigures c) : a.SameFigures c :=
  ⟨hab.name.trans hbc.name, hab.static.trans hbc.static, hab.free.trans hbc.free⟩

namespace LifecycleEvent

variable {σ : Type}

/-- The record after a call. -/
def perform (residency : Option ModelResidency) (e : LifecycleEvent σ) : Option ModelResidency :=
  match e.call with
  | .load modelName allowPreload =>
      match e.lifecycle.loadModel residency e.recorder modelName allowPreload with
      | .error _ => residency
      | .ok out => out.residency
  | .unload modelName => (e.lifecycle.unloadModel residency modelName).2
  | .reload modelName =>
      match e.lifecycle.reloadModel residency e.recorder modelName with
      | .error _ => residency
      | .ok out => out.residency
  | .status _ => residency
  | .switch target collab => (e.lifecycle.switchModel collab residency e.recorder target).residency

/-- The call loads a model and vouches for the record. -/
def Creates (e : LifecycleEvent σ) (record : ModelResidency) : Prop :=
  ∃ modelName allowPreload, e.call.loading = some (modelName, allowPreload) ∧
    e.lifecycle.Loaded e.recorder modelName allowPreload record

/-- How a call leaves the record `before`. -/
inductive Leaves (e : LifecycleEvent σ) (before : Option ModelResidency) :
    Option ModelResidency → Prop
  /-- No model is resident. -/
  | empty : Leaves e before none
  /-- The record a load of this call vouches for. -/
  | created {record : ModelResidency} : e.Creates record → Leaves e before (some record)
  /-- The record it found, or a copy of it in the loaded state. -/
  | kept {record previous : ModelResidency} : before = some previous → record.SameFigures previous →
      (previous.state = .loaded → record.state = .loaded) → Leaves e before (some record)

/-- A call that leaves the record as it was. -/
theorem Leaves.same {e : LifecycleEvent σ} (before : Option ModelResidency) : e.Leaves before before := by
  cases before with
  | none => exact .empty
  | some previous => exact .kept rfl (.refl previous) id

/-- A load leaves no record, a record it vouches for, or the one it found. -/
theorem leaves_loadModel {e : LifecycleEvent σ} {modelName : String} {allowPreload : Bool}
    {residency : Option ModelResidency} {out : ModelMemoryLifecycle.Outcome σ}
    (hloading : e.call.loading = some (modelName, allowPreload))
    (h : e.lifecycle.loadModel residency e.recorder modelName allowPreload = .ok out) :
    e.Leaves residency out.residency := by
  rcases ModelMemoryLifecycle.loadModel_cases h with ⟨_, -, -, hsame, -⟩ | ⟨hsame, -⟩ |
    ⟨record, hrecord, hloaded, -⟩
  · rw [hsame]
    exact .same residency
  · rw [hsame]
    exact .same residency
  · rw [hrecord]
    exact .created ⟨modelName, allowPreload, hloading, hloaded⟩

/-- **What one call does to the record.** -/
theorem leaves_perform (residency : Option ModelResidency) (e : LifecycleEvent σ) :
    e.Leaves residency (e.perform residency) := by
  unfold perform
  cases hcall : e.call with
  | load modelName allowPreload =>
      dsimp only
      cases hload : e.lifecycle.loadModel residency e.recorder modelName allowPreload with
      | error exc => exact .same residency
      | ok out => exact leaves_loadModel (by rw [hcall]; rfl) hload
  | unload modelName =>
      dsimp only
      rcases ModelMemoryLifecycle.unloadModel_cases e.lifecycle residency modelName with
        ⟨-, hsame⟩ | ⟨-, hnone, -⟩
      · rw [hsame]
        exact .same residency
      · rw [hnone]
        exact .empty
  | reload modelName =>
      dsimp only
      cases hreload : e.lifecycle.reloadModel residency e.recorder modelName with
      | error exc => exact .same residency
      | ok out =>
          dsimp only
          cases residency with
          | none => exact leaves_loadModel (by rw [hcall]; rfl) hreload
          | some previous =>
              simp only [ModelMemoryLifecycle.reloadModel] at hreload
              split_ifs at hreload with hname
              · exact leaves_loadModel (by rw [hcall]; rfl) hreload
              · cases hreload
                exact .kept rfl ⟨(not_not.mp hname).symm, rfl, rfl⟩ fun _ => rfl
  | status modelName => exact .same residency
  | switch target collab =>
      dsimp only
      rcases e.lifecycle.switchModel_cases collab residency e.recorder target with
        ⟨-, hsame | ⟨hnone, -⟩⟩ | ⟨-, ⟨_, -, -, hsame⟩ | ⟨record, hrecord, hloaded⟩⟩
      · rw [hsame]
        exact .same residency
      · rw [hnone]
        exact .empty
      · rw [hsame]
        exact .same residency
      · rw [hrecord]
        exact .created ⟨target, true, by rw [hcall]; rfl, hloaded⟩

/-! ## Over a run -/

/-- The record two states of a run share. -/
def SameRecord (before after : Option ModelResidency) : Prop :=
  ∀ previous, before = some previous → ∃ record, after = some record ∧ record.SameFigures previous

/-- Every record of a run is in the loaded state. -/
theorem state_runAll (history : List (LifecycleEvent σ)) {record : ModelResidency}
    (h : runAll perform none history = some record) : record.state = .loaded := by
  have hinv : ∀ r, runAll perform none history = some r → r.state = .loaded := by
    apply runAll_invariant (J := fun s : Option ModelResidency => ∀ r, s = some r → r.state = .loaded)
    · intro r hr
      cases hr
    · intro s e hs r hr
      have hleaves := leaves_perform s e
      rw [hr] at hleaves
      cases hleaves with
      | created hcreated =>
          obtain ⟨_, _, -, hloaded⟩ := hcreated
          exact hloaded.state
      | kept hprevious _ hstate => exact hstate (hs _ hprevious)
  exact hinv record h

end LifecycleEvent

open LifecycleEvent

/-- **Every record comes from a load that vouches for it.** After any run of calls from an empty
record, with whatever answers of the collaborators: a record was created by a load of its model that
the probe and the cache allowed, with the figures the recorder returned then, and no call after that one
changed its model or its figures. -/
theorem residency_from_load {σ : Type} (history : List (LifecycleEvent σ)) {record : ModelResidency}
    (h : runAll perform none history = some record) :
    ∃ before e after created, history = before ++ e :: after ∧
      e.perform (runAll perform none before) = some created ∧ e.Creates created ∧
      record.SameFigures created ∧
      ∀ mid, mid <+: after → ∃ r, runAll perform none (before ++ e :: mid) = some r ∧
        r.SameFigures created := by
  obtain ⟨before, e, after, rfl, ⟨created, hcreated, hvouched⟩, hkept⟩ :=
    exists_origin (P := fun s : Option ModelResidency => ∃ r, s = some r) (R := SameRecord)
      (C := fun s e => ∃ created, e.perform s = some created ∧ e.Creates created)
      (fun ⟨r, hr⟩ => by cases hr) (fun s r hr => ⟨r, hr, .refl r⟩)
      (fun s t u hst htu r hr => by
        obtain ⟨r', hr', hsame⟩ := hst r hr
        obtain ⟨r'', hr'', hsame'⟩ := htu r' hr'
        exact ⟨r'', hr'', hsame'.trans hsame⟩)
      (fun s e => by
        rintro ⟨r, hr⟩
        have hleaves := leaves_perform s e
        rw [hr] at hleaves
        cases hleaves with
        | created hcreated => exact Or.inl ⟨r, hr, hcreated⟩
        | kept hprevious hsame _ =>
            refine Or.inr ⟨⟨_, hprevious⟩, ?_⟩
            intro previous hprevious'
            rw [hprevious] at hprevious'
            cases hprevious'
            exact ⟨r, hr, hsame⟩)
      ⟨record, h⟩
  have hall : ∀ mid, mid <+: after → ∃ r, runAll perform none (before ++ e :: mid) = some r ∧
      r.SameFigures created := by
    intro mid hmid
    obtain ⟨-, hsame⟩ := hkept mid hmid
    exact hsame created (by rw [runAll_concat]; exact hcreated)
  obtain ⟨r, hr, hsame⟩ := hall after (List.prefix_refl after)
  rw [h] at hr
  cases hr
  exact ⟨before, e, after, created, rfl, hcreated, hvouched, hsame, hall⟩

/-- A load of the small model, which the cache has and the runtime serves. The recorder measures 640 bytes of it and
360 free, and counts its measurements. -/
def loadMeasuredEvent : LifecycleEvent Nat where
  call := .load "small" false
  lifecycle :=
    { modelProbe := some fun _ => .ok { ok := true }
      diskCache := some fun modelName =>
        .ok { command := "model_cache_status", modelName, status := .cachedOnDisk, success := true }
      vramRecorder := some fun _ count => .ok
        ([("measured_model_static_vram_bytes", .int 640), ("model_loaded_free_vram_bytes", .int 360)], count + 1)
      now := "" }
  recorder := 0

/-- A load, a status and a reload of the small model: the record comes from the load, with the figures measured
then. -/
theorem residency_from_load_small :
    let status : LifecycleEvent Nat := { loadMeasuredEvent with call := .status "small" }
    let reload : LifecycleEvent Nat := { loadMeasuredEvent with call := .reload "small" }
    ∃ record, runAll perform none [loadMeasuredEvent, status, reload] = some record ∧
      (record.measuredModelStaticVramBytes, record.modelLoadedFreeVramBytes) = (some 640, some 360) ∧
      ∃ before e after created, [loadMeasuredEvent, status, reload] = before ++ e :: after ∧
        e.perform (runAll perform none before) = some created ∧ e.Creates created ∧
        record.SameFigures created ∧
        ∀ mid, mid <+: after → ∃ r, runAll perform none (before ++ e :: mid) = some r ∧
          r.SameFigures created := by
  intro status reload
  exact ⟨_, rfl, rfl, residency_from_load [loadMeasuredEvent, status, reload] rfl⟩

/-- **How a switch leaves the record**, from every state a run of calls reaches and whatever its
collaborators do, raising included. The call returns a result and its target is not flagged afterwards.
If it reports `loaded_in_memory`, the record names the target as loaded. If it reports `failed`, the
record is the one before or was unloaded, and names the target only if it did before. -/
theorem switch_ends_consistently {σ : Type} (history : List (LifecycleEvent σ))
    (lifecycle : ModelMemoryLifecycle σ) (collab : ModelMemoryLifecycle.SwitchCollaborators)
    (recorder : σ) (registry : List String) (target : String) :
    let before := runAll perform none history
    let run := ModelMemoryLifecycle.callSwitchModel registry (some lifecycle) (some collab) before
      recorder target
    ∃ result, run.result = .ok result ∧ target ∉ run.registry ∧
      (result.loaded = true → ∃ record, run.residency = some record ∧ record.modelName = target ∧
        record.state = .loaded) ∧
      (result.loaded = false → lifecycle.KeptOrUnloaded before target run.residency ∧
        ∀ record, run.residency = some record → record.modelName = target →
          ∃ previous, before = some previous ∧ previous.modelName = target) := by
  intro before run
  obtain ⟨hresult, hresidency, hflag⟩ := ModelMemoryLifecycle.callSwitchModel_supplied registry
    lifecycle collab before recorder target
  refine ⟨_, hresult, hflag, ?_, ?_⟩
  · intro hloaded
    rw [show run.residency = _ from hresidency]
    rcases lifecycle.switchModel_cases collab before recorder target with ⟨hfailed, -⟩ |
      ⟨-, ⟨resident, hresident, hname, hsame⟩ | ⟨record, hrecord, hvouched⟩⟩
    · simp [hfailed] at hloaded
    · exact ⟨resident, hsame.trans hresident, hname, state_runAll history hresident⟩
    · exact ⟨record, hrecord, hvouched.name, hvouched.state⟩
  · intro hfailed
    rw [show run.residency = _ from hresidency]
    rcases lifecycle.switchModel_cases collab before recorder target with ⟨-, hkept⟩ | ⟨hloaded, -⟩
    · refine ⟨hkept, ?_⟩
      intro record hrecord hname
      rcases hkept with hsame | ⟨hnone, -⟩
      · exact ⟨record, hsame.symm.trans hrecord, hname⟩
      · simp [hnone] at hrecord
    · simp [hloaded] at hfailed

end Lmrs
