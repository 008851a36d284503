import Lmrs.LifecycleEffects

/-!
# The one resident model

Source: `lmrs/model_lifecycle.py`, `ModelMemoryLifecycle`.

* `perform_eq_run`: the calls of a run leave the record that the commands, run statement by statement, leave.
* `failure_keeps_residency`: a command that fails leaves the record exactly as it was.
* `resident_held_iff`, `reload_verified_iff`: when a run puts no model over a resident one, and when a reload
  succeeds only with what it loads served.
-/

namespace Lmrs

open Python Transition Effects

/-! ## Commands and runs of calls -/

/-- A command on the record. -/
inductive LifecycleCommand where
  | load (modelName : String) (allowPreload : Bool)
  | unload (modelName : String)
  | reload (modelName : String)

namespace LifecycleCommand

variable {σ : Type}

/-- What a command runs. -/
def program (lifecycle : ModelMemoryLifecycle σ) :
    LifecycleCommand → LifecycleEffect σ LifecycleCommandResult
  | .load modelName allowPreload => LifecycleEffect.loadModel lifecycle modelName allowPreload
  | .unload modelName => LifecycleEffect.unloadModel lifecycle modelName
  | .reload modelName => LifecycleEffect.reloadModel lifecycle modelName

/-- The model a command may load, and whether it does so with `allow_preload`. -/
def loading : LifecycleCommand → Option (String × Bool)
  | .load modelName allowPreload => some (modelName, allowPreload)
  | .reload modelName => some (modelName, true)
  | .unload _ => none

end LifecycleCommand

/-- The command of a call, if it is one. -/
def LifecycleCall.command : LifecycleCall → Option LifecycleCommand
  | .load modelName allowPreload => some (.load modelName allowPreload)
  | .unload modelName => some (.unload modelName)
  | .reload modelName => some (.reload modelName)
  | .status _ | .switch _ _ => none

namespace LifecycleEvent

variable {σ : Type}

/-- The run of a command, from the record it finds and with the answers of the event. -/
def run (residency : Option ModelResidency) (e : LifecycleEvent σ) (command : LifecycleCommand) :
    Run (LifecycleWorld σ) LifecycleStep PyException LifecycleCommandResult :=
  command.program e.lifecycle ⟨residency, e.recorder⟩

/-- **The runs of calls are runs of the commands**: a call leaves the record that its command leaves. -/
theorem perform_eq_run (residency : Option ModelResidency) (e : LifecycleEvent σ) {command : LifecycleCommand}
    (hcall : e.call.command = some command) :
    e.perform residency = (e.run residency command).state.residency := by
  unfold perform
  cases he : e.call with
  | load modelName allowPreload =>
      rw [he] at hcall
      cases hcall
      have hends := LifecycleEffect.ends_loadModel e.lifecycle ⟨residency, e.recorder⟩ modelName
        allowPreload
      refine Eq.trans ?_ (congrArg (fun ends => ends.2.residency) hends).symm
      dsimp only
      cases e.lifecycle.loadModel residency e.recorder modelName allowPreload <;> rfl
  | unload modelName =>
      rw [he] at hcall
      cases hcall
      have hends := LifecycleEffect.ends_unloadModel e.lifecycle ⟨residency, e.recorder⟩ modelName
      exact (congrArg (fun ends => ends.2.residency) hends).symm
  | reload modelName =>
      rw [he] at hcall
      cases hcall
      have hends := LifecycleEffect.ends_reloadModel e.lifecycle ⟨residency, e.recorder⟩ modelName
      refine Eq.trans ?_ (congrArg (fun ends => ends.2.residency) hends).symm
      dsimp only
      cases e.lifecycle.reloadModel residency e.recorder modelName <;> rfl
  | status modelName =>
      rw [he] at hcall
      cases hcall
  | switch target collab =>
      rw [he] at hcall
      cases hcall

end LifecycleEvent

/-! ## Failures -/

/-- **A command that fails leaves the record exactly as it was**: whatever the record is and whatever the
probe, the disk cache and the recorder do, a load, an unload or a reload that reports no success or raises. -/
theorem failure_keeps_residency {σ : Type} (lifecycle : ModelMemoryLifecycle σ) (w : LifecycleWorld σ)
    (command : LifecycleCommand)
    (hfailed : (∃ exc, (command.program lifecycle w).result = .error exc) ∨
      ∃ result, (command.program lifecycle w).result = .ok result ∧ result.success = false) :
    (command.program lifecycle w).state.residency = w.residency := by
  have hspec : Leaves (fun _ _ => True) [] (command.program lifecycle w)
      (fun result _ v => result.success = false → v.residency = w.residency)
      fun _ _ v => v.residency = w.residency := by
    cases command with
    | load modelName allowPreload =>
        obtain ⟨hallowed, hgives, hraises⟩ := LifecycleEffect.loadModel_triple lifecycle modelName
          allowPreload (fun _ _ _ => trivial) [] w (.start [] w)
        exact ⟨hallowed, fun result h => (hgives result h).failed, fun exc h => (hraises exc h).2⟩
    | unload modelName =>
        obtain ⟨hallowed, hgives, hraises⟩ := LifecycleEffect.unloadModel_triple lifecycle modelName [] w
          ⟨rfl, rfl⟩
        exact ⟨hallowed, fun result h => (hgives result h).2.1, fun exc h => (hraises exc h).elim⟩
    | reload modelName =>
        obtain ⟨hallowed, hgives, hraises⟩ := LifecycleEffect.reloadModel_triple lifecycle modelName
          (fun _ _ _ => trivial) [] w (.start [] w)
        exact ⟨hallowed, fun result h => (hgives result h).1, fun exc h => (hraises exc h).2⟩
  rcases hfailed with ⟨exc, hraised⟩ | ⟨result, hanswered, hno⟩
  · exact hspec.raises exc hraised
  · exact hspec.gives result hanswered hno

/-- A load whose measurement raises leaves the record as it was, which a load with `allow_preload` would
have replaced. -/
theorem failure_keeps_residency_unmeasured :
    let lifecycle : ModelMemoryLifecycle Unit :=
      { now := "", vramRecorder := some fun _ _ => .error ⟨"OSError", "no device"⟩ }
    let w : LifecycleWorld Unit :=
      ⟨some { modelName := "small", runtimeBackend := .vllm, state := .loaded }, ()⟩
    ((LifecycleCommand.load "big" true).program lifecycle w).state.residency = w.residency :=
  failure_keeps_residency _ _ (.load "big" true) (Or.inl ⟨_, rfl⟩)

/-! ## A load over a resident model -/

section challenges

variable {σ : Type}

/-- A load or a reload of another model than the resident one: the command, the resident model's record, and
whether it has `allow_preload`. -/
def Challenges (residency : Option ModelResidency) (e : LifecycleEvent σ) (command : LifecycleCommand)
    (allowPreload : Bool) : Prop :=
  e.call.command = some command ∧ ∃ resident modelName, residency = some resident ∧
    command.loading = some (modelName, allowPreload) ∧ modelName ≠ resident.modelName

/-- The resident model stays, and the call reports that one is loaded already. -/
def HoldsResident (residency : Option ModelResidency) (e : LifecycleEvent σ) : Prop :=
  ∀ command allowPreload, Challenges residency e command allowPreload →
    e.perform residency = residency ∧
      ∃ result, (e.run residency command).result = .ok result ∧ result.reasonCode = some .modelAlreadyLoaded

/-- A call that names another model than the resident one to load is made without `allow_preload`. -/
def WaivesNothing (residency : Option ModelResidency) (e : LifecycleEvent σ) : Prop :=
  ∀ command allowPreload, Challenges residency e command allowPreload → allowPreload = false

/-- Without `allow_preload` the resident model stays. -/
theorem holds_of_refused {residency : Option ModelResidency} {e : LifecycleEvent σ} {command : LifecycleCommand}
    (h : Challenges residency e command false) :
    e.perform residency = residency ∧
      ∃ result, (e.run residency command).result = .ok result ∧
        result.reasonCode = some .modelAlreadyLoaded := by
  obtain ⟨hcall, resident, modelName, rfl, hloading, hother⟩ := h
  cases command with
  | load name allowPreload =>
      obtain ⟨rfl, rfl⟩ : name = modelName ∧ allowPreload = false := by
        simpa [LifecycleCommand.loading] using hloading
      have hrun : e.run (some resident) (.load name false) =
          ⟨.ok { command := "load_model", modelName := name, state := resident.state, success := false
                 reasonCode := some .modelAlreadyLoaded
                 metadata := [("resident_model", .str resident.modelName)] },
            ⟨some resident, e.recorder⟩, []⟩ := by
        show (LifecycleEffect.loadOver e.lifecycle name false (some resident)) ⟨some resident, e.recorder⟩ = _
        simp only [LifecycleEffect.loadOver, if_neg (Ne.symm hother), if_true]
        rfl
      rw [e.perform_eq_run _ hcall, hrun]
      exact ⟨rfl, _, rfl, rfl⟩
  | unload name => cases hloading
  | reload name => simp [LifecycleCommand.loading] at hloading

/-- With `allow_preload` no call reports that a model is loaded already. -/
theorem not_reported_of_waived {residency : Option ModelResidency} {e : LifecycleEvent σ}
    {command : LifecycleCommand} (h : Challenges residency e command true) {result : LifecycleCommandResult}
    (hresult : (e.run residency command).result = .ok result) :
    result.reasonCode ≠ some .modelAlreadyLoaded := by
  obtain ⟨-, resident, modelName, rfl, hloading, hother⟩ := h
  have hdiffers : (some resident).map ModelResidency.modelName ≠ some modelName := by
    simpa using Ne.symm hother
  cases command with
  | load name allowPreload =>
      obtain ⟨rfl, rfl⟩ : name = modelName ∧ allowPreload = true := by
        simpa [LifecycleCommand.loading] using hloading
      have hload := LifecycleEffect.loadModel_triple e.lifecycle name true (fun _ _ _ => trivial) []
        ⟨some resident, e.recorder⟩ (.start [] _)
      exact (hload.gives result hresult).waived rfl hdiffers
  | unload name => cases hloading
  | reload name =>
      obtain rfl : name = modelName := by simpa [LifecycleCommand.loading] using hloading
      have hreload := LifecycleEffect.reloadModel_triple e.lifecycle name (fun _ _ _ => trivial) []
        ⟨some resident, e.recorder⟩ (.start [] _)
      exact ((hreload.gives result hresult).2 hdiffers).waived rfl hdiffers

/-- **When a load leaves the resident model.** A run of calls, with whatever answers of the collaborators:
every load or reload that names another model than the one resident then leaves that one resident and reports
`MODEL_ALREADY_LOADED`, exactly when none of them has `allow_preload`, which a reload always has. -/
theorem resident_held_iff (residency : Option ModelResidency) (history : List (LifecycleEvent σ)) :
    Meets LifecycleEvent.perform HoldsResident residency history ↔
      Meets LifecycleEvent.perform WaivesNothing residency history := by
  apply Meets.congr
  intro residency e _
  constructor
  · intro hholds command allowPreload hchallenges
    cases allowPreload with
    | false => rfl
    | true =>
        obtain ⟨-, result, hresult, hreason⟩ := hholds command true hchallenges
        exact absurd hreason (not_reported_of_waived hchallenges hresult)
  · intro hwaives command allowPreload hchallenges
    obtain rfl := hwaives command allowPreload hchallenges
    exact holds_of_refused hchallenges

end challenges

/-- A load of the small model with no collaborator configured. -/
def loadSmallEvent : LifecycleEvent Unit :=
  { call := .load "small" false, lifecycle := { now := "" }, recorder := () }

/-- A load of another model with `allow_preload`, after the small one was loaded: it becomes the resident one
with no unload before. -/
theorem waived_load_replaces :
    let waived : LifecycleEvent Unit := { loadSmallEvent with call := .load "big" true }
    ¬ Meets LifecycleEvent.perform HoldsResident none [loadSmallEvent, waived] ∧
      (runAll LifecycleEvent.perform none [loadSmallEvent, waived]).map ModelResidency.modelName =
        some "big" := by
  intro waived
  refine ⟨fun hmeets => ?_, rfl⟩
  have hchallenges : Challenges (runAll LifecycleEvent.perform none [loadSmallEvent]) waived
      (.load "big" true) true := ⟨rfl, _, "big", rfl, rfl, by decide⟩
  obtain ⟨hsame, -⟩ := hmeets.2.1 _ _ hchallenges
  have hname : some "big" = some "small" := congrArg (Option.map ModelResidency.modelName) hsame
  exact absurd hname (by decide)

/-! ## What a reload vouches for -/

section reloads

variable {σ : Type}

/-- A reload that reports the model loaded asked the probe in this call and was told that it is served. -/
def ReloadVerified (residency : Option ModelResidency) (e : LifecycleEvent σ) : Prop :=
  ∀ modelName result, e.call = .reload modelName →
    (e.run residency (.reload modelName)).result = .ok result → result.success = true →
    result.state = .loaded →
    ∃ answer, LifecycleStep.probe modelName (.ok answer) ∈ (e.run residency (.reload modelName)).events ∧
      answer.ok = true

/-- A reload names another model than the resident one. -/
def ReloadsAnother (residency : Option ModelResidency) (e : LifecycleEvent σ) : Prop :=
  ∀ modelName, e.call = .reload modelName → residency.map ModelResidency.modelName ≠ some modelName

/-- A reload of the resident model reports it loaded and calls nothing. -/
theorem run_reload_resident {resident : ModelResidency} {e : LifecycleEvent σ} {modelName : String}
    (hname : resident.modelName = modelName) :
    ∃ result, (e.run (some resident) (.reload modelName)).result = .ok result ∧ result.success = true ∧
      result.state = .loaded ∧ (e.run (some resident) (.reload modelName)).events = [] := by
  have hrun : e.run (some resident) (.reload modelName) =
      LifecycleEffect.recordReloaded modelName resident ⟨some resident, e.recorder⟩ := by
    show LifecycleEffect.reloadOver e.lifecycle modelName (some resident) ⟨some resident, e.recorder⟩ = _
    rw [LifecycleEffect.reloadOver, if_neg (not_not.mpr hname)]
  rw [hrun]
  exact ⟨_, rfl, rfl, rfl, rfl⟩

/-- A reload of another model asks the probe. -/
theorem reload_verified_of_another {residency : Option ModelResidency} {e : LifecycleEvent σ}
    (hprobe : e.lifecycle.modelProbe.isSome = true) (h : ReloadsAnother residency e) :
    ReloadVerified residency e := by
  intro modelName result hcall hresult hsuccess _
  have hother := h modelName hcall
  have hreload := LifecycleEffect.reloadModel_triple e.lifecycle modelName (fun _ _ _ => trivial) []
    ⟨residency, e.recorder⟩ (.start [] _)
  exact ((hreload.gives result hresult).2 hother).probed hsuccess hother hprobe

/-- **When a reload is verified.** A run of calls on lifecycles with a probe configured, with whatever answers
of the probe: every reload that reports its model loaded was told so by the probe in that call, exactly when no
reload names the model resident then. -/
theorem reload_verified_iff (residency : Option ModelResidency) (history : List (LifecycleEvent σ))
    (hprobe : ∀ e ∈ history, e.lifecycle.modelProbe.isSome = true) :
    Meets LifecycleEvent.perform ReloadVerified residency history ↔
      Meets LifecycleEvent.perform ReloadsAnother residency history := by
  apply Meets.congr
  intro residency e he
  constructor
  · intro hverified modelName hcall hresident
    obtain ⟨resident, rfl, hname⟩ := Option.map_eq_some_iff.mp hresident
    obtain ⟨result, hresult, hsuccess, hstate, hevents⟩ := run_reload_resident (e := e) hname
    obtain ⟨answer, hmem, -⟩ := hverified modelName result hcall hresult hsuccess hstate
    rw [hevents] at hmem
    cases hmem
  · exact reload_verified_of_another (hprobe e he)

end reloads

/-- A lifecycle whose probe gives this answer. -/
def probedLifecycle (served : Bool) : ModelMemoryLifecycle Unit :=
  { now := "", modelProbe := some fun _ => .ok { ok := served } }

/-- A load of the small model, which the runtime serves. -/
def loadServed : LifecycleEvent Unit :=
  { call := .load "small" false, lifecycle := probedLifecycle true, recorder := () }

/-- A load of the small model and a reload of another one, which the runtime serves then: the reload is verified,
and its model is resident. -/
theorem reload_verified_small :
    let another : LifecycleEvent Unit :=
      { call := .reload "big", lifecycle := probedLifecycle true, recorder := () }
    (runAll LifecycleEvent.perform none [loadServed, another]).map ModelResidency.modelName = some "big" ∧
      Meets LifecycleEvent.perform ReloadVerified none [loadServed, another] := by
  intro another
  refine ⟨rfl, (reload_verified_iff none [loadServed, another] ?_).mpr ⟨nofun, ?_, trivial⟩⟩
  · intro e he
    rcases List.mem_cons.mp he with rfl | hlast
    · rfl
    · obtain rfl := List.mem_singleton.mp hlast
      rfl
  · intro modelName hcall hresident
    cases hcall
    exact absurd hresident (by decide)

/-- After a load of a served model the runtime starts anew and serves it no more: the reload reports the model
loaded, and has not asked. -/
theorem reload_of_unserved_model :
    let again : LifecycleEvent Unit :=
      { call := .reload "small", lifecycle := probedLifecycle false, recorder := () }
    ¬ Meets LifecycleEvent.perform ReloadVerified none [loadServed, again] := by
  intro again hmeets
  obtain ⟨answer, hmem, -⟩ := hmeets.2.1 "small" _ rfl rfl rfl rfl
  cases hmem

end Lmrs
