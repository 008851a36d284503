import Lmrs.CacheOperations
import Lmrs.Commands
import Lmrs.Lib.Raising
import Lmrs.Lib.Text
import Lmrs.LmcacheStatus
import Lmrs.ModelLifecycle
import Lmrs.ScanLocality

/-!
# What a command reports when it fails

An exception is reported under the name of its class, a refusal under its reason code. Whatever the
domain raises has a name (`Named`), and whatever result of it reports a failure has a code (`Coded`).

* `namedScans`: the scans of the disk cache are in the class of readings that raise named exceptions.
* `HubCache.delete_ends`, `HubCache.preload_ends`, `HubCache.status_ends`: the cache commands.
-/

namespace Lmrs

open Python Json Posix Footprint Raising

/-- An exception has the name of its class. -/
def Named (exc : PyException) : Prop := exc.kind ≠ ""

/-- A failure has a code, and one that is not empty. -/
def Coded (success : Bool) (reasonCode : Option ReasonCode) : Prop :=
  success = false → ∃ code, reasonCode = some code ∧ code.text ≠ ""

/-- A success needs no code. -/
theorem Coded.of_success {success : Bool} {reasonCode : Option ReasonCode} (h : success = true) :
    Coded success reasonCode := by
  intro hfail
  rw [h] at hfail
  cases hfail

theorem Coded.some {success : Bool} {code : ReasonCode} (h : code.text ≠ "") :
    Coded success (some code) := fun _ => ⟨code, rfl, h⟩

/-- An exception of a class written out is named. -/
theorem Named.ofKind {kind message : String} (h : kind ≠ "") : Named ⟨kind, message⟩ := h

/-- What raises one class with a name raises named exceptions. -/
theorem named_of_onlyRaises {α : Type} {x : Except PyException α} {kind : String} (h : OnlyRaises kind x)
    (hkind : kind ≠ "") : Raises Named x := by
  intro exc hexc
  unfold Named
  rw [h exc hexc]
  exact hkind

/-! ## Conversions and checks -/

theorem intOfString_named (s : String) : Raises Named (intOfString s) :=
  named_of_onlyRaises (intOfString_raises s) (by decide)

/-- An integer conversion raises named exceptions. -/
theorem toInt_named (value : Value) : Raises Named (toInt value) := by
  cases value with
  | float x =>
      cases x with
      | finite q => exact .ok _
      | nan => exact .error (.ofKind (by decide))
      | posInf => exact .error (.ofKind (by decide))
      | negInf => exact .error (.ofKind (by decide))
  | str s => exact intOfString_named s
  | bool b => exact .ok _
  | int n => exact .ok _
  | none => exact .error (.ofKind (by decide))
  | list items => exact .error (.ofKind (by decide))
  | dict items => exact .error (.ofKind (by decide))

theorem getItem_named (d : Dict Value) (name : String) : Raises Named (Value.getItem d name) := by
  unfold Value.getItem
  split
  · exact .ok _
  · exact .error (.ofKind (by decide))

theorem addSeconds_named (instant n : Int) : Raises Named (Datetime.addSeconds instant n) :=
  .ite (.error (.ofKind (by decide))) (.ok _)

theorem dumps_named (F : FloatText) (value : Value) : Raises Named (dumps F value) :=
  .ite (.ok _) (.error (.ofKind (by decide)))

/-- The exception of a refused removal is named. -/
theorem refusalError_named (refusal : Tree.Refusal) : Named (refusalError refusal) := by
  cases refusal with
  | onLink => exact .ofKind (by decide)
  | os error => cases error <;> exact .ofKind (by decide)

/-! ## The disk model cache -/

/-- **The scans raise named exceptions.** -/
theorem namedScans : ScanClass fun _ m => ReadingRaises Named m where
  toClosed := ReadingRaises.closed
  locate _ _ := .look _ _
  kindAt _ := .look _ _
  dataAt _ := .look _ _
  namesIn _ := .look _ _
  placesBelow _ := .look _ _
  loop := .raise (.ofKind (by decide))
  undecodable := .raise (.ofKind (by decide))

theorem Disk.writeJson_named (F : FloatText) (host : CacheHost) (disk : Disk) (p : RawPath)
    (facts : Dict Value) : Raises Named (disk.writeJson F host p facts).1 := by
  unfold Disk.writeJson
  split
  · exact .ok _
  · split
    · exact .ok _
    · cases hdumps : dumps F (.dict facts) with
      | error exc => exact .error (dumps_named F _ exc hdumps)
      | ok text =>
          dsimp only
          split
          · rename_i heq
            cases heq
          all_goals exact .ok _

/-- What a client is told by a result of the cache: a failure has a code, and the state of a success is
not `failed`. -/
structure CacheCommandResult.Clear (r : CacheCommandResult) : Prop where
  coded : Coded r.success r.reasonCode
  state : r.success = true → r.status ≠ .failed

/-- A coded failure is clear. -/
theorem CacheCommandResult.Clear.of_failure {r : CacheCommandResult} {code : ReasonCode}
    (hsuccess : r.success = false) (hreason : r.reasonCode = some code) (hcode : code.text ≠ "") :
    r.Clear where
  coded _ := ⟨code, hreason, hcode⟩
  state h := by
    rw [hsuccess] at h
    cases h

/-- A success in a state other than `failed` is clear. -/
theorem CacheCommandResult.Clear.of_success {r : CacheCommandResult} (hsuccess : r.success = true)
    (hstate : r.status ≠ .failed) : r.Clear where
  coded := .of_success hsuccess
  state _ := hstate

/-- A status is clear. -/
theorem DiskModelCache.statusOf_clear (cache : DiskModelCache) (modelName : String)
    (found : Option CachedModelRecord) : (cache.statusOf modelName found).Clear := by
  cases found with
  | none => exact .of_failure rfl rfl (by decide)
  | some record =>
      by_cases hcached : record.cacheStatus = .cachedOnDisk
      · refine .of_success ?_ ?_
        · simp [statusOf, hcached]
        · simp [statusOf, hcached]
      · have hreason : (cache.statusOf modelName (some record)).reasonCode = some .modelCacheIncomplete := by
          simp [statusOf, hcached]
        refine .of_failure ?_ hreason (by decide)
        simp [statusOf, hcached]

namespace HubCache

variable (cache : HubCache) (host : CacheHost) (store : CacheStore) (modelName : String)

theorem record_named : Raises Named (cache.record store modelName) :=
  (namedScans.scanRecord cache modelName store.disk).map _

theorem hubCacheRoot_named (cacheRoot : String) (disk : Disk) :
    Raises Named (hubCacheRoot cacheRoot disk).1 := namedScans.hubCacheRoot cacheRoot disk

/-- **A status ends in a clear result or a named exception.** -/
theorem status_ends : Ends CacheCommandResult.Clear Named (cache.status store modelName) :=
  (hubCacheRoot_named cache.cacheRoot store.disk).thenEnds fun hub =>
    (cache.record_named store modelName).mapEnds ((cache.answering store hub).statusOf_clear modelName)

/-- A complete model is reported as preloaded once its marker is written. -/
theorem preloaded_ends {record : CachedModelRecord} (h : record.cacheStatus = .cachedOnDisk)
    (how : String × Value) :
    Ends CacheCommandResult.Clear Named (cache.preloaded host store modelName record how).1 := by
  have hmarker : Raises Named (cache.writeReadinessMarker host store.disk record).1 :=
    (Disk.writeJson_named cache.floats host store.disk _ _).map _
  refine hmarker.mapEnds fun path => .of_success rfl ?_
  simp [h]

theorem afterDownload_ends (downloaded : String) :
    Ends CacheCommandResult.Clear Named (cache.afterDownload host store modelName downloaded).1 := by
  unfold afterDownload
  cases hscan : (cache.scanRecord modelName store.disk).1 with
  | error exc => exact .error (namedScans.scanRecord cache modelName store.disk exc hscan)
  | ok found =>
      dsimp only
      split
      · rename_i record hrecord
        have hcached := (Option.filter_eq_some_iff.mp hrecord).2
        exact cache.preloaded_ends host store modelName (by simpa using hcached) _
      · exact .ok (.of_failure rfl rfl (by decide))

theorem preloadMissing_ends :
    Ends CacheCommandResult.Clear Named (cache.preloadMissing host store modelName).1 := by
  unfold preloadMissing
  split
  · exact .ok (.of_failure rfl rfl (by decide))
  · rename_i exc _ hroot
    exact .error (hubCacheRoot_named cache.cacheRoot store.disk exc hroot)
  · dsimp only
    split
    · exact cache.afterDownload_ends host _ modelName _
    · exact .ok (.of_failure rfl rfl (by decide))

/-- **A preload ends in a clear result or a named exception**, whatever the download does. -/
theorem preload_ends : Ends CacheCommandResult.Clear Named (cache.preload host store modelName).1 := by
  unfold preload
  cases hrecord : cache.record store modelName with
  | error exc => exact .error (cache.record_named store modelName exc hrecord)
  | ok existing =>
      dsimp only
      split
      · rename_i record hcached
        have hstatus := (Option.filter_eq_some_iff.mp hcached).2
        exact cache.preloaded_ends host store modelName (by simpa using hstatus) _
      · exact cache.preloadMissing_ends host store modelName

/-- **A deletion ends in a clear result or a named exception.** -/
theorem delete_ends : Ends CacheCommandResult.Clear Named (cache.delete host store modelName).1 := by
  unfold delete
  split
  · rename_i exc hrecord
    exact .error (cache.record_named store modelName exc hrecord)
  · exact .ok (.of_failure rfl rfl (by decide))
  · rename_i exc _ hroot
    exact .error (hubCacheRoot_named cache.cacheRoot store.disk exc hroot)
  · dsimp only
    split
    · exact .ok (.of_failure rfl rfl (by decide))
    · refine .ok (.of_success rfl ?_)
      simp

end HubCache

/-! ## The model lifecycle -/

namespace ModelMemoryLifecycle

variable {σ : Type}

/-- The collaborators of a lifecycle raise named exceptions. -/
structure NamedCollaborators (lifecycle : ModelMemoryLifecycle σ) : Prop where
  cache : ∀ status ∈ lifecycle.diskCache, ∀ modelName, Raises Named (status modelName)
  probe : ∀ probe ∈ lifecycle.modelProbe, ∀ modelName, Raises Named (probe modelName)
  recorder : ∀ record ∈ lifecycle.vramRecorder, ∀ modelName recorder, Raises Named (record modelName recorder)

/-- A refusal of a check is coded. -/
def CodedRefusal (checked : LifecycleCommandResult ⊕ Dict Value) : Prop :=
  ∀ refusal, checked = .inl refusal → Coded refusal.success refusal.reasonCode

/-- A check that is passed refuses nothing. -/
theorem CodedRefusal.passed (gathered : Dict Value) : CodedRefusal (.inr gathered) := by
  intro refusal heq
  cases heq

variable {lifecycle : ModelMemoryLifecycle σ} (h : lifecycle.NamedCollaborators)
  (residency : Option ModelResidency) (recorder : σ) (modelName : String) (allowPreload : Bool)
include h

theorem checkDiskCache_ends :
    Ends CodedRefusal Named (lifecycle.checkDiskCache modelName allowPreload) := by
  unfold checkDiskCache
  split
  · rename_i status hcache
    refine (h.cache status hcache modelName).thenEnds fun found => .ite ?_ ?_
    · refine .ok fun refusal heq => ?_
      cases heq
      exact .some (by decide)
    · exact .ok (.passed _)
  · exact .ok (.passed _)

theorem checkProbe_ends (gathered : Dict Value) :
    Ends CodedRefusal Named (lifecycle.checkProbe modelName gathered) := by
  unfold checkProbe
  split
  · exact .ok (.passed _)
  · rename_i probe hprobe
    refine (h.probe probe hprobe modelName).thenEnds fun answer => .ite ?_ ?_
    · exact .ok (.passed _)
    · refine .ok fun refusal heq => ?_
      cases heq
      exact .some (by decide)

theorem measureLoad_named (gathered : Dict Value) :
    Raises Named (lifecycle.measureLoad modelName gathered recorder) := by
  unfold measureLoad
  split
  · exact .ok _
  · rename_i record hrecord
    exact (h.recorder record hrecord modelName recorder).bind fun _ => .ok _

/-- What a command leaves reports a failure with a code. -/
def Outcome.Coded (out : Outcome σ) : Prop := Lmrs.Coded out.result.success out.result.reasonCode

theorem loadUnresident_ends :
    Ends Outcome.Coded Named (lifecycle.loadUnresident residency recorder modelName allowPreload) := by
  refine (checkDiskCache_ends h modelName allowPreload).bind fun checked hchecked => ?_
  cases checked with
  | inl refusal => exact .ok (hchecked refusal rfl)
  | inr metadata =>
      refine (checkProbe_ends h modelName _).bind fun probed hprobed => ?_
      cases probed with
      | inl refusal => exact .ok (hprobed refusal rfl)
      | inr gathered =>
          refine (measureLoad_named h recorder modelName gathered).thenEnds fun measured => ?_
          exact .ok (.of_success rfl)

/-- **A load ends in a coded result or a named exception.** -/
theorem loadModel_ends :
    Ends Outcome.Coded Named (lifecycle.loadModel residency recorder modelName allowPreload) := by
  unfold loadModel
  split
  · refine .ite (.ok (.of_success rfl)) (.ite (.ok ?_) ?_)
    · exact Coded.some (by decide)
    · exact loadUnresident_ends h _ recorder modelName allowPreload
  · exact loadUnresident_ends h _ recorder modelName allowPreload

/-- **A reload ends in a coded result or a named exception.** -/
theorem reloadModel_ends :
    Ends Outcome.Coded Named (lifecycle.reloadModel residency recorder modelName) := by
  unfold reloadModel
  split
  · exact loadModel_ends h _ recorder modelName true
  · exact .ite (loadModel_ends h _ recorder modelName true) (.ok (.of_success rfl))

omit h

/-- A report on a model that is not loaded is coded. -/
theorem notLoaded_coded (command : String) :
    Coded (notLoaded command modelName).success (notLoaded command modelName).reasonCode :=
  .some (by decide)

/-- **An unload is coded.** -/
theorem unloadModel_coded (lifecycle : ModelMemoryLifecycle σ) :
    Coded (lifecycle.unloadModel residency modelName).1.success
      (lifecycle.unloadModel residency modelName).1.reasonCode := by
  unfold unloadModel
  split
  · exact notLoaded_coded modelName _
  · split_ifs
    · exact notLoaded_coded modelName _
    · exact .some (by decide)
    · exact .of_success rfl

/-- **A status is coded.** -/
theorem modelStatus_coded :
    Coded (modelStatus residency modelName).success (modelStatus residency modelName).reasonCode := by
  unfold modelStatus
  split
  · exact notLoaded_coded modelName _
  · split_ifs
    · exact notLoaded_coded modelName _
    · exact .of_success rfl

/-! ### Switches -/

/-- A switch that fails has a code. -/
def SwitchResult.Coded (result : SwitchResult) : Prop :=
  ∀ reasonCode stage, result = .failed reasonCode stage → reasonCode.text ≠ ""

theorem SwitchResult.Coded.failed {reasonCode : ReasonCode} {stage : SwitchStage}
    (hcode : reasonCode.text ≠ "") : (SwitchResult.failed reasonCode stage).Coded := by
  intro _ _ heq
  cases heq
  exact hcode

/-- A failing step whose report is coded gives its code to the switch. -/
theorem SwitchResult.Coded.of_step {success : Bool} {reasonCode : Option ReasonCode} {stage : SwitchStage}
    (fallback : ReasonCode) (hcoded : Lmrs.Coded success reasonCode) (hsuccess : ¬ success = true) :
    (SwitchResult.failed (reasonCode.getD fallback) stage).Coded := by
  obtain ⟨code, hcode, htext⟩ := hcoded (Bool.eq_false_iff.mpr hsuccess)
  rw [hcode]
  exact .failed htext

/-- The steps of a switch raise named exceptions, and its preload is clear. -/
structure SwitchCollaborators.Legible (collab : SwitchCollaborators) : Prop where
  status : ∀ modelName, Raises Named (collab.status modelName)
  preload : ∀ modelName, Ends CacheCommandResult.Clear Named (collab.preload modelName)
  announced : ∀ stage, Raises Named (collab.progressCallback stage)

variable {collab : SwitchCollaborators} (hcollab : collab.Legible) (announced : List SwitchStage)
include h hcollab

theorem switchLoad_coded :
    (lifecycle.switchLoad collab announced residency recorder modelName).result.Coded := by
  unfold switchLoad
  cases hcallback : collab.progressCallback .loading with
  | error exc => exact .failed (hcollab.announced _ exc hcallback)
  | ok _ =>
      have hload := loadModel_ends h residency recorder modelName true
      cases hout : lifecycle.loadModel residency recorder modelName true with
      | error exc => exact .failed (hload.raises exc hout)
      | ok out =>
          dsimp only
          split_ifs with hsuccess
          · exact nofun
          · exact .of_step _ (hload.gives out hout) hsuccess

theorem switchUnload_coded :
    (lifecycle.switchUnload collab announced residency recorder modelName).result.Coded := by
  unfold switchUnload
  split
  · exact switchLoad_coded h _ recorder modelName hcollab announced
  · rename_i resident
    split_ifs
    · exact switchLoad_coded h _ recorder modelName hcollab announced
    · cases hcallback : collab.progressCallback .unloading with
      | error exc => exact .failed (hcollab.announced _ exc hcallback)
      | ok _ =>
          dsimp only
          split_ifs with hsuccess
          · exact switchLoad_coded h _ recorder modelName hcollab _
          · exact .of_step _ (unloadModel_coded _ _ lifecycle) hsuccess

/-- **A switch that fails has a code.** -/
theorem switchModel_coded :
    (lifecycle.switchModel collab residency recorder modelName).result.Coded := by
  unfold switchModel
  cases hstatus : collab.status modelName with
  | error exc => exact .failed (hcollab.status modelName exc hstatus)
  | ok status =>
      dsimp only
      split_ifs
      · exact switchUnload_coded h residency recorder modelName hcollab []
      · cases hcallback : collab.progressCallback .preloading with
        | error exc => exact .failed (hcollab.announced _ exc hcallback)
        | ok _ =>
            have hpreload := hcollab.preload modelName
            cases hout : collab.preload modelName with
            | error exc => exact .failed (hpreload.raises exc hout)
            | ok preload =>
                dsimp only
                split_ifs with hsuccess
                · exact switchUnload_coded h residency recorder modelName hcollab _
                · exact .of_step _ (hpreload.gives preload hout).coded hsuccess

end ModelMemoryLifecycle

end Lmrs
