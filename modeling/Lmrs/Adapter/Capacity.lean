import Lmrs.Admission
import Lmrs.Configuration
import Lmrs.Lib.Datetime
import Lmrs.ModelLifecycle
import Lmrs.Queue
import Lmrs.Vram

/-!
# The adapter's state and its measured capacity

Source: `lmrs/adapter/registration.py`, the module-level objects and the functions over them.

`AdapterState` is what the process keeps between commands: the request queue, the VRAM facts file,
the residency record and the running switches. `Readings` is everything one command reads from
outside: environment, clock, driver, disk and the answers of the runtime.

* `payloadPools_eq_ok`: when the two pools of a capacity payload exist and what they are.
* `vramPayload_pools`, `capacitySnapshot_pools`: a payload and a snapshot carry these pools.
* `capacitySnapshot_of_empty_queue`: with nothing queued the whole pool is usable.
-/

namespace Lmrs

open Python

/-- What the adapter process keeps. Source: `registration.py`, `_QUEUE`, `_VRAM_STORE`,
`_LIFECYCLE.current_residency`; `model_lifecycle.py`, `_SWITCHES_IN_PROGRESS`. -/
structure AdapterState where
  queue : RequestQueue := {}
  facts : VramFactsStore.File := none
  residency : Option ModelResidency := none
  switches : List String := []

/-- What one command reads from outside the process. -/
structure Readings where
  /-- `os.environ.get`. -/
  environ : String → Option String := fun _ => none
  /-- `datetime.now(UTC)`. -/
  now : Int := 0
  /-- `uuid4().hex`. -/
  uuid : String := ""
  /-- How the filesystem treats the facts file. -/
  store : VramFactsStore.Access := {}
  /-- `measure_gpu_memory()`. -/
  gpu : GpuMemoryMeasurement := { ok := false }
  /-- The disk model cache. -/
  cache : DiskModelCache := { record := fun _ => .ok none }
  /-- The parsed `config.json` below a snapshot path, when it can be read and parsed. -/
  configJson : String → Option Value := fun _ => none
  /-- The runtime's address. -/
  vllm : VLLMOpenAIClient := {}
  /-- `/v1/models`, asked for the service baseline. -/
  baselineProbe : HttpOutcome := .urlError "timed out"
  /-- `/v1/models`, asked whether the requested model is served. -/
  servedProbe : HttpOutcome := .urlError "timed out"
  /-- `/v1/models`, asked for a model to size against. -/
  targetProbe : HttpOutcome := .urlError "timed out"
  /-- `/tokenize`. -/
  tokenize : Dict Value → HttpOutcome := fun _ => .urlError "timed out"
  /-- `/v1/chat/completions`. -/
  completion : VLLMOpenAIClient.CompletionServer := { answer := fun _ => .urlError "timed out" }
  /-- `_CACHE.preload`. -/
  preload : String → Except PyException CacheCommandResult :=
    fun _ => .error (runtimeError "huggingface_hub is not installed")
  /-- The float a number becomes: the nearest one, or an infinity where there is none. -/
  round : ℚ → PyFloat := .finite

/-- Source: `registration.py`, `_int_env`. -/
def intEnv (r : Readings) (name : String) (default : Int := 0) : Int :=
  match r.environ name with
  | none => default
  | some raw =>
      match intOfString raw with
      | .error _ => default
      | .ok value => if 0 ≤ value then value else default

/-- A setting with a non-negative default is non-negative. -/
theorem intEnv_nonneg (r : Readings) (name : String) {default : Int} (h : 0 ≤ default) :
    0 ≤ intEnv r name default := by
  unfold intEnv
  split
  · exact h
  · split
    · exact h
    · split_ifs with hvalue
      · exact hvalue
      · exact h

/-- The safety margin the environment sets. -/
def safetyMargin (r : Readings) : Int := intEnv r "LMRS_SAFETY_MARGIN_BYTES"

/-- The runtime reserve the environment sets. -/
def runtimeReserve (r : Readings) : Int := intEnv r "LMRS_RUNTIME_RESERVE_BYTES"

/-- Source: `registration.py`, `_QueueHolder.reserved_bytes`. -/
def QueueHolder.reservedBytes (queue : RequestQueue) : Int :=
  (queue.entries.map fun entry => entry.requiredDynamicVramBytes).sum

/-- Source: `registration.py`, `_resident_services`. -/
def residentServices (r : Readings) : List String :=
  let raw := (r.environ "LMRS_RESIDENT_SERVICES").getD ""
  (((splitOn ',' raw.toList).map strip).filter fun name => !name.isEmpty).map String.ofList

/-! ## The capacity payload -/

/-- Source: `registration.py`, the mapping `vram_payload` returns. -/
structure VramPayload where
  residentServices : List String
  serviceBaselineFreeVramBytes : Option Int
  modelLoadedFreeVramBytes : Option Int
  measuredModelStaticVramBytes : Option Int
  maxDynamicPoolBytes : Int
  usableDynamicVramBytes : Int
  activeReservationBytes : Int
  totalVramBytes : Value
  modelName : Value
  runtimeBackend : RuntimeBackend
  quantizationProfile : Value
  hardwareProfileId : Option String
  measurementMetadata : Dict Value
  measured : Bool
  safetyMarginBytes : Int
  runtimeReserveBytes : Int

/-- An optional text as a value. -/
def textValue : Option String → Value
  | some s => .str s
  | none => .none

/-- The stored facts a payload is computed from, and the facts file afterwards: a readable GPU with
no baseline stored and no model recorded resident has its reading recorded as the baseline. -/
def refreshBaseline (s : AdapterState) (r : Readings) : Dict Value × VramFactsStore.File :=
  let stored := VramFactsStore.read r.store s.facts
  if r.gpu.ok = true ∧ s.residency.isNone = true ∧
      (Value.item stored "service_baseline_free_vram_bytes").asInt? = none then
    let probe := r.vllm.listModels r.baselineProbe
    let modelServed := probe.ok && !probe.servedModels.isEmpty
    VramFactsStore.recordServiceBaseline r.store s.facts r.gpu (residentServices r) modelServed
  else (stored, s.facts)

/-- The free VRAM a payload starts from: the driver's reading, or the one stored by the last load
when the driver cannot be read. -/
def freeVram (s : AdapterState) (r : Readings) : Option Int :=
  if r.gpu.ok = true then some r.gpu.freeBytes
  else (VramFactsStore.free (VramFactsStore.read r.store s.facts)).asInt?

/-- The dynamic state a payload computes its pools from. -/
def dynamicState (s : AdapterState) (r : Readings) : DynamicVramState where
  modelLoadedFreeVramBytes := (freeVram s r).getD 0
  safetyMarginBytes := safetyMargin r
  runtimeReserveBytes := runtimeReserve r
  activeReservationBytes := QueueHolder.reservedBytes s.queue

/-- The two pools of a payload: computed when there is a free figure, zero otherwise. -/
def payloadPools (s : AdapterState) (r : Readings) : Except PyException (Int × Int) :=
  match freeVram s r with
  | none => .ok (0, 0)
  | some _ => do
      let pool ← calculateMaxDynamicPool (dynamicState s r)
      let usable ← calculateUsableDynamicVram (dynamicState s r)
      return (pool, usable)

/-- The service baseline a payload reports: none when it was read while a model was served. -/
def reportedBaseline (stored : Dict Value) : Option Int :=
  if (Value.item stored "baseline_model_served").truthy then none
  else (Value.item stored "service_baseline_free_vram_bytes").asInt?

/-- The static VRAM between a baseline and a free figure below it. -/
def staticVram : Option Int → Option Int → Option Int
  | some baseline, some free => if free ≤ baseline then some (baseline - free) else none
  | _, _ => none

/-- Source: `registration.py`, `vram_payload`. The facts file afterwards is
`(refreshBaseline s r).2`. -/
def vramPayload (s : AdapterState) (r : Readings) : Except PyException VramPayload := do
  let stored := (refreshBaseline s r).1
  let (maxDynamicPoolBytes, usableDynamicVramBytes) ← payloadPools s r
  return {
    residentServices := residentServices r
    serviceBaselineFreeVramBytes := reportedBaseline stored
    modelLoadedFreeVramBytes := freeVram s r
    measuredModelStaticVramBytes := staticVram (reportedBaseline stored) (freeVram s r)
    maxDynamicPoolBytes
    usableDynamicVramBytes
    activeReservationBytes := QueueHolder.reservedBytes s.queue
    totalVramBytes :=
      if r.gpu.ok then .int r.gpu.totalBytes else Value.item stored "total_vram_bytes"
    modelName := (s.residency.map fun m => Value.str m.modelName).getD (Value.item stored "model_name")
    runtimeBackend := .vllm
    quantizationProfile := Value.item stored "quantization_profile"
    hardwareProfileId := r.environ "LMRS_HARDWARE_PROFILE_ID"
    measurementMetadata :=
      [("source", .str r.gpu.source), ("measured_at", .str r.gpu.measuredAt),
       ("devices", .list (r.gpu.devices.map fun device =>
          .dict (device.map fun kv => (kv.1, .int kv.2)))),
       ("error", textValue r.gpu.error),
       ("baseline_measured_at", Value.item stored "baseline_measured_at"),
       ("baseline_model_served", Value.item stored "baseline_model_served"),
       ("static_vram_unavailable_reason", Value.item stored "static_vram_unavailable_reason")]
    measured := r.gpu.ok
    safetyMarginBytes := safetyMargin r
    runtimeReserveBytes := runtimeReserve r }

/-- The state after the measurement a payload makes. -/
def AdapterState.measured (s : AdapterState) (r : Readings) : AdapterState :=
  { s with facts := (refreshBaseline s r).2 }

/-- Source: `registration.py`, `capacity_snapshot`. The state afterwards is `s.measured r`. -/
def capacitySnapshot (s : AdapterState) (r : Readings) (modelName : String) :
    Except PyException CapacitySnapshot := do
  let payload ← vramPayload s r
  let probe := r.vllm.isModelServed r.servedProbe modelName
  return {
    usableDynamicVramBytes := payload.usableDynamicVramBytes
    maxDynamicPoolBytes := payload.maxDynamicPoolBytes
    modelLoaded := probe.ok || s.residency.any fun m => m.modelName = modelName
    runtimeReady := probe.ok
    metadata :=
      [("measured", .bool payload.measured),
       ("served_models", .list (probe.servedModels.map .str)),
       ("probe_error", textValue probe.error)] }

/-! ## The pools a command sees -/

section pools

variable {s : AdapterState} {r : Readings}

/-- A free figure makes a dynamic state non-negative exactly when it is not negative. -/
theorem dynamicState_nonNegative {free : Int} (h : freeVram s r = some free) :
    (dynamicState s r).NonNegative ↔ 0 ≤ free := by
  have hfree : (dynamicState s r).modelLoadedFreeVramBytes = free := by
    simp [dynamicState, h]
  constructor
  · intro hn
    exact hfree ▸ hn.free
  · intro hn
    exact ⟨hfree.symm ▸ hn, intEnv_nonneg r _ le_rfl, intEnv_nonneg r _ le_rfl⟩

/-- The pool of a dynamic state, in terms of the settings. -/
theorem dynamicState_pool {free : Int} (h : freeVram s r = some free) :
    (dynamicState s r).pool = max 0 (free - safetyMargin r - runtimeReserve r) := by
  simp [DynamicVramState.pool, dynamicState, h]

/-- **When the pools exist and what they are**: zero without a free figure; with one, what it leaves
above the margin and the reserve, less the reservations of the queue. -/
theorem payloadPools_eq_ok {pool usable : Int} :
    payloadPools s r = .ok (pool, usable) ↔
      (freeVram s r = none ∧ pool = 0 ∧ usable = 0) ∨
        ∃ free, freeVram s r = some free ∧ 0 ≤ free ∧ 0 ≤ QueueHolder.reservedBytes s.queue ∧
          pool = max 0 (free - safetyMargin r - runtimeReserve r) ∧
          usable = max 0 (pool - QueueHolder.reservedBytes s.queue) := by
  unfold payloadPools
  cases hfree : freeVram s r with
  | none => simp [eq_comm]
  | some free =>
      have hpooleq := dynamicState_pool hfree
      rw [bind_eq_ok]
      constructor
      · rintro ⟨pool', hpool, h⟩
        obtain ⟨usable', husable, h⟩ := bind_eq_ok.mp h
        cases h
        obtain ⟨hn, rfl⟩ := calculateMaxDynamicPool_eq_ok.mp hpool
        obtain ⟨hres, -, rfl⟩ := calculateUsableDynamicVram_eq_ok.mp husable
        exact Or.inr ⟨free, rfl, (dynamicState_nonNegative hfree).mp hn, hres, hpooleq, rfl⟩
      · rintro (⟨hnone, -⟩ | ⟨free', hsome, hpos, hres, rfl, rfl⟩)
        · cases hnone
        · cases hsome
          have hn := (dynamicState_nonNegative hfree).mpr hpos
          rw [← hpooleq]
          refine ⟨(dynamicState s r).pool, calculateMaxDynamicPool_eq_ok.mpr ⟨hn, rfl⟩, ?_⟩
          exact bind_eq_ok.mpr ⟨_, calculateUsableDynamicVram_eq_ok.mpr ⟨hres, hn, rfl⟩, rfl⟩

/-- A capacity payload carries the pools. -/
theorem vramPayload_pools {p : VramPayload} (h : vramPayload s r = .ok p) :
    payloadPools s r = .ok (p.maxDynamicPoolBytes, p.usableDynamicVramBytes) := by
  obtain ⟨⟨pool, usable⟩, hpools, h⟩ := bind_eq_ok.mp h
  cases h
  exact hpools

/-- A capacity payload reports what the entries of the queue require. -/
theorem vramPayload_activeReservation {p : VramPayload} (h : vramPayload s r = .ok p) :
    p.activeReservationBytes = QueueHolder.reservedBytes s.queue := by
  obtain ⟨⟨pool, usable⟩, -, h⟩ := bind_eq_ok.mp h
  cases h
  rfl

/-- A payload exists whenever the pools do. -/
theorem vramPayload_isOk {pools : Int × Int} (h : payloadPools s r = .ok pools) :
    ∃ p, vramPayload s r = .ok p ∧ p.maxDynamicPoolBytes = pools.1 ∧
      p.usableDynamicVramBytes = pools.2 := by
  unfold vramPayload
  rw [h]
  exact ⟨_, rfl, rfl, rfl⟩

variable {modelName : String} {c : CapacitySnapshot}

/-- A snapshot carries the pools, and the readiness its probe answered. -/
theorem capacitySnapshot_pools (h : capacitySnapshot s r modelName = .ok c) :
    payloadPools s r = .ok (c.maxDynamicPoolBytes, c.usableDynamicVramBytes) ∧
      c.runtimeReady = (r.vllm.isModelServed r.servedProbe modelName).ok := by
  obtain ⟨p, hp, h⟩ := bind_eq_ok.mp h
  cases h
  exact ⟨vramPayload_pools hp, rfl⟩

/-- A snapshot exists whenever the pools do. -/
theorem capacitySnapshot_isOk {pools : Int × Int} (h : payloadPools s r = .ok pools) :
    ∃ c, capacitySnapshot s r modelName = .ok c ∧ c.maxDynamicPoolBytes = pools.1 ∧
      c.usableDynamicVramBytes = pools.2 := by
  obtain ⟨p, hp, hmax, husable⟩ := vramPayload_isOk h
  unfold capacitySnapshot
  rw [hp]
  exact ⟨_, rfl, hmax, husable⟩

/-- **With nothing queued the whole pool is usable.** -/
theorem capacitySnapshot_of_empty_queue (hqueue : s.queue = {})
    (h : capacitySnapshot s r modelName = .ok c) :
    c.usableDynamicVramBytes = c.maxDynamicPoolBytes := by
  obtain ⟨hpools, -⟩ := capacitySnapshot_pools h
  have hzero : QueueHolder.reservedBytes s.queue = 0 := by rw [hqueue]; rfl
  rcases payloadPools_eq_ok.mp hpools with ⟨-, hmax, huse⟩ | ⟨free, -, -, -, hmax, huse⟩
  · rw [hmax, huse]
  · rw [hzero] at huse
    omega

/-- Pools that do not exist raise `ValueError`. -/
theorem payloadPools_raises (s : AdapterState) (r : Readings) :
    OnlyRaises "ValueError" (payloadPools s r) := by
  have hmax (state : DynamicVramState) : OnlyRaises "ValueError" (calculateMaxDynamicPool state) := by
    unfold calculateMaxDynamicPool
    split_ifs
    · exact .valueError _
    · exact .valueError _
    · exact .ok _
  have husable (state : DynamicVramState) :
      OnlyRaises "ValueError" (calculateUsableDynamicVram state) := by
    unfold calculateUsableDynamicVram
    split_ifs
    · exact .valueError _
    · exact .bind (hmax state) fun _ => .ok _
  unfold payloadPools
  split
  · exact .ok _
  · exact .bind (hmax _) fun _ => .bind (husable _) fun _ => .ok _

/-- A snapshot that does not exist raises `ValueError`. -/
theorem capacitySnapshot_raises (s : AdapterState) (r : Readings) (modelName : String) :
    OnlyRaises "ValueError" (capacitySnapshot s r modelName) :=
  .bind (.bind (payloadPools_raises s r) fun _ => .ok _) fun _ => .ok _

/-- A measurement does not change the free figure it started from. -/
theorem freeVram_measured (s : AdapterState) (r : Readings) :
    freeVram (s.measured r) r = freeVram s r := by
  unfold freeVram
  by_cases hok : r.gpu.ok = true
  · rw [if_pos hok, if_pos hok]
  · have hfacts : (s.measured r).facts = s.facts := by
      simp [AdapterState.measured, refreshBaseline, hok]
    rw [if_neg hok, if_neg hok, hfacts]

/-- A measurement does not change the pools. -/
theorem payloadPools_measured (s : AdapterState) (r : Readings) :
    payloadPools (s.measured r) r = payloadPools s r := by
  unfold payloadPools dynamicState
  rw [freeVram_measured]
  rfl

/-- **The measurement one command makes does not show in the snapshot of the next.** -/
theorem capacitySnapshot_measured (s : AdapterState) (r : Readings) (modelName : String) :
    capacitySnapshot (s.measured r) r modelName = capacitySnapshot s r modelName := by
  unfold capacitySnapshot vramPayload
  rw [payloadPools_measured]
  cases payloadPools s r <;> rfl

end pools

end Lmrs
