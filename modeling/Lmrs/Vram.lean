import Lmrs.Lib.Python

/-!
# VRAM runtime facts and capacity calculations

Source: `lmrs/vram.py`.

The dynamic pool is what a model left free, less the safety margin and the runtime reserve; what is
usable of it is less the active reservations. Both figures are clamped at zero and refuse negative
inputs. `VramFactsStore` keeps the measurements of earlier runs in one JSON file.

* `calculateMaxDynamicPool_eq_ok`, `calculateUsableDynamicVram_eq_ok`: when the figures exist and
  what they are.
* `calculateUsableDynamicVram_le_max`: what is usable never exceeds the pool, and is the whole pool
  when nothing is reserved.
* `recordModelLoaded_free`, `recordServiceBaseline_free`: which recording changes the stored
  model-loaded reading.
-/

namespace Lmrs

open Python

/-! ## The dynamic pool -/

/-- Source: `vram.py`, `DynamicVramState`. -/
structure DynamicVramState where
  modelLoadedFreeVramBytes : Int
  safetyMarginBytes : Int
  runtimeReserveBytes : Int
  activeReservationBytes : Int := 0
  deriving DecidableEq

/-- Source: `vram.py`, `calculate_max_dynamic_pool`. -/
def calculateMaxDynamicPool (state : DynamicVramState) : Except PyException Int :=
  if state.modelLoadedFreeVramBytes < 0 then
    .error (valueError "model_loaded_free_vram_bytes must be non-negative")
  else if state.safetyMarginBytes < 0 ∨ state.runtimeReserveBytes < 0 then
    .error (valueError "VRAM reserves must be non-negative")
  else
    .ok (max 0 (state.modelLoadedFreeVramBytes - state.safetyMarginBytes - state.runtimeReserveBytes))

/-- Source: `vram.py`, `calculate_usable_dynamic_vram`. -/
def calculateUsableDynamicVram (state : DynamicVramState) : Except PyException Int :=
  if state.activeReservationBytes < 0 then
    .error (valueError "active_reservation_bytes must be non-negative")
  else do
    let pool ← calculateMaxDynamicPool state
    return max 0 (pool - state.activeReservationBytes)

/-- The pool of a state without a negative figure, clamped at zero. -/
def DynamicVramState.pool (state : DynamicVramState) : Int :=
  max 0 (state.modelLoadedFreeVramBytes - state.safetyMarginBytes - state.runtimeReserveBytes)

/-- The pool is never negative. -/
theorem DynamicVramState.pool_nonneg (state : DynamicVramState) : 0 ≤ state.pool :=
  Int.le_max_left _ _

/-- A state whose pool can be computed. -/
structure DynamicVramState.NonNegative (state : DynamicVramState) : Prop where
  free : 0 ≤ state.modelLoadedFreeVramBytes
  margin : 0 ≤ state.safetyMarginBytes
  reserve : 0 ≤ state.runtimeReserveBytes

/-- The pool exists exactly for non-negative figures. -/
theorem calculateMaxDynamicPool_eq_ok {state : DynamicVramState} {n : Int} :
    calculateMaxDynamicPool state = .ok n ↔ state.NonNegative ∧ n = state.pool := by
  unfold calculateMaxDynamicPool
  by_cases hfree : state.modelLoadedFreeVramBytes < 0
  · rw [if_pos hfree]
    constructor
    · intro h
      cases h
    · rintro ⟨hn, -⟩
      have hle := hn.free
      omega
  · rw [if_neg hfree]
    by_cases hres : state.safetyMarginBytes < 0 ∨ state.runtimeReserveBytes < 0
    · rw [if_pos hres]
      constructor
      · intro h
        cases h
      · rintro ⟨hn, -⟩
        have hmargin := hn.margin
        have hreserve := hn.reserve
        omega
    · rw [if_neg hres]
      constructor
      · intro h
        cases h
        exact ⟨⟨by omega, by omega, by omega⟩, rfl⟩
      · rintro ⟨-, rfl⟩
        rfl

/-- The usable figure exists exactly when the pool does and nothing negative is reserved. -/
theorem calculateUsableDynamicVram_eq_ok {state : DynamicVramState} {n : Int} :
    calculateUsableDynamicVram state = .ok n ↔
      0 ≤ state.activeReservationBytes ∧ state.NonNegative ∧
        n = max 0 (state.pool - state.activeReservationBytes) := by
  unfold calculateUsableDynamicVram
  by_cases hneg : state.activeReservationBytes < 0
  · rw [if_pos hneg]
    constructor
    · intro h
      cases h
    · omega
  · rw [if_neg hneg, bind_eq_ok]
    constructor
    · rintro ⟨pool, hpool, hn⟩
      obtain ⟨hstate, rfl⟩ := calculateMaxDynamicPool_eq_ok.mp hpool
      cases hn
      exact ⟨by omega, hstate, rfl⟩
    · rintro ⟨-, hstate, rfl⟩
      exact ⟨state.pool, calculateMaxDynamicPool_eq_ok.mpr ⟨hstate, rfl⟩, rfl⟩

/-- What is usable never exceeds the pool. -/
theorem calculateUsableDynamicVram_le_max {state : DynamicVramState} {usable pool : Int}
    (husable : calculateUsableDynamicVram state = .ok usable)
    (hpool : calculateMaxDynamicPool state = .ok pool) : usable ≤ pool := by
  obtain ⟨hres, -, rfl⟩ := calculateUsableDynamicVram_eq_ok.mp husable
  obtain ⟨-, rfl⟩ := calculateMaxDynamicPool_eq_ok.mp hpool
  have hclamp := state.pool_nonneg
  omega

/-- Where nothing is reserved the whole pool is usable. -/
theorem calculateUsableDynamicVram_of_unreserved {state : DynamicVramState}
    (h : state.activeReservationBytes = 0) :
    calculateUsableDynamicVram state = calculateMaxDynamicPool state := by
  unfold calculateUsableDynamicVram
  rw [if_neg (by omega), h]
  cases hpool : calculateMaxDynamicPool state with
  | error exc => rfl
  | ok pool =>
      obtain ⟨-, rfl⟩ := calculateMaxDynamicPool_eq_ok.mp hpool
      have hclamp := state.pool_nonneg
      show Except.ok (max 0 (state.pool - 0)) = Except.ok state.pool
      rw [Int.sub_zero, Int.max_eq_right hclamp]

/-! ## Measurements -/

/-- Source: `vram.py`, `GpuMemoryMeasurement`. -/
structure GpuMemoryMeasurement where
  ok : Bool
  totalBytes : Int := 0
  freeBytes : Int := 0
  usedBytes : Int := 0
  devices : List (Dict Int) := []
  measuredAt : String := ""
  source : String := "nvidia-smi"
  error : Option String := none
  deriving DecidableEq

/-! ## The facts file -/

namespace VramFactsStore

/-- What the path of a store holds: nothing that parses, or a JSON value. -/
abbrev File := Option Value

/-- How the filesystem answers one command. A write that fails may leave the file as it was or
truncated. -/
structure Access where
  /-- The file can be opened for reading. -/
  readable : Bool := true
  /-- The error text of a failing write, and whether the file is left truncated. -/
  writeFault : Option (String × Bool) := none

/-- Source: `vram.py`, `VramFactsStore.read`. -/
def read (access : Access) (file : File) : Dict Value :=
  match access.readable, file with
  | true, some (.dict facts) => facts
  | _, _ => []

/-- Source: `vram.py`, `VramFactsStore._write`: the mapping returned, and the file afterwards. -/
def write (access : Access) (file : File) (facts : Dict Value) : Dict Value × File :=
  match access.writeFault with
  | none => (facts, some (.dict facts))
  | some (message, truncated) =>
      (Dict.set facts "write_error" (.str message), if truncated then none else file)

/-- Source: `vram.py`, `VramFactsStore.record_service_baseline`. -/
def recordServiceBaseline (access : Access) (file : File) (measurement : GpuMemoryMeasurement)
    (residentServices : List String := []) (modelServed : Bool := false) : Dict Value × File :=
  let facts := read access file
  if measurement.ok = false then (facts, file)
  else
    match modelServed, Value.item facts "baseline_model_served" with
    | true, .bool false => (facts, file)
    | _, _ =>
        write access file (Dict.update facts
          [("service_baseline_free_vram_bytes", .int measurement.freeBytes),
           ("total_vram_bytes", .int measurement.totalBytes),
           ("resident_services", .list (residentServices.map .str)),
           ("baseline_measured_at", .str measurement.measuredAt),
           ("baseline_model_served", .bool modelServed)])

/-- The facts of a load before the static figure is derived. -/
def loadedFacts (facts : Dict Value) (modelName : String) (measurement : GpuMemoryMeasurement)
    (runtimeBackend quantizationProfile : String) : Dict Value :=
  Dict.update facts
    [("model_name", .str modelName),
     ("model_loaded_free_vram_bytes", .int measurement.freeBytes),
     ("model_loaded_measured_at", .str measurement.measuredAt),
     ("runtime_backend", .str runtimeBackend),
     ("quantization_profile", .str quantizationProfile)]

/-- The static figure of a load, or the reason there is none. -/
def deriveStatic (facts : Dict Value) (freeBytes : Int) : Dict Value :=
  let unavailable (reason : String) : Dict Value :=
    Dict.set (Dict.pop facts "measured_model_static_vram_bytes") "static_vram_unavailable_reason"
      (.str reason)
  if (Value.item facts "baseline_model_served").truthy then
    unavailable "the stored baseline was measured while a model was already served"
  else
    match (Value.item facts "service_baseline_free_vram_bytes").asInt? with
    | some baseline =>
        if freeBytes ≤ baseline then
          Dict.pop (Dict.set facts "measured_model_static_vram_bytes" (.int (baseline - freeBytes)))
            "static_vram_unavailable_reason"
        else unavailable "no service baseline below the model-loaded reading"
    | none => unavailable "no service baseline below the model-loaded reading"

/-- Source: `vram.py`, `VramFactsStore.record_model_loaded`. -/
def recordModelLoaded (access : Access) (file : File) (modelName : String)
    (measurement : GpuMemoryMeasurement) (runtimeBackend quantizationProfile : String := "") :
    Dict Value × File :=
  let facts := read access file
  if measurement.ok = false then (facts, file)
  else
    write access file
      (deriveStatic (loadedFacts facts modelName measurement runtimeBackend quantizationProfile)
        measurement.freeBytes)

/-! ### The stored model-loaded reading -/

section free

variable {access : Access} {file : File} {measurement : GpuMemoryMeasurement}

/-- The reading the store holds of the free VRAM after a load. -/
abbrev free (facts : Dict Value) : Value := Value.item facts "model_loaded_free_vram_bytes"

/-- A write without a fault reads back. -/
theorem read_write (facts : Dict Value) (h : access.writeFault = none) (a : Access)
    (ha : a.readable = true) : read a (write access file facts).2 = facts := by
  simp [write, h, read, ha]

/-- Deriving the static figure leaves the stored reading as it was. -/
theorem free_deriveStatic (facts : Dict Value) (freeBytes : Int) :
    free (deriveStatic facts freeBytes) = free facts := by
  have hset (d : Dict Value) (v : Value) :
      Dict.get? (Dict.set d "static_vram_unavailable_reason" v) "model_loaded_free_vram_bytes" =
        Dict.get? d "model_loaded_free_vram_bytes" := Dict.get?_set_of_ne d v (by decide)
  have hset' (d : Dict Value) (v : Value) :
      Dict.get? (Dict.set d "measured_model_static_vram_bytes" v) "model_loaded_free_vram_bytes" =
        Dict.get? d "model_loaded_free_vram_bytes" := Dict.get?_set_of_ne d v (by decide)
  have hpop (d : Dict Value) :
      Dict.get? (Dict.pop d "static_vram_unavailable_reason") "model_loaded_free_vram_bytes" =
        Dict.get? d "model_loaded_free_vram_bytes" := Dict.get?_pop_of_ne d (by decide)
  have hpop' (d : Dict Value) :
      Dict.get? (Dict.pop d "measured_model_static_vram_bytes") "model_loaded_free_vram_bytes" =
        Dict.get? d "model_loaded_free_vram_bytes" := Dict.get?_pop_of_ne d (by decide)
  unfold deriveStatic free Value.item
  split_ifs
  · rw [hset, hpop']
  · split
    · split_ifs
      · rw [hpop, hset']
      · rw [hset, hpop']
    · rw [hset, hpop']

/-- **A load stores its reading**: after a load measured on a readable GPU and written without a
fault, the store holds that reading until something else writes it. -/
theorem recordModelLoaded_free {modelName backend quantization : String}
    (hok : measurement.ok = true) (hwrite : access.writeFault = none) (a : Access)
    (ha : a.readable = true) :
    free (read a (recordModelLoaded access file modelName measurement backend quantization).2) =
      .int measurement.freeBytes := by
  unfold recordModelLoaded
  simp only [hok, Bool.true_eq_false, if_false]
  rw [read_write _ hwrite a ha, free_deriveStatic]
  have hkey (d : Dict Value) : free (Dict.update (Dict.set d "model_loaded_free_vram_bytes"
      (.int measurement.freeBytes)) [("model_loaded_measured_at", .str measurement.measuredAt),
        ("runtime_backend", .str backend), ("quantization_profile", .str quantization)]) =
      .int measurement.freeBytes := by
    unfold free Value.item
    rw [Dict.get?_update_of_not_mem _ _ (by simp), Dict.get?_set_self]
    rfl
  exact hkey _

/-- **Recording a service baseline leaves the stored load reading as it was**, unless the write
truncates the file. -/
theorem recordServiceBaseline_free {services : List String} {served : Bool}
    (hread : access.readable = true) :
    (recordServiceBaseline access file measurement services served).2 = none ∨
      free (read access (recordServiceBaseline access file measurement services served).2) =
        free (read access file) := by
  unfold recordServiceBaseline
  dsimp only
  by_cases hok : measurement.ok = false
  · rw [if_pos hok]
    exact Or.inr rfl
  · rw [if_neg hok]
    split
    · exact Or.inr rfl
    · cases hfault : access.writeFault with
      | none =>
          right
          rw [read_write _ hfault access hread]
          unfold free Value.item
          rw [Dict.get?_update_of_not_mem _ _ (by simp)]
      | some fault =>
          obtain ⟨message, truncated⟩ := fault
          cases truncated with
          | true =>
              left
              simp only [write, hfault, if_true]
          | false =>
              right
              simp only [write, hfault, Bool.false_eq_true, if_false]

end free

end VramFactsStore

end Lmrs
