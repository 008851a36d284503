import Lmrs.Lib.Text
import Lmrs.Vram

/-!
# Reading the GPU and deriving the memory fraction

Source: `lmrs/vram.py`, `measure_gpu_memory`, `derive_gpu_memory_utilization`, `main`.

The driver is asked for one line a device; the figures of a measurement are sums over the devices. The
fraction handed to the runtime is a whole number of percents of the total, truncated; quotients are
exact rationals.

* `deriveGpuMemoryUtilization_eq`: the fraction is the whole percents of what can be allocated, and is
  refused when they are none.
* `fits_iff`: which numbers of percents leave the reserve and the room to grow.
* `utilization_law`: the fraction is the largest that fits, is refused when none does, and is monotone.
* `utilization_per_device_iff`: when a fraction derived from sums over the devices is free on each.
-/

namespace Lmrs

open Python

/-! ## Reading the driver -/

/-- Source: `vram.py`, `_MIB_BYTES`. -/
def mibBytes : Int := 1024 * 1024

/-- The figures of one device, in MiB as the driver prints them. -/
structure DeviceReading where
  index : Int
  total : Int
  free : Int
  used : Int
  deriving DecidableEq, Repr

namespace DeviceReading

/-- The figures on one line of the driver's answer: four integers between commas, or nothing. -/
def ofLine (line : List Char) : Option DeviceReading :=
  match (splitOn ',' line).map fun field => intOfString (String.ofList (strip field)) with
  | [.ok index, .ok total, .ok free, .ok used] => some ⟨index, total, free, used⟩
  | _ => none

/-- A device of a measurement, in bytes. -/
def device (d : DeviceReading) : Dict Int :=
  [("index", d.index), ("total_bytes", d.total * mibBytes), ("free_bytes", d.free * mibBytes),
   ("used_bytes", d.used * mibBytes)]

/-- A reading of a device that has memory, and no more free than it has. -/
structure Sound (d : DeviceReading) : Prop where
  free_nonneg : 0 ≤ d.free
  free_le : d.free ≤ d.total
  total_pos : 0 < d.total

end DeviceReading

/-- The measurement of the devices that were read. -/
def measurementOf (measuredAt : String) (readings : List DeviceReading) : GpuMemoryMeasurement where
  ok := true
  totalBytes := (readings.map fun d => d.total * mibBytes).sum
  freeBytes := (readings.map fun d => d.free * mibBytes).sum
  usedBytes := (readings.map fun d => d.used * mibBytes).sum
  devices := readings.map DeviceReading.device
  measuredAt := measuredAt

/-- The readings in the driver's answer. -/
def readingsOf (stdout : List Char) : List DeviceReading :=
  (splitLines stdout).filterMap DeviceReading.ofLine

/-- Source: `vram.py`, `measure_gpu_memory`, with what the query came back with: an exception, or the
exit status, the output and the error output. -/
def measureGpuMemory (measuredAt : String)
    (execute : Except PyException (Int × List Char × List Char)) : GpuMemoryMeasurement :=
  match execute with
  | .error exc => { ok := false, measuredAt, error := some (exc.kind ++ ": " ++ exc.message) }
  | .ok (status, stdout, stderr) =>
      if status ≠ 0 then
        let reported := strip (if stderr ≠ [] then stderr else stdout)
        { ok := false, measuredAt
          error := some (if reported ≠ [] then String.ofList reported
            else "nvidia-smi exited with " ++ toString status) }
      else if readingsOf stdout = [] then
        { ok := false, measuredAt, error := some "nvidia-smi reported no devices" }
      else measurementOf measuredAt (readingsOf stdout)

/-! ## Deriving the fraction -/

/-- Source: `vram.py`, `_HEADROOM_RESERVE_BYTES`. -/
def headroomReserveBytes : Int := 2048 * mibBytes

/-- What is left to allocate: what is free, less the reserve and the room the services beside the
runtime have to grow to their peak. -/
def allocatableBytes (free total reserve residentPeak : Int) : Int :=
  free - reserve - max 0 (residentPeak - (total - free))

/-- The refusal when nothing is left to allocate. -/
def nothingAllocatable (free total reserve : Int) : PyException :=
  valueError ("free VRAM " ++ toString free ++ " leaves no allocatable fraction after a " ++
    toString reserve ++ " byte reserve of " ++ toString total ++ " total")

/-- Source: `vram.py`, `derive_gpu_memory_utilization`. -/
def deriveGpuMemoryUtilization (freeBytes totalBytes : Int) (reserveBytes : Int := headroomReserveBytes)
    (residentPeakBytes : Int := 0) : Except PyException ℚ :=
  if freeBytes < 0 ∨ totalBytes < 0 ∨ reserveBytes < 0 ∨ residentPeakBytes < 0 then
    .error (valueError "VRAM measurements and reserves must be non-negative")
  else if totalBytes = 0 then .error (valueError "total VRAM must be positive")
  else if totalBytes < freeBytes then .error (valueError "free VRAM cannot exceed total VRAM")
  else
    let allocatable := allocatableBytes freeBytes totalBytes reserveBytes residentPeakBytes
    let utilization : ℚ := (⌊(allocatable : ℚ) / totalBytes * 100⌋ : ℚ) / 100
    if utilization ≤ 0 then .error (nothingAllocatable freeBytes totalBytes reserveBytes)
    else .ok utilization

/-- The arguments of the entry point, with their defaults. -/
structure VramArguments where
  reserveMib : Int := headroomReserveBytes / mibBytes
  residentPeakMib : Int := 0

/-- What the entry point leaves: its exit status, the fraction it prints and its complaint. -/
structure VramExit where
  status : Int
  stdout : Option ℚ := none
  stderr : Option String := none

/-- Source: `vram.py`, `main`, on the reading it takes. -/
def vramMain (arguments : VramArguments) (measurement : GpuMemoryMeasurement) : VramExit :=
  if measurement.ok = false then
    { status := 1
      stderr := some ("cannot read GPU memory: " ++ measurement.error.getD "None") }
  else
    match deriveGpuMemoryUtilization measurement.freeBytes measurement.totalBytes
        (arguments.reserveMib * mibBytes) (arguments.residentPeakMib * mibBytes) with
    | .error exc => { status := 2, stderr := some exc.message }
    | .ok utilization => { status := 0, stdout := some utilization }

/-! ## What the fraction is -/

/-- Figures the derivation accepts. -/
structure Derivable (free total reserve peak : Int) : Prop where
  free_nonneg : 0 ≤ free
  free_le : free ≤ total
  total_pos : 0 < total
  reserve_nonneg : 0 ≤ reserve
  peak_nonneg : 0 ≤ peak

/-- The whole percents of `whole` that `part` makes. -/
def wholePercents (part whole : Int) : Int := 100 * part / whole

/-- A number of percents of the total that leaves the reserve free now, and the declared peak of the
services beside the runtime later. -/
def Fits (free total reserve peak k : Int) : Prop :=
  (k : ℚ) / 100 * total + reserve ≤ free ∧
    (k : ℚ) / 100 * total + reserve + max peak (total - free) ≤ total

section derivation

variable {free total reserve peak : Int}

/-- Truncating to two decimals takes the whole percents. -/
theorem floor_percents (part : Int) {whole : Int} (hwhole : 0 < whole) :
    ⌊(part : ℚ) / whole * 100⌋ = wholePercents part whole := by
  have hnat : ((whole.toNat : Int)) = whole := Int.toNat_of_nonneg hwhole.le
  have hquotient : (part : ℚ) / whole * 100 = ((100 * part : Int) : ℚ) / (whole.toNat : ℚ) := by
    rw [← Int.cast_natCast, hnat]
    push_cast
    ring
  rw [hquotient, Rat.floor_intCast_div_natCast, hnat]
  rfl

/-- A number of percents is at most the whole percents exactly when that share is no more than the
part. -/
theorem le_wholePercents_iff {part whole k : Int} (hwhole : 0 < whole) :
    k ≤ wholePercents part whole ↔ k * whole ≤ 100 * part :=
  Int.le_ediv_iff_mul_le hwhole

/-- **What is derived**: the whole percents of what can be allocated, when there are any. -/
theorem deriveGpuMemoryUtilization_eq (h : Derivable free total reserve peak) :
    deriveGpuMemoryUtilization free total reserve peak =
      if wholePercents (allocatableBytes free total reserve peak) total ≤ 0 then
        .error (nothingAllocatable free total reserve)
      else .ok ((wholePercents (allocatableBytes free total reserve peak) total : ℚ) / 100) := by
  obtain ⟨hfree, hle, htotal, hreserve, hpeak⟩ := h
  unfold deriveGpuMemoryUtilization
  rw [if_neg (by omega), if_neg (by omega), if_neg (by omega)]
  dsimp only
  rw [floor_percents _ htotal]
  generalize wholePercents (allocatableBytes free total reserve peak) total = k
  by_cases hk : k ≤ 0
  · have hneg : (k : ℚ) ≤ 0 := by exact_mod_cast hk
    rw [if_pos hk, if_pos (by linarith)]
  · have hpos : (0 : ℚ) < k := by exact_mod_cast not_le.mp hk
    rw [if_neg hk, if_neg (by linarith)]

/-- What is derived is a positive number of whole percents. -/
theorem deriveGpuMemoryUtilization_eq_ok (h : Derivable free total reserve peak) {u : ℚ} :
    deriveGpuMemoryUtilization free total reserve peak = .ok u ↔
      0 < wholePercents (allocatableBytes free total reserve peak) total ∧
        u = (wholePercents (allocatableBytes free total reserve peak) total : ℚ) / 100 := by
  rw [deriveGpuMemoryUtilization_eq h]
  by_cases hk : wholePercents (allocatableBytes free total reserve peak) total ≤ 0
  · rw [if_pos hk]
    constructor
    · intro hc
      cases hc
    · omega
  · rw [if_neg hk, Except.ok.injEq, eq_comm (b := u)]
    constructor
    · exact fun hu => ⟨not_le.mp hk, hu⟩
    · exact fun hu => hu.2

/-- **Which numbers of percents fit**: those whose share of the total is no more than what can be
allocated. -/
theorem fits_iff (h : Derivable free total reserve peak) (k : Int) :
    Fits free total reserve peak k ↔
      k ≤ wholePercents (allocatableBytes free total reserve peak) total := by
  rw [le_wholePercents_iff h.total_pos]
  have hshare : (k : ℚ) / 100 * total = ((k * total : Int) : ℚ) / 100 := by
    push_cast
    ring
  have hnow : (k : ℚ) / 100 * total + reserve ≤ free ↔ k * total ≤ 100 * (free - reserve) := by
    rw [hshare, ← le_sub_iff_add_le, div_le_iff₀ (by norm_num)]
    constructor
    · intro hle
      have hle' : k * total ≤ (free - reserve) * 100 := by exact_mod_cast hle
      omega
    · intro hle
      have hle' : k * total ≤ (free - reserve) * 100 := by omega
      exact_mod_cast hle'
  have hlater : (k : ℚ) / 100 * total + reserve + ((max peak (total - free) : Int) : ℚ) ≤ total ↔
      k * total ≤ 100 * (total - max peak (total - free) - reserve) := by
    rw [hshare, ← le_sub_iff_add_le, ← le_sub_iff_add_le, div_le_iff₀ (by norm_num)]
    constructor
    · intro hle
      have hle' : k * total ≤ (total - max peak (total - free) - reserve) * 100 := by exact_mod_cast hle
      omega
    · intro hle
      have hle' : k * total ≤ (total - max peak (total - free) - reserve) * 100 := by omega
      exact_mod_cast hle'
  unfold Fits
  rw [hnow, hlater]
  unfold allocatableBytes
  omega

/-- The more can be allocated of the same total, the larger the fraction. -/
theorem deriveGpuMemoryUtilization_mono {free' reserve' peak' : Int} (h : Derivable free total reserve peak)
    (h' : Derivable free' total reserve' peak')
    (hle : allocatableBytes free total reserve peak ≤ allocatableBytes free' total reserve' peak') {u : ℚ}
    (hu : deriveGpuMemoryUtilization free total reserve peak = .ok u) :
    ∃ u', deriveGpuMemoryUtilization free' total reserve' peak' = .ok u' ∧ u ≤ u' := by
  obtain ⟨hpos, rfl⟩ := (deriveGpuMemoryUtilization_eq_ok h).mp hu
  have hpercents : wholePercents (allocatableBytes free total reserve peak) total ≤
      wholePercents (allocatableBytes free' total reserve' peak') total :=
    Int.ediv_le_ediv h.total_pos (by omega)
  refine ⟨_, (deriveGpuMemoryUtilization_eq_ok h').mpr ⟨hpos.trans_le hpercents, rfl⟩, ?_⟩
  have hcast : (wholePercents (allocatableBytes free total reserve peak) total : ℚ) ≤
      wholePercents (allocatableBytes free' total reserve' peak') total := by exact_mod_cast hpercents
  linarith

/-- It is refused exactly when no positive number of percents fits. -/
theorem deriveGpuMemoryUtilization_error_iff (h : Derivable free total reserve peak) :
    (∃ exc, deriveGpuMemoryUtilization free total reserve peak = .error exc) ↔
      ¬ ∃ k : Int, 0 < k ∧ Fits free total reserve peak k := by
  rw [deriveGpuMemoryUtilization_eq h]
  by_cases hk : wholePercents (allocatableBytes free total reserve peak) total ≤ 0
  · rw [if_pos hk]
    refine iff_of_true ⟨_, rfl⟩ ?_
    rintro ⟨k, hpos, hfits⟩
    exact absurd ((fits_iff h k).mp hfits) (not_le.mpr (hk.trans_lt hpos))
  · rw [if_neg hk]
    refine iff_of_false ?_ (not_not_intro ⟨_, not_le.mp hk, (fits_iff h _).mpr le_rfl⟩)
    rintro ⟨exc, hc⟩
    cases hc

/-- **The derived fraction** is a positive number of whole percents that fits, and the largest such; it
is refused exactly when there is none; and it is monotone in what is free and antitone in the reserve and
in the declared peak. -/
theorem utilization_law (h : Derivable free total reserve peak) :
    (∀ u, deriveGpuMemoryUtilization free total reserve peak = .ok u →
      ∃ k : Int, 0 < k ∧ u = k / 100 ∧ Fits free total reserve peak k ∧
        ∀ k', Fits free total reserve peak k' → k' ≤ k) ∧
    ((∃ exc, deriveGpuMemoryUtilization free total reserve peak = .error exc) ↔
      ¬ ∃ k : Int, 0 < k ∧ Fits free total reserve peak k) ∧
    (∀ free', free ≤ free' → free' ≤ total → ∀ u,
      deriveGpuMemoryUtilization free total reserve peak = .ok u →
        ∃ u', deriveGpuMemoryUtilization free' total reserve peak = .ok u' ∧ u ≤ u') ∧
    (∀ reserve', reserve ≤ reserve' → ∀ u', deriveGpuMemoryUtilization free total reserve' peak = .ok u' →
      ∃ u, deriveGpuMemoryUtilization free total reserve peak = .ok u ∧ u' ≤ u) ∧
    (∀ peak', peak ≤ peak' → ∀ u', deriveGpuMemoryUtilization free total reserve peak' = .ok u' →
      ∃ u, deriveGpuMemoryUtilization free total reserve peak = .ok u ∧ u' ≤ u) := by
  refine ⟨fun u hu => ?_, deriveGpuMemoryUtilization_error_iff h, fun free' hle htotal u hu => ?_,
    fun reserve' hle u' hu => ?_, fun peak' hle u' hu => ?_⟩
  · obtain ⟨hpos, rfl⟩ := (deriveGpuMemoryUtilization_eq_ok h).mp hu
    exact ⟨_, hpos, rfl, (fits_iff h _).mpr le_rfl, fun k' hk' => (fits_iff h k').mp hk'⟩
  · -- as much as is freed, at most that much more may be needed to grow
    have h' : Derivable free' total reserve peak :=
      { h with free_nonneg := h.free_nonneg.trans hle, free_le := htotal }
    refine deriveGpuMemoryUtilization_mono h h' ?_ hu
    unfold allocatableBytes
    omega
  · have h' : Derivable free total reserve' peak := { h with reserve_nonneg := h.reserve_nonneg.trans hle }
    refine deriveGpuMemoryUtilization_mono h' h ?_ hu
    unfold allocatableBytes
    omega
  · have h' : Derivable free total reserve peak' := { h with peak_nonneg := h.peak_nonneg.trans hle }
    refine deriveGpuMemoryUtilization_mono h' h ?_ hu
    unfold allocatableBytes
    omega

end derivation

/-- Of a hundred bytes, sixty of them free, a reserve of ten and a peak of fifty leave forty percents; with
a peak of sixty, thirty. -/
theorem utilization_law_hundred :
    Derivable 60 100 10 50 ∧ deriveGpuMemoryUtilization 60 100 10 50 = .ok (40 / 100) ∧
      ∃ u, deriveGpuMemoryUtilization 60 100 10 50 = .ok u ∧ (30 / 100 : ℚ) ≤ u := by
  have h : Derivable 60 100 10 50 := ⟨by decide, by decide, by decide, by decide, by decide⟩
  have hlater : deriveGpuMemoryUtilization 60 100 10 60 = .ok (30 / 100) :=
    (deriveGpuMemoryUtilization_eq_ok { h with peak_nonneg := by decide }).mpr
      ⟨by decide, by norm_num [wholePercents, allocatableBytes]⟩
  refine ⟨h, ?_, (utilization_law h).2.2.2.2 60 (by decide) _ hlater⟩
  exact (deriveGpuMemoryUtilization_eq_ok h).mpr ⟨by decide, by norm_num [wholePercents, allocatableBytes]⟩

/-! ## Several devices -/

section devices

variable {readings : List DeviceReading} {stdout stderr : List Char}

/-- The measurement of a driver that was read. -/
theorem measureGpuMemory_eq (measuredAt : String) (hread : readingsOf stdout ≠ []) :
    measureGpuMemory measuredAt (.ok (0, stdout, stderr)) = measurementOf measuredAt (readingsOf stdout) := by
  unfold measureGpuMemory
  dsimp only
  rw [if_neg (by simp), if_neg hread]

/-- Sums over sound readings are figures of one sound device. -/
theorem measurementOf_sound (measuredAt : String) (hsound : ∀ d ∈ readings, d.Sound) :
    0 ≤ (measurementOf measuredAt readings).freeBytes ∧
      (measurementOf measuredAt readings).freeBytes ≤ (measurementOf measuredAt readings).totalBytes ∧
      (readings ≠ [] → 0 < (measurementOf measuredAt readings).totalBytes) := by
  simp only [measurementOf]
  induction readings with
  | nil => simp
  | cons d readings ih =>
      rw [List.forall_mem_cons] at hsound
      obtain ⟨hfree, hle, -⟩ := ih hsound.2
      obtain ⟨hd, hd', hpos⟩ := hsound.1
      simp only [List.map_cons, List.sum_cons]
      have htotal : 0 < d.total * mibBytes := mul_pos hpos (by decide)
      have hfree' : 0 ≤ d.free * mibBytes := mul_nonneg hd (by decide)
      have hle' : d.free * mibBytes ≤ d.total * mibBytes := mul_le_mul_of_nonneg_right hd' (by decide)
      exact ⟨by omega, by omega, fun _ => by omega⟩

/-- What can be allocated of the devices together, under the arguments of the entry point. -/
def VramArguments.allocatable (arguments : VramArguments) (measurement : GpuMemoryMeasurement) : Int :=
  allocatableBytes measurement.freeBytes measurement.totalBytes (arguments.reserveMib * mibBytes)
    (arguments.residentPeakMib * mibBytes)

/-- What the entry point prints: the whole percents of what can be allocated of the devices together. -/
theorem vramMain_stdout (arguments : VramArguments) (measuredAt : String) (hne : readings ≠ [])
    (hsound : ∀ d ∈ readings, d.Sound) {u : ℚ} :
    (vramMain arguments (measurementOf measuredAt readings)).stdout = some u ↔
      0 ≤ arguments.reserveMib ∧ 0 ≤ arguments.residentPeakMib ∧
        0 < wholePercents (arguments.allocatable (measurementOf measuredAt readings))
          (measurementOf measuredAt readings).totalBytes ∧
        u = (wholePercents (arguments.allocatable (measurementOf measuredAt readings))
          (measurementOf measuredAt readings).totalBytes : ℚ) / 100 := by
  obtain ⟨hfree, hle, hpos⟩ := measurementOf_sound measuredAt hsound
  have hok : (measurementOf measuredAt readings).ok = true := rfl
  generalize measurementOf measuredAt readings = m at hfree hle hpos hok ⊢
  have hmib : (0 : Int) < mibBytes := by decide
  unfold vramMain
  rw [if_neg (by simp [hok])]
  by_cases hargs : 0 ≤ arguments.reserveMib ∧ 0 ≤ arguments.residentPeakMib
  · have hderivable : Derivable m.freeBytes m.totalBytes (arguments.reserveMib * mibBytes)
        (arguments.residentPeakMib * mibBytes) :=
      ⟨hfree, hle, hpos hne, mul_nonneg hargs.1 hmib.le, mul_nonneg hargs.2 hmib.le⟩
    have hprints := deriveGpuMemoryUtilization_eq_ok hderivable (u := u)
    rw [and_iff_right hargs.1, and_iff_right hargs.2, VramArguments.allocatable, ← hprints]
    cases deriveGpuMemoryUtilization m.freeBytes m.totalBytes (arguments.reserveMib * mibBytes)
      (arguments.residentPeakMib * mibBytes) <;> simp
  · -- a negative reserve or peak is refused
    have hneg : arguments.reserveMib * mibBytes < 0 ∨ arguments.residentPeakMib * mibBytes < 0 := by
      rw [not_and_or, not_le, not_le] at hargs
      exact hargs.imp (mul_neg_of_neg_of_pos · hmib) (mul_neg_of_neg_of_pos · hmib)
    rw [deriveGpuMemoryUtilization, if_pos (by tauto)]
    constructor
    · intro hc
      cases hc
    · exact fun h => absurd ⟨h.1, h.2.1⟩ hargs

/-- The share of a device that whole percents of it make is free on it exactly when they are at most the
whole percents that are free. -/
theorem share_le_free_iff {d : DeviceReading} (hpos : 0 < d.total) (k : Int) :
    (k : ℚ) / 100 * (d.total * mibBytes : Int) ≤ (d.free * mibBytes : Int) ↔
      k ≤ wholePercents d.free d.total := by
  have hmib : (0 : ℚ) < (mibBytes : Int) := by exact_mod_cast (by decide : (0 : Int) < mibBytes)
  have hscale : (k : ℚ) / 100 * (d.total * mibBytes : Int) = (k * d.total : Int) / 100 * (mibBytes : Int) := by
    push_cast
    ring
  rw [le_wholePercents_iff hpos, hscale, Int.cast_mul d.free, mul_le_mul_iff_left₀ hmib, div_le_iff₀ (by norm_num),
    mul_comm (100 : Int)]
  constructor
  · intro hle
    exact_mod_cast hle
  · intro hle
    exact_mod_cast hle

/-- **When the printed fraction is free on every device**: exactly when, unless the arguments are refused,
what can be allocated of the devices together is less of their total than the free whole percents of each
device and one more. -/
theorem utilization_per_device_iff (arguments : VramArguments) (measuredAt : String)
    (hread : readingsOf stdout ≠ []) (hsound : ∀ d ∈ readingsOf stdout, d.Sound) :
    (∀ u, (vramMain arguments (measureGpuMemory measuredAt (.ok (0, stdout, stderr)))).stdout = some u →
      ∀ d ∈ readingsOf stdout, u * (d.total * mibBytes : Int) ≤ (d.free * mibBytes : Int)) ↔
    (0 ≤ arguments.reserveMib → 0 ≤ arguments.residentPeakMib → ∀ d ∈ readingsOf stdout,
      100 * arguments.allocatable (measurementOf measuredAt (readingsOf stdout)) <
        (wholePercents d.free d.total + 1) * (measurementOf measuredAt (readingsOf stdout)).totalBytes) := by
  rw [measureGpuMemory_eq measuredAt hread]
  have hpos := (measurementOf_sound measuredAt hsound).2.2 hread
  have hlt (d : DeviceReading) : 100 * arguments.allocatable (measurementOf measuredAt (readingsOf stdout)) <
      (wholePercents d.free d.total + 1) * (measurementOf measuredAt (readingsOf stdout)).totalBytes ↔
        wholePercents (arguments.allocatable (measurementOf measuredAt (readingsOf stdout)))
          (measurementOf measuredAt (readingsOf stdout)).totalBytes ≤ wholePercents d.free d.total := by
    rw [← Int.ediv_lt_iff_lt_mul hpos, ← Int.lt_add_one_iff]
    rfl
  constructor
  · intro hprinted hreserve hpeak d hd
    rw [hlt]
    by_cases hk : 0 < wholePercents (arguments.allocatable (measurementOf measuredAt (readingsOf stdout)))
        (measurementOf measuredAt (readingsOf stdout)).totalBytes
    · have hu := (vramMain_stdout arguments measuredAt hread hsound).mpr ⟨hreserve, hpeak, hk, rfl⟩
      exact (share_le_free_iff (hsound d hd).total_pos _).mp (hprinted _ hu d hd)
    · -- nothing is printed, and no device has less than nothing free
      have hfree : 0 ≤ wholePercents d.free d.total :=
        Int.ediv_nonneg (mul_nonneg (by decide) (hsound d hd).free_nonneg) (hsound d hd).total_pos.le
      exact (not_lt.mp hk).trans hfree
  · intro hshare u hu d hd
    obtain ⟨hreserve, hpeak, -, rfl⟩ := (vramMain_stdout arguments measuredAt hread hsound).mp hu
    exact (share_le_free_iff (hsound d hd).total_pos _).mpr ((hlt d).mp (hshare hreserve hpeak d hd))

end devices

/-- One device of a hundred MiB, eighty of them free, and no reserve: eighty percents are printed, and they
are free. -/
theorem utilization_per_device_one :
    readingsOf "0, 100, 80, 20\n".toList = [⟨0, 100, 80, 20⟩] ∧
      ∀ u, (vramMain { reserveMib := 0 } (measureGpuMemory "now" (.ok (0, "0, 100, 80, 20\n".toList, [])))).stdout
        = some u → ∀ d ∈ readingsOf "0, 100, 80, 20\n".toList,
          u * (d.total * mibBytes : Int) ≤ (d.free * mibBytes : Int) := by
  have hread : readingsOf "0, 100, 80, 20\n".toList = [⟨0, 100, 80, 20⟩] := by decide
  refine ⟨hread, (utilization_per_device_iff _ _ (by rw [hread]; simp) ?_).mpr ?_⟩
  · rw [hread, List.forall_mem_singleton]
    exact ⟨by decide, by decide, by decide⟩
  · rw [hread]
    decide

/-- **A fraction that the second device cannot satisfy**: of two devices of a hundred MiB the first is free
and the second has twenty left; sixty percents are printed. -/
theorem pooled_fraction_exceeds_device :
    readingsOf "0, 100, 100, 0\n1, 100, 20, 80\n".toList = [⟨0, 100, 100, 0⟩, ⟨1, 100, 20, 80⟩] ∧
      (vramMain { reserveMib := 0 } (measureGpuMemory "now"
        (.ok (0, "0, 100, 100, 0\n1, 100, 20, 80\n".toList, [])))).stdout = some (60 / 100) ∧
      ¬ (60 / 100 : ℚ) * ((100 * mibBytes : Int) : ℚ) ≤ ((20 * mibBytes : Int) : ℚ) := by
  have hread : readingsOf "0, 100, 100, 0\n1, 100, 20, 80\n".toList =
      [⟨0, 100, 100, 0⟩, ⟨1, 100, 20, 80⟩] := by decide
  have hpercents : wholePercents
      (VramArguments.allocatable { reserveMib := 0 }
        (measurementOf "now" [⟨0, 100, 100, 0⟩, ⟨1, 100, 20, 80⟩]))
      (measurementOf "now" [⟨0, 100, 100, 0⟩, ⟨1, 100, 20, 80⟩]).totalBytes = 60 := by decide
  refine ⟨hread, ?_, by norm_num [mibBytes]⟩
  rw [measureGpuMemory_eq _ (by rw [hread]; simp), hread, vramMain_stdout _ _ (by simp) ?_, hpercents]
  · exact ⟨by decide, by decide, by decide, by norm_num⟩
  · simp only [List.forall_mem_cons, List.not_mem_nil, false_implies, implies_true, and_true]
    exact ⟨⟨by decide, by decide, by decide⟩, ⟨by decide, by decide, by decide⟩⟩

end Lmrs
