import Lmrs.GpuMemory
import Lmrs.Lib.Untyped

/-!
# What a reading of the driver comes to

Source: `lmrs/vram.py`, `measure_gpu_memory`, with what it may raise.

The query is run by a function that answers or raises. A line of the answer is a device when its fields are four
integers; any other line is passed over.

* `measureGpuMemoryExcept_eq`: the reading raises nothing of its own, but for a status whose text is too long.
* `read_iff`: the devices are those of the lines, in order, and no others.
* `readingsOf_csvText`: of the printed readings those come back whose figures can be converted.
* `measurement_law`: what is returned on every behaviour of the function that runs the query.
-/

namespace Lmrs

open Python

/-! ## The reading, with what it raises -/

/-- What running the query comes to: an answer, an exception of the class `Exception`, or one beside that class,
which no handler of the code takes. -/
inductive RunnerOutcome where
  | answered (status : Int) (stdout stderr : List Char)
  | raised (exc : PyException)
  | escaped (exc : PyException)

/-- The text a failed query is reported with: the error output, or the output. -/
def reportedText (stdout stderr : List Char) : List Char :=
  strip (if stderr ≠ [] then stderr else stdout)

/-- The integers of four fields. -/
def intFields (fields : List (List Char)) : Except PyException DeviceReading := do
  match ← fields.mapM fun field => intOfString (String.ofList field) with
  | [index, total, free, used] => return ⟨index, total, free, used⟩
  | figures => .error (valueError ("expected 4 values, got " ++ toString figures.length))

/-- One turn of the loop over the lines. -/
def appendDevice (devices : List (Dict Int)) (line : List Char) : Except PyException (List (Dict Int)) :=
  let fields := (splitOn ',' line).map strip
  if fields.length ≠ 4 then .ok devices
  else
    match intFields fields with
    | .ok reading => .ok (devices ++ [reading.device])
    | .error exc => if exc.kind = "ValueError" then .ok devices else .error exc

/-- `device[key]`. -/
def deviceFigure (device : Dict Int) (key : String) : Except PyException Int :=
  match Dict.get? device key with
  | some figure => .ok figure
  | none => .error ⟨"KeyError", "'" ++ key ++ "'"⟩

/-- `sum(int(device[key]) for device in devices)`. -/
def sumOver (devices : List (Dict Int)) (key : String) : Except PyException Int := do
  let figures ← devices.mapM fun device => deviceFigure device key
  return figures.sum

/-- Source: `vram.py`, `measure_gpu_memory`, with what it raises. -/
def measureGpuMemoryExcept (measuredAt : String) (outcome : RunnerOutcome) :
    Except PyException GpuMemoryMeasurement :=
  match outcome with
  | .escaped exc => .error exc
  | .raised exc => .ok { ok := false, measuredAt, error := some (exc.kind ++ ": " ++ exc.message) }
  | .answered status stdout stderr =>
      if status ≠ 0 then
        if reportedText stdout stderr ≠ [] then
          .ok { ok := false, measuredAt, error := some (String.ofList (reportedText stdout stderr)) }
        else do
          let text ← strOfInt status
          return { ok := false, measuredAt, error := some ("nvidia-smi exited with " ++ text) }
      else do
        let devices ← (splitLines stdout).foldlM appendDevice []
        if devices = [] then
          return { ok := false, measuredAt, error := some "nvidia-smi reported no devices" }
        else
          let totalBytes ← sumOver devices "total_bytes"
          let freeBytes ← sumOver devices "free_bytes"
          let usedBytes ← sumOver devices "used_bytes"
          return { ok := true, totalBytes, freeBytes, usedBytes, devices, measuredAt }

/-! ## What a line says -/

/-- A line of four fields between commas, each the text of an integer, with white space around it or not. -/
def ParsesAs (line : List Char) (d : DeviceReading) : Prop :=
  ∃ index total free used : List Char,
    line = index ++ ',' :: (total ++ ',' :: (free ++ ',' :: used)) ∧
    (',' ∉ index ∧ ',' ∉ total ∧ ',' ∉ free ∧ ',' ∉ used) ∧
    intOfString (String.ofList (strip index)) = .ok d.index ∧
    intOfString (String.ofList (strip total)) = .ok d.total ∧
    intOfString (String.ofList (strip free)) = .ok d.free ∧
    intOfString (String.ofList (strip used)) = .ok d.used

/-- The devices of some lines: of each line that says one, in order, and of no other. -/
inductive Read : List (List Char) → List DeviceReading → Prop
  | none : Read [] []
  | device {line : List Char} {lines : List (List Char)} {d : DeviceReading} {readings : List DeviceReading}
      (h : ParsesAs line d) (hrest : Read lines readings) : Read (line :: lines) (d :: readings)
  | other {line : List Char} {lines : List (List Char)} {readings : List DeviceReading}
      (h : ∀ d, ¬ ParsesAs line d) (hrest : Read lines readings) : Read (line :: lines) readings

namespace RunnerOutcome

/-- The devices an outcome says: those of the output, where the status is zero. -/
def Says : RunnerOutcome → List DeviceReading → Prop
  | answered status stdout _, readings => if status = 0 then Read (splitLines stdout) readings else readings = []
  | _, readings => readings = []

/-- What can be reported: not an exception beside the class `Exception`, and no status whose text is too long
where there is nothing else to report. -/
def Reportable : RunnerOutcome → Prop
  | answered status stdout stderr => status = 0 ∨ reportedText stdout stderr ≠ [] ∨ Convertible status
  | raised _ => True
  | escaped _ => False

end RunnerOutcome

/-- A measurement of some devices: it succeeded if there are any, and it has them and their sums. -/
structure Measures (m : GpuMemoryMeasurement) (readings : List DeviceReading) : Prop where
  ok_iff : m.ok = true ↔ readings ≠ []
  devices : m.devices = readings.map DeviceReading.device
  totalBytes : m.totalBytes = (readings.map fun d => d.total * mibBytes).sum
  freeBytes : m.freeBytes = (readings.map fun d => d.free * mibBytes).sum
  usedBytes : m.usedBytes = (readings.map fun d => d.used * mibBytes).sum

namespace DeviceReading

/-- The line of a device, as the query asks for it. -/
def csvLine (d : DeviceReading) : List Char :=
  (toString d.index ++ ", " ++ toString d.total ++ ", " ++ toString d.free ++ ", " ++ toString d.used).toList

/-- The figures of a device have no more digits than are converted. -/
def Convertible (d : DeviceReading) : Prop :=
  Python.Convertible d.index ∧ Python.Convertible d.total ∧ Python.Convertible d.free ∧ Python.Convertible d.used

instance (d : DeviceReading) : Decidable d.Convertible := inferInstanceAs (Decidable (_ ∧ _))

end DeviceReading

/-- The printed readings, one on a line. -/
def csvText (readings : List DeviceReading) : List Char :=
  readings.flatMap fun d => d.csvLine ++ ['\n']

/-! ## Lines -/

section lines

variable {line : List Char} {lines : List (List Char)} {d : DeviceReading} {readings : List DeviceReading}

/-- A line is read as a device when its fields are four integers. -/
theorem ofLine_eq_some : DeviceReading.ofLine line = some d ↔
    (splitOn ',' line).map (fun field => intOfString (String.ofList (strip field))) =
      [.ok d.index, .ok d.total, .ok d.free, .ok d.used] := by
  unfold DeviceReading.ofLine
  split
  · next index total free used heq =>
      rw [heq]
      cases d
      simp
  · next hother =>
      constructor
      · intro h
        cases h
      · intro heq
        exact absurd heq (hother _ _ _ _)

/-- A line of four fields. -/
theorem splitOn_eq_four {index total free used : List Char} :
    splitOn ',' line = [index, total, free, used] ↔
      line = index ++ ',' :: (total ++ ',' :: (free ++ ',' :: used)) ∧
        (',' ∉ index ∧ ',' ∉ total ∧ ',' ∉ free ∧ ',' ∉ used) := by
  rw [splitOn_eq_iff]
  simp [List.intercalate]

/-- **A line is read as the device it says**, and as none when it says none. -/
theorem ofLine_eq_some_iff : DeviceReading.ofLine line = some d ↔ ParsesAs line d := by
  rw [ofLine_eq_some]
  constructor
  · intro h
    simp only [List.map_eq_cons_iff, List.map_eq_nil_iff] at h
    obtain ⟨index, fields, heq, hindex, total, fields', rfl, htotal, free, fields'', rfl, hfree, used, rest, rfl,
      hused, rfl⟩ := h
    obtain ⟨hline, hcommas⟩ := splitOn_eq_four.mp heq
    exact ⟨index, total, free, used, hline, hcommas, hindex, htotal, hfree, hused⟩
  · rintro ⟨index, total, free, used, hline, hcommas, hindex, htotal, hfree, hused⟩
    rw [splitOn_eq_four.mpr ⟨hline, hcommas⟩]
    simp only [List.map_cons, List.map_nil, hindex, htotal, hfree, hused]

/-- **The devices of some lines** are those read off them, in order. -/
theorem read_iff : Read lines readings ↔ lines.filterMap DeviceReading.ofLine = readings := by
  constructor
  · intro h
    induction h with
    | none => rfl
    | device h hrest ih => rw [List.filterMap_cons_some (ofLine_eq_some_iff.mpr h), ih]
    | @other line lines readings h hrest ih =>
        have hnone : DeviceReading.ofLine line = none := by
          rw [Option.eq_none_iff_forall_ne_some]
          exact fun d hd => h d (ofLine_eq_some_iff.mp hd)
        rw [List.filterMap_cons_none hnone, ih]
  · rintro rfl
    induction lines with
    | nil => exact .none
    | cons line lines ih =>
        cases hline : DeviceReading.ofLine line with
        | none =>
            rw [List.filterMap_cons_none hline]
            refine .other (fun d hd => ?_) ih
            rw [ofLine_eq_some_iff.mpr hd] at hline
            cases hline
        | some d =>
            rw [List.filterMap_cons_some hline]
            exact .device (ofLine_eq_some_iff.mp hline) ih

/-- The integers of fields, one after the other. -/
theorem mapM_fields {fields : List (List Char)} {figures : List Int} :
    fields.mapM (fun field => intOfString (String.ofList field)) = .ok figures ↔
      fields.map (fun field => intOfString (String.ofList field)) = figures.map .ok := by
  rw [mapM_eq_ok_iff]
  induction fields generalizing figures with
  | nil => cases figures <;> simp
  | cons field fields ih => cases figures <;> simp [ih]

/-- Four fields are read where each is an integer. -/
theorem intFields_eq_ok {fields : List (List Char)} : intFields fields = .ok d ↔
    fields.map (fun field => intOfString (String.ofList field)) =
      [.ok d.index, .ok d.total, .ok d.free, .ok d.used] := by
  unfold intFields
  rw [bind_eq_ok]
  constructor
  · rintro ⟨figures, hread, hfour⟩
    split at hfour
    · cases hfour
      exact mapM_fields.mp hread
    · cases hfour
  · intro h
    exact ⟨[d.index, d.total, d.free, d.used], mapM_fields.mpr h, rfl⟩

/-- Fields that are not read raise the class the loop passes over. -/
theorem intFields_raises (fields : List (List Char)) : OnlyRaises "ValueError" (intFields fields) := by
  unfold intFields
  refine OnlyRaises.bind_of_ok (OnlyRaises.mapM fun before field after _ _ => intOfString_raises _) ?_
  intro figures _ exc h
  split at h
  · cases h
  · cases h
    rfl

/-- **A turn of the loop**: the device of the line is appended, where the line says one. -/
theorem appendDevice_eq (devices : List (Dict Int)) (line : List Char) :
    appendDevice devices line = .ok (devices ++ (DeviceReading.ofLine line).toList.map DeviceReading.device) := by
  have hmap : (splitOn ',' line).map (fun field => intOfString (String.ofList (strip field))) =
      ((splitOn ',' line).map strip).map fun field => intOfString (String.ofList field) := by
    rw [List.map_map]
    rfl
  have hread (d : DeviceReading) : intFields ((splitOn ',' line).map strip) = .ok d ↔
      DeviceReading.ofLine line = some d := by
    rw [intFields_eq_ok, ofLine_eq_some, hmap]
  unfold appendDevice
  dsimp only
  split_ifs with hlength
  · -- a line of other than four fields says no device
    have hnone : DeviceReading.ofLine line = none := by
      rw [Option.eq_none_iff_forall_ne_some]
      intro d hd
      have hfour := congrArg List.length (ofLine_eq_some.mp hd)
      simp only [List.length_map, List.length_cons, List.length_nil] at hfour hlength
      omega
    simp [hnone]
  · cases hfields : intFields ((splitOn ',' line).map strip) with
    | ok d => simp [(hread d).mp hfields]
    | error exc =>
        have hnone : DeviceReading.ofLine line = none := by
          rw [Option.eq_none_iff_forall_ne_some]
          intro d hd
          rw [(hread d).mpr hd] at hfields
          cases hfields
        simp [hnone, intFields_raises _ exc hfields]

/-- **The loop**: the devices of the lines are appended, in order. -/
theorem foldlM_appendDevice (devices : List (Dict Int)) (lines : List (List Char)) :
    lines.foldlM appendDevice devices =
      .ok (devices ++ (lines.filterMap DeviceReading.ofLine).map DeviceReading.device) := by
  induction lines generalizing devices with
  | nil => simp [pure, Except.pure]
  | cons line lines ih =>
      rw [List.foldlM_cons, appendDevice_eq]
      cases hline : DeviceReading.ofLine line with
      | none => simp [ih, bind, Except.bind, hline]
      | some d => simp [ih, bind, Except.bind, hline]

end lines

/-! ## Sums -/

/-- The sum of a figure every device has. -/
theorem sumOver_devices {key : String} {figure : DeviceReading → Int}
    (h : ∀ d : DeviceReading, Dict.get? d.device key = some (figure d)) (readings : List DeviceReading) :
    sumOver (readings.map DeviceReading.device) key = .ok (readings.map figure).sum := by
  have hread : (readings.map DeviceReading.device).mapM (fun device => deviceFigure device key) =
      .ok (readings.map figure) := by
    rw [mapM_eq_ok_iff, List.forall₂_map_left_iff, List.forall₂_map_right_iff, List.forall₂_same]
    intro d _
    unfold deviceFigure
    rw [h]
  unfold sumOver
  rw [hread]
  rfl

/-! ## The whole reading -/

namespace RunnerOutcome

/-- What came back of the query, whichever exception it was. -/
def result : RunnerOutcome → Except PyException (Int × List Char × List Char)
  | answered status stdout stderr => .ok (status, stdout, stderr)
  | raised exc => .error exc
  | escaped exc => .error exc

end RunnerOutcome

section reading

variable {measuredAt : String} {outcome : RunnerOutcome} {readings : List DeviceReading}

/-- The reading of an answer with status zero. -/
theorem measureGpuMemoryExcept_of_zero (measuredAt : String) (stdout stderr : List Char) :
    measureGpuMemoryExcept measuredAt (.answered 0 stdout stderr) =
      .ok (measureGpuMemory measuredAt (.ok (0, stdout, stderr))) := by
  unfold measureGpuMemoryExcept measureGpuMemory
  dsimp only
  rw [if_neg (by simp), if_neg (by simp), foldlM_appendDevice, List.nil_append]
  by_cases hread : readingsOf stdout = []
  · have hnone : (splitLines stdout).filterMap DeviceReading.ofLine = [] := hread
    rw [if_pos hread, hnone]
    rfl
  · have hsome : ((splitLines stdout).filterMap DeviceReading.ofLine).map DeviceReading.device ≠ [] :=
      mt List.map_eq_nil_iff.mp hread
    simp only [bind, Except.bind, if_neg hread, if_neg hsome]
    rw [sumOver_devices (fun d => rfl), sumOver_devices (fun d => rfl), sumOver_devices (fun d => rfl)]
    rfl

/-- The reading of an answer with another status: its report, where there is one. -/
theorem measureGpuMemoryExcept_of_ne {status : Int} (hstatus : status ≠ 0) (stdout stderr : List Char) :
    measureGpuMemoryExcept measuredAt (.answered status stdout stderr) =
      if reportedText stdout stderr ≠ [] ∨ Convertible status then
        .ok (measureGpuMemory measuredAt (.ok (status, stdout, stderr)))
      else .error (valueError "Exceeds the limit (4300 digits) for integer string conversion") := by
  have hreport : measureGpuMemory measuredAt (.ok (status, stdout, stderr)) =
      { ok := false, measuredAt
        error := some (if reportedText stdout stderr ≠ [] then String.ofList (reportedText stdout stderr)
          else "nvidia-smi exited with " ++ toString status) } := if_pos hstatus
  unfold measureGpuMemoryExcept
  dsimp only
  rw [if_pos hstatus, hreport]
  by_cases hreported : reportedText stdout stderr ≠ []
  · rw [if_pos hreported, if_pos (Or.inl hreported), if_pos hreported]
  · rw [if_neg hreported, if_neg hreported]
    unfold strOfInt
    by_cases hconvertible : Convertible status
    · rw [if_pos hconvertible, if_pos (Or.inr hconvertible)]
      rfl
    · rw [if_neg hconvertible, if_neg (not_or.mpr ⟨hreported, hconvertible⟩)]
      rfl

/-- **The reading raises nothing of its own**: what can be reported is returned. -/
theorem measureGpuMemoryExcept_eq (h : outcome.Reportable) :
    measureGpuMemoryExcept measuredAt outcome = .ok (measureGpuMemory measuredAt outcome.result) := by
  cases outcome with
  | raised exc => rfl
  | escaped exc => exact absurd h id
  | answered status stdout stderr =>
      by_cases hstatus : status = 0
      · rw [hstatus]
        exact measureGpuMemoryExcept_of_zero measuredAt stdout stderr
      · rw [measureGpuMemoryExcept_of_ne hstatus, if_pos (Or.resolve_left h hstatus)]
        rfl

/-- What cannot be reported raises. -/
theorem measureGpuMemoryExcept_error (h : ¬ outcome.Reportable) :
    ∃ exc, measureGpuMemoryExcept measuredAt outcome = .error exc := by
  cases outcome with
  | raised exc => exact absurd trivial h
  | escaped exc => exact ⟨exc, rfl⟩
  | answered status stdout stderr =>
      obtain ⟨hstatus, hreport⟩ := not_or.mp h
      rw [measureGpuMemoryExcept_of_ne hstatus, if_neg hreport]
      exact ⟨_, rfl⟩

/-- **What is returned** is returned of what can be reported. -/
theorem measureGpuMemoryExcept_eq_ok {m : GpuMemoryMeasurement} :
    measureGpuMemoryExcept measuredAt outcome = .ok m ↔
      outcome.Reportable ∧ m = measureGpuMemory measuredAt outcome.result := by
  constructor
  · intro hm
    by_cases h : outcome.Reportable
    · rw [measureGpuMemoryExcept_eq h] at hm
      cases hm
      exact ⟨h, rfl⟩
    · obtain ⟨exc, hexc⟩ := measureGpuMemoryExcept_error h
      rw [hexc] at hm
      cases hm
  · rintro ⟨h, rfl⟩
    exact measureGpuMemoryExcept_eq h

/-- Every outcome says some devices. -/
theorem exists_says (outcome : RunnerOutcome) : ∃ readings, outcome.Says readings := by
  cases outcome with
  | raised exc => exact ⟨[], rfl⟩
  | escaped exc => exact ⟨[], rfl⟩
  | answered status stdout stderr =>
      unfold RunnerOutcome.Says
      by_cases hstatus : status = 0
      · exact ⟨_, (if_pos hstatus).mpr (read_iff.mpr rfl)⟩
      · exact ⟨[], (if_neg hstatus).mpr rfl⟩

/-- Devices are said exactly by an answer with status zero, one line of which says one. -/
theorem says_ne_nil_iff (h : outcome.Says readings) :
    readings ≠ [] ↔ ∃ stdout stderr, outcome = .answered 0 stdout stderr ∧
      ∃ line ∈ splitLines stdout, ∃ d, ParsesAs line d := by
  have hnothing (hempty : readings = []) (hnone : ∀ stdout stderr, outcome ≠ .answered 0 stdout stderr) :
      readings ≠ [] ↔ ∃ stdout stderr, outcome = .answered 0 stdout stderr ∧
        ∃ line ∈ splitLines stdout, ∃ d, ParsesAs line d :=
    iff_of_false (not_not_intro hempty) fun ⟨stdout, stderr, heq, _⟩ => hnone stdout stderr heq
  cases outcome with
  | raised exc => exact hnothing h (by simp)
  | escaped exc => exact hnothing h (by simp)
  | answered status stdout stderr =>
      simp only [RunnerOutcome.Says] at h
      split_ifs at h with hstatus
      · rw [read_iff] at h
        rw [← h, Ne, List.filterMap_eq_nil_iff, hstatus]
        simp only [← ofLine_eq_some_iff, ← Option.ne_none_iff_exists']
        constructor
        · intro hsome
          simp only [not_forall] at hsome
          obtain ⟨line, hline, hd⟩ := hsome
          exact ⟨stdout, stderr, rfl, line, hline, hd⟩
        · rintro ⟨stdout', stderr', heq, line, hline, hsome⟩ hnone
          cases heq
          exact hsome (hnone line hline)
      · refine hnothing h fun stdout' stderr' heq => ?_
        cases heq
        exact hstatus rfl

/-- A measurement that failed is of no devices. -/
theorem measures_failed (measuredAt : String) (error : Option String) :
    Measures { ok := false, measuredAt, error } [] :=
  ⟨by simp, rfl, rfl, rfl, rfl⟩

/-- **What is measured**: the devices that are said. -/
theorem measures_of_says (measuredAt : String) (h : outcome.Says readings) :
    Measures (measureGpuMemory measuredAt outcome.result) readings := by
  cases outcome with
  | raised exc =>
      obtain rfl : readings = [] := h
      exact measures_failed measuredAt _
  | escaped exc =>
      obtain rfl : readings = [] := h
      exact measures_failed measuredAt _
  | answered status stdout stderr =>
      simp only [RunnerOutcome.Says] at h
      split_ifs at h with hstatus
      · obtain rfl : readingsOf stdout = readings := read_iff.mp h
        rw [hstatus, RunnerOutcome.result]
        by_cases hread : readingsOf stdout = []
        · have hmeasured : measureGpuMemory measuredAt (.ok (0, stdout, stderr)) =
              { ok := false, measuredAt, error := some "nvidia-smi reported no devices" } := if_pos hread
          rw [hmeasured, hread]
          exact measures_failed measuredAt _
        · rw [measureGpuMemory_eq measuredAt hread]
          exact ⟨by simp [hread, measurementOf], rfl, rfl, rfl, rfl⟩
      · obtain rfl : readings = [] := h
        have hmeasured : ∃ error, measureGpuMemory measuredAt (.ok (status, stdout, stderr)) =
            { ok := false, measuredAt, error } := ⟨_, if_pos hstatus⟩
        obtain ⟨error, hmeasured⟩ := hmeasured
        rw [RunnerOutcome.result, hmeasured]
        exact measures_failed measuredAt error

end reading

/-! ## Printed readings -/

section printed

variable {readings : List DeviceReading}

/-- The printed line of a device, field by field. -/
theorem splitOn_csvLine (d : DeviceReading) : splitOn ',' d.csvLine =
    [(toString d.index).toList, ' ' :: (toString d.total).toList, ' ' :: (toString d.free).toList,
      ' ' :: (toString d.used).toList] := by
  have hcomma (n : Int) : ',' ∉ (toString n).toList := fun hmem => (toString_facts n ',' hmem).2.2 rfl
  have hblank (n : Int) : ',' ∉ ' ' :: (toString n).toList := List.not_mem_cons_of_ne_of_not_mem (by decide) (hcomma n)
  rw [splitOn_eq_four]
  refine ⟨?_, hcomma _, hblank _, hblank _, hblank _⟩
  simp [DeviceReading.csvLine, String.toList_append]

/-- **A printed line is read as its device**, if the figures can be converted. -/
theorem ofLine_csvLine (d : DeviceReading) :
    DeviceReading.ofLine d.csvLine = if d.Convertible then some d else none := by
  have hfirst (n : Int) : strip (toString n).toList = (toString n).toList :=
    strip_of_no_space fun c hc => (toString_facts n c hc).1
  have hother (n : Int) : strip (' ' :: (toString n).toList) = (toString n).toList := by
    have hblank : ∀ c ∈ [' '], isSpace c = true := List.forall_mem_singleton.mpr rfl
    have hnone : ∀ c ∈ ([] : List Char), isSpace c = true := by simp
    simpa using strip_field hblank (fun c hc => (toString_facts n c hc).1) hnone
  have hread (n : Int) : intOfString (String.ofList (toString n).toList) = if Convertible n then .ok n
      else .error (valueError "Exceeds the limit (4300 digits) for integer string conversion") := by
    apply intOfString_toString
    rw [String.toList_ofList, hfirst]
  have hconvertible {n m : Int} (h : (if Convertible n then .ok n
      else .error (valueError "Exceeds the limit (4300 digits) for integer string conversion")) =
        (.ok m : Except PyException Int)) : Convertible n := by
    by_contra hn
    rw [if_neg hn] at h
    cases h
  by_cases h : d.Convertible
  · obtain ⟨hindex, htotal, hfree, hused⟩ := h
    rw [if_pos ⟨hindex, htotal, hfree, hused⟩, ofLine_eq_some, splitOn_csvLine]
    simp only [List.map_cons, List.map_nil, hfirst, hother, hread, if_pos hindex, if_pos htotal, if_pos hfree,
      if_pos hused]
  · rw [if_neg h, Option.eq_none_iff_forall_ne_some]
    intro d' hd'
    rw [ofLine_eq_some, splitOn_csvLine] at hd'
    simp only [List.map_cons, List.map_nil, hfirst, hother, hread, List.cons.injEq, and_true] at hd'
    obtain ⟨hindex, htotal, hfree, hused⟩ := hd'
    exact h ⟨hconvertible hindex, hconvertible htotal, hconvertible hfree, hconvertible hused⟩

/-- The lines of the printed readings. -/
theorem splitLines_csvText (readings : List DeviceReading) :
    splitLines (csvText readings) = readings.map DeviceReading.csvLine := by
  have hseparator : ∀ c ∈ ", ".toList, c ∉ lineBoundaries := by simp [lineBoundaries]
  have hline (d : DeviceReading) : ∀ c ∈ d.csvLine, c ∉ lineBoundaries := by
    intro c hc
    have htext (n : Int) (hmem : c ∈ (toString n).toList) : c ∉ lineBoundaries := (toString_facts n c hmem).2.1
    simp only [DeviceReading.csvLine, String.toList_append, List.mem_append] at hc
    rcases hc with (((((h | h) | h) | h) | h) | h) | h
    · exact htext _ h
    · exact hseparator c h
    · exact htext _ h
    · exact hseparator c h
    · exact htext _ h
    · exact hseparator c h
    · exact htext _ h
  induction readings with
  | nil => rfl
  | cons d readings ih =>
      have htext : csvText (d :: readings) = d.csvLine ++ '\n' :: csvText readings := by
        simp [csvText]
      rw [htext, splitLines_cons_line (hline d), ih, List.map_cons]

/-- **Of the printed readings those come back whose figures can be converted**, in order. -/
theorem readingsOf_csvText (readings : List DeviceReading) :
    readingsOf (csvText readings) = readings.filter fun d => decide d.Convertible := by
  unfold readingsOf
  rw [splitLines_csvText, List.filterMap_map]
  induction readings with
  | nil => rfl
  | cons d readings ih =>
      by_cases h : d.Convertible
      · rw [List.filterMap_cons_some, ih, List.filter_cons_of_pos (by simpa using h)]
        rw [Function.comp_apply, ofLine_csvLine, if_pos h]
      · rw [List.filterMap_cons_none, ih, List.filter_cons_of_neg (by simpa using h)]
        rw [Function.comp_apply, ofLine_csvLine, if_neg h]

/-- **The round trip**: printed readings are measured as they are, exactly when their figures can be
converted. -/
theorem measured_csvText_iff (measuredAt : String) (stderr : List Char) (hne : readings ≠ []) :
    (∃ m, measureGpuMemoryExcept measuredAt (.answered 0 (csvText readings) stderr) = .ok m ∧
      m.ok = true ∧ m.devices = readings.map DeviceReading.device) ↔ ∀ d ∈ readings, d.Convertible := by
  have hsays : (RunnerOutcome.answered 0 (csvText readings) stderr).Says
      (readings.filter fun d => decide d.Convertible) := by
    rw [RunnerOutcome.Says, if_pos rfl, read_iff]
    exact readingsOf_csvText readings
  have hmeasures := measures_of_says measuredAt hsays
  constructor
  · rintro ⟨m, hm, -, hdevices⟩
    obtain ⟨-, rfl⟩ := measureGpuMemoryExcept_eq_ok.mp hm
    rw [hmeasures.devices] at hdevices
    have hlength := congrArg List.length hdevices
    rw [List.length_map, List.length_map, List.length_filter_eq_length_iff] at hlength
    exact fun d hd => of_decide_eq_true (hlength d hd)
  · intro hall
    have hself : (readings.filter fun d => decide d.Convertible) = readings :=
      List.filter_eq_self.mpr fun d hd => decide_eq_true (hall d hd)
    rw [hself] at hmeasures
    refine ⟨_, measureGpuMemoryExcept_eq (Or.inl rfl), hmeasures.ok_iff.mpr hne, hmeasures.devices⟩

end printed

/-- **Reading the driver.** Whatever the function that runs the query does, the reading returns exactly what can be
reported; it succeeded exactly when the status is zero and a line says a device, and what it has are the devices that
are said, in order, and their sums. Printed readings come back as they are exactly when their figures can be
converted. -/
theorem measurement_law (measuredAt : String) :
    (∀ outcome, (∃ m, measureGpuMemoryExcept measuredAt outcome = .ok m) ↔ outcome.Reportable) ∧
    (∀ outcome m, measureGpuMemoryExcept measuredAt outcome = .ok m →
      (m.ok = true ↔ ∃ stdout stderr, outcome = .answered 0 stdout stderr ∧
        ∃ line ∈ splitLines stdout, ∃ d, ParsesAs line d) ∧
      ∃ readings, outcome.Says readings ∧ Measures m readings) ∧
    (∀ readings stderr, readings ≠ [] →
      ((∃ m, measureGpuMemoryExcept measuredAt (.answered 0 (csvText readings) stderr) = .ok m ∧
        m.ok = true ∧ m.devices = readings.map DeviceReading.device) ↔ ∀ d ∈ readings, d.Convertible)) := by
  refine ⟨fun outcome => ?_, fun outcome m hm => ?_, fun readings stderr hne => ?_⟩
  · constructor
    · rintro ⟨m, hm⟩
      exact (measureGpuMemoryExcept_eq_ok.mp hm).1
    · exact fun h => ⟨_, measureGpuMemoryExcept_eq h⟩
  · obtain ⟨-, rfl⟩ := measureGpuMemoryExcept_eq_ok.mp hm
    obtain ⟨readings, hsays⟩ := exists_says outcome
    have hmeasures := measures_of_says measuredAt hsays
    exact ⟨hmeasures.ok_iff.trans (says_ne_nil_iff hsays), readings, hsays, hmeasures⟩
  · exact measured_csvText_iff measuredAt stderr hne

/-- Two devices of twenty-four GiB, printed and measured. -/
theorem measurement_law_two :
    csvText [⟨0, 24576, 20480, 4096⟩, ⟨1, 24576, 12288, 12288⟩] =
      "0, 24576, 20480, 4096\n1, 24576, 12288, 12288\n".toList ∧
    ∃ m, measureGpuMemoryExcept "now"
        (.answered 0 (csvText [⟨0, 24576, 20480, 4096⟩, ⟨1, 24576, 12288, 12288⟩]) []) = .ok m ∧ m.ok = true ∧
      m.devices = [DeviceReading.device ⟨0, 24576, 20480, 4096⟩, DeviceReading.device ⟨1, 24576, 12288, 12288⟩] :=
  ⟨by decide, ((measurement_law "now").2.2 _ _ (by simp)).mpr (by decide)⟩

/-- An interrupt is raised through the reading; a status of too many digits raises where nothing else can be
reported; and a device with such a figure is lost. -/
theorem long_figures_and_interrupts :
    (∃ exc, measureGpuMemoryExcept "now" (.escaped ⟨"KeyboardInterrupt", ""⟩) = .error exc) ∧
    (∃ exc, measureGpuMemoryExcept "now" (.answered (10 ^ maxStrDigits) [] []) = .error exc) ∧
    ¬ ∃ m, measureGpuMemoryExcept "now" (.answered 0 (csvText [⟨0, 10 ^ maxStrDigits, 0, 0⟩]) []) = .ok m ∧
      m.ok = true ∧ m.devices = [DeviceReading.device ⟨0, 10 ^ maxStrDigits, 0, 0⟩] := by
  have hlong : ¬ Convertible (10 ^ maxStrDigits) := by
    have hten : Int.natAbs 10 = 10 := rfl
    rw [convertible_iff, Int.natAbs_pow, hten]
    exact lt_irrefl _
  have hne : (10 : Int) ^ maxStrDigits ≠ 0 := pow_ne_zero _ (by decide)
  refine ⟨⟨_, rfl⟩, measureGpuMemoryExcept_error ?_, ?_⟩
  · have hreported : ¬ reportedText [] [] ≠ [] := not_not_intro rfl
    exact not_or.mpr ⟨hne, not_or.mpr ⟨hreported, hlong⟩⟩
  · intro hmeasured
    have hall := (measured_csvText_iff "now" [] (List.cons_ne_nil _ _)).mp hmeasured
    exact hlong (hall _ (List.mem_singleton_self _)).2.1

end Lmrs
