import Lmrs.Lib.Grouping
import Lmrs.Lib.Untyped

/-!
# Telemetry records as calibration observations

Source: `lmrs/telemetry.py`, `collect_calibration_observations`.

Records are grouped by four entries of their metadata, and each group is summed up by four averages, each over
the samples that are there. How the language writes a value of the metadata as a text is a parameter: the
grouping asks of two keys only whether they are the same. Averages are in exact arithmetic, truncated towards
zero.

* `collect_eq_ok`: records with integer samples are summed up, one observation for each key.
* `collect_perm`: the order of the records is the order of the observations and of their request ids, and
  nothing else.
* `telemetry_partition`: what the observations of a list of records are.
-/

namespace Lmrs

open Python Grouping

/-- Source: `telemetry.py`, `TelemetryRecord`, the fields the aggregation reads. -/
structure TelemetryRecord where
  requestId : String
  actualPromptTokens : Option Int := none
  metadata : Dict Value := []

/-- The metadata of an observation. -/
structure AggregateMetadata where
  recordCount : Int
  requestIds : List String
  deriving DecidableEq

/-- Source: `telemetry.py`, `TelemetryCalibrationObservation`. -/
structure TelemetryCalibrationObservation where
  modelName : String
  runtimeBackend : String
  quantizationProfile : String
  hardwareProfile : String
  promptLength : Option Int
  measuredVramGrowth : Option Int
  kvCacheCostSample : Option Int
  perRequestOverheadSample : Option Int
  sampleCount : Int
  metadata : AggregateMetadata
  deriving DecidableEq

/-- What records are grouped by. -/
abbrev GroupKey := String × String × String × String

namespace TelemetryCalibrationObservation

/-- The key of an observation. -/
def key (o : TelemetryCalibrationObservation) : GroupKey :=
  (o.modelName, o.runtimeBackend, o.quantizationProfile, o.hardwareProfile)

end TelemetryCalibrationObservation

section collection

variable (str : Value → String)

/-- `str(metadata.get(name, ""))`. -/
def keyPart (name : String) (record : TelemetryRecord) : String :=
  str ((Dict.get? record.metadata name).getD (.str ""))

/-- The key of a record. -/
def groupKey (record : TelemetryRecord) : GroupKey :=
  (keyPart str "model_name" record, keyPart str "runtime_backend" record,
   keyPart str "quantization_profile" record, keyPart str "hardware_profile" record)

/-- `[int(record.metadata[name]) for record in group_records if name in record.metadata]`. -/
def metadataSamples (name : String) (records : List TelemetryRecord) : Except PyException (List Int) :=
  (records.filterMap fun record => Dict.get? record.metadata name).mapM toInt

/-- The observation of a group. -/
def aggregate (key : GroupKey) (records : List TelemetryRecord) :
    Except PyException TelemetryCalibrationObservation := do
  let promptLengths := records.filterMap fun record => record.actualPromptTokens
  let vramGrowth ← metadataSamples "measured_vram_growth" records
  let kvCacheCosts ← metadataSamples "kv_cache_cost_sample" records
  let overheadSamples ← metadataSamples "per_request_overhead_sample" records
  return { modelName := key.1, runtimeBackend := key.2.1, quantizationProfile := key.2.2.1,
           hardwareProfile := key.2.2.2, promptLength := average promptLengths,
           measuredVramGrowth := average vramGrowth, kvCacheCostSample := average kvCacheCosts,
           perRequestOverheadSample := average overheadSamples, sampleCount := records.length,
           metadata := ⟨records.length, records.map fun record => record.requestId⟩ }

/-- Source: `telemetry.py`, `collect_calibration_observations`. -/
def collectCalibrationObservations (records : List TelemetryRecord) :
    Except PyException (List TelemetryCalibrationObservation) :=
  (groupBy (groupKey str) records).mapM fun group => aggregate group.1 group.2

/-! ## Integer samples -/

/-- The names of the samples in the metadata. -/
def sampleNames : List String := ["measured_vram_growth", "kv_cache_cost_sample", "per_request_overhead_sample"]

/-- The samples of a record that are there are integers. -/
def IntegerSamples (record : TelemetryRecord) : Prop :=
  ∀ name ∈ sampleNames, ∀ v, Dict.get? record.metadata name = some v → ∃ n, v.asInt? = some n

/-- The samples of records under a name, as integers. -/
def samplesOf (name : String) (records : List TelemetryRecord) : List Int :=
  records.filterMap fun record => (Dict.get? record.metadata name).bind Value.asInt?

/-- The prompt lengths of records. -/
def promptLengthsOf (records : List TelemetryRecord) : List Int :=
  records.filterMap fun record => record.actualPromptTokens

/-- The observation of a group of records with integer samples. -/
def observationOf (key : GroupKey) (records : List TelemetryRecord) : TelemetryCalibrationObservation where
  modelName := key.1
  runtimeBackend := key.2.1
  quantizationProfile := key.2.2.1
  hardwareProfile := key.2.2.2
  promptLength := average (promptLengthsOf records)
  measuredVramGrowth := average (samplesOf "measured_vram_growth" records)
  kvCacheCostSample := average (samplesOf "kv_cache_cost_sample" records)
  perRequestOverheadSample := average (samplesOf "per_request_overhead_sample" records)
  sampleCount := records.length
  metadata := ⟨records.length, records.map fun record => record.requestId⟩

variable {str} {records records' : List TelemetryRecord}

/-- An integer is converted to its number. -/
theorem toInt_of_asInt? {v : Value} {n : Int} (h : v.asInt? = some n) : toInt v = .ok n := by
  cases v with
  | int m =>
      cases h
      rfl
  | bool b =>
      cases h
      rfl
  | _ => cases h

/-- Integer samples are converted. -/
theorem metadataSamples_eq {name : String} (hname : name ∈ sampleNames)
    (h : ∀ record ∈ records, IntegerSamples record) :
    metadataSamples name records = .ok (samplesOf name records) := by
  unfold metadataSamples samplesOf
  induction records with
  | nil => rfl
  | cons record records ih =>
      rw [List.forall_mem_cons] at h
      rw [List.filterMap_cons, List.filterMap_cons]
      cases hsample : Dict.get? record.metadata name with
      | none => exact ih h.2
      | some v =>
          obtain ⟨n, hn⟩ := h.1 name hname v hsample
          simp only [Option.bind_some, hn]
          rw [List.mapM_cons, toInt_of_asInt? hn, ih h.2]
          rfl

/-- A group with integer samples is summed up. -/
theorem aggregate_eq (key : GroupKey) (h : ∀ record ∈ records, IntegerSamples record) :
    aggregate key records = .ok (observationOf key records) := by
  unfold aggregate
  rw [metadataSamples_eq (by decide) h, metadataSamples_eq (by decide) h, metadataSamples_eq (by decide) h]
  rfl

/-- The records of a group are records. -/
theorem integerSamples_ofKey {key : GroupKey} (h : ∀ record ∈ records, IntegerSamples record) :
    ∀ record ∈ ofKey (groupKey str) key records, IntegerSamples record :=
  fun record hrecord => h record (List.mem_filter.mp hrecord).1

/-- **Records with integer samples are summed up**: one observation for each group. -/
theorem collect_eq_ok (h : ∀ record ∈ records, IntegerSamples record) :
    collectCalibrationObservations str records =
      .ok ((groupBy (groupKey str) records).map fun group => observationOf group.1 group.2) := by
  refine mapM_eq_ok fun group hgroup => aggregate_eq group.1 ?_
  rw [(mem_groupBy.mp hgroup).2]
  exact integerSamples_ofKey h

/-! ## What is left of the order -/

/-- Two observations that differ in the order of their request ids only. -/
structure SameButOrder (o o' : TelemetryCalibrationObservation) : Prop where
  requestIds : o.metadata.requestIds.Perm o'.metadata.requestIds
  rest : { o with metadata := { o.metadata with requestIds := o'.metadata.requestIds } } = o'

/-- Groups of the same records in another order have the same observation, but for the order of the ids. -/
theorem observationOf_perm (key : GroupKey) (h : records.Perm records') :
    SameButOrder (observationOf key records) (observationOf key records') where
  requestIds := h.map _
  rest := by
    have hsamples (name : String) : average (samplesOf name records) = average (samplesOf name records') :=
      average_perm (h.filterMap _)
    have hprompt : average (promptLengthsOf records) = average (promptLengthsOf records') :=
      average_perm (h.filterMap _)
    unfold observationOf
    simp only [hsamples, hprompt, h.length_eq]

/-- **What is left of the order of the records** in their observations. -/
theorem collect_perm (h : ∀ record ∈ records, IntegerSamples record) (hperm : records.Perm records')
    {observations : List TelemetryCalibrationObservation}
    (ho : collectCalibrationObservations str records = .ok observations) :
    ∃ observations' shuffled, collectCalibrationObservations str records' = .ok observations' ∧
      shuffled.Perm observations ∧ List.Forall₂ SameButOrder shuffled observations' := by
  rw [collect_eq_ok h] at ho
  cases ho
  obtain ⟨groups, hgroups, hsame⟩ := groupBy_perm (groupKey str) hperm
  refine ⟨_, groups.map fun group => observationOf group.1 group.2, collect_eq_ok fun record hrecord =>
    h record (hperm.mem_iff.mpr hrecord), hgroups.map _, ?_⟩
  rw [List.forall₂_map_left_iff, List.forall₂_map_right_iff]
  refine hsame.imp fun group group' hgroup => ?_
  rw [hgroup.1]
  exact observationOf_perm group'.1 hgroup.2

/-! ## What the observations are -/

/-- A figure that sums samples up: there is one exactly when there are samples, and it is between the least and
the largest. -/
def Summarises (figure : Option Int) (samples : List Int) : Prop :=
  (figure = none ↔ samples = []) ∧
    ∀ a, figure = some a → ∃ low high, samples.min? = some low ∧ samples.max? = some high ∧ low ≤ a ∧ a ≤ high

/-- An average sums up. -/
theorem summarises_average (samples : List Int) : Summarises (average samples) samples :=
  ⟨average_eq_none_iff, fun _ => average_between⟩

/-- An observation of records: it counts and names, in their order, the records of its key, and its figures sum
their samples up. -/
structure Observes (str : Value → String) (records : List TelemetryRecord) (o : TelemetryCalibrationObservation) :
    Prop where
  sampleCount : o.sampleCount = (ofKey (groupKey str) o.key records).length
  recordCount : o.metadata.recordCount = o.sampleCount
  requestIds : o.metadata.requestIds = (ofKey (groupKey str) o.key records).map (·.requestId)
  promptLength : Summarises o.promptLength (promptLengthsOf (ofKey (groupKey str) o.key records))
  measuredVramGrowth : Summarises o.measuredVramGrowth
    (samplesOf "measured_vram_growth" (ofKey (groupKey str) o.key records))
  kvCacheCostSample : Summarises o.kvCacheCostSample
    (samplesOf "kv_cache_cost_sample" (ofKey (groupKey str) o.key records))
  perRequestOverheadSample : Summarises o.perRequestOverheadSample
    (samplesOf "per_request_overhead_sample" (ofKey (groupKey str) o.key records))

/-- The observation of a group observes its records. -/
theorem observes_observationOf (key : GroupKey) :
    Observes str records (observationOf key (ofKey (groupKey str) key records)) where
  sampleCount := rfl
  recordCount := rfl
  requestIds := rfl
  promptLength := summarises_average _
  measuredVramGrowth := summarises_average _
  kvCacheCostSample := summarises_average _
  perRequestOverheadSample := summarises_average _

end collection

/-- **The observations of telemetry records partition them**, however values are written as texts: the keys are
distinct and those of the records, each observation observes the records of its key, the sample counts add up to
the number of records, and the order of the records is the order of observations and ids and nothing else. -/
theorem telemetry_partition (str : Value → String) {records : List TelemetryRecord}
    (h : ∀ record ∈ records, IntegerSamples record) :
    ∃ observations, collectCalibrationObservations str records = .ok observations ∧
      (observations.map TelemetryCalibrationObservation.key).Nodup ∧
      (∀ key, key ∈ observations.map TelemetryCalibrationObservation.key ↔ key ∈ records.map (groupKey str)) ∧
      (∀ o ∈ observations, Observes str records o) ∧
      (observations.map fun o => o.sampleCount).sum = records.length ∧
      ∀ records', records.Perm records' → ∃ observations' shuffled,
        collectCalibrationObservations str records' = .ok observations' ∧
        shuffled.Perm observations ∧ List.Forall₂ SameButOrder shuffled observations' := by
  have hkeys : ((groupBy (groupKey str) records).map fun group => observationOf group.1 group.2).map
      TelemetryCalibrationObservation.key = (groupBy (groupKey str) records).map Prod.fst := by
    rw [List.map_map]
    rfl
  refine ⟨_, collect_eq_ok h, ?_, ?_, ?_, ?_, fun records' hperm => collect_perm h hperm (collect_eq_ok h)⟩
  · rw [hkeys]
    exact groupBy_keys_nodup _ _
  · intro key
    rw [hkeys, groupBy_eq, List.map_map]
    simp [Function.comp_def]
  · intro o ho
    obtain ⟨group, hgroup, rfl⟩ := List.mem_map.mp ho
    rw [(mem_groupBy.mp hgroup).2]
    exact observes_observationOf group.1
  · have hsum := sum_length_groupBy (groupKey str) records
    rw [List.map_map, ← hsum, Nat.cast_list_sum, List.map_map]
    rfl

/-- Three records of two models: the samples of the first model average to three. -/
theorem telemetry_partition_three :
    (collectCalibrationObservations Value.text
        [⟨"a", some 4, [("model_name", .str "m")]⟩, ⟨"b", none, [("kv_cache_cost_sample", .int 9)]⟩,
         ⟨"c", some 3, [("model_name", .str "m")]⟩]).map
      (fun observations => observations.map fun o => (o.modelName, o.metadata.requestIds, o.promptLength)) =
        .ok [("m", ["a", "c"], some 3), ("", ["b"], none)] ∧
    ∃ observations, collectCalibrationObservations Value.text
        [⟨"a", some 4, [("model_name", .str "m")]⟩, ⟨"b", none, [("kv_cache_cost_sample", .int 9)]⟩,
         ⟨"c", some 3, [("model_name", .str "m")]⟩] = .ok observations ∧
      (observations.map fun o => o.sampleCount).sum = 3 := by
  have hinteger : ∀ record ∈ [(⟨"a", some 4, [("model_name", .str "m")]⟩ : TelemetryRecord),
      ⟨"b", none, [("kv_cache_cost_sample", .int 9)]⟩, ⟨"c", some 3, [("model_name", .str "m")]⟩],
      IntegerSamples record := by
    simp [IntegerSamples, sampleNames, Dict.get?, List.lookup_cons, Value.asInt?]
  obtain ⟨observations, hcollect, -, -, -, hsum, -⟩ := telemetry_partition Value.text hinteger
  exact ⟨rfl, observations, hcollect, hsum⟩

end Lmrs
