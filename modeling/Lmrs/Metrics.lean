import Lmrs.Adapter.PublicCommands
import Lmrs.Lib.Floats

/-!
# The counters of the runtime's metrics

Source: `lmrs/lmcache.py`, `_sum_metric_families`, `observations_from_vllm_metrics`;
`lmrs/adapter/registration.py`, `_lmcache_observations`, `LocalLmcacheStatusCommand`.

* `get?_sumMetricFamilies`: the total of a family is the sum of what its lines are read as.
* `observations_answer_iff`: when the counters convert to integers, and the status answers.
-/

namespace Lmrs

open Python

/-! ## Lines -/

/-- The family and the value one line is read as, when it is read as a sample. -/
def countedSample (round : ℚ → PyFloat) (line : List Char) : Option (String × PyFloat) :=
  if line = [] ∨ line.head? = some '#' then none
  else
    let (namePart, valuePart) := rpartition ' ' line
    let family := strip (namePart.takeWhile fun c => c ≠ '{')
    if family = [] then none
    else (floatOfString round valuePart).map fun value => (String.ofList family, value)

/-- The samples the lines of a text are read as. -/
def countedSamples (round : ℚ → PyFloat) (metricsText : List Char) : List (String × PyFloat) :=
  (splitLines metricsText).filterMap (countedSample round)

/-- One sample more in the totals. -/
def addSample (round : ℚ → PyFloat) (totals : Dict PyFloat) (sample : String × PyFloat) : Dict PyFloat :=
  Dict.set totals sample.1 (((Dict.get? totals sample.1).getD (.finite 0)).add round sample.2)

/-- Source: `lmcache.py`, `_sum_metric_families`. -/
def sumMetricFamilies (round : ℚ → PyFloat) (metricsText : List Char) : Dict PyFloat :=
  (countedSamples round metricsText).foldl (addSample round) []

/-- The values of the samples of one family. -/
def valuesOf {α : Type} (family : String) (samples : List (String × α)) : List α :=
  (samples.filter fun sample => sample.1 = family).map Prod.snd

/-! ## Totals -/

/-- Samples are added to what a family has. -/
theorem get?_foldl_addSample (round : ℚ → PyFloat) (samples : List (String × PyFloat)) (totals : Dict PyFloat)
    (family : String) :
    Dict.get? (samples.foldl (addSample round) totals) family =
      if valuesOf family samples = [] then Dict.get? totals family
      else some ((valuesOf family samples).foldl (PyFloat.add round)
        ((Dict.get? totals family).getD (.finite 0))) := by
  induction samples generalizing totals with
  | nil => rfl
  | cons sample samples ih =>
      rw [List.foldl_cons, ih]
      by_cases hfamily : sample.1 = family
      · have hvalues : valuesOf family (sample :: samples) = sample.2 :: valuesOf family samples := by
          simp [valuesOf, hfamily]
        have hadded : Dict.get? (addSample round totals sample) family =
            some (((Dict.get? totals family).getD (.finite 0)).add round sample.2) := by
          rw [addSample, hfamily, Dict.get?_set_self]
        rw [hvalues, hadded, if_neg (List.cons_ne_nil _ _), List.foldl_cons]
        split_ifs with hnone
        · rw [hnone, List.foldl_nil]
        · rfl
      · have hvalues : valuesOf family (sample :: samples) = valuesOf family samples := by
          simp [valuesOf, hfamily]
        have hkept : Dict.get? (addSample round totals sample) family = Dict.get? totals family :=
          Dict.get?_set_of_ne _ _ (Ne.symm hfamily)
        rw [hvalues, hkept]

/-- **The total of a family is the sum of the values its lines are read as.** -/
theorem get?_sumMetricFamilies (round : ℚ → PyFloat) (metricsText : List Char) (family : String) :
    Dict.get? (sumMetricFamilies round metricsText) family =
      if valuesOf family (countedSamples round metricsText) = [] then none
      else some ((valuesOf family (countedSamples round metricsText)).foldl (PyFloat.add round)
        (.finite 0)) :=
  get?_foldl_addSample round _ [] family

/-! ## Conversions -/

/-- A float converts to an integer exactly when it is a number. -/
theorem toInt_float_iff (x : PyFloat) : (∃ n, toInt (.float x) = .ok n) ↔ x.IsFinite := by
  cases x <;> simp [toInt, PyFloat.IsFinite]

/-- When both external families are counted, the sum of each is a number. -/
def CountersConvert (round : ℚ → PyFloat) (metricsText : List Char) : Prop :=
  valuesOf externalQueriesFamily (countedSamples round metricsText) ≠ [] →
    valuesOf externalHitsFamily (countedSamples round metricsText) ≠ [] →
      StaysFinite round 0 (valuesOf externalQueriesFamily (countedSamples round metricsText)) ∧
        StaysFinite round 0 (valuesOf externalHitsFamily (countedSamples round metricsText))

/-- The counters of some totals answer unless one of two is no number. -/
theorem externalCounters_answer_iff (totals : Dict PyFloat) :
    (∃ counters, externalCounters totals = .ok counters) ↔
      ∀ queries hits, Dict.get? totals externalQueriesFamily = some queries →
        Dict.get? totals externalHitsFamily = some hits → queries.IsFinite ∧ hits.IsFinite := by
  unfold externalCounters
  cases Dict.get? totals externalQueriesFamily with
  | none => simp
  | some queries =>
      cases Dict.get? totals externalHitsFamily with
      | none => simp
      | some hits =>
          simp only [Option.some.injEq, ← toInt_float_iff]
          constructor
          · rintro ⟨counters, hcounters⟩ _ _ rfl rfl
            obtain ⟨n, hqueries, hcounters⟩ := bind_eq_ok.mp hcounters
            obtain ⟨m, hhits, -⟩ := bind_eq_ok.mp hcounters
            exact ⟨⟨n, hqueries⟩, m, hhits⟩
          · intro hnumbers
            obtain ⟨⟨n, hqueries⟩, m, hhits⟩ := hnumbers queries hits rfl rfl
            exact ⟨_, bind_eq_ok.mpr ⟨n, hqueries, bind_eq_ok.mpr ⟨m, hhits, rfl⟩⟩⟩

/-- The counters of a text answer exactly when they convert. -/
theorem externalCounters_of_text (round : ℚ → PyFloat) (metricsText : List Char) :
    (∃ counters, externalCounters (sumMetricFamilies round metricsText) = .ok counters) ↔
      CountersConvert round metricsText := by
  rw [externalCounters_answer_iff, get?_sumMetricFamilies, get?_sumMetricFamilies]
  unfold CountersConvert
  simp only [← foldl_add_finite_iff]
  split_ifs with hqueries hhits hhits <;> simp [hqueries, hhits]

/-- The status answers whatever is observed. -/
theorem getLmcacheStatus_answers (policy : LMCachePolicy) (disk : Disk) (counters : Option (Int × Int))
    (metadata : Dict Value) : ∃ status, getLmcacheStatus policy
      ((diskTierObservations policy disk).1 ++
        (match counters with
          | some (hits, misses) => [("hit_tokens", .int hits), ("miss_tokens", .int misses)]
          | none => []) ++ [("metadata", .dict metadata)]) = .ok status := by
  obtain ⟨usage, husage⟩ : ∃ usage : Option Int, (diskTierObservations policy disk).1 =
      (usage.map fun n => ("disk_cache_usage", Value.int n)).toList := by
    unfold diskTierObservations
    split
    · exact ⟨none, rfl⟩
    · exact ⟨none, rfl⟩
    · dsimp only
      split_ifs
      · exact ⟨some _, rfl⟩
      · exact ⟨none, rfl⟩
  rw [husage]
  cases usage <;> cases counters <;> exact ⟨_, rfl⟩

/-- **The observations answer exactly when the external counters convert, and so does the status.** For every
rounding of floats, every text of the metrics endpoint and every reading the status depends on besides: a
mapping is returned, and the status of the cache tiers answers, if and only if not both external families are
counted or both sums are numbers at each of their terms. -/
theorem observations_answer_iff (round : ℚ → PyFloat) (metricsText : List Char) (p : PublicReadings)
    (disk : Disk) :
    ((∃ observations, observationsFromVllmMetrics (sumMetricFamilies round metricsText) = .ok observations) ↔
        CountersConvert round metricsText) ∧
      ((∃ status, LocalLmcacheStatusCommand.delegate
          { p with metricTotals := some (sumMetricFamilies round metricsText) } disk = .ok status) ↔
        CountersConvert round metricsText) := by
  rw [← externalCounters_of_text]
  unfold LocalLmcacheStatusCommand.delegate lmcacheObservations observationsFromVllmMetrics
  dsimp only
  cases externalCounters (sumMetricFamilies round metricsText) with
  | error exc =>
      constructor
      · constructor
        · rintro ⟨_, h⟩
          cases h
        · rintro ⟨_, h⟩
          cases h
      · constructor
        · rintro ⟨_, h⟩
          cases h
        · rintro ⟨_, h⟩
          cases h
  | ok counters =>
      refine ⟨iff_of_true ⟨_, rfl⟩ ⟨_, rfl⟩, iff_of_true ?_ ⟨_, rfl⟩⟩
      exact getLmcacheStatus_answers p.lmcache disk counters _

/-- A text with a counter that is no number. -/
def nanMetrics : List Char :=
  ("vllm:external_prefix_cache_queries_total 40\n" ++
    "vllm:external_prefix_cache_hits_total NaN\n").toList

/-- **A counter that is no number is raised about.** -/
theorem nan_counter_raises :
    observationsFromVllmMetrics (sumMetricFamilies .finite nanMetrics) =
        .error (valueError "cannot convert float NaN to integer") ∧
      ¬ ∀ (round : ℚ → PyFloat) (metricsText : List Char),
          ∃ observations, observationsFromVllmMetrics (sumMetricFamilies round metricsText) =
            .ok observations := by
  have hraised : observationsFromVllmMetrics (sumMetricFamilies .finite nanMetrics) =
      .error (valueError "cannot convert float NaN to integer") := by
    rfl
  refine ⟨hraised, fun hclaim => ?_⟩
  obtain ⟨observations, hanswer⟩ := hclaim .finite nanMetrics
  rw [hraised] at hanswer
  cases hanswer

end Lmrs
