import Lmrs.Estimation
import Lmrs.Lib.Untyped

/-!
# Calibration from observations

Source: `lmrs/calibration.py`, `build_calibration_profile`; `lmrs/estimation.py`,
`calculate_dynamic_vram_requirement`.

One pass over the observations keeps three sums and two maxima. The cost of a token is the floored quotient of
the bytes beyond the overheads by the tokens, and the overheads are the largest seen.

* `buildCalibrationProfile_eq_ok`: the profile of valid observations, in closed form. It exists exactly when
  there is an observation and none has a negative figure.
* `buildCalibrationProfile_perm`: the order of the observations has no part in it.
* `calibration_inverts`: on observations that follow the estimation formula it gives back their cost.
* `calibration_total`: how far the profile falls short of its observations together, and when it does not.
-/

namespace Lmrs

open Python

/-- Source: `calibration.py`, `CalibrationKey`. -/
structure CalibrationKey where
  modelName : String
  runtimeBackend : String
  quantizationProfile : String
  hardwareProfileId : String
  tokenizerProfile : Option String := none
  metadata : Dict String := []
  deriving DecidableEq

/-- Source: `calibration.py`, `CalibrationObservation`. -/
structure CalibrationObservation where
  promptTokens : Int
  outputTokens : Int
  predictedDynamicVramBytes : Int
  actualDynamicVramBytes : Int
  perRequestOverheadBytes : Int := 0
  runtimeBatchOverheadBytes : Int := 0
  metadata : Dict String := []
  deriving DecidableEq

/-- Source: `calibration.py`, `CalibrationProfile`. -/
structure CalibrationProfile where
  key : CalibrationKey
  kvBytesPerToken : Int
  perRequestOverheadBytes : Int
  runtimeBatchOverheadBytes : Int
  observationCount : Int
  source : String := "empirical"
  valid : Bool := true
  invalidationReason : Option String := none
  metadata : Dict String := []
  deriving DecidableEq

namespace CalibrationObservation

/-- The tokens of an observation. -/
def tokens (o : CalibrationObservation) : Int := o.promptTokens + o.outputTokens

/-- The two overheads of an observation. -/
def overhead (o : CalibrationObservation) : Int := o.perRequestOverheadBytes + o.runtimeBatchOverheadBytes

/-- An observation without a negative figure. -/
structure NonNegative (o : CalibrationObservation) : Prop where
  prompt : 0 ≤ o.promptTokens
  output : 0 ≤ o.outputTokens
  predicted : 0 ≤ o.predictedDynamicVramBytes
  actual : 0 ≤ o.actualDynamicVramBytes
  perRequest : 0 ≤ o.perRequestOverheadBytes
  batch : 0 ≤ o.runtimeBatchOverheadBytes

end CalibrationObservation

/-! ## The loop -/

/-- What the loop keeps. -/
structure CalibrationTotals where
  totalTokens : Int := 0
  totalActualVram : Int := 0
  totalOverhead : Int := 0
  maxPerRequestOverhead : Int := 0
  maxBatchOverhead : Int := 0
  deriving DecidableEq

namespace CalibrationTotals

/-- The totals with one more observation. -/
def add (t : CalibrationTotals) (o : CalibrationObservation) : CalibrationTotals where
  totalTokens := t.totalTokens + o.tokens
  totalActualVram := t.totalActualVram + o.actualDynamicVramBytes
  totalOverhead := t.totalOverhead + o.overhead
  maxPerRequestOverhead :=
    if t.maxPerRequestOverhead < o.perRequestOverheadBytes then o.perRequestOverheadBytes
    else t.maxPerRequestOverhead
  maxBatchOverhead :=
    if t.maxBatchOverhead < o.runtimeBatchOverheadBytes then o.runtimeBatchOverheadBytes
    else t.maxBatchOverhead

/-- One pass of the loop: an observation is checked and added. -/
def observe (t : CalibrationTotals) (o : CalibrationObservation) : Except PyException CalibrationTotals :=
  if o.promptTokens < 0 ∨ o.outputTokens < 0 then
    .error (valueError "token counts must be non-negative")
  else if o.actualDynamicVramBytes < 0 ∨ o.predictedDynamicVramBytes < 0 then
    .error (valueError "VRAM byte values must be non-negative")
  else if o.perRequestOverheadBytes < 0 ∨ o.runtimeBatchOverheadBytes < 0 then
    .error (valueError "overhead byte values must be non-negative")
  else .ok (t.add o)

/-- The cost of a token: the bytes beyond the overheads over the tokens, floored, and not below zero. -/
def kvBytesPerToken (t : CalibrationTotals) : Int :=
  if 0 < t.totalTokens then max 0 ((t.totalActualVram - t.totalOverhead).fdiv t.totalTokens) else 0

end CalibrationTotals

/-- Source: `calibration.py`, `build_calibration_profile`. -/
def buildCalibrationProfile (key : CalibrationKey) (observations : List CalibrationObservation) :
    Except PyException CalibrationProfile :=
  if observations = [] then .error (valueError "observations must not be empty")
  else do
    let totals ← observations.foldlM CalibrationTotals.observe {}
    return { key, kvBytesPerToken := totals.kvBytesPerToken,
             perRequestOverheadBytes := totals.maxPerRequestOverhead,
             runtimeBatchOverheadBytes := totals.maxBatchOverhead,
             observationCount := observations.length }

/-- What the profile says a request like an observed one takes. -/
def CalibrationProfile.requirement (p : CalibrationProfile) (o : CalibrationObservation) :
    Except PyException Int :=
  calculateDynamicVramRequirement o.tokens p.kvBytesPerToken p.perRequestOverheadBytes
    p.runtimeBatchOverheadBytes

/-! ## Sums and peaks -/

/-- The sum of a figure of the observations. -/
def totalOf (figure : CalibrationObservation → Int) (observations : List CalibrationObservation) : Int :=
  (observations.map figure).sum

/-- The largest of a figure of the observations, and no less than zero. -/
def peakOf (figure : CalibrationObservation → Int) (observations : List CalibrationObservation) : Int :=
  (observations.map figure).foldr max 0

section peaks

variable {figure : CalibrationObservation → Int} {observations : List CalibrationObservation}

@[simp] theorem totalOf_cons (o : CalibrationObservation) :
    totalOf figure (o :: observations) = figure o + totalOf figure observations := by
  simp [totalOf]

@[simp] theorem peakOf_cons (o : CalibrationObservation) :
    peakOf figure (o :: observations) = max (figure o) (peakOf figure observations) := rfl

/-- A peak is not negative. -/
theorem peakOf_nonneg : 0 ≤ peakOf figure observations := by
  induction observations with
  | nil => exact le_rfl
  | cons o observations ih => exact le_max_of_le_right ih

/-- No observation is above the peak. -/
theorem le_peakOf (figure : CalibrationObservation → Int) {o : CalibrationObservation} (ho : o ∈ observations) :
    figure o ≤ peakOf figure observations := by
  induction observations with
  | nil => cases ho
  | cons first observations ih =>
      rw [peakOf_cons]
      rcases List.mem_cons.mp ho with rfl | hmem
      · exact le_max_left _ _
      · exact le_max_of_le_right (ih hmem)

/-- The order has no part in a sum. -/
theorem totalOf_perm {observations' : List CalibrationObservation} (h : observations.Perm observations') :
    totalOf figure observations = totalOf figure observations' :=
  (h.map figure).sum_eq

/-- The order has no part in a peak. -/
theorem peakOf_perm {observations' : List CalibrationObservation} (h : observations.Perm observations') :
    peakOf figure observations = peakOf figure observations' :=
  (h.map figure).foldr_eq 0

/-- The peak for each observation is at least the figures together. -/
theorem totalOf_le_peakOf (figure : CalibrationObservation → Int) (observations : List CalibrationObservation) :
    totalOf figure observations ≤ observations.length * peakOf figure observations := by
  unfold totalOf
  have h := List.sum_le_card_nsmul (observations.map figure) (peakOf figure observations) (by
    intro n hn
    obtain ⟨o, ho, rfl⟩ := List.mem_map.mp hn
    exact le_peakOf figure ho)
  simpa using h

end peaks

/-! ## The profile in closed form -/

section closed

variable {observations : List CalibrationObservation}

/-- A pass of the loop goes through exactly on an observation without a negative figure. -/
theorem observe_eq_ok {t t' : CalibrationTotals} {o : CalibrationObservation} :
    t.observe o = .ok t' ↔ o.NonNegative ∧ t' = t.add o := by
  unfold CalibrationTotals.observe
  constructor
  · intro h
    split_ifs at h with htokens hvram hoverhead
    cases h
    exact ⟨⟨by omega, by omega, by omega, by omega, by omega, by omega⟩, rfl⟩
  · rintro ⟨⟨hprompt, houtput, hpredicted, hactual, hrequest, hbatch⟩, rfl⟩
    rw [if_neg (by omega), if_neg (by omega), if_neg (by omega)]

/-- The loop goes through exactly on observations without a negative figure. -/
theorem foldlM_observe_eq_ok {t t' : CalibrationTotals} :
    observations.foldlM CalibrationTotals.observe t = .ok t' ↔
      (∀ o ∈ observations, o.NonNegative) ∧ t' = observations.foldl CalibrationTotals.add t := by
  induction observations generalizing t with
  | nil => simp [pure, Except.pure, eq_comm]
  | cons o observations ih =>
      rw [List.foldlM_cons, bind_eq_ok, List.forall_mem_cons, List.foldl_cons]
      simp only [observe_eq_ok, ih]
      constructor
      · rintro ⟨_, ⟨ho, rfl⟩, hrest, heq⟩
        exact ⟨⟨ho, hrest⟩, heq⟩
      · rintro ⟨⟨ho, hrest⟩, heq⟩
        exact ⟨_, ⟨ho, rfl⟩, hrest, heq⟩

/-- **What the loop keeps**: the sums, and the peaks of what there was and what is added. -/
theorem foldl_add {t : CalibrationTotals} (hrequest : 0 ≤ t.maxPerRequestOverhead) (hbatch : 0 ≤ t.maxBatchOverhead) :
    observations.foldl CalibrationTotals.add t =
      { totalTokens := t.totalTokens + totalOf CalibrationObservation.tokens observations
        totalActualVram := t.totalActualVram + totalOf (·.actualDynamicVramBytes) observations
        totalOverhead := t.totalOverhead + totalOf CalibrationObservation.overhead observations
        maxPerRequestOverhead := max t.maxPerRequestOverhead (peakOf (·.perRequestOverheadBytes) observations)
        maxBatchOverhead := max t.maxBatchOverhead (peakOf (·.runtimeBatchOverheadBytes) observations) } := by
  induction observations generalizing t with
  | nil =>
      obtain ⟨tokens, actual, overhead, request, batch⟩ := t
      simpa [totalOf, peakOf] using ⟨hrequest, hbatch⟩
  | cons o observations ih =>
      have hgrown (n m : Int) : (if n < m then m else n) = max n m := by
        split_ifs with h
        · exact (max_eq_right h.le).symm
        · exact (max_eq_left (not_lt.mp h)).symm
      rw [List.foldl_cons, ih]
      · simp only [CalibrationTotals.add, hgrown, totalOf_cons, peakOf_cons, max_assoc, add_assoc]
      · simp only [CalibrationTotals.add, hgrown]
        exact le_max_of_le_left hrequest
      · simp only [CalibrationTotals.add, hgrown]
        exact le_max_of_le_left hbatch

/-- The cost of a token: the bytes beyond the overheads over the tokens, floored, and not below zero. -/
def averageCost (observations : List CalibrationObservation) : Int :=
  if 0 < totalOf CalibrationObservation.tokens observations then
    max 0 ((totalOf (·.actualDynamicVramBytes) observations - totalOf CalibrationObservation.overhead observations) /
      totalOf CalibrationObservation.tokens observations)
  else 0

/-- The profile of observations. -/
def profileOf (key : CalibrationKey) (observations : List CalibrationObservation) : CalibrationProfile where
  key := key
  kvBytesPerToken := averageCost observations
  perRequestOverheadBytes := peakOf (·.perRequestOverheadBytes) observations
  runtimeBatchOverheadBytes := peakOf (·.runtimeBatchOverheadBytes) observations
  observationCount := observations.length

/-- **The profile in closed form**: it exists exactly when there is an observation and none has a negative
figure. -/
theorem buildCalibrationProfile_eq_ok {key : CalibrationKey} {p : CalibrationProfile} :
    buildCalibrationProfile key observations = .ok p ↔
      observations ≠ [] ∧ (∀ o ∈ observations, o.NonNegative) ∧ p = profileOf key observations := by
  have hclosed : observations.foldl CalibrationTotals.add {} = _ := foldl_add le_rfl le_rfl
  have hcost : (observations.foldl CalibrationTotals.add {}).kvBytesPerToken = averageCost observations := by
    rw [hclosed]
    unfold CalibrationTotals.kvBytesPerToken averageCost
    simp only [zero_add]
    split_ifs with hpos
    · rw [Int.fdiv_eq_ediv_of_nonneg _ hpos.le]
    · rfl
  unfold buildCalibrationProfile
  by_cases hempty : observations = []
  · simp [hempty]
  · rw [if_neg hempty, bind_eq_ok]
    simp only [foldlM_observe_eq_ok, pure, Except.pure, Except.ok.injEq, hempty, ne_eq, not_false_eq_true, true_and]
    constructor
    · rintro ⟨_, ⟨hvalid, rfl⟩, rfl⟩
      refine ⟨hvalid, ?_⟩
      rw [hcost, hclosed]
      simp only [profileOf, max_eq_right peakOf_nonneg]
    · rintro ⟨hvalid, rfl⟩
      refine ⟨_, ⟨hvalid, rfl⟩, ?_⟩
      rw [hcost, hclosed]
      simp only [profileOf, max_eq_right peakOf_nonneg]

/-- The order of the observations has no part in the profile. -/
theorem profileOf_perm (key : CalibrationKey) {observations' : List CalibrationObservation}
    (h : observations.Perm observations') : profileOf key observations = profileOf key observations' := by
  unfold profileOf averageCost
  simp only [totalOf_perm h, peakOf_perm h, h.length_eq]

/-- Figures of a profile are not negative. -/
theorem averageCost_nonneg : 0 ≤ averageCost observations := by
  unfold averageCost
  split_ifs
  · exact le_max_left _ _
  · exact le_rfl

/-- Tokens of valid observations are not negative. -/
theorem CalibrationObservation.NonNegative.tokens_nonneg {o : CalibrationObservation} (h : o.NonNegative) :
    0 ≤ o.tokens :=
  Int.add_nonneg h.prompt h.output

/-- What the profile says an observed request takes. -/
theorem requirement_eq (key : CalibrationKey) {o : CalibrationObservation} (ho : o.NonNegative) :
    (profileOf key observations).requirement o =
      .ok (o.tokens * averageCost observations + peakOf (·.perRequestOverheadBytes) observations +
        peakOf (·.runtimeBatchOverheadBytes) observations) :=
  calculateDynamicVramRequirement_eq_ok.mpr
    ⟨⟨ho.tokens_nonneg, averageCost_nonneg, peakOf_nonneg, peakOf_nonneg⟩, rfl⟩

/-- Observations that follow the formula keep it together. -/
theorem totalOf_formula {k : Int}
    (h : ∀ o ∈ observations, o.actualDynamicVramBytes = o.tokens * k + o.perRequestOverheadBytes +
      o.runtimeBatchOverheadBytes) :
    totalOf (·.actualDynamicVramBytes) observations =
      totalOf CalibrationObservation.tokens observations * k +
        totalOf CalibrationObservation.overhead observations := by
  induction observations with
  | nil => simp [totalOf]
  | cons o observations ih =>
      rw [List.forall_mem_cons] at h
      rw [totalOf_cons, totalOf_cons, totalOf_cons, ih h.2, h.1, CalibrationObservation.overhead]
      ring

/-- Of observations that follow the formula the cost is given back. -/
theorem averageCost_formula {k : Int} (hk : 0 ≤ k) (hpos : 0 < totalOf CalibrationObservation.tokens observations)
    (h : ∀ o ∈ observations, o.actualDynamicVramBytes = o.tokens * k + o.perRequestOverheadBytes +
      o.runtimeBatchOverheadBytes) : averageCost observations = k := by
  unfold averageCost
  rw [if_pos hpos, totalOf_formula h, add_sub_cancel_right, Int.mul_ediv_cancel_left k hpos.ne', max_eq_right hk]

/-- What the observed requests take together: the tokens at the cost, and the peaks for each. -/
theorem sum_requirements (asked : List CalibrationObservation) (cost request batch : Int) :
    (asked.map fun o => o.tokens * cost + request + batch).sum =
      totalOf CalibrationObservation.tokens asked * cost + asked.length * (request + batch) := by
  induction asked with
  | nil => simp [totalOf]
  | cons o asked ih =>
      rw [List.map_cons, List.sum_cons, ih, totalOf_cons, List.length_cons]
      push_cast
      ring

/-- The peaks for each observation are at least the overheads together. -/
theorem overhead_le_peaks (observations : List CalibrationObservation) :
    totalOf CalibrationObservation.overhead observations ≤
      observations.length * (peakOf (·.perRequestOverheadBytes) observations +
        peakOf (·.runtimeBatchOverheadBytes) observations) := by
  have hrequest := totalOf_le_peakOf (·.perRequestOverheadBytes) observations
  have hbatch := totalOf_le_peakOf (·.runtimeBatchOverheadBytes) observations
  have hsum : totalOf CalibrationObservation.overhead observations =
      totalOf (·.perRequestOverheadBytes) observations + totalOf (·.runtimeBatchOverheadBytes) observations := by
    simp only [totalOf, ← List.sum_map_add]
    rfl
  rw [mul_add, hsum]
  exact add_le_add hrequest hbatch

end closed

/-- **Calibration inverts the estimation formula**: on valid observations that follow it at one cost, that cost
is given back, in whatever order they are, and the profile foresees no less than each of them took. -/
theorem calibration_inverts (key : CalibrationKey) {observations : List CalibrationObservation} {k : Int}
    (hvalid : ∀ o ∈ observations, o.NonNegative) (hk : 0 ≤ k)
    (hformula : ∀ o ∈ observations, o.actualDynamicVramBytes =
      o.tokens * k + o.perRequestOverheadBytes + o.runtimeBatchOverheadBytes)
    (htokens : 0 < totalOf CalibrationObservation.tokens observations) :
    ∃ p, p.kvBytesPerToken = k ∧
      (∀ observations', observations.Perm observations' →
        buildCalibrationProfile key observations' = .ok p) ∧
      ∀ o ∈ observations, ∃ n, p.requirement o = .ok n ∧ o.actualDynamicVramBytes ≤ n := by
  have hcost := averageCost_formula hk htokens hformula
  refine ⟨profileOf key observations, hcost, fun observations' hperm => ?_, fun o ho => ?_⟩
  · refine buildCalibrationProfile_eq_ok.mpr ⟨?_, fun o ho => hvalid o (hperm.mem_iff.mpr ho), profileOf_perm key hperm⟩
    rintro rfl
    rw [hperm.eq_nil] at htokens
    exact absurd htokens (by simp [totalOf])
  · refine ⟨_, requirement_eq key (hvalid o ho), ?_⟩
    have hrequest := le_peakOf (·.perRequestOverheadBytes) ho
    have hbatch := le_peakOf (·.runtimeBatchOverheadBytes) ho
    rw [hcost, hformula o ho]
    omega

/-- Two observations at four bytes a token. -/
theorem calibration_inverts_two :
    ∃ p, p.kvBytesPerToken = 4 ∧
      (∀ observations', [(⟨3, 2, 0, 27, 5, 2, []⟩ : CalibrationObservation), ⟨1, 0, 0, 5, 0, 1, []⟩].Perm observations' →
        buildCalibrationProfile ⟨"m", "vllm", "awq", "gpu", none, []⟩ observations' = .ok p) ∧
      ∀ o ∈ [(⟨3, 2, 0, 27, 5, 2, []⟩ : CalibrationObservation), ⟨1, 0, 0, 5, 0, 1, []⟩],
        ∃ n, p.requirement o = .ok n ∧ o.actualDynamicVramBytes ≤ n := by
  refine calibration_inverts _ ?_ (by decide) (by decide) (by decide)
  simp only [List.forall_mem_cons, List.not_mem_nil, false_implies, implies_true, and_true]
  exact ⟨⟨by decide, by decide, by decide, by decide, by decide, by decide⟩,
    ⟨by decide, by decide, by decide, by decide, by decide, by decide⟩⟩

/-- **A profile that foresees less than was measured**: three bytes over two tokens are one byte a token. -/
theorem calibration_undershoots :
    ∃ p, buildCalibrationProfile ⟨"m", "vllm", "awq", "gpu", none, []⟩ [⟨2, 0, 0, 3, 0, 0, []⟩] = .ok p ∧
      [(⟨2, 0, 0, 3, 0, 0, []⟩ : CalibrationObservation)].mapM p.requirement = .ok [2] ∧
      ¬ totalOf (·.actualDynamicVramBytes) [(⟨2, 0, 0, 3, 0, 0, []⟩ : CalibrationObservation)] ≤ [(2 : Int)].sum :=
  ⟨_, rfl, rfl, by decide⟩

/-- **How far a profile falls short of what it was made from**: by less than a byte a token together. It does not
exactly when the overheads exceed what was measured, or what the floored quotient leaves over is within what the
largest overheads add to those observed. -/
theorem calibration_total (key : CalibrationKey) (observations : List CalibrationObservation)
    (hvalid : ∀ o ∈ observations, o.NonNegative)
    (htokens : 0 < totalOf CalibrationObservation.tokens observations) :
    ∃ p predictions, buildCalibrationProfile key observations = .ok p ∧
      observations.mapM p.requirement = .ok predictions ∧
      totalOf (·.actualDynamicVramBytes) observations <
        predictions.sum + totalOf CalibrationObservation.tokens observations ∧
      (totalOf (·.actualDynamicVramBytes) observations ≤ predictions.sum ↔
        totalOf (·.actualDynamicVramBytes) observations < totalOf CalibrationObservation.overhead observations ∨
          (totalOf (·.actualDynamicVramBytes) observations -
              totalOf CalibrationObservation.overhead observations) %
            totalOf CalibrationObservation.tokens observations ≤
          observations.length * (peakOf (·.perRequestOverheadBytes) observations +
              peakOf (·.runtimeBatchOverheadBytes) observations) -
            totalOf CalibrationObservation.overhead observations) := by
  have hne : observations ≠ [] := by
    rintro rfl
    exact absurd htokens (by simp [totalOf])
  refine ⟨_, _, buildCalibrationProfile_eq_ok.mpr ⟨hne, hvalid, rfl⟩,
    mapM_eq_ok fun o ho => requirement_eq key (hvalid o ho), ?_⟩
  have hpeaks := overhead_le_peaks observations
  rw [sum_requirements, averageCost, if_pos htokens]
  generalize totalOf (·.actualDynamicVramBytes) observations = actual
  generalize totalOf CalibrationObservation.overhead observations = overhead at hpeaks ⊢
  generalize totalOf CalibrationObservation.tokens observations = tokens at htokens ⊢
  generalize (observations.length : Int) * _ = peaks at hpeaks ⊢
  have hdivision := Int.mul_ediv_add_emod (actual - overhead) tokens
  have hlow := Int.emod_nonneg (actual - overhead) htokens.ne'
  have hhigh := Int.emod_lt_of_pos (actual - overhead) htokens
  by_cases hneg : actual < overhead
  · -- the quotient is negative, and the cost is none
    have hquotient : (actual - overhead) / tokens < 0 := Int.ediv_neg_of_neg_of_pos (by omega) htokens
    rw [max_eq_left hquotient.le, mul_zero]
    omega
  · have hquotient : 0 ≤ (actual - overhead) / tokens := Int.ediv_nonneg (by omega) htokens.le
    rw [max_eq_right hquotient]
    omega

/-- Two observations of one token each whose overheads cover the remainder. -/
theorem calibration_total_two :
    ∃ p predictions, buildCalibrationProfile ⟨"m", "vllm", "awq", "gpu", none, []⟩
        [⟨1, 0, 0, 9, 4, 0, []⟩, ⟨1, 0, 0, 4, 0, 0, []⟩] = .ok p ∧
      [(⟨1, 0, 0, 9, 4, 0, []⟩ : CalibrationObservation), ⟨1, 0, 0, 4, 0, 0, []⟩].mapM p.requirement =
        .ok predictions ∧
      totalOf (·.actualDynamicVramBytes) [(⟨1, 0, 0, 9, 4, 0, []⟩ : CalibrationObservation), ⟨1, 0, 0, 4, 0, 0, []⟩] ≤
        predictions.sum := by
  obtain ⟨p, predictions, hp, hpredictions, -, hiff⟩ := calibration_total ⟨"m", "vllm", "awq", "gpu", none, []⟩
    [⟨1, 0, 0, 9, 4, 0, []⟩, ⟨1, 0, 0, 4, 0, 0, []⟩] (by
      simp only [List.forall_mem_cons, List.not_mem_nil, false_implies, implies_true, and_true]
      exact ⟨⟨by decide, by decide, by decide, by decide, by decide, by decide⟩,
        ⟨by decide, by decide, by decide, by decide, by decide, by decide⟩⟩) (by decide)
  exact ⟨p, predictions, hp, hpredictions, hiff.mpr (by decide)⟩

end Lmrs
