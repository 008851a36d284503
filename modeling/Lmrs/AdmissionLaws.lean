import Lmrs.Commands

/-!
# Laws of admission over all inputs

Source: `lmrs/admission.py`, `evaluate_lmcache_admission`, `decide_admission`; `lmrs/estimation.py`,
`estimate_request_capacity`; `lmrs/commands.py`, `CanonicalChatHandler._estimate_and_admit`.

A verdict is compared with another by how far it is from running the request: execute, then queue,
then reject. A request is harder than another when it asks for no less and is offered no more.

* `severity_eq`: without a confirmed cache hit, the verdict in terms of the request's own figures.
* `admission_monotone`: a harder request never gets a better verdict; when a request is executed, and
  when it is not refused for good.
* `cache_only_reduces_iff`: when a cache adjustment can do no more than reduce the requirement.
-/

namespace Lmrs

open Python

/-- How far a decision is from running the request. -/
def CanonicalDecision.severity : CanonicalDecision → Nat
  | .execute => 0
  | .queue => 1
  | .reject => 2

/-- How far a verdict is from running the request. -/
def AdmissionVerdict.severity (v : AdmissionVerdict) : Nat := (canonicalDecision v.decision).severity

namespace AdmissionRequest

/-- The tokens a request asks for. -/
def requiredTokens (r : AdmissionRequest) : Int := r.tokenBreakdown.total

/-- The bytes a request asks for, as a full cache miss. -/
def requiredBytes (r : AdmissionRequest) : Int :=
  r.requiredTokens * r.kvBytesPerToken + r.perRequestOverheadBytes + r.runtimeBatchOverheadBytes

/-- A request whose figures the estimate accepts. -/
structure Valid (r : AdmissionRequest) : Prop where
  breakdown : r.tokenBreakdown.NonNegative
  kv : 0 ≤ r.kvBytesPerToken
  perRequest : 0 ≤ r.perRequestOverheadBytes
  batch : 0 ≤ r.runtimeBatchOverheadBytes

/-- One request is at least as hard to admit as another: it asks for no less of anything, and is
offered no more. -/
structure AtLeastAsHard (r' r : AdmissionRequest) : Prop where
  input : r.tokenBreakdown.inputTokens ≤ r'.tokenBreakdown.inputTokens
  tool : r.tokenBreakdown.toolTokens ≤ r'.tokenBreakdown.toolTokens
  service : r.tokenBreakdown.serviceTokens ≤ r'.tokenBreakdown.serviceTokens
  reserved : r.tokenBreakdown.reservedOutputTokens ≤ r'.tokenBreakdown.reservedOutputTokens
  kv : r.kvBytesPerToken ≤ r'.kvBytesPerToken
  perRequest : r.perRequestOverheadBytes ≤ r'.perRequestOverheadBytes
  batch : r.runtimeBatchOverheadBytes ≤ r'.runtimeBatchOverheadBytes
  window : r'.declaredContextWindow ≤ r.declaredContextWindow
  usable : r'.capacity.usableDynamicVramBytes ≤ r.capacity.usableDynamicVramBytes
  pool : r'.capacity.maxDynamicPoolBytes ≤ r.capacity.maxDynamicPoolBytes

variable {r r' : AdmissionRequest}

/-- A request harder than a valid one is valid. -/
theorem AtLeastAsHard.valid (h : r'.AtLeastAsHard r) (hr : r.Valid) : r'.Valid where
  breakdown :=
    ⟨hr.breakdown.input.trans h.input, hr.breakdown.tool.trans h.tool,
      hr.breakdown.service.trans h.service, hr.breakdown.reserved.trans h.reserved⟩
  kv := hr.kv.trans h.kv
  perRequest := hr.perRequest.trans h.perRequest
  batch := hr.batch.trans h.batch

/-- A harder request asks for no fewer tokens. -/
theorem AtLeastAsHard.requiredTokens_le (h : r'.AtLeastAsHard r) :
    r.requiredTokens ≤ r'.requiredTokens := by
  obtain ⟨hinput, htool, hservice, hreserved, -⟩ := h
  unfold requiredTokens TokenBreakdown.total
  omega

/-- A harder request asks for no fewer bytes. -/
theorem AtLeastAsHard.requiredBytes_le (h : r'.AtLeastAsHard r) (hr : r.Valid) :
    r.requiredBytes ≤ r'.requiredBytes := by
  have htokens : 0 ≤ r'.requiredTokens := (h.valid hr).breakdown.total_nonneg
  have hmul : r.requiredTokens * r.kvBytesPerToken ≤ r'.requiredTokens * r'.kvBytesPerToken :=
    Int.mul_le_mul h.requiredTokens_le h.kv hr.kv htokens
  have hperRequest := h.perRequest
  have hbatch := h.batch
  unfold requiredBytes
  omega

/-- A valid request is estimated, and its verdict is the one on the estimate. -/
theorem Valid.admit (hr : r.Valid) :
    ∃ e, CanonicalChatHandler.estimateAndAdmit r =
        .ok (e, decideAdmission e r.capacity r.cacheHitConfirmed r.cacheAdjustedDynamicVramBytes) ∧
      e.requiredTokens = r.requiredTokens ∧ e.requiredDynamicVramBytes = r.requiredBytes ∧
      e.declaredContextWindow = r.declaredContextWindow := by
  obtain ⟨e, he⟩ := estimateRequestCapacity_isOk r.requestId r.modelName r.declaredContextWindow
    r.capacity.usableDynamicVramBytes hr.breakdown hr.kv hr.perRequest hr.batch
  obtain ⟨hsized, -, -, hbreakdown, hwindow, hkv, hperRequest, hbatch⟩ :=
    estimateRequestCapacity_spec he
  have htokens : e.requiredTokens = r.requiredTokens := by
    rw [hsized.tokens, hbreakdown]
    rfl
  refine ⟨e, ?_, htokens, ?_, hwindow⟩
  · unfold CanonicalChatHandler.estimateAndAdmit
    rw [he]
    rfl
  · rw [hsized.bytes, htokens, hkv, hperRequest, hbatch]
    rfl

/-- What decides the verdict on a request that is a full cache miss. -/
def missSeverity (r : AdmissionRequest) : Nat :=
  if r.declaredContextWindow < r.requiredTokens ∨
      r.capacity.maxDynamicPoolBytes < r.requiredBytes then 2
  else if r.capacity.usableDynamicVramBytes < r.requiredBytes then 1
  else 0

/-- **The verdict without a confirmed cache hit**, in terms of the request's own figures. -/
theorem Valid.severity_eq (hr : r.Valid) (hmiss : r.cacheHitConfirmed = false) :
    ∃ e v, CanonicalChatHandler.estimateAndAdmit r = .ok (e, v) ∧ v.severity = r.missSeverity := by
  obtain ⟨e, hadmit, htokens, hbytes, hwindow⟩ := hr.admit
  refine ⟨e, _, hadmit, ?_⟩
  have hfull : evaluateLmcacheAdmission r.cacheHitConfirmed e.requiredDynamicVramBytes
      r.cacheAdjustedDynamicVramBytes = r.requiredBytes := by
    rw [hmiss, hbytes]
    rfl
  simp only [decideAdmission, hfull, htokens, hwindow, missSeverity]
  by_cases hover : r.declaredContextWindow < r.requiredTokens
  · simp [hover, AdmissionVerdict.severity, canonicalDecision, CanonicalDecision.severity]
  · by_cases hpool : r.capacity.maxDynamicPoolBytes < r.requiredBytes
    · simp [hover, hpool, AdmissionVerdict.severity, canonicalDecision, CanonicalDecision.severity]
    · by_cases husable : r.capacity.usableDynamicVramBytes < r.requiredBytes
      · simp [hover, hpool, husable, AdmissionVerdict.severity, canonicalDecision,
          CanonicalDecision.severity]
      · simp [hover, hpool, husable, AdmissionVerdict.severity, canonicalDecision,
          CanonicalDecision.severity]

/-- A harder request is as a full cache miss no closer to running. -/
theorem AtLeastAsHard.missSeverity_le (h : r'.AtLeastAsHard r) (hr : r.Valid) :
    r.missSeverity ≤ r'.missSeverity := by
  have htokens := h.requiredTokens_le
  have hbytes := h.requiredBytes_le hr
  have hwindow := h.window
  have husable := h.usable
  have hpool := h.pool
  unfold missSeverity
  split_ifs <;> omega

end AdmissionRequest

/-- **Admission is monotone.** For valid requests without a confirmed cache hit: one that asks for no
less and is offered no more never gets a better verdict; a request is executed exactly when its tokens
fit the window and its bytes fit both pools; and one that fits the window and the whole pool is never
refused. -/
theorem admission_monotone {r : AdmissionRequest} (hr : r.Valid) (hmiss : r.cacheHitConfirmed = false) :
    ∃ e v, CanonicalChatHandler.estimateAndAdmit r = .ok (e, v) ∧
      (∀ r' : AdmissionRequest, r'.AtLeastAsHard r → r'.cacheHitConfirmed = false →
        ∃ e' v', CanonicalChatHandler.estimateAndAdmit r' = .ok (e', v') ∧
          v.severity ≤ v'.severity) ∧
      (canonicalDecision v.decision = .execute ↔
        r.requiredTokens ≤ r.declaredContextWindow ∧
          r.requiredBytes ≤ r.capacity.maxDynamicPoolBytes ∧
          r.requiredBytes ≤ r.capacity.usableDynamicVramBytes) ∧
      (r.requiredTokens ≤ r.declaredContextWindow →
        r.requiredBytes ≤ r.capacity.maxDynamicPoolBytes →
          canonicalDecision v.decision ≠ .reject) := by
  obtain ⟨e, v, hadmit, hseverity⟩ := hr.severity_eq hmiss
  refine ⟨e, v, hadmit, ?_, ?_, ?_⟩
  · intro r' hhard hmiss'
    obtain ⟨e', v', hadmit', hseverity'⟩ := (hhard.valid hr).severity_eq hmiss'
    refine ⟨e', v', hadmit', ?_⟩
    rw [hseverity, hseverity']
    exact hhard.missSeverity_le hr
  · have hzero : canonicalDecision v.decision = .execute ↔ r.missSeverity = 0 := by
      rw [← hseverity, AdmissionVerdict.severity]
      cases canonicalDecision v.decision <;> simp [CanonicalDecision.severity]
    rw [hzero, AdmissionRequest.missSeverity]
    split_ifs with hreject hwait
    · refine ⟨fun h => absurd h (by decide), ?_⟩
      omega
    · refine ⟨fun h => absurd h (by decide), ?_⟩
      omega
    · refine ⟨fun _ => ?_, fun _ => rfl⟩
      omega
  · intro hwindow hpool hreject
    have htwo : r.missSeverity = 2 := by
      rw [← hseverity, AdmissionVerdict.severity, hreject]
      rfl
    rw [AdmissionRequest.missSeverity] at htwo
    split_ifs at htwo <;> omega

/-- A request of 10 tokens of 4 bytes beside 40 usable bytes of 100. -/
def tenTokens : AdmissionRequest where
  requestId := "a"
  modelName := "m"
  tokenBreakdown := ⟨10, 0, 0, 0, "t", "exact", false⟩
  declaredContextWindow := 20
  capacity := { usableDynamicVramBytes := 40, maxDynamicPoolBytes := 100
                modelLoaded := true, runtimeReady := true }
  kvBytesPerToken := 4
  perRequestOverheadBytes := 0
  runtimeBatchOverheadBytes := 0

/-- The statement at a request that is executed and one that asks for a token more. -/
theorem admission_monotone_ten :
    ∃ e v e' v', CanonicalChatHandler.estimateAndAdmit tenTokens = .ok (e, v) ∧
      CanonicalChatHandler.estimateAndAdmit
        { tenTokens with tokenBreakdown := ⟨11, 0, 0, 0, "t", "exact", false⟩ } = .ok (e', v') ∧
      v.severity ≤ v'.severity := by
  obtain ⟨e, v, hadmit, hhard, -⟩ := admission_monotone (r := tenTokens)
    ⟨⟨by decide, by decide, by decide, by decide⟩, by decide, by decide, by decide⟩ rfl
  obtain ⟨e', v', hadmit', hle⟩ := hhard
    { tenTokens with tokenBreakdown := ⟨11, 0, 0, 0, "t", "exact", false⟩ }
    ⟨by decide, by decide, by decide, by decide, by decide, by decide, by decide, by decide,
      by decide, by decide⟩ rfl
  exact ⟨e, v, e', v', hadmit, hadmit', hle⟩

/-! ## What cache information can do -/

/-- The law of cache information: without a confirmed value the verdict is that of a full cache miss; a
request over the window stays rejected; and with a confirmed hit the requirement decided on, which is
the one recorded, lies between zero and that of the full miss. -/
structure CacheOnlyReduces (e : RequestCapacityEstimate) (c : CapacitySnapshot) (hit : Bool)
    (adjusted : Option Int) : Prop where
  miss : ¬ (hit = true ∧ adjusted.isSome = true) →
    decideAdmission e c hit adjusted = decideAdmission e c
  overflow : e.declaredContextWindow < e.requiredTokens →
    (decideAdmission e c hit adjusted).decision = .wouldReject ∧
      (decideAdmission e c hit adjusted).reasonCode = .contextOverflow
  recorded : (decideAdmission e c hit adjusted).requiredDynamicVramBytes =
    evaluateLmcacheAdmission hit e.requiredDynamicVramBytes adjusted
  reduced : hit = true →
    0 ≤ evaluateLmcacheAdmission hit e.requiredDynamicVramBytes adjusted ∧
      evaluateLmcacheAdmission hit e.requiredDynamicVramBytes adjusted ≤ e.requiredDynamicVramBytes

section cache

variable {e : RequestCapacityEstimate} {c : CapacitySnapshot} {hit : Bool} {adjusted : Option Int}

/-- Without a confirmed value the requirement is that of the full miss. -/
theorem evaluateLmcacheAdmission_of_miss (h : ¬ (hit = true ∧ adjusted.isSome = true)) (full : Int) :
    evaluateLmcacheAdmission hit full adjusted = full := by
  cases hit with
  | false => rfl
  | true =>
      cases adjusted with
      | none => rfl
      | some value => exact absurd ⟨rfl, rfl⟩ h

/-- A request over the window is rejected, whatever the cache says. -/
theorem decideAdmission_of_overflow (h : e.declaredContextWindow < e.requiredTokens) :
    (decideAdmission e c hit adjusted).decision = .wouldReject ∧
      (decideAdmission e c hit adjusted).reasonCode = .contextOverflow := by
  unfold decideAdmission
  rw [if_pos h]
  exact ⟨rfl, rfl⟩

/-- **When cache information can only reduce the work.** For every estimate that was made: the law holds
exactly when no hit is confirmed with a value, or the value lies between zero and the requirement of the
full miss. -/
theorem cache_only_reduces_iff {requestId modelName : String} {b : TokenBreakdown}
    {window usable kv perRequest batch : Int}
    (he : estimateRequestCapacity requestId modelName b window usable kv perRequest batch = .ok e)
    (c : CapacitySnapshot) (hit : Bool) (adjusted : Option Int) :
    CacheOnlyReduces e c hit adjusted ↔
      (hit = true → ∀ value, adjusted = some value →
        0 ≤ value ∧ value ≤ e.requiredDynamicVramBytes) := by
  have hfull : 0 ≤ e.requiredDynamicVramBytes := (estimateRequestCapacity_spec he).1.bytes_nonneg
  constructor
  · rintro hlaw rfl value rfl
    exact hlaw.reduced rfl
  · intro hbounds
    refine ⟨?_, decideAdmission_of_overflow, (decideAdmission_fields e c hit adjusted).2.2.2, ?_⟩
    · intro hmiss
      unfold decideAdmission
      rw [evaluateLmcacheAdmission_of_miss hmiss, evaluateLmcacheAdmission_of_miss (by simp)]
    · rintro rfl
      cases adjusted with
      | none => exact ⟨hfull, le_rfl⟩
      | some value => exact hbounds rfl value rfl

end cache

/-- The estimate of a request for 10 tokens of 4 bytes. -/
def tenTokensEstimate : RequestCapacityEstimate where
  requestId := "a"
  modelName := "m"
  tokenBreakdown := ⟨10, 0, 0, 0, "t", "exact", false⟩
  requiredTokens := 10
  requiredDynamicVramBytes := 40
  usableDynamicVramBytes := 40
  declaredContextWindow := 20
  kvBytesPerToken := 4
  perRequestOverheadBytes := 0
  runtimeBatchOverheadBytes := 0

/-- The estimate is the one that is made of the request. -/
theorem estimate_tenTokens :
    estimateRequestCapacity "a" "m" ⟨10, 0, 0, 0, "t", "exact", false⟩ 20 40 4 0 0 =
      .ok tenTokensEstimate := by decide

/-- A runtime that has nothing left. -/
def fullRuntime : CapacitySnapshot where
  usableDynamicVramBytes := 0
  maxDynamicPoolBytes := 0
  modelLoaded := true
  runtimeReady := true

/-- The statement at an adjustment to half the requirement. -/
theorem cache_only_reduces_half : CacheOnlyReduces tenTokensEstimate fullRuntime true (some 20) := by
  apply (cache_only_reduces_iff estimate_tenTokens fullRuntime true (some 20)).mpr
  intro _ value hvalue
  cases hvalue
  decide

/-- **A negative adjustment is taken as it is**: the requirement of a request for 40 bytes is recorded as
minus one. -/
theorem negative_adjustment_recorded :
    ¬ ∀ (e : RequestCapacityEstimate) (c : CapacitySnapshot) (hit : Bool) (adjusted : Option Int),
      (∃ requestId modelName b window usable kv perRequest batch,
        estimateRequestCapacity requestId modelName b window usable kv perRequest batch = .ok e) →
      CacheOnlyReduces e c hit adjusted := by
  intro h
  have hlaw := h tenTokensEstimate fullRuntime true (some (-1))
    ⟨_, _, _, _, _, _, _, _, estimate_tenTokens⟩
  have hneg : (0 : Int) ≤ -1 := (hlaw.reduced rfl).1
  omega

end Lmrs
