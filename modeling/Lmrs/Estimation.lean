import Lmrs.Lib.Python

/-!
# Token breakdown and capacity estimation

Source: `lmrs/estimation.py`.

A request is sized in two figures: the tokens it needs (`calculateRequiredTokens`, the sum of the
four components) and the dynamic VRAM it needs (`calculateDynamicVramRequirement`, tokens times
the KV cost plus two overheads). Both refuse a negative component. `estimateRequestCapacity`
records the two figures with the facts they were computed from.

* `calculateRequiredTokens_eq_ok`, `calculateDynamicVramRequirement_eq_ok`: when the figures
  exist and what they are.
* `estimateRequestCapacity_spec`: every estimate that exists carries its own inputs, and both
  figures are non-negative.
-/

namespace Lmrs

open Python

/-- Source: `estimation.py`, `TokenBreakdown`. -/
structure TokenBreakdown where
  inputTokens : Int
  toolTokens : Int
  serviceTokens : Int
  reservedOutputTokens : Int
  tokenizerName : String
  tokenizerAccuracy : String
  roughEstimate : Bool := false
  deriving DecidableEq

/-- Source: `estimation.py`, `RequestCapacityEstimate`. -/
structure RequestCapacityEstimate where
  requestId : String
  modelName : String
  tokenBreakdown : TokenBreakdown
  requiredTokens : Int
  requiredDynamicVramBytes : Int
  usableDynamicVramBytes : Int
  declaredContextWindow : Int
  kvBytesPerToken : Int
  perRequestOverheadBytes : Int
  runtimeBatchOverheadBytes : Int
  deriving DecidableEq

/-- The sum of the four components of a breakdown. -/
def TokenBreakdown.total (b : TokenBreakdown) : Int :=
  b.inputTokens + b.toolTokens + b.serviceTokens + b.reservedOutputTokens

/-- Source: `estimation.py`, `calculate_required_tokens`. -/
def calculateRequiredTokens (breakdown : TokenBreakdown) : Except PyException Int := do
  requireNonNegative "input_tokens" breakdown.inputTokens
  requireNonNegative "tool_tokens" breakdown.toolTokens
  requireNonNegative "service_tokens" breakdown.serviceTokens
  requireNonNegative "reserved_output_tokens" breakdown.reservedOutputTokens
  return breakdown.total

/-- Source: `estimation.py`, `calculate_dynamic_vram_requirement`. -/
def calculateDynamicVramRequirement (requiredTokens kvBytesPerToken perRequestOverheadBytes
    runtimeBatchOverheadBytes : Int) : Except PyException Int := do
  requireNonNegative "required_tokens" requiredTokens
  requireNonNegative "kv_bytes_per_token" kvBytesPerToken
  requireNonNegative "per_request_overhead_bytes" perRequestOverheadBytes
  requireNonNegative "runtime_batch_overhead_bytes" runtimeBatchOverheadBytes
  return requiredTokens * kvBytesPerToken + perRequestOverheadBytes + runtimeBatchOverheadBytes

/-- Source: `estimation.py`, `estimate_request_capacity`. -/
def estimateRequestCapacity (requestId modelName : String) (tokenBreakdown : TokenBreakdown)
    (declaredContextWindow usableDynamicVramBytes kvBytesPerToken perRequestOverheadBytes
      runtimeBatchOverheadBytes : Int) : Except PyException RequestCapacityEstimate := do
  let requiredTokens ← calculateRequiredTokens tokenBreakdown
  let requiredDynamicVramBytes ← calculateDynamicVramRequirement requiredTokens kvBytesPerToken
    perRequestOverheadBytes runtimeBatchOverheadBytes
  return { requestId, modelName, tokenBreakdown, requiredTokens, requiredDynamicVramBytes,
           usableDynamicVramBytes, declaredContextWindow, kvBytesPerToken,
           perRequestOverheadBytes, runtimeBatchOverheadBytes }

/-- A breakdown without a negative component. -/
structure TokenBreakdown.NonNegative (b : TokenBreakdown) : Prop where
  input : 0 ≤ b.inputTokens
  tool : 0 ≤ b.toolTokens
  service : 0 ≤ b.serviceTokens
  reserved : 0 ≤ b.reservedOutputTokens

/-- The total of a breakdown without a negative component is non-negative. -/
theorem TokenBreakdown.NonNegative.total_nonneg {b : TokenBreakdown} (h : b.NonNegative) :
    0 ≤ b.total := by
  obtain ⟨h₁, h₂, h₃, h₄⟩ := h
  unfold TokenBreakdown.total
  omega

/-- The token figure exists exactly for a breakdown without a negative component. -/
theorem calculateRequiredTokens_eq_ok {b : TokenBreakdown} {n : Int} :
    calculateRequiredTokens b = .ok n ↔ b.NonNegative ∧ n = b.total := by
  unfold calculateRequiredTokens
  simp only [bind_eq_ok, requireNonNegative_eq_ok, exists_and_left, exists_const, pure,
    Except.pure, Except.ok.injEq]
  constructor
  · rintro ⟨h₁, h₂, h₃, h₄, rfl⟩
    exact ⟨⟨h₁, h₂, h₃, h₄⟩, rfl⟩
  · rintro ⟨⟨h₁, h₂, h₃, h₄⟩, rfl⟩
    exact ⟨h₁, h₂, h₃, h₄, rfl⟩

/-- The VRAM figure exists exactly for non-negative inputs. -/
theorem calculateDynamicVramRequirement_eq_ok {tokens kv perRequest batch n : Int} :
    calculateDynamicVramRequirement tokens kv perRequest batch = .ok n ↔
      (0 ≤ tokens ∧ 0 ≤ kv ∧ 0 ≤ perRequest ∧ 0 ≤ batch) ∧
        n = tokens * kv + perRequest + batch := by
  unfold calculateDynamicVramRequirement
  simp only [bind_eq_ok, requireNonNegative_eq_ok, exists_and_left, exists_const, pure,
    Except.pure, Except.ok.injEq]
  constructor
  · rintro ⟨h₁, h₂, h₃, h₄, rfl⟩
    exact ⟨⟨h₁, h₂, h₃, h₄⟩, rfl⟩
  · rintro ⟨⟨h₁, h₂, h₃, h₄⟩, rfl⟩
    exact ⟨h₁, h₂, h₃, h₄, rfl⟩

/-- What an estimate says of the request it was made for. -/
structure RequestCapacityEstimate.Sized (e : RequestCapacityEstimate) : Prop where
  breakdown : e.tokenBreakdown.NonNegative
  tokens : e.requiredTokens = e.tokenBreakdown.total
  bytes : e.requiredDynamicVramBytes =
    e.requiredTokens * e.kvBytesPerToken + e.perRequestOverheadBytes + e.runtimeBatchOverheadBytes
  tokens_nonneg : 0 ≤ e.requiredTokens
  bytes_nonneg : 0 ≤ e.requiredDynamicVramBytes

/-- **Every estimate that exists is sized**: its figures are computed from the facts it carries,
these are the ones it was asked about, and both figures are non-negative. -/
theorem estimateRequestCapacity_spec {requestId modelName : String} {b : TokenBreakdown}
    {window usable kv perRequest batch : Int} {e : RequestCapacityEstimate}
    (h : estimateRequestCapacity requestId modelName b window usable kv perRequest batch = .ok e) :
    e.Sized ∧ e.requestId = requestId ∧ e.modelName = modelName ∧ e.tokenBreakdown = b ∧
      e.declaredContextWindow = window ∧ e.kvBytesPerToken = kv ∧
      e.perRequestOverheadBytes = perRequest ∧ e.runtimeBatchOverheadBytes = batch := by
  simp only [estimateRequestCapacity, bind_eq_ok] at h
  obtain ⟨tokens, htokens, bytes, hbytes, he⟩ := h
  obtain ⟨hb, rfl⟩ := calculateRequiredTokens_eq_ok.mp htokens
  obtain ⟨⟨ht, hkv, hreq, hbatch⟩, rfl⟩ := calculateDynamicVramRequirement_eq_ok.mp hbytes
  cases he
  have hmul : 0 ≤ b.total * kv := Int.mul_nonneg ht hkv
  refine ⟨⟨hb, rfl, rfl, ht, ?_⟩, rfl, rfl, rfl, rfl, rfl, rfl, rfl⟩
  exact Int.add_nonneg (Int.add_nonneg hmul hreq) hbatch

/-- An estimate exists for non-negative figures. -/
theorem estimateRequestCapacity_isOk (requestId modelName : String) {b : TokenBreakdown}
    (window usable : Int) {kv perRequest batch : Int} (hb : b.NonNegative) (hkv : 0 ≤ kv)
    (hreq : 0 ≤ perRequest) (hbatch : 0 ≤ batch) :
    ∃ e, estimateRequestCapacity requestId modelName b window usable kv perRequest batch = .ok e := by
  have htokens := calculateRequiredTokens_eq_ok.mpr ⟨hb, rfl⟩
  have hbytes := calculateDynamicVramRequirement_eq_ok.mpr
    ⟨⟨hb.total_nonneg, hkv, hreq, hbatch⟩, rfl⟩
  unfold estimateRequestCapacity
  rw [htokens]
  show ∃ e, (calculateDynamicVramRequirement b.total kv perRequest batch >>= fun _ => _) = .ok e
  rw [hbytes]
  exact ⟨_, rfl⟩

/-- A token figure that does not exist raises `ValueError`. -/
theorem calculateRequiredTokens_raises (b : TokenBreakdown) :
    OnlyRaises "ValueError" (calculateRequiredTokens b) := by
  have hnonneg := requireNonNegative_raises
  unfold calculateRequiredTokens
  exact .bind (hnonneg _ _) fun _ => .bind (hnonneg _ _) fun _ => .bind (hnonneg _ _) fun _ =>
    .bind (hnonneg _ _) fun _ => .ok _

/-- A VRAM figure that does not exist raises `ValueError`. -/
theorem calculateDynamicVramRequirement_raises (tokens kv perRequest batch : Int) :
    OnlyRaises "ValueError" (calculateDynamicVramRequirement tokens kv perRequest batch) := by
  have hnonneg := requireNonNegative_raises
  unfold calculateDynamicVramRequirement
  exact .bind (hnonneg _ _) fun _ => .bind (hnonneg _ _) fun _ => .bind (hnonneg _ _) fun _ =>
    .bind (hnonneg _ _) fun _ => .ok _

/-- An estimate that does not exist raises `ValueError`. -/
theorem estimateRequestCapacity_raises (requestId modelName : String) (b : TokenBreakdown)
    (window usable kv perRequest batch : Int) :
    OnlyRaises "ValueError"
      (estimateRequestCapacity requestId modelName b window usable kv perRequest batch) := by
  unfold estimateRequestCapacity
  exact .bind (calculateRequiredTokens_raises b) fun _ =>
    .bind (calculateDynamicVramRequirement_raises _ _ _ _) fun _ => .ok _

/-- The id of a request is carried and has no part in its figures. -/
theorem estimateRequestCapacity_requestId (requestId requestId' modelName : String)
    (b : TokenBreakdown) (window usable kv perRequest batch : Int) :
    estimateRequestCapacity requestId' modelName b window usable kv perRequest batch =
      (estimateRequestCapacity requestId modelName b window usable kv perRequest batch).map
        fun e => { e with requestId := requestId' } := by
  unfold estimateRequestCapacity
  simp only [bind, Except.bind, pure, Except.pure]
  split
  · rfl
  · split <;> rfl

end Lmrs
