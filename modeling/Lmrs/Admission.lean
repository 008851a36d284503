import Lmrs.Codes
import Lmrs.Estimation

/-!
# Admission control and verdict contracts

Source: `lmrs/admission.py`.

A verdict compares an estimate with a capacity snapshot in a fixed order: the token figure against
the declared context window, the VRAM figure against the maximum pool, then against the usable
pool.

* `decideAdmission_execute_iff`, `decideAdmission_queue_iff`: when a request is admitted, and when
  it is asked to wait.
* `decideAdmission_ne_queue`: where the usable pool is the whole pool nothing is asked to wait.
* `decideAdmission_congr`: the verdict reads the two pools of the snapshot and nothing else of it.
* `buildQueueEntryRequest_eq_ok`: which queue records exist and what they hold.
-/

namespace Lmrs

open Python

/-- Source: `admission.py`, `CapacitySnapshot`. -/
structure CapacitySnapshot where
  usableDynamicVramBytes : Int
  maxDynamicPoolBytes : Int
  modelLoaded : Bool
  runtimeReady : Bool
  metadata : Dict Value := []

/-- Source: `admission.py`, `AdmissionVerdict`. -/
structure AdmissionVerdict where
  decision : Decision
  reasonCode : ReasonCode
  requestId : String
  modelName : String
  requiredTokens : Int
  requiredDynamicVramBytes : Int
  queueable : Bool := false
  deriving DecidableEq

/-- Source: `admission.py`, `evaluate_lmcache_admission`. -/
def evaluateLmcacheAdmission (cacheHitConfirmed : Bool) (fullRequiredDynamicVramBytes : Int)
    (cacheAdjustedDynamicVramBytes : Option Int) : Int :=
  match cacheHitConfirmed, cacheAdjustedDynamicVramBytes with
  | true, some adjusted => adjusted
  | _, _ => fullRequiredDynamicVramBytes

/-- Source: `admission.py`, `decide_admission`. -/
def decideAdmission (estimate : RequestCapacityEstimate) (capacity : CapacitySnapshot)
    (cacheHitConfirmed : Bool := false) (cacheAdjustedDynamicVramBytes : Option Int := none) :
    AdmissionVerdict :=
  let requiredVram := evaluateLmcacheAdmission cacheHitConfirmed
    estimate.requiredDynamicVramBytes cacheAdjustedDynamicVramBytes
  let verdict (decision : Decision) (reasonCode : ReasonCode) (queueable : Bool) :
      AdmissionVerdict :=
    { decision, reasonCode, queueable
      requestId := estimate.requestId
      modelName := estimate.modelName
      requiredTokens := estimate.requiredTokens
      requiredDynamicVramBytes := requiredVram }
  if estimate.declaredContextWindow < estimate.requiredTokens then
    verdict .wouldReject .contextOverflow false
  else if capacity.maxDynamicPoolBytes < requiredVram then
    verdict .wouldReject .requestTooLarge false
  else if capacity.usableDynamicVramBytes < requiredVram then
    verdict .wouldQueue .capacityConstrained true
  else
    verdict .wouldExecute .capacityAvailable false

/-! ## What the verdict says -/

section verdict

variable (e : RequestCapacityEstimate) (c : CapacitySnapshot) (hit : Bool) (adj : Option Int)

/-- The three comparisons, and what each outcome carries. -/
theorem decideAdmission_cases :
    let v := decideAdmission e c hit adj
    (v.decision = .wouldReject ∧ v.queueable = false ∧
        (e.declaredContextWindow < e.requiredTokens ∨
          c.maxDynamicPoolBytes < v.requiredDynamicVramBytes)) ∨
      (v.decision = .wouldQueue ∧ v.queueable = true ∧
        e.requiredTokens ≤ e.declaredContextWindow ∧
        v.requiredDynamicVramBytes ≤ c.maxDynamicPoolBytes ∧
        c.usableDynamicVramBytes < v.requiredDynamicVramBytes) ∨
      (v.decision = .wouldExecute ∧ v.queueable = false ∧
        e.requiredTokens ≤ e.declaredContextWindow ∧
        v.requiredDynamicVramBytes ≤ c.maxDynamicPoolBytes ∧
        v.requiredDynamicVramBytes ≤ c.usableDynamicVramBytes) := by
  simp only [decideAdmission]
  by_cases h₁ : e.declaredContextWindow < e.requiredTokens
  · simp [h₁]
  · by_cases h₂ : c.maxDynamicPoolBytes < evaluateLmcacheAdmission hit e.requiredDynamicVramBytes adj
    · simp [h₁, h₂]
    · by_cases h₃ : c.usableDynamicVramBytes < evaluateLmcacheAdmission hit e.requiredDynamicVramBytes adj
      · simp only [h₁, h₂, h₃, if_false, if_true]
        refine Or.inr (Or.inl ⟨trivial, trivial, ?_, ?_, trivial⟩) <;> omega
      · simp only [h₁, h₂, h₃, if_false]
        refine Or.inr (Or.inr ⟨trivial, trivial, ?_, ?_, ?_⟩) <;> omega

/-- The verdict is about the estimate's request and carries its figures; the VRAM figure is the
one adjusted for a confirmed cache hit. -/
theorem decideAdmission_fields :
    let v := decideAdmission e c hit adj
    v.requestId = e.requestId ∧ v.modelName = e.modelName ∧ v.requiredTokens = e.requiredTokens ∧
      v.requiredDynamicVramBytes = evaluateLmcacheAdmission hit e.requiredDynamicVramBytes adj := by
  simp only [decideAdmission]
  split_ifs <;> exact ⟨rfl, rfl, rfl, rfl⟩

variable {e c hit adj}

/-- **When a request is admitted**: its tokens fit the window and its bytes fit both pools. -/
theorem decideAdmission_execute_iff :
    canonicalDecision (decideAdmission e c hit adj).decision = .execute ↔
      e.requiredTokens ≤ e.declaredContextWindow ∧
        (decideAdmission e c hit adj).requiredDynamicVramBytes ≤ c.maxDynamicPoolBytes ∧
        (decideAdmission e c hit adj).requiredDynamicVramBytes ≤ c.usableDynamicVramBytes := by
  rcases decideAdmission_cases e c hit adj with ⟨hd, -, h⟩ | ⟨hd, -, h⟩ | ⟨hd, -, h⟩
  · rw [hd]
    constructor
    · intro hc
      cases hc
    · omega
  · rw [hd]
    constructor
    · intro hc
      cases hc
    · omega
  · rw [hd]
    exact ⟨fun _ => h, fun _ => rfl⟩

/-- **When a request is asked to wait**: it fits the whole pool but not what is usable of it. -/
theorem decideAdmission_queue_iff :
    canonicalDecision (decideAdmission e c hit adj).decision = .queue ↔
      e.requiredTokens ≤ e.declaredContextWindow ∧
        (decideAdmission e c hit adj).requiredDynamicVramBytes ≤ c.maxDynamicPoolBytes ∧
        c.usableDynamicVramBytes < (decideAdmission e c hit adj).requiredDynamicVramBytes := by
  rcases decideAdmission_cases e c hit adj with ⟨hd, -, h⟩ | ⟨hd, -, h⟩ | ⟨hd, -, h⟩
  · rw [hd]
    constructor
    · intro hc
      cases hc
    · omega
  · rw [hd]
    exact ⟨fun _ => h, fun _ => rfl⟩
  · rw [hd]
    constructor
    · intro hc
      cases hc
    · omega

/-- Where everything in the pool is usable, nothing is asked to wait. -/
theorem decideAdmission_ne_queue (h : c.maxDynamicPoolBytes ≤ c.usableDynamicVramBytes) :
    canonicalDecision (decideAdmission e c hit adj).decision ≠ .queue := by
  intro hq
  obtain ⟨-, hmax, huse⟩ := decideAdmission_queue_iff.mp hq
  omega

/-- A verdict is queueable exactly when its decision is to wait. -/
theorem decideAdmission_queueable_iff :
    (decideAdmission e c hit adj).queueable = true ↔
      canonicalDecision (decideAdmission e c hit adj).decision = .queue := by
  rcases decideAdmission_cases e c hit adj with ⟨hd, hq, -⟩ | ⟨hd, hq, -⟩ | ⟨hd, hq, -⟩
  all_goals
    rw [hd, hq]
    simp [canonicalDecision]

/-- The verdict reads the two pools of the snapshot and nothing else of it: in particular not
whether the runtime is ready. -/
theorem decideAdmission_congr {c' : CapacitySnapshot}
    (huse : c'.usableDynamicVramBytes = c.usableDynamicVramBytes)
    (hmax : c'.maxDynamicPoolBytes = c.maxDynamicPoolBytes) :
    decideAdmission e c' hit adj = decideAdmission e c hit adj := by
  simp only [decideAdmission, huse, hmax]

end verdict

/-! ## The record of a request that waits -/

/-- Source: `admission.py`, `_REQUIRED_REQUEST_METADATA`. -/
def requiredRequestMetadata : List String := ["session_id"]

/-- Source: `admission.py`, `_REQUIRED_QUEUE_METADATA`. -/
def requiredQueueMetadata : List String := ["admitted_at", "expires_at"]

/-- The required metadata a caller left out, in the order the error names them. -/
def missingMetadata (requestMetadata queueMetadata : Dict Value) : List String :=
  (requiredRequestMetadata.filter fun name => (Value.item requestMetadata name).isNone) ++
    requiredQueueMetadata.filter fun name => (Value.item queueMetadata name).isNone

/-- The fields of the record of a request that waits. -/
def queueRecord (verdict : AdmissionVerdict) (requestMetadata queueMetadata : Dict Value) :
    Dict Value :=
  [("request_id", .str verdict.requestId),
   ("session_id", Value.item requestMetadata "session_id"),
   ("model_name", .str verdict.modelName),
   ("required_tokens", .int verdict.requiredTokens),
   ("required_dynamic_vram_bytes", .int verdict.requiredDynamicVramBytes),
   ("admitted_at", Value.item queueMetadata "admitted_at"),
   ("expires_at", Value.item queueMetadata "expires_at"),
   ("priority", (Dict.get? queueMetadata "priority").getD (.int 0)),
   ("status", (Dict.get? queueMetadata "status").getD (.str "queued")),
   ("reason_code", .str verdict.reasonCode.text)]

/-- Source: `admission.py`, `build_queue_entry_request`. -/
def buildQueueEntryRequest (verdict : AdmissionVerdict) (estimate : RequestCapacityEstimate)
    (requestMetadata queueMetadata : Dict Value) : Except PyException (Dict Value) :=
  if verdict.queueable = false then
    .error (valueError "build_queue_entry_request requires a queueable verdict")
  else if estimate.requestId ≠ verdict.requestId then
    .error (valueError
      "build_queue_entry_request requires the verdict and estimate to describe the same request")
  else if missingMetadata requestMetadata queueMetadata ≠ [] then
    .error (valueError ("build_queue_entry_request is missing required metadata: " ++
      String.intercalate ", " (missingMetadata requestMetadata queueMetadata)))
  else
    .ok (queueRecord verdict requestMetadata queueMetadata)

/-- **Which records exist**: those of a queueable verdict on the same request, with a session, an
admission time and an expiry supplied. -/
theorem buildQueueEntryRequest_eq_ok {v : AdmissionVerdict} {e : RequestCapacityEstimate}
    {req queue record : Dict Value} :
    buildQueueEntryRequest v e req queue = .ok record ↔
      v.queueable = true ∧ e.requestId = v.requestId ∧ missingMetadata req queue = [] ∧
        record = queueRecord v req queue := by
  unfold buildQueueEntryRequest
  by_cases hq : v.queueable = false
  · simp [hq]
  · by_cases hid : e.requestId = v.requestId
    · by_cases hm : missingMetadata req queue = []
      · simp [hq, hid, hm, eq_comm]
      · simp [hq, hid, hm]
    · simp [hq, hid]

end Lmrs
