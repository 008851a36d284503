import Lmrs.Adapter.Chat
import Lmrs.Lib.Numbers

/-!
# The estimate on raw inputs

Source: `lmrs/adapter/registration.py`, `EstimateCommand._coerce_token_breakdown`, `_coerce_capacity`, `delegate`,
over `lmrs/commands.py`, `CanonicalChatHandler.estimate`.

The raw inputs of an estimate are values of any type. A breakdown and a capacity that are mappings become the
domain types, and any other value is passed on as it is: it fails where the handler reads an attribute of it,
and while the model is being switched to nothing reads one. The other figures are never converted: they are
integers or floats, and anything else fails where it is compared.

* `EstimateCommand.rawEstimate_cases`: what it reports.
* `EstimateCommand.rawEstimate_of_integers`: on mappings and integers the estimate is the handler's.
-/

namespace Lmrs

open Python

/-- Source: `registration.py`, `EstimateCommand._coerce_token_breakdown`, on a mapping. -/
def coerceTokenBreakdown (value : Dict Value) : Except PyException TokenBreakdown := do
  let figure (name : String) : Except PyException Int :=
    toInt ((Dict.get? value name).getD (.int 0))
  let inputTokens ← figure "input_tokens"
  let toolTokens ← figure "tool_tokens"
  let serviceTokens ← figure "service_tokens"
  let reservedOutputTokens ← figure "reserved_output_tokens"
  return { inputTokens, toolTokens, serviceTokens, reservedOutputTokens
           tokenizerName := ((Dict.get? value "tokenizer_name").getD (.str "caller_declared")).text
           tokenizerAccuracy :=
             ((Dict.get? value "tokenizer_accuracy").getD (.str "caller_declared")).text
           roughEstimate := ((Dict.get? value "rough_estimate").getD (.bool true)).truthy }

/-- Source: `registration.py`, `EstimateCommand._coerce_capacity`, on a mapping. -/
def coerceCapacity (value : Dict Value) : Except PyException CapacitySnapshot := do
  let usable ← toInt ((Dict.get? value "usable_dynamic_vram_bytes").getD (.int 0))
  let pool ← toInt ((Dict.get? value "max_dynamic_pool_bytes").getD (.int usable))
  return { usableDynamicVramBytes := usable, maxDynamicPoolBytes := pool
           modelLoaded := (Value.item value "model_loaded").truthy
           runtimeReady := (Value.item value "runtime_ready").truthy
           metadata := (Value.item value "metadata").asDict?.getD [] }

/-- Source: `registration.py`, `_ESTIMATE_RAW_FIELDS`. -/
def estimateRawFields : List String :=
  ["request_id", "model_name", "token_breakdown", "declared_context_window", "capacity",
   "kv_bytes_per_token", "per_request_overhead_bytes", "runtime_batch_overhead_bytes"]

namespace EstimateCommand

/-- An input after its conversion: of the domain type, or the value it is when that is no mapping. -/
inductive Coerced (α : Type) where
  | domain (a : α)
  | passed (value : Value)

namespace Coerced

variable {α : Type}

/-- A mapping is converted, and any other value passed on. -/
def ofValue (coerce : Dict Value → Except PyException α) (value : Value) :
    Except PyException (Coerced α) :=
  match value.asDict? with
  | some mapping => (coerce mapping).map .domain
  | none => .ok (.passed value)

/-- The reading of an attribute: a value that was passed on has none. -/
def read (name : String) : Coerced α → Except PyException α
  | .domain a => .ok a
  | .passed value => .error (attributeError value.typeName name)

/-- What a result carries in a field of the domain type. -/
def domain? : Coerced α → Option α
  | .domain a => some a
  | .passed _ => none

/-- What a result carries as it was given. -/
def given (name : String) : Coerced α → Dict Value
  | .domain _ => []
  | .passed value => [(name, value)]

end Coerced

/-- Source: `commands.py`, `CanonicalChatHandler._switching_rejection`, of a dry run. -/
def rawSwitchingRejection (tokenBreakdown : Coerced TokenBreakdown) (capacity : Coerced CapacitySnapshot) :
    CommandResult :=
  { PublicCommandExecutor.estimateResult .reject (some .modelSwitching) tokenBreakdown.domain?
      capacity.domain? with
    given := tokenBreakdown.given "token_breakdown" ++ capacity.given "capacity_snapshot" }

/-- Source: `estimation.py`, `calculate_dynamic_vram_requirement`, on figures of any type. -/
def rawDynamicVramRequirement (round : ℚ → PyFloat) (requiredTokens : Int)
    (kvBytesPerToken perRequestOverheadBytes runtimeBatchOverheadBytes : Value) :
    Except PyException Number := do
  requireNonNegative "required_tokens" requiredTokens
  let kv ← kvBytesPerToken.nonNegative "kv_bytes_per_token"
  let perRequest ← perRequestOverheadBytes.nonNegative "per_request_overhead_bytes"
  let batch ← runtimeBatchOverheadBytes.nonNegative "runtime_batch_overhead_bytes"
  let cost ← (Number.int requiredTokens).mul round kv
  (← cost.add round perRequest).add round batch

/-- Source: `admission.py`, `decide_admission`, on figures of any type and without a cache hit. -/
def rawDecision (requiredTokens : Int) (requiredVram : Number) (declaredContextWindow : Value)
    (capacity : CapacitySnapshot) : Except PyException (Decision × ReasonCode) := do
  if ← declaredContextWindow.lessThanInt requiredTokens then
    return (.wouldReject, .contextOverflow)
  else if (Number.int capacity.maxDynamicPoolBytes).lt requiredVram then
    return (.wouldReject, .requestTooLarge)
  else if (Number.int capacity.usableDynamicVramBytes).lt requiredVram then
    return (.wouldQueue, .capacityConstrained)
  else
    return (.wouldExecute, .capacityAvailable)

/-- The handler's estimate of what was passed on. Source: `commands.py`, `CanonicalChatHandler.estimate`,
`_estimate_and_admit`. -/
def rawAdmission (round : ℚ → PyFloat) (params : Dict Value) (tokenBreakdown : Coerced TokenBreakdown)
    (capacity : Coerced CapacitySnapshot) : Except PyException CommandResult := do
  -- the capacity is an argument of the estimate, and read before the breakdown
  let snapshot ← capacity.read "usable_dynamic_vram_bytes"
  let breakdown ← tokenBreakdown.read "input_tokens"
  let requiredTokens ← calculateRequiredTokens breakdown
  let requiredVram ← rawDynamicVramRequirement round requiredTokens
    (Value.item params "kv_bytes_per_token") (Value.item params "per_request_overhead_bytes")
    (Value.item params "runtime_batch_overhead_bytes")
  let (decision, reasonCode) ← rawDecision requiredTokens requiredVram
    (Value.item params "declared_context_window") snapshot
  return PublicCommandExecutor.estimateResult decision (some reasonCode) (some breakdown) (some snapshot)

/-- The dry run on raw inputs. -/
def rawEstimate (s : AdapterState) (r : Readings) (params : Dict Value) :
    Except PyException CommandResult :=
  let missing := estimateRawFields.filter fun name => (Value.item params name).isNone
  if missing ≠ [] then
    .error (valueError ("estimate requires either message (text mode, optionally with " ++
      "model_name, system and max_tokens) or the full raw input set; missing raw fields: " ++
      String.intercalate ", " missing))
  else do
    let tokenBreakdown ← Coerced.ofValue coerceTokenBreakdown (Value.item params "token_breakdown")
    let capacity ← Coerced.ofValue coerceCapacity (Value.item params "capacity")
    if (chatHandler s).switching (Value.item params "model_name").text then
      return rawSwitchingRejection tokenBreakdown capacity
    else
      rawAdmission r.round params tokenBreakdown capacity

/-- **What an estimate on raw inputs reports**: the refusal of a running switch, or an admission decision on a
breakdown and a capacity. -/
theorem rawEstimate_cases {s : AdapterState} {r : Readings} {params : Dict Value} {result : CommandResult}
    (h : rawEstimate s r params = .ok result) :
    (∃ tokenBreakdown capacity,
        (chatHandler s).switching (Value.item params "model_name").text = true ∧
        result = rawSwitchingRejection tokenBreakdown capacity) ∨
      ∃ decision reasonCode breakdown snapshot,
        (chatHandler s).switching (Value.item params "model_name").text = false ∧
        result = PublicCommandExecutor.estimateResult decision (some reasonCode) (some breakdown)
          (some snapshot) := by
  unfold rawEstimate at h
  dsimp only at h
  split at h
  · cases h
  · obtain ⟨tokenBreakdown, -, h⟩ := bind_eq_ok.mp h
    obtain ⟨capacity, -, h⟩ := bind_eq_ok.mp h
    split at h
    · rename_i hswitch
      cases h
      exact Or.inl ⟨tokenBreakdown, capacity, hswitch, rfl⟩
    · rename_i hswitch
      unfold rawAdmission at h
      obtain ⟨snapshot, -, h⟩ := bind_eq_ok.mp h
      obtain ⟨breakdown, -, h⟩ := bind_eq_ok.mp h
      obtain ⟨tokens, -, h⟩ := bind_eq_ok.mp h
      obtain ⟨bytes, -, h⟩ := bind_eq_ok.mp h
      obtain ⟨⟨decision, reasonCode⟩, -, h⟩ := bind_eq_ok.mp h
      cases h
      exact Or.inr ⟨decision, reasonCode, breakdown, snapshot, eq_false_of_ne_true hswitch, rfl⟩

/-- Raw inputs with floats among the figures: fewer than two bytes are required. -/
def halfByteParams : Dict Value :=
  [("request_id", .str "raw-1"), ("model_name", .str "small"),
   ("token_breakdown", .dict [("input_tokens", .int 3)]), ("declared_context_window", .int 32),
   ("capacity", .dict [("usable_dynamic_vram_bytes", .int 2)]), ("kv_bytes_per_token", .float (.finite (1 / 2))),
   ("per_request_overhead_bytes", .int 0), ("runtime_batch_overhead_bytes", .float (.finite (1 / 4)))]

example : (rawEstimate {} {} halfByteParams).map (fun result => result.outcome) = .ok .wouldExecute := by
  decide +kernel

/-! ## On mappings and integers -/

/-- On integers the requirement is the integers'. -/
theorem rawDynamicVramRequirement_of_asInt? (round : ℚ → PyFloat) (tokens : Int) {kv perRequest batch : Value}
    {k p b : Int} (hk : kv.asInt? = some k) (hp : perRequest.asInt? = some p) (hb : batch.asInt? = some b) :
    rawDynamicVramRequirement round tokens kv perRequest batch =
      (calculateDynamicVramRequirement tokens k p b).map .int := by
  unfold rawDynamicVramRequirement calculateDynamicVramRequirement
  rw [Value.nonNegative_of_asInt? hk, Value.nonNegative_of_asInt? hp, Value.nonNegative_of_asInt? hb]
  cases requireNonNegative "required_tokens" tokens with
  | error exc => rfl
  | ok _ =>
    cases requireNonNegative "kv_bytes_per_token" k with
    | error exc => rfl
    | ok _ =>
      cases requireNonNegative "per_request_overhead_bytes" p with
      | error exc => rfl
      | ok _ => cases requireNonNegative "runtime_batch_overhead_bytes" b <;> rfl

/-- On integers the decision is the verdict's. -/
theorem rawDecision_of_asInt? {e : RequestCapacityEstimate} {window : Value} (capacity : CapacitySnapshot)
    (h : window.asInt? = some e.declaredContextWindow) :
    rawDecision e.requiredTokens (.int e.requiredDynamicVramBytes) window capacity =
      .ok ((decideAdmission e capacity).decision, (decideAdmission e capacity).reasonCode) := by
  unfold rawDecision decideAdmission evaluateLmcacheAdmission
  rw [Value.lessThanInt_of_asInt? h]
  simp only [bind, Except.bind, pure, Except.pure, Number.lt_int, decide_eq_true_eq]
  split_ifs <;> rfl

/-- On a breakdown, a capacity and integers the admission is the handler's. -/
theorem rawAdmission_of_asInt? {params : Dict Value} (request : AdmissionRequest) (round : ℚ → PyFloat)
    (hwindow : (Value.item params "declared_context_window").asInt? = some request.declaredContextWindow)
    (hkv : (Value.item params "kv_bytes_per_token").asInt? = some request.kvBytesPerToken)
    (hperRequest : (Value.item params "per_request_overhead_bytes").asInt? =
      some request.perRequestOverheadBytes)
    (hbatch : (Value.item params "runtime_batch_overhead_bytes").asInt? =
      some request.runtimeBatchOverheadBytes)
    (hhit : request.cacheHitConfirmed = false) :
    rawAdmission round params (.domain request.tokenBreakdown) (.domain request.capacity) =
      (CanonicalChatHandler.estimateAndAdmit request).map fun both =>
        PublicCommandExecutor.estimateResult both.2.decision (some both.2.reasonCode)
          (some both.1.tokenBreakdown) (some request.capacity) := by
  unfold rawAdmission CanonicalChatHandler.estimateAndAdmit estimateRequestCapacity
  simp only [Coerced.read, bind, Except.bind, pure, Except.pure]
  cases calculateRequiredTokens request.tokenBreakdown with
  | error exc => rfl
  | ok tokens =>
    simp only [rawDynamicVramRequirement_of_asInt? round tokens hkv hperRequest hbatch]
    cases calculateDynamicVramRequirement tokens request.kvBytesPerToken request.perRequestOverheadBytes
        request.runtimeBatchOverheadBytes with
    | error exc => rfl
    | ok bytes =>
      let e : RequestCapacityEstimate :=
        { requestId := request.requestId, modelName := request.modelName
          tokenBreakdown := request.tokenBreakdown, requiredTokens := tokens
          requiredDynamicVramBytes := bytes
          usableDynamicVramBytes := request.capacity.usableDynamicVramBytes
          declaredContextWindow := request.declaredContextWindow
          kvBytesPerToken := request.kvBytesPerToken
          perRequestOverheadBytes := request.perRequestOverheadBytes
          runtimeBatchOverheadBytes := request.runtimeBatchOverheadBytes }
      have hdecided : rawDecision tokens (.int bytes) (Value.item params "declared_context_window")
          request.capacity = .ok ((decideAdmission e request.capacity).decision,
            (decideAdmission e request.capacity).reasonCode) :=
        rawDecision_of_asInt? (e := e) request.capacity hwindow
      simp only [Except.map, hdecided, hhit]
      rfl

/-- **On mappings and integers the estimate is the handler's**, of the inputs the two mappings state. -/
theorem rawEstimate_of_integers {s : AdapterState} {params breakdown facts : Dict Value}
    {window kv perRequest batch : Int} (r : Readings)
    (hpresent : ∀ name ∈ estimateRawFields, (Value.item params name).isNone = false)
    (hbreakdown : Value.item params "token_breakdown" = .dict breakdown)
    (hfacts : Value.item params "capacity" = .dict facts)
    (hwindow : (Value.item params "declared_context_window").asInt? = some window)
    (hkv : (Value.item params "kv_bytes_per_token").asInt? = some kv)
    (hperRequest : (Value.item params "per_request_overhead_bytes").asInt? = some perRequest)
    (hbatch : (Value.item params "runtime_batch_overhead_bytes").asInt? = some batch) :
    rawEstimate s r params = (do
      let tokenBreakdown ← coerceTokenBreakdown breakdown
      let capacity ← coerceCapacity facts
      (chatHandler s).estimate
        { requestId := (Value.item params "request_id").text
          modelName := (Value.item params "model_name").text
          tokenBreakdown, capacity
          declaredContextWindow := window, kvBytesPerToken := kv
          perRequestOverheadBytes := perRequest, runtimeBatchOverheadBytes := batch }) := by
  have hmissing : estimateRawFields.filter (fun name => (Value.item params name).isNone) = [] := by
    rw [List.filter_eq_nil_iff]
    intro name hname
    rw [hpresent name hname]
    exact Bool.false_ne_true
  unfold rawEstimate
  dsimp only
  rw [if_neg (not_not.mpr hmissing), hbreakdown, hfacts]
  unfold Coerced.ofValue Value.asDict?
  dsimp only
  cases coerceTokenBreakdown breakdown with
  | error exc => rfl
  | ok tokenBreakdown =>
    cases coerceCapacity facts with
    | error exc => rfl
    | ok capacity =>
      show (if _ then _ else _) = (chatHandler s).estimate _
      unfold CanonicalChatHandler.estimate
      dsimp only
      by_cases hswitch : (chatHandler s).switching (Value.item params "model_name").text = true
      · rw [if_pos hswitch, if_pos hswitch]
        rfl
      · rw [if_neg hswitch, if_neg hswitch]
        refine (rawAdmission_of_asInt?
          { requestId := (Value.item params "request_id").text
            modelName := (Value.item params "model_name").text
            tokenBreakdown, capacity
            declaredContextWindow := window, kvBytesPerToken := kv
            perRequestOverheadBytes := perRequest, runtimeBatchOverheadBytes := batch }
          r.round hwindow hkv hperRequest hbatch rfl).trans ?_
        cases CanonicalChatHandler.estimateAndAdmit _ <;> rfl

end EstimateCommand

end Lmrs
