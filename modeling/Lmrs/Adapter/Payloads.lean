import Lmrs.Adapter.Registration
import Lmrs.LmcacheStatus

/-!
# Results as response payloads

Source: `lmrs/adapter/registration.py`, `ThinAdapterCommand._result_payload`, over the results of
`lmrs/commands.py`, `lmrs/model_cache.py` and `lmrs/model_lifecycle.py`.

A result is a dataclass, a mapping or the mapping of a switch; its payload has every field of it.

* `DomainResult.payload`: the payload of a result.
* `DomainResult.Legible`: a client can tell a failure from it, and its code.
-/

namespace Lmrs

open Python ModelMemoryLifecycle

/-! ## The strings of the enumerations -/

/-- Source: `commands.py`, `CommandName`. -/
def CommandName.text : CommandName → String
  | .healthcheck => "healthcheck"
  | .modelStatus => "model_status"
  | .capacity => "capacity"
  | .tokenCount => "token_count"
  | .estimate => "estimate"
  | .chat => "chat"
  | .queueStatus => "queue_status"
  | .cancel => "cancel"
  | .localModelCachePreload => "local_model_cache_preload"
  | .localModelCacheStatus => "local_model_cache_status"
  | .localModelCacheDelete => "local_model_cache_delete"
  | .localModelLoad => "local_model_load"
  | .localModelUnload => "local_model_unload"
  | .localModelReload => "local_model_reload"
  | .localLmcacheStatus => "local_lmcache_status"
  | .localLmcachePurge => "local_lmcache_purge"
  | .localModelSwitch => "local_model_switch"
  | .info => "info"

/-- Source: `commands.py`, `CommandOutcome`. -/
def CommandOutcome.text : CommandOutcome → String
  | .executed => "executed"
  | .queued => "queued"
  | .rejected => "rejected"
  | .wouldExecute => "would_execute"
  | .wouldQueue => "would_queue"
  | .wouldReject => "would_reject"

/-- Source: `model_lifecycle.py`, `LifecycleState`. -/
def LifecycleState.text : LifecycleState → String
  | .notLoaded => "not_loaded"
  | .loading => "loading"
  | .loaded => "loaded"
  | .unloading => "unloading"
  | .reloading => "reloading"
  | .failed => "failed"
  | .keepLoaded => "keep_loaded"

/-- The string a stage is announced as. -/
def ModelMemoryLifecycle.SwitchStage.text : SwitchStage → String
  | .preloading => "preloading"
  | .unloading => "unloading"
  | .loading => "loading"

/-! ## `asdict` -/

/-- An optional field. -/
def optionValue {α : Type} (f : α → Value) : Option α → Value
  | some a => f a
  | none => .none

/-- A reason code field. -/
def reasonValue (code : Option ReasonCode) : Value := optionValue (fun code => .str code.text) code

/-- A list of mappings. -/
def rowsValue (rows : List (Dict Value)) : Value := .list (rows.map .dict)

/-- `asdict(breakdown)`. -/
def TokenBreakdown.asdict (b : TokenBreakdown) : Dict Value :=
  [("input_tokens", .int b.inputTokens), ("tool_tokens", .int b.toolTokens),
   ("service_tokens", .int b.serviceTokens), ("reserved_output_tokens", .int b.reservedOutputTokens),
   ("tokenizer_name", .str b.tokenizerName), ("tokenizer_accuracy", .str b.tokenizerAccuracy),
   ("rough_estimate", .bool b.roughEstimate), ("metadata", .dict [])]

/-- `asdict(capacity)`. -/
def CapacitySnapshot.asdict (c : CapacitySnapshot) : Dict Value :=
  [("usable_dynamic_vram_bytes", .int c.usableDynamicVramBytes),
   ("max_dynamic_pool_bytes", .int c.maxDynamicPoolBytes), ("model_loaded", .bool c.modelLoaded),
   ("runtime_ready", .bool c.runtimeReady), ("metadata", .dict c.metadata)]

/-- `asdict` of what a runtime reports. -/
def Payload.asdict : Payload → Dict Value
  | .record fields => fields
  | .runtime result =>
      [("assistant_message", result.assistantMessage), ("usage", .dict result.usage),
       ("status", .str result.status), ("runtime_metadata", .dict result.runtimeMetadata),
       ("telemetry", .dict result.telemetry), ("metadata", .dict result.metadata)]
  | .failure signal =>
      [("request_id", .str signal.requestId), ("backend", .str signal.backend.text),
       ("reason_code", .str signal.reasonCode.text), ("message", .str signal.message),
       ("retriable", .bool signal.retriable), ("metadata", .dict signal.metadata)]

/-- An artifact of a result: the one the request gave, when it is carried as it is. -/
def CommandResult.artifact (r : CommandResult) (name : String) (domain : Value) : Value :=
  (Dict.get? r.given name).getD domain

/-- `asdict` of the result of a chat or an estimate. -/
def CommandResult.asdict (r : CommandResult) : Dict Value :=
  [("command", .str r.command.text), ("outcome", .str r.outcome.text), ("success", .bool r.success),
   ("reason_code", reasonValue r.reasonCode),
   ("token_breakdown",
      r.artifact "token_breakdown" (optionValue (fun b => .dict b.asdict) r.tokenBreakdown)),
   ("capacity_snapshot",
      r.artifact "capacity_snapshot" (optionValue (fun c => .dict c.asdict) r.capacitySnapshot)),
   ("queue_state", optionValue rowsValue r.queueState),
   ("payload", optionValue (fun p => .dict p.asdict) r.payload), ("metadata", .dict r.metadata)]

/-- `asdict(record)`. -/
def CachedModelRecord.asdict (r : CachedModelRecord) : Dict Value :=
  [("model_name", .str r.modelName), ("runtime_backend", .str r.runtimeBackend),
   ("model_path", .str r.modelPath), ("quantization_profile", .str r.quantizationProfile),
   ("declared_context_window", .int r.declaredContextWindow),
   ("tokenizer_profile", .str r.tokenizerProfile),
   ("checksum_or_revision", .str r.checksumOrRevision), ("size_bytes", .int r.sizeBytes),
   ("downloaded_at", .str r.downloadedAt),
   ("compatibility_flags", .dict (r.compatibilityFlags.map fun kv => (kv.1, .bool kv.2))),
   ("cache_status", .str r.cacheStatus.text),
   ("readiness_marker_path", textValue r.readinessMarkerPath), ("metadata", .dict r.metadata)]

/-- `asdict` of the result of a cache command. -/
def CacheCommandResult.asdict (r : CacheCommandResult) : Dict Value :=
  [("command", .str r.command), ("model_name", .str r.modelName), ("status", .str r.status.text),
   ("success", .bool r.success), ("reason_code", reasonValue r.reasonCode),
   ("record", optionValue (fun record => .dict record.asdict) r.record), ("metadata", .dict r.metadata)]

/-- `asdict` of the result of a lifecycle command. -/
def LifecycleCommandResult.asdict (r : LifecycleCommandResult) : Dict Value :=
  [("command", .str r.command), ("model_name", .str r.modelName), ("state", .str r.state.text),
   ("success", .bool r.success), ("reason_code", reasonValue r.reasonCode),
   ("measured_model_static_vram_bytes", figureValue r.measuredModelStaticVramBytes),
   ("model_loaded_free_vram_bytes", figureValue r.modelLoadedFreeVramBytes),
   ("metadata", .dict r.metadata)]

/-- The mapping a switch returns. Source: `model_lifecycle.py`, `_switch_failure` and the end of
`switch_model`. -/
def ModelMemoryLifecycle.SwitchResult.fields (modelName : String) : SwitchResult → Dict Value
  | .failed reasonCode failedStage =>
      [("status", .str LifecycleState.failed.text), ("model_name", .str modelName),
       ("reason_code", .str reasonCode.text), ("failed_stage", .str failedStage.text),
       ("runtime_facts", .dict [])]
  | .loadedInMemory load =>
      [("status", .str CacheState.loadedInMemory.text), ("model_name", .str modelName),
       ("reason_code", reasonValue load.reasonCode),
       ("runtime_facts", .dict
          [("state", .str load.state.text),
           ("measured_model_static_vram_bytes", figureValue load.measuredModelStaticVramBytes),
           ("model_loaded_free_vram_bytes", figureValue load.modelLoadedFreeVramBytes),
           ("metadata", .dict load.metadata)])]

/-- The mapping `vram_payload` returns. -/
def VramPayload.fields (v : VramPayload) : Dict Value :=
  [("resident_services", .list (v.residentServices.map .str)),
   ("service_baseline_free_vram_bytes", figureValue v.serviceBaselineFreeVramBytes),
   ("model_loaded_free_vram_bytes", figureValue v.modelLoadedFreeVramBytes),
   ("measured_model_static_vram_bytes", figureValue v.measuredModelStaticVramBytes),
   ("max_dynamic_pool_bytes", .int v.maxDynamicPoolBytes),
   ("usable_dynamic_vram_bytes", .int v.usableDynamicVramBytes),
   ("active_reservation_bytes", .int v.activeReservationBytes),
   ("total_vram_bytes", v.totalVramBytes), ("model_name", v.modelName),
   ("runtime_backend", .str v.runtimeBackend.text), ("quantization_profile", v.quantizationProfile),
   ("hardware_profile_id", textValue v.hardwareProfileId),
   ("measurement_metadata", .dict v.measurementMetadata), ("measured", .bool v.measured),
   ("safety_margin_bytes", .int v.safetyMarginBytes),
   ("runtime_reserve_bytes", .int v.runtimeReserveBytes)]

/-! ## Domain results -/

/-- What a public command returns. -/
inductive DomainResult where
  | command (result : CommandResult)
  | cache (result : CacheCommandResult)
  | lifecycle (result : LifecycleCommandResult)
  /-- The mapping of a switch to a model, with the stages announced. -/
  | switch (modelName : String) (result : SwitchResult) (progress : List SwitchStage)
  | mapping (fields : Dict Value)

namespace DomainResult

/-- The payload of a result. -/
def payload : DomainResult → Dict Value
  | .command result => result.asdict
  | .cache result => result.asdict
  | .lifecycle result => result.asdict
  | .switch modelName result progress =>
      result.fields modelName ++ [("progress", .list (progress.map fun stage => .str stage.text))]
  | .mapping fields => fields

/-- The result reports a failure: its success is false, or its status failed for a switch. -/
def reportsFailure : DomainResult → Bool
  | .command result => !result.success
  | .cache result => !result.success
  | .lifecycle result => !result.success
  | .switch _ (.failed _ _) _ => true
  | .switch _ (.loadedInMemory _) _ => false
  | .mapping fields =>
      match Value.item fields "success" with
      | .bool false => true
      | _ => false

/-- The reason code of a result. -/
def reasonCode : DomainResult → Option String
  | .command result => result.reasonCode.map ReasonCode.text
  | .cache result => result.reasonCode.map ReasonCode.text
  | .lifecycle result => result.reasonCode.map ReasonCode.text
  | .switch _ (.failed reasonCode _) _ => some reasonCode.text
  | .switch _ (.loadedInMemory load) _ => load.reasonCode.map ReasonCode.text
  | .mapping fields => (Value.item fields "reason_code").asStr?

/-- What a client can tell from a result: a failure has a code, and a status that reads `failed` belongs
to a failure. -/
structure Legible (d : DomainResult) : Prop where
  coded : d.reportsFailure = true → ∃ code, d.reasonCode = some code ∧ code ≠ ""
  status : d.reportsFailure = false → Value.item d.payload "status" ≠ .str "failed"

end DomainResult

end Lmrs
