import Mathlib

/-!
# The stable codes of the service

The string constants the commands exchange, as enumerations: the command names
(`commands.CommandName`), the outcome of a command (`commands.CommandOutcome`), the decision of an
admission verdict with both spellings the handler accepts (`commands._canonical_decision`), and
the machine-readable reason codes of `admission.decide_admission`, `commands.ErrorCode`, the
runtime client, the model lifecycle and the disk cache. `ReasonCode.other` carries a code supplied
from outside the service, such as the one a custom runtime executor reports.
-/

namespace Lmrs

/-- Source: `commands.py`, `CommandName`. -/
inductive CommandName where
  | healthcheck | modelStatus | capacity | tokenCount | estimate | chat | queueStatus | cancel
  | localModelCachePreload | localModelCacheStatus | localModelCacheDelete
  | localModelLoad | localModelUnload | localModelReload
  | localLmcacheStatus | localLmcachePurge | localModelSwitch | info
  deriving DecidableEq, Repr

/-- Source: `commands.py`, `CommandOutcome`. -/
inductive CommandOutcome where
  | executed | queued | rejected | wouldExecute | wouldQueue | wouldReject
  deriving DecidableEq, Repr

/-- The decision strings in circulation: the canonical ones and the `would_`-prefixed ones.
Source: `commands.py`, `_ADMISSION_DECISIONS`; `admission.py`, `AdmissionVerdict.decision` -/
inductive Decision where
  | execute | queue | reject | wouldExecute | wouldQueue | wouldReject
  deriving DecidableEq, Repr

/-- A canonical admission decision. -/
inductive CanonicalDecision where
  | execute | queue | reject
  deriving DecidableEq, Repr

/-- Source: `commands.py`, `_canonical_decision`. Every value of `Decision` is recognised; the
`ValueError` of the source is for strings outside the vocabulary. -/
def canonicalDecision : Decision → CanonicalDecision
  | .execute | .wouldExecute => .execute
  | .queue | .wouldQueue => .queue
  | .reject | .wouldReject => .reject

/-- The stable reason codes. -/
inductive ReasonCode where
  | contextOverflow | requestTooLarge | capacityConstrained | capacityAvailable
  | hardwareCapacityUnknown | modelSwitching
  | runtimeExecutorUnavailable | runtimeCallFailed | vllmUnavailable
  | modelNotCached | modelCacheIncomplete | modelAlreadyLoaded | modelNotLoaded
  | modelNotServedByVllm | vllmDynamicUnloadUnsupported
  | hfHubUnavailable | modelCachePreloadFailed | modelCacheDeleteFailed
  | modelCacheMetadataWriteFailed | modelUnloadFailed | modelLoadFailed
  | other (code : String)
  deriving DecidableEq, Repr

/-- The string a reason code is reported as. -/
def ReasonCode.text : ReasonCode → String
  | .contextOverflow => "CONTEXT_OVERFLOW"
  | .requestTooLarge => "REQUEST_TOO_LARGE"
  | .capacityConstrained => "CAPACITY_CONSTRAINED"
  | .capacityAvailable => "CAPACITY_AVAILABLE"
  | .hardwareCapacityUnknown => "HARDWARE_CAPACITY_UNKNOWN"
  | .modelSwitching => "MODEL_SWITCHING"
  | .runtimeExecutorUnavailable => "RUNTIME_EXECUTOR_UNAVAILABLE"
  | .runtimeCallFailed => "RUNTIME_CALL_FAILED"
  | .vllmUnavailable => "VLLM_UNAVAILABLE"
  | .modelNotCached => "MODEL_NOT_CACHED"
  | .modelCacheIncomplete => "MODEL_CACHE_INCOMPLETE"
  | .modelAlreadyLoaded => "MODEL_ALREADY_LOADED"
  | .modelNotLoaded => "MODEL_NOT_LOADED"
  | .modelNotServedByVllm => "MODEL_NOT_SERVED_BY_VLLM"
  | .vllmDynamicUnloadUnsupported => "VLLM_DYNAMIC_UNLOAD_UNSUPPORTED"
  | .hfHubUnavailable => "HF_HUB_UNAVAILABLE"
  | .modelCachePreloadFailed => "MODEL_CACHE_PRELOAD_FAILED"
  | .modelCacheDeleteFailed => "MODEL_CACHE_DELETE_FAILED"
  | .modelCacheMetadataWriteFailed => "MODEL_CACHE_METADATA_WRITE_FAILED"
  | .modelUnloadFailed => "MODEL_UNLOAD_FAILED"
  | .modelLoadFailed => "MODEL_LOAD_FAILED"
  | .other code => code

end Lmrs
