import Lmrs.Adapter.Payloads
import Lmrs.Adapter.Purge
import Lmrs.CacheOperations

/-!
# The public commands

Source: `lmrs/adapter/registration.py`, the command classes and `ThinAdapterCommand.execute`;
`lmrs/adapter/info.py`.

`delegate` runs one public command on what the process and its disk cache keep; `execute` wraps what it
returns or raises in a response.
-/

namespace Lmrs

open Python Posix

/-- What a self-description is made of beside what the process keeps: the version of the package, when it
is installed, the version of the adapter, the service guide, the capabilities the registry describes, and
the registration state of the adapter framework. -/
structure InfoReadings where
  packageVersion : Option String := none
  adapterVersion : Value := .str "unknown"
  documentation : Value := .dict []
  capabilities : Value := .dict []
  registration : Except PyException (Dict Value) := .ok []

/-- What one public command reads. The disk cache is read from what the process keeps. -/
structure PublicReadings where
  readings : Readings
  cache : HubCache
  host : CacheHost
  lmcache : LMCachePolicy
  /-- The sums of the metric families of the runtime, when its endpoint answers. -/
  metricTotals : Option (Dict PyFloat)
  info : InfoReadings

/-- What the process and its disk cache keep. -/
structure PublicState where
  adapter : AdapterState
  store : CacheStore

/-- A public command: its result or exception, and the state afterwards. -/
structure PublicRun where
  result : Except PyException DomainResult
  state : PublicState

/-- The disk cache as the other commands ask it. -/
def HubCache.overStore (cache : HubCache) (store : CacheStore) : DiskModelCache :=
  cache.answering store
    (match (hubCacheRoot cache.cacheRoot store.disk).1 with
     | .ok hub => hub
     | .error _ => RawPath.parse cache.cacheRoot)

/-- The readings of a command, with the disk cache over a store. -/
def PublicReadings.withStore (p : PublicReadings) (store : CacheStore) : Readings :=
  { p.readings with
    cache := p.cache.overStore store
    preload := fun modelName => (p.cache.preload p.host store modelName).1 }

namespace PublicState

/-- A command on what the process keeps. -/
def run {α : Type} (s : PublicState) (out : CommandRun α) (wrap : α → DomainResult) : PublicRun :=
  ⟨out.result.map wrap, { s with adapter := out.state }⟩

/-- A command on the disk cache. -/
def cacheRun (s : PublicState) (modelName : Except PyException String)
    (command : String → Except PyException CacheCommandResult × CacheStore) : PublicRun :=
  match modelName with
  | .error exc => ⟨.error exc, s⟩
  | .ok modelName =>
      let (result, store) := command modelName
      ⟨result.map .cache, { s with store }⟩

end PublicState

/-! ## The commands that only read -/

/-- Source: `registration.py`, `HealthcheckCommand.delegate`. -/
def HealthcheckCommand.delegate (params : Dict Value) : Dict Value :=
  [("status", .str "ok"), ("service", .str "lmrs"), ("params", .dict params)]

/-- Source: `registration.py`, `ModelStatusCommand.delegate`. -/
def ModelStatusCommand.delegate (s : AdapterState) (params : Dict Value) :
    Except PyException LifecycleCommandResult :=
  (param params "model_name").map (ModelMemoryLifecycle.modelStatus s.residency)

/-- `int(params.get(name, 0))`. -/
def intParam (params : Dict Value) (name : String) : Except PyException Int :=
  toInt ((Dict.get? params name).getD (.int 0))

/-- The breakdown a token count is asked for. -/
def TokenCountCommand.breakdown (s : AdapterState) (r : Readings) (params : Dict Value) :
    Except PyException TokenBreakdown :=
  match (Value.item params "message").asStr?.filter fun text => text ≠ "" with
  | some message => do
      let reserved ← intParam params "reserved_output_tokens"
      return promptTokenBreakdown r ((resolveTargetModel s r params).getD "")
        (messagesFromParams params message) reserved
  | none =>
      if (Value.item params "input_tokens").isNone then
        .error (valueError ("token_count requires either message (text mode) or " ++
          "input_tokens with tokenizer_name and tokenizer_accuracy (numeric mode)"))
      else do
        let inputTokens ← intParam params "input_tokens"
        let toolTokens ← intParam params "tool_tokens"
        let serviceTokens ← intParam params "service_tokens"
        let reservedOutputTokens ← intParam params "reserved_output_tokens"
        let tokenizerName ← param params "tokenizer_name"
        let tokenizerAccuracy ← param params "tokenizer_accuracy"
        return { inputTokens, toolTokens, serviceTokens, reservedOutputTokens, tokenizerName
                 tokenizerAccuracy, roughEstimate := (Value.item params "rough_estimate").truthy }

/-- Source: `registration.py`, `TokenCountCommand.delegate`. -/
def TokenCountCommand.delegate (s : AdapterState) (r : Readings) (params : Dict Value) :
    Except PyException (Dict Value) := do
  let breakdown ← TokenCountCommand.breakdown s r params
  let requiredTokens ← calculateRequiredTokens breakdown
  return [("token_breakdown", .dict breakdown.asdict), ("required_tokens", .int requiredTokens)]

/-- Source: `registration.py`, `LocalLmcacheStatusCommand.delegate`. -/
def LocalLmcacheStatusCommand.delegate (p : PublicReadings) (disk : Disk) :
    Except PyException (Dict Value) := do
  let observations ← lmcacheObservations p.lmcache disk p.metricTotals
  getLmcacheStatus p.lmcache observations

/-! ## The self-description -/

/-- Source: `model_lifecycle.py`, `ModelMemoryLifecycle.model_lifecycle_status`. -/
def ModelMemoryLifecycle.modelLifecycleStatus (residency : Option ModelResidency) :
    LifecycleCommandResult :=
  match residency with
  | none =>
      { command := "model_lifecycle_status", modelName := "", state := .notLoaded, success := true
        metadata := [("resident_model", .none)] }
  | some resident =>
      { command := "model_lifecycle_status", modelName := resident.modelName, state := resident.state
        success := true
        measuredModelStaticVramBytes := resident.measuredModelStaticVramBytes
        modelLoadedFreeVramBytes := resident.modelLoadedFreeVramBytes
        metadata := [("resident_model", .str resident.modelName)] }

/-- A part of the runtime summary that is there, or the reason why it is not. -/
def summaryPart (available : Dict Value → Bool) (unavailable : String) :
    Except PyException (Dict Value) → Dict Value
  | .ok facts => Dict.update [("available", .bool (available facts))] facts
  | .error exc =>
      [("available", .bool false), ("reason", .str (unavailable ++ exc.kind ++ ": " ++ exc.message))]

/-- Source: `info.py`, `build_info_payload`. -/
def buildInfoPayload (info : InfoReadings) (s : AdapterState) (r : Readings) : Dict Value :=
  [("identity", .dict
      [("product_name", .str "Local Model Runtime Service"),
       ("package_version", .str (info.packageVersion.getD "unknown")),
       ("adapter_version", info.adapterVersion)]),
   ("build_metadata", .dict []),
   ("documentation", info.documentation),
   ("runtime_summary", .dict
      [("model_lifecycle", .dict (ModelMemoryLifecycle.modelLifecycleStatus s.residency).asdict),
       ("queue_state", .list (({} : RequestQueue).snapshot.map Value.dict)),
       ("vram", .dict (summaryPart (fun facts => (Value.item facts "measured").truthy)
          "the VRAM measurement could not be taken: " ((vramPayload s r).map VramPayload.fields))),
       ("registration", .dict (summaryPart (fun _ => true)
          "the adapter registration snapshot could not be read: " info.registration))]),
   ("capabilities", info.capabilities)]

/-- Source: `registration.py`, `InfoCommand.delegate`. -/
def InfoCommand.delegate (p : PublicReadings) (s : AdapterState) (r : Readings) :
    CommandRun (Dict Value) :=
  { result := .ok (buildInfoPayload p.info s r), state := s.measured r }

/-! ## A switch over the disk cache -/

/-- The store a switch leaves: that of its preload, when the model is not complete on disk. -/
def LocalModelSwitchCommand.storeAfter (p : PublicReadings) (store : CacheStore) (modelName : String) :
    CacheStore :=
  match (p.cache.overStore store).status modelName with
  | .ok status =>
      if status.status = .cachedOnDisk then store else (p.cache.preload p.host store modelName).2
  | .error _ => store

/-- Source: `registration.py`, `LocalModelSwitchCommand.delegate`, run to its end. The load finds the disk
cache as the preload left it. -/
def LocalModelSwitchCommand.delegateOn (p : PublicReadings) (s : PublicState) (params : Dict Value) :
    PublicRun :=
  match param params "model_name" with
  | .error exc => ⟨.error exc, s⟩
  | .ok modelName =>
      let before := p.withStore s.store
      let store := LocalModelSwitchCommand.storeAfter p s.store modelName
      let run := (lifecycle (p.withStore store)).switchModel
        { status := before.cache.status, preload := before.preload }
        s.adapter.residency s.adapter.facts modelName
      ⟨.ok (.switch modelName run.result run.announced),
        { adapter :=
            { s.adapter with
              residency := run.residency, facts := run.recorder
              switches := s.adapter.switches.filter fun name => name ≠ modelName }
          store }⟩

/-! ## All commands -/

/-- The command of each name. Source: `registration.py`, `LMRS_PUBLIC_COMMAND_CLASSES`. -/
def delegate (p : PublicReadings) (s : PublicState) (command : CommandName) (params : Dict Value) :
    PublicRun :=
  let r := p.withStore s.store
  match command with
  | .healthcheck => ⟨.ok (.mapping (HealthcheckCommand.delegate params)), s⟩
  | .modelStatus => ⟨(ModelStatusCommand.delegate s.adapter params).map .lifecycle, s⟩
  | .capacity => s.run (CapacityCommand.delegate s.adapter r) fun v => .mapping v.fields
  | .tokenCount => ⟨(TokenCountCommand.delegate s.adapter r params).map .mapping, s⟩
  | .estimate => s.run (EstimateCommand.delegate s.adapter r params) .command
  | .chat => s.run (ChatCommand.delegate s.adapter r params) .command
  | .queueStatus =>
      s.run (QueueStatusCommand.delegate s.adapter) fun entries =>
        .mapping [("entries", rowsValue entries)]
  | .cancel =>
      s.run (CancelCommand.delegate s.adapter params) fun out =>
        .mapping [("request_id", .str out.1), ("entries", rowsValue out.2)]
  | .localModelCachePreload =>
      s.cacheRun (param params "model_name") (p.cache.preload p.host s.store)
  | .localModelCacheStatus =>
      s.cacheRun (param params "model_name") fun name => (p.cache.status s.store name, s.store)
  | .localModelCacheDelete =>
      s.cacheRun (param params "model_name") (p.cache.delete p.host s.store)
  | .localModelLoad => s.run (LocalModelLoadCommand.delegate s.adapter r params) .lifecycle
  | .localModelUnload => s.run (LocalModelUnloadCommand.delegate s.adapter r params) .lifecycle
  | .localModelReload => s.run (LocalModelReloadCommand.delegate s.adapter r params) .lifecycle
  | .localLmcacheStatus => ⟨(LocalLmcacheStatusCommand.delegate p s.store.disk).map .mapping, s⟩
  | .localLmcachePurge =>
      let out := LocalLmcachePurgeCommand.delegate s.store.disk.tree p.lmcache.toLMCacheStoragePolicy params
      ⟨out.result.map .mapping,
        { s with store := { s.store with disk := s.store.disk.retree out.tree p.host.now } }⟩
  | .localModelSwitch => LocalModelSwitchCommand.delegateOn p s params
  | .info => s.run (InfoCommand.delegate p s.adapter r) .mapping

/-! ## Responses -/

/-- `SuccessResult(data=self._result_payload(payload))`, as the adapter serialises it. -/
def successResponse (command : CommandName) (result : DomainResult) : Dict Value :=
  [("success", .bool true),
   ("data", .dict [("command", .str command.text), ("payload", .dict result.payload)])]

/-- `ErrorResult(message=message, details={"code": code, "command": self.name})`, as the adapter
serialises it. -/
def errorResponse (command : CommandName) (code message : String) : Dict Value :=
  [("success", .bool false),
   ("error", .dict
      [("message", .str message),
       ("data", .dict [("code", .str code), ("command", .str command.text)])])]

/-- Source: `registration.py`, `ThinAdapterCommand.execute`, given what the command returns or raises. -/
def execute (command : CommandName) : Except PyException DomainResult → Dict Value
  | .ok result => successResponse command result
  | .error exc => errorResponse command exc.kind exc.message

end Lmrs
