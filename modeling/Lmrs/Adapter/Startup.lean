import Lmrs.Adapter.Registration

/-!
# Starting the server

Source: `lmrs/adapter/runtime.py`, `lmrs/__main__.py`.

A configuration document has an adapter part and an `lmrs` part, each the document itself where the section
is absent. The one startup sequence records the service baseline, tries to bring up the default model of the
configuration it was given, and hands the path or the document to the server factory.

* `validateLmrsConfig_valid_iff`: which documents pass.
* `resolveDefaultModelName_eq_some`: which default model a configuration names.
* `startAdapterServer_attempts`: a startup tries exactly the default model of the document it is given.
* `lmrsMain_state`: a startup from a path is a restart, whatever the file holds.
* `startup_agrees_iff`: when the two ways to start the server try the same model.
-/

namespace Lmrs

open Python

/-! ## Configuration documents -/

/-- Source: `runtime.py`, `_REQUIRED_ADAPTER_SECTIONS`. -/
def requiredAdapterSections : List String := ["server", "registration", "queue_manager"]

/-- Source: `runtime.py`, `_REQUIRED_LMRS_SECTIONS`. -/
def requiredLmrsSections : List String :=
  ["hardware_profile", "resident_services", "model_profiles", "runtime_backends", "tokenizer_profiles",
   "admission_policy", "disk_model_cache", "lmcache", "telemetry", "lifecycle_limits", "queue_policy",
   "queue_limits"]

/-- Source: `runtime.py`, `generate_lmrs_config`. -/
def generateLmrsConfig : Dict Value :=
  [("adapter", .dict
      [("server", .dict [("name", .str "Local Model Runtime Service"), ("host", .str "127.0.0.1"),
                         ("port", .int 8012)]),
       ("registration", .dict [("enabled", .bool true), ("server_id", .str "lmrs"),
                               ("auto_register", .bool true)]),
       ("queue_manager", .dict [("enabled", .bool true), ("max_workers", .int 1)])]),
   ("lmrs", .dict
      [("hardware_profile", .dict [("gpu_count", .int 1), ("safety_margin_bytes", .int 0)]),
       ("resident_services", .list []),
       ("model_profiles", .dict []),
       ("runtime_backends", .dict [("default", .str "vllm")]),
       ("tokenizer_profiles", .dict []),
       ("admission_policy", .dict [("strategy", .str "largest_fit")]),
       ("disk_model_cache", .dict [("enabled", .bool true), ("path", .str "/var/cache/lmrs/models")]),
       ("lmcache", .dict [("enabled", .bool false), ("storage_path", .str "/var/cache/lmrs/lmcache")]),
       ("telemetry", .dict [("enabled", .bool true)]),
       ("lifecycle_limits", .dict [("max_loaded_models", .int 1)]),
       ("queue_policy", .str "largest_fit"),
       ("queue_limits", .dict [("max_depth", .int 0)])])]

/-- The part of a document under a key: the document itself where the key is absent, and nothing where it
holds no mapping. -/
def configSection (key : String) (config : Dict Value) : Dict Value :=
  (((Dict.get? config key).getD (.dict config)).asDict?).getD []

/-- Source: `runtime.py`, `_adapter_config`. -/
def adapterConfig : Dict Value → Dict Value := configSection "adapter"

/-- Source: `runtime.py`, `_lmrs_config`. -/
def lmrsConfig : Dict Value → Dict Value := configSection "lmrs"

/-- A section that, when given, has to be a mapping. -/
def sectionMappingError (lmrs : Dict Value) (name : String) : List String :=
  match Value.item lmrs name with
  | .none | .dict _ => []
  | _ => ["lmrs." ++ name ++ " must be a mapping"]

/-- What is wrong with a document. -/
def configErrors (config : Dict Value) : List String :=
  (requiredAdapterSections.filter fun name => (Value.item (adapterConfig config) name).asDict?.isNone).map
      (fun name => "adapter." ++ name ++ " section is required") ++
    (requiredLmrsSections.filter fun name => (Dict.get? (lmrsConfig config) name).isNone).map
      (fun name => "lmrs." ++ name ++ " section is required") ++
    sectionMappingError (lmrsConfig config) "model_profiles" ++
    sectionMappingError (lmrsConfig config) "runtime_backends" ++
    sectionMappingError (lmrsConfig config) "queue_limits"

/-- What a validation says of a document. -/
structure ConfigValidation where
  valid : Bool
  errors : List String
  config : Dict Value

/-- Source: `runtime.py`, `validate_lmrs_config`. -/
def validateLmrsConfig (config : Dict Value) : ConfigValidation where
  valid := (configErrors config).isEmpty
  errors := configErrors config
  config := config

/-! ## The default model -/

/-- Source: `runtime.py`, `_resolve_default_model_name`. -/
def resolveDefaultModelName (config : Option (Dict Value)) : Option String :=
  match config with
  | none => none
  | some config =>
      (Value.item (lmrsConfig config) "default_model_name").asStr?.filter fun name => name ≠ ""

/-- What the autoload reports. -/
structure AutoloadOutcome where
  attempted : Bool
  modelName : Option String := none
  preloaded : Bool := false
  loaded : Bool := false
  reasonCode : Option String := none

/-- The model an autoload tried. -/
def AutoloadOutcome.tried (outcome : AutoloadOutcome) : Option String :=
  if outcome.attempted then outcome.modelName else none

/-- The load of the autoload, with or without a preload before it. -/
def autoloadLoad (s : AdapterState) (r : Readings) (modelName : String) (preloaded : Bool) :
    AutoloadOutcome × AdapterState :=
  match (lifecycle r).loadModel s.residency s.facts modelName true with
  | .error exc =>
      ({ attempted := true, modelName := some modelName, preloaded, reasonCode := some exc.kind }, s)
  | .ok out =>
      ({ attempted := true, modelName := some modelName, preloaded, loaded := out.result.success
         reasonCode := out.result.reasonCode.map ReasonCode.text },
       { s with residency := out.residency, facts := out.recorder })

/-- Source: `runtime.py`, `autoload_default_model`, with the adapter's cache and lifecycle; `afterPreload`
is what is read once the preload is done. -/
def autoloadDefaultModel (s : AdapterState) (r afterPreload : Readings) (config : Option (Dict Value)) :
    AutoloadOutcome × AdapterState :=
  match resolveDefaultModelName config with
  | none => ({ attempted := false, reasonCode := some "NO_DEFAULT_MODEL_CONFIGURED" }, s)
  | some modelName =>
      match r.cache.status modelName with
      | .error exc => ({ attempted := true, modelName := some modelName, reasonCode := some exc.kind }, s)
      | .ok status =>
          if status.status = .cachedOnDisk then autoloadLoad s r modelName false
          else
            match r.preload modelName with
            | .error exc =>
                ({ attempted := true, modelName := some modelName, reasonCode := some exc.kind }, s)
            | .ok preload =>
                if preload.success then autoloadLoad s afterPreload modelName true
                else
                  ({ attempted := true, modelName := some modelName
                     reasonCode := some ((preload.reasonCode.map ReasonCode.text).getD
                       "MODEL_CACHE_PRELOAD_FAILED") }, s)

/-! ## The startup sequence -/

/-- What the server factory is called with. -/
structure FactoryCall where
  version : String
  configPath : Option String := none
  config : Option (Dict Value) := none
  lifecycleServicesStarted : Option Nat := none

/-- A started server: what the autoload reported, the adapter it left, and the call of the factory. -/
structure StartedServer where
  autoload : AutoloadOutcome
  state : AdapterState
  factory : FactoryCall

/-- The model a startup tried to bring up. -/
def StartedServer.attempts (server : StartedServer) : Option String := server.autoload.tried

/-- What a process finds when it starts: the facts file an earlier one left, what it reads before and after
a preload, and the installed version. -/
structure StartupHost where
  facts : VramFactsStore.File := none
  readings : Readings := {}
  afterPreload : Readings := {}
  version : String := "unknown"

/-- Source: `runtime.py`, `start_adapter_server`. -/
def startAdapterServer (host : StartupHost) (configPath : Option String := none)
    (config : Option (Dict Value) := none) (lifecycleServicesStarted : Option Nat := none) :
    StartedServer :=
  let baseline : AdapterState := { facts := recordServiceBaselineVram { facts := host.facts } host.readings }
  let (autoload, state) := autoloadDefaultModel baseline host.readings host.afterPreload config
  { autoload, state
    factory := { version := host.version, configPath, config, lifecycleServicesStarted } }

/-- Source: `__main__.py`, `DEFAULT_CONFIG_PATH`. -/
def defaultConfigPath : String := "/etc/lmrs/config.json"

/-- Source: `__main__.py`, `main`, with the path its arguments name. -/
def lmrsMain (host : StartupHost) (config : String := defaultConfigPath) : StartedServer :=
  startAdapterServer host (some config)

/-- A lifecycle service: what its `start` does with the configuration, when it has one. -/
abbrev LifecycleService := Option (Dict Value → Except PyException Unit)

/-- Source: `runtime.py`, `_start_lifecycle_services`. -/
def startLifecycleServices (config : Dict Value) : List LifecycleService → Except PyException Nat
  | [] => .ok 0
  | none :: services => startLifecycleServices config services
  | some start :: services => do
      start config
      let started ← startLifecycleServices config services
      return started + 1

/-- What `run_lmrs_adapter` comes to: a prepared startup without a server factory, or a server. -/
inductive AdapterRun where
  | prepared (config : Dict Value) (lifecycleServicesStarted : Nat)
  | served (server : StartedServer)

/-- Source: `runtime.py`, `run_lmrs_adapter`, with the loader of the configuration, if one is given, and
whether there is a server factory. -/
def runLmrsAdapter (host : StartupHost) (configLoader : Option (Except PyException (Dict Value)))
    (lifecycleServices : List LifecycleService) (createAndRunServer : Bool) :
    Except PyException AdapterRun := do
  let config ← configLoader.getD (.ok generateLmrsConfig)
  let validation := validateLmrsConfig config
  if validation.valid = false then
    .error (valueError ("LMRS configuration validation failed: " ++
      String.intercalate "; " validation.errors))
  else
    let started ← startLifecycleServices config lifecycleServices
    if createAndRunServer then
      return .served (startAdapterServer host none (some validation.config) (some started))
    else return .prepared validation.config started

/-! ## What is validated and what is tried -/

section startup

variable {host : StartupHost} {config : Dict Value} {name : String}

/-- **Which documents pass**: those with every adapter section a mapping, every `lmrs` section given, and
the three that have to be mappings mappings or null. -/
theorem validateLmrsConfig_valid_iff :
    (validateLmrsConfig config).valid = true ↔
      (∀ name ∈ requiredAdapterSections, ∃ d, Value.item (adapterConfig config) name = .dict d) ∧
      (∀ name ∈ requiredLmrsSections, (Dict.get? (lmrsConfig config) name).isSome) ∧
      ∀ name ∈ ["model_profiles", "runtime_backends", "queue_limits"],
        Value.item (lmrsConfig config) name = .none ∨ ∃ d, Value.item (lmrsConfig config) name = .dict d := by
  have hdict (v : Value) : v.asDict?.isNone = false ↔ ∃ d, v = .dict d := by
    cases v <;> simp [Value.asDict?]
  have hmapping (name : String) : sectionMappingError (lmrsConfig config) name = [] ↔
      Value.item (lmrsConfig config) name = .none ∨ ∃ d, Value.item (lmrsConfig config) name = .dict d := by
    unfold sectionMappingError
    cases Value.item (lmrsConfig config) name <;> simp
  unfold validateLmrsConfig configErrors
  simp only [List.isEmpty_iff, List.append_eq_nil_iff, List.map_eq_nil_iff, List.filter_eq_nil_iff,
    Bool.not_eq_true, hdict, hmapping, Option.isNone_eq_false_iff, List.forall_mem_cons,
    List.not_mem_nil, false_implies, implies_true, and_true, and_assoc]

/-- The generated configuration passes. -/
theorem generateLmrsConfig_valid : (validateLmrsConfig generateLmrsConfig).valid = true := by decide

/-- A document sets its default model: to a string that is not empty. -/
def SetsDefaultModel (config : Dict Value) (name : String) : Prop :=
  Value.item (lmrsConfig config) "default_model_name" = .str name ∧ name ≠ ""

/-- **Which default model a configuration names**: the one it sets. -/
theorem resolveDefaultModelName_eq_some :
    resolveDefaultModelName (some config) = some name ↔ SetsDefaultModel config name := by
  have hstr (v : Value) : v.asStr? = some name ↔ v = .str name := by
    cases v <;> simp [Value.asStr?]
  unfold resolveDefaultModelName SetsDefaultModel
  rw [Option.filter_eq_some_iff, hstr, decide_eq_true_eq]

/-- The autoload reports the model it tries, and tries the one its configuration names. -/
theorem autoloadDefaultModel_tried (s : AdapterState) (r afterPreload : Readings)
    (config : Option (Dict Value)) :
    (autoloadDefaultModel s r afterPreload config).1.tried = resolveDefaultModelName config := by
  have hload (r : Readings) (modelName : String) (preloaded : Bool) :
      (autoloadLoad s r modelName preloaded).1.tried = some modelName := by
    unfold autoloadLoad
    split <;> rfl
  unfold autoloadDefaultModel
  cases resolveDefaultModelName config with
  | none => rfl
  | some modelName =>
      dsimp only
      cases r.cache.status modelName with
      | error exc => rfl
      | ok status =>
          dsimp only
          by_cases hcached : status.status = .cachedOnDisk
          · rw [if_pos hcached]
            exact hload r modelName false
          · rw [if_neg hcached]
            cases r.preload modelName with
            | error exc => rfl
            | ok preload =>
                dsimp only
                by_cases hpreload : preload.success = true
                · rw [if_pos hpreload]
                  exact hload afterPreload modelName true
                · rw [if_neg hpreload]
                  rfl

/-- **What a startup tries**: the default model of the document it is given, and nothing when it is given
none. -/
theorem startAdapterServer_attempts (host : StartupHost) (configPath : Option String)
    (config : Option (Dict Value)) (started : Option Nat) :
    (startAdapterServer host configPath config started).attempts = resolveDefaultModelName config :=
  autoloadDefaultModel_tried _ _ _ _

/-- **A startup from a path is a restart**: it records the baseline and loads nothing. -/
theorem lmrsMain_state (host : StartupHost) (path : String) (s : AdapterState) (hfacts : s.facts = host.facts) :
    (lmrsMain host path).state = (s.step host.readings .restart).1 := by
  unfold lmrsMain startAdapterServer autoloadDefaultModel resolveDefaultModelName AdapterState.step
    recordServiceBaselineVram
  rw [hfacts]

/-- A document that passes, with services that start, is served. -/
theorem runLmrsAdapter_of_valid {services : List LifecycleService} {started : Nat}
    (hvalid : (validateLmrsConfig config).valid = true)
    (hservices : startLifecycleServices config services = .ok started) :
    runLmrsAdapter host (some (.ok config)) services true =
      .ok (.served (startAdapterServer host none (some config) (some started))) := by
  show (if (validateLmrsConfig config).valid = false then _ else _) = _
  rw [if_neg (by simp [hvalid]), hservices]
  rfl

/-- A startup that tries what the document sets. -/
def AttemptsDefaultOf (config : Dict Value) (server : StartedServer) : Prop :=
  ∀ name, server.attempts = some name ↔ SetsDefaultModel config name

/-- **The two ways to start the server**, for every document that passes: the loaded document is served,
and both its startup and the one from a path whose file holds it try the model it sets, exactly when it sets
none. -/
theorem startup_agrees_iff (fromFile fromLoader : StartupHost) (path : String)
    {services : List LifecycleService} {started : Nat}
    (hvalid : (validateLmrsConfig config).valid = true)
    (hservices : startLifecycleServices config services = .ok started) :
    ∃ server, runLmrsAdapter fromLoader (some (.ok config)) services true = .ok (.served server) ∧
      (AttemptsDefaultOf config (lmrsMain fromFile path) ∧ AttemptsDefaultOf config server ↔
        ¬ ∃ name, SetsDefaultModel config name) := by
  refine ⟨_, runLmrsAdapter_of_valid hvalid hservices, ?_⟩
  have hloaded : AttemptsDefaultOf config
      (startAdapterServer fromLoader none (some config) (some started)) := by
    intro name
    rw [startAdapterServer_attempts]
    exact resolveDefaultModelName_eq_some
  have hnone : (lmrsMain fromFile path).attempts = none :=
    startAdapterServer_attempts fromFile (some path) none none
  rw [and_iff_left hloaded]
  unfold AttemptsDefaultOf
  rw [hnone]
  simp

end startup

/-- The generated sections with a default model of their own. -/
def demoConfig : Dict Value :=
  Dict.set generateLmrsConfig "lmrs"
    (.dict (lmrsConfig generateLmrsConfig ++ [("default_model_name", .str "demo-model")]))

/-- Both startups with a document that sets a default model: only the one from the loaded document tries it. -/
theorem startup_agrees_demo :
    SetsDefaultModel demoConfig "demo-model" ∧
      ∃ server, runLmrsAdapter {} (some (.ok demoConfig)) [] true = .ok (.served server) ∧
        (AttemptsDefaultOf demoConfig (lmrsMain {}) ∧ AttemptsDefaultOf demoConfig server ↔
          ¬ ∃ name, SetsDefaultModel demoConfig name) :=
  ⟨⟨rfl, by decide⟩, startup_agrees_iff {} {} defaultConfigPath (by decide) rfl⟩

/-- **A default model that is never tried**: the document passes and sets it, the startup from the loaded
document tries it, and the startup from the path of its file tries nothing. -/
theorem startup_from_path_tries_none :
    (validateLmrsConfig demoConfig).valid = true ∧ SetsDefaultModel demoConfig "demo-model" ∧
      (∃ server, runLmrsAdapter {} (some (.ok demoConfig)) [] true = .ok (.served server) ∧
        server.attempts = some "demo-model") ∧
      (lmrsMain {}).attempts = none := by
  have hvalid : (validateLmrsConfig demoConfig).valid = true := by decide
  have hsets : SetsDefaultModel demoConfig "demo-model" := ⟨rfl, by decide⟩
  refine ⟨hvalid, hsets, ⟨_, runLmrsAdapter_of_valid hvalid rfl, ?_⟩, rfl⟩
  rw [startAdapterServer_attempts]
  exact resolveDefaultModelName_eq_some.mpr hsets

end Lmrs
