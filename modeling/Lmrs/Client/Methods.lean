import Lmrs.Lib.Keywords
import Lmrs.Adapter.Payloads

/-!
# The methods of the client

Source: `client/lmrs_client/client.py`.

A method of `LmrsClient` is its signature and the request it sends, given what its parameters are bound to. The
transport that carries a request is the framework's.

* `LmrsClient.names_nodup`, `LmrsClient.find_method`: a method is found under its name.
* `LmrsClient.invoke_ok`: a call that goes through sends the request of the method.
-/

namespace Lmrs

open Python

/-- What a method sends: a command, its parameters, and whether the framework is to expect a job and wait for
its end. Source: `client.py`, `LmrsClient._call`. -/
structure ClientRequest where
  command : CommandName
  params : Dict Value := []
  queued : Bool := false

/-- A method: its name, its parameters after `self`, and what it sends for what they are bound to. -/
structure ClientMethod where
  name : String
  signature : Signature
  request : Dict Value → ClientRequest

/-- A parameter without a default. -/
def required (name : String) : Parameter := { name }

/-- A parameter with a default: `None` where nothing else is said. -/
def optional (name : String) (default : Value := .none) : Parameter := { name, default := some default }

/-- `params[name] = name` unless the argument is `None`. -/
def given (arguments : Dict Value) (name : String) : Dict Value :=
  if (Value.item arguments name).isNone then [] else [(name, Value.item arguments name)]

/-- `{name: name, ...}`. -/
def passed (arguments : Dict Value) (names : List String) : Dict Value :=
  names.map fun name => (name, Value.item arguments name)

namespace LmrsClient

/-- A method without parameters. -/
def nullary (command : CommandName) : ClientMethod where
  name := command.text
  signature := { parameters := [] }
  request _ := { command }

/-- A method that sends the one text it takes. -/
def unary (command : CommandName) (parameter : String) (queued : Bool := false) : ClientMethod where
  name := command.text
  signature := { parameters := [required parameter] }
  request a := { command, params := passed a [parameter], queued }

/-- Source: `client.py`, `LmrsClient.healthcheck`. -/
def healthcheck : ClientMethod := nullary .healthcheck

/-- Source: `client.py`, `LmrsClient.info`. -/
def info : ClientMethod := nullary .info

/-- Source: `client.py`, `LmrsClient.model_status`. -/
def modelStatus : ClientMethod := unary .modelStatus "model_name"

/-- Source: `client.py`, `LmrsClient.capacity`. -/
def capacity : ClientMethod := nullary .capacity

/-- Source: `client.py`, `LmrsClient.token_count`. -/
def tokenCount : ClientMethod where
  name := "token_count"
  signature :=
    { parameters :=
        [optional "input_tokens", optional "tokenizer_name", optional "tokenizer_accuracy",
         optional "message", optional "system", optional "model_name", optional "tool_tokens" (.int 0),
         optional "service_tokens" (.int 0), optional "reserved_output_tokens" (.int 0),
         optional "rough_estimate" (.bool false)] }
  request a :=
    { command := .tokenCount
      params := passed a ["reserved_output_tokens"] ++
        if (Value.item a "message").isNone then
          passed a ["input_tokens", "tokenizer_name", "tokenizer_accuracy", "tool_tokens", "service_tokens",
            "rough_estimate"]
        else passed a ["message"] ++ given a "system" ++ given a "model_name" }

/-- Source: `client.py`, `LmrsClient.estimate`. -/
def estimate : ClientMethod where
  name := "estimate"
  signature := { parameters := [], varKeyword := true }
  request a := { command := .estimate, params := a }

/-- Source: `client.py`, `LmrsClient.chat`. -/
def chat : ClientMethod where
  name := "chat"
  signature :=
    { parameters := [required "message", required "model_name", optional "system", optional "temperature",
        optional "max_tokens"] }
  request a :=
    { command := .chat
      params := passed a ["message", "model_name"] ++ given a "system" ++ given a "temperature" ++
        given a "max_tokens" }

/-- Source: `client.py`, `LmrsClient.queue_status`. -/
def queueStatus : ClientMethod := nullary .queueStatus

/-- Source: `client.py`, `LmrsClient.cancel`. -/
def cancel : ClientMethod := unary .cancel "request_id"

/-- Source: `client.py`, `LmrsClient.local_model_cache_preload`. -/
def localModelCachePreload : ClientMethod := unary .localModelCachePreload "model_name" true

/-- Source: `client.py`, `LmrsClient.local_model_cache_status`. -/
def localModelCacheStatus : ClientMethod := unary .localModelCacheStatus "model_name"

/-- Source: `client.py`, `LmrsClient.local_model_cache_delete`. -/
def localModelCacheDelete : ClientMethod := unary .localModelCacheDelete "model_name"

/-- Source: `client.py`, `LmrsClient.local_model_load`. -/
def localModelLoad : ClientMethod where
  name := "local_model_load"
  signature := { parameters := [required "model_name", optional "allow_preload" (.bool false)] }
  request a := { command := .localModelLoad, params := passed a ["model_name", "allow_preload"] }

/-- Source: `client.py`, `LmrsClient.local_model_unload`. -/
def localModelUnload : ClientMethod := unary .localModelUnload "model_name"

/-- Source: `client.py`, `LmrsClient.local_model_reload`. -/
def localModelReload : ClientMethod := unary .localModelReload "model_name"

/-- Source: `client.py`, `LmrsClient.local_lmcache_status`. -/
def localLmcacheStatus : ClientMethod := nullary .localLmcacheStatus

/-- Source: `client.py`, `LmrsClient.local_lmcache_purge`. -/
def localLmcachePurge : ClientMethod where
  name := "local_lmcache_purge"
  signature := { parameters := [optional "namespace", optional "session"] }
  request a := { command := .localLmcachePurge, params := given a "namespace" ++ given a "session" }

/-- Source: `client.py`, `LmrsClient.local_model_switch`. -/
def localModelSwitch : ClientMethod := unary .localModelSwitch "model_name" true

/-- The public methods. Source: `client.py`, `LmrsClient`. -/
def methods : List ClientMethod :=
  [healthcheck, info, modelStatus, capacity, tokenCount, estimate, chat, queueStatus, cancel,
   localModelCachePreload, localModelCacheStatus, localModelCacheDelete, localModelLoad, localModelUnload,
   localModelReload, localLmcacheStatus, localLmcachePurge, localModelSwitch]

/-- `getattr(client, name)`. -/
def find (name : String) : Except PyException ClientMethod :=
  match methods.find? fun m => m.name = name with
  | some m => .ok m
  | none => .error ⟨"AttributeError", "'LmrsClient' object has no attribute '" ++ name ++ "'"⟩

/-- `getattr(client, name)(**arguments)`: the request sent. -/
def invoke (name : String) (arguments : Dict Value) : Except PyException ClientRequest := do
  let m ← find name
  let bound ← m.signature.bind arguments
  return m.request bound

/-! ## The surface -/

/-- The name of a method. -/
def names : List String := methods.map ClientMethod.name

/-- No two methods have one name. -/
theorem names_nodup : names.Nodup := by decide

/-- **Every method mirrors a command of the server**, under its name. -/
theorem command_text {m : ClientMethod} (hm : m ∈ methods) (a : Dict Value) :
    (m.request a).command.text = m.name := by
  simp only [methods, List.mem_cons, List.not_mem_nil, or_false] at hm
  rcases hm with rfl | rfl | rfl | rfl | rfl | rfl | rfl | rfl | rfl | rfl | rfl | rfl | rfl | rfl | rfl |
    rfl | rfl | rfl
  all_goals rfl

/-- No method takes two parameters of one name. -/
theorem signature_nodup {m : ClientMethod} (hm : m ∈ methods) : m.signature.names.Nodup := by
  simp only [methods, List.mem_cons, List.not_mem_nil, or_false] at hm
  rcases hm with rfl | rfl | rfl | rfl | rfl | rfl | rfl | rfl | rfl | rfl | rfl | rfl | rfl | rfl | rfl |
    rfl | rfl | rfl
  all_goals decide

/-- A method is found under its name. -/
theorem find_method {m : ClientMethod} (hm : m ∈ methods) : find m.name = .ok m := by
  unfold find
  have hfound : methods.find? (fun m' => m'.name = m.name) = some m := by
    rcases h : methods.find? (fun m' => decide (m'.name = m.name)) with _ | m'
    · rw [List.find?_eq_none] at h
      exact absurd (h m hm) (by simp)
    · have hname : m'.name = m.name := by simpa using List.find?_some h
      have hmem := List.mem_of_find?_eq_some h
      rw [h, List.inj_on_of_nodup_map names_nodup hmem hm hname]
  rw [hfound]

/-- **A call that goes through sends the request of its method.** -/
theorem invoke_ok {m : ClientMethod} (hm : m ∈ methods) {arguments bound : Dict Value}
    (hbind : m.signature.bind arguments = .ok bound) :
    invoke m.name arguments = .ok (m.request bound) := by
  unfold invoke
  rw [find_method hm]
  show (m.signature.bind arguments >>= fun bound => pure (m.request bound)) = _
  rw [hbind]
  rfl

end LmrsClient

end Lmrs
