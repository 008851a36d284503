import Lmrs.Config.Generator
import Lmrs.Configuration

/-!
# The endpoints of a configuration

Source: `lmrs/proxy/registration.py`, `lmrs_network_config_contract`, `resolve_registration_protocol`.

The contract reads a listen section and a registration section, each under the first of three names. One of the
names of the registration is that of a stub the generator injects.

* `contract_of_stub`: what is read of the stub.
* `injected_contract`: an injection never enables a registration.
-/

namespace Lmrs

open Python

/-! ## Mappings of untyped values -/

/-- The elements `iter(value)` gives. -/
def iterated : Value → Option (List Value)
  | .str text => some (text.toList.map fun c => .str (String.singleton c))
  | .list items => some items
  | .dict items => some (items.map fun kv => .str kv.1)
  | _ => none

/-- The items `dict(pairs)` takes, from the one of that index on. An item under a key that is no text has no name
and is left out. -/
def dictItems (index : Nat) : List Value → Except PyException (Dict Value)
  | [] => .ok []
  | pair :: pairs =>
      match iterated pair with
      | none => .error (typeError
          ("cannot convert dictionary update sequence element #" ++ toString index ++ " to a sequence"))
      | some [key, value] =>
          match key with
          | .str name => (dictItems (index + 1) pairs).map ((name, value) :: ·)
          | .list _ | .dict _ => .error (typeError ("unhashable type: '" ++ key.typeName ++ "'"))
          | _ => dictItems (index + 1) pairs
      | some elements => .error (valueError ("dictionary update sequence element #" ++ toString index ++
          " has length " ++ toString elements.length ++ "; 2 is required"))

/-- `dict(value)`. -/
def toDict : Value → Except PyException (Dict Value)
  | .dict fields => .ok fields
  | value =>
      match iterated value with
      | some pairs => (dictItems 0 pairs).map (Dict.update [])
      | none => .error (typeError ("'" ++ value.typeName ++ "' object is not iterable"))

example : toDict (.list [.str "ab", .list [.str "a", .int 1]]) = .ok [("a", .int 1)] := rfl

/-! ## The contract -/

/-- A listener as the contract reads it. Source: `proxy/registration.py`, `ServerListenEndpoint`. -/
structure ListenSettings where
  host : String
  port : Int
  protocol : String
  serverName : String
  sslCertfile : Value
  sslKeyfile : Value
  caCert : Value
  advertisedHost : Value
  metadata : Dict Value

/-- A registration as the contract reads it. Source: `proxy/registration.py`, `ProxyRegistrationEndpoint`. -/
structure RegistrationSettings where
  enabled : Bool
  registerOnStartup : Bool
  unregisterOnShutdown : Bool
  registerUrl : Value
  unregisterUrl : Value
  heartbeatUrl : Value
  heartbeatIntervalSeconds : Value
  serverId : Value
  serverName : Value
  instanceUuid : Value
  metadata : Dict Value
  clientCert : Value
  clientKey : Value
  caCert : Value

/-- The names of a listen section. -/
def listenNames : List String := ["listen", "server_listen", "server_listen_endpoint"]

/-- The names of a registration section. -/
def registrationNames : List String := ["registration", "proxy_registration", "registration_endpoint"]

/-- Source: `proxy/registration.py`, `lmrs_network_config_contract`, `_section`. -/
def contractSection (config : Dict Value) (label : String) : List String → Except PyException (Dict Value)
  | [] => .error (valueError (label ++ " configuration section is required"))
  | name :: names =>
      match Dict.get? config name with
      | none => contractSection config label names
      | some .none => .error (valueError (label ++ " configuration section is required"))
      | some value => toDict value

/-- The listener of a listen section. Its protocol is taken to lower case as far as ASCII goes. -/
def listenSettings (listen : Dict Value) : Except PyException ListenSettings := do
  let port ← toInt ((Dict.get? listen "port").getD (.int 0))
  let metadata ← toDict (Value.or (Value.item listen "metadata") (.dict []))
  return {
    host := ((Dict.get? listen "host").getD (.str "")).text
    port
    protocol := String.ofList (lower ((Dict.get? listen "protocol").getD (.str "http")).text.toList)
    serverName := (Value.or ((Dict.get? listen "server_name").getD (.str "")) (.str "")).text
    sslCertfile := Value.item listen "ssl_certfile"
    sslKeyfile := Value.item listen "ssl_keyfile"
    caCert := Value.item listen "ca_cert"
    advertisedHost := Value.item listen "advertised_host"
    metadata }

/-- The registration of a registration section. -/
def registrationSettings (registration : Dict Value) : Except PyException RegistrationSettings := do
  let metadata ← toDict (Value.or (Value.item registration "metadata") (.dict []))
  return {
    enabled := ((Dict.get? registration "enabled").getD (.bool false)).truthy
    registerOnStartup := ((Dict.get? registration "register_on_startup").getD (.bool false)).truthy
    unregisterOnShutdown := ((Dict.get? registration "unregister_on_shutdown").getD (.bool false)).truthy
    registerUrl := Value.item registration "register_url"
    unregisterUrl := Value.item registration "unregister_url"
    heartbeatUrl := Value.item registration "heartbeat_url"
    heartbeatIntervalSeconds := Value.item registration "heartbeat_interval_seconds"
    serverId := Value.item registration "server_id"
    serverName := Value.item registration "server_name"
    instanceUuid := Value.item registration "instance_uuid"
    metadata
    clientCert := Value.item registration "client_cert"
    clientKey := Value.item registration "client_key"
    caCert := Value.item registration "ca_cert" }

/-- Source: `proxy/registration.py`, `lmrs_network_config_contract`. -/
def lmrsNetworkConfigContract (config : Dict Value) :
    Except PyException (ListenSettings × RegistrationSettings) := do
  let listen ← contractSection config "listen" listenNames
  let registration ← contractSection config "registration" registrationNames
  let listener ← listenSettings listen
  let endpoint ← registrationSettings registration
  return (listener, endpoint)

/-- Source: `proxy/registration.py`, `resolve_registration_protocol`. -/
def resolveRegistrationProtocol (endpoint : RegistrationSettings) : Except PyException String :=
  match endpoint.registerUrl.asStr?.filter fun url => url ≠ "" with
  | none => .error (valueError "registration URL is required to resolve protocol")
  | some url =>
      if "http://".toList <+: url.toList then .ok "http"
      else if "https://".toList <+: url.toList then
        if endpoint.clientCert.truthy ∧ endpoint.clientKey.truthy ∧ endpoint.caCert.truthy then .ok "mtls"
        else .ok "https"
      else .error (valueError "unsupported registration URL scheme")

/-! ## What an injection adds -/

section injection

variable {g : SectionSettings} {document injected : Dict Value} {label : String} {names : List String}

/-- Sections under names an injection leaves are read as they were. -/
theorem contractSection_injected (h : injectLmrsSections g document = .ok injected)
    (hnames : ∀ name ∈ names, name ∉ "commands" :: "logging" :: stubNames) :
    contractSection injected label names = contractSection document label names := by
  induction names with
  | nil => rfl
  | cons name names ih =>
      rw [List.forall_mem_cons] at hnames
      rw [contractSection, contractSection, get?_injected_other h hnames.1, ih hnames.2]

/-- A name without a section is passed over. -/
theorem contractSection_skip {config : Dict Value} {name : String} (h : Dict.get? config name = none) :
    contractSection config label (name :: names) = contractSection config label names := by
  rw [contractSection, h]

/-- A section that is found under the first name is the one that is read. -/
theorem contractSection_first {config config' : Dict Value} {name : String} {value : Value}
    (h : Dict.get? config name = some value) (h' : Dict.get? config' name = some value) :
    contractSection config label (name :: names) = contractSection config' label (name :: names) := by
  rw [contractSection, contractSection, h, h']
  rcases value with _ | _ | _ | _ | _ | _ | _
  all_goals rfl

/-- What the stub amounts to: no registration, neither now nor at the start or the end, and no URL. -/
structure RegistrationSettings.Off (endpoint : RegistrationSettings) : Prop where
  enabled : endpoint.enabled = false
  registerOnStartup : endpoint.registerOnStartup = false
  unregisterOnShutdown : endpoint.unregisterOnShutdown = false
  unresolved : ∀ protocol, resolveRegistrationProtocol endpoint ≠ .ok protocol

/-- **What is read of the stub.** -/
theorem registrationSettings_stub (g : SectionSettings) (registration : Dict Value) :
    ∃ endpoint, registrationSettings (proxyRegistrationStub g registration) = .ok endpoint ∧ endpoint.Off := by
  refine ⟨_, rfl, rfl, rfl, rfl, ?_⟩
  rintro protocol ⟨⟩

/-- Under the name of the stub there is what was there, or the stub. -/
theorem get?_injected_stub (h : injectLmrsSections g document = .ok injected) :
    ∃ registration, Dict.get? injected "proxy_registration" =
      (Dict.get? document "proxy_registration").or (some (.dict (proxyRegistrationStub g registration))) := by
  obtain ⟨commands, logging, registration, -, -, -, rfl⟩ := injectLmrsSections_eq_ok.mp h
  refine ⟨registration, ?_⟩
  rw [Dict.get?_fill, Dict.get?_set_of_ne _ _ (by decide), Dict.get?_set_of_ne _ _ (by decide)]
  rfl

/-- The registration section of a document that has one under one of the first two names is read as it was. -/
theorem registrationSection_injected (h : injectLmrsSections g document = .ok injected)
    (hthere : (Dict.get? document "registration").isSome ∨ (Dict.get? document "proxy_registration").isSome) :
    contractSection injected "registration" registrationNames =
      contractSection document "registration" registrationNames := by
  have hfirst : Dict.get? injected "registration" = Dict.get? document "registration" :=
    get?_injected_other h (by decide)
  rcases hregistration : Dict.get? document "registration" with _ | value
  · rw [hregistration] at hthere hfirst
    obtain ⟨value, hvalue⟩ := Option.isSome_iff_exists.mp (hthere.resolve_left (by simp))
    obtain ⟨registration, hstub⟩ := get?_injected_stub h
    rw [hvalue, Option.some_or] at hstub
    unfold registrationNames
    rw [contractSection_skip hfirst, contractSection_skip hregistration]
    exact contractSection_first hstub hvalue
  · rw [hregistration] at hfirst
    exact contractSection_first hfirst hregistration

/-- **An injection never enables a registration.** The contract reads an injected document as it read the
document, when that has a registration under one of the first two names; otherwise it reads the stub, and nothing is
registered. A document without a listen section is refused after the injection as before. -/
theorem injected_contract (h : injectLmrsSections g document = .ok injected) :
    ((Dict.get? document "registration").isSome ∨ (Dict.get? document "proxy_registration").isSome →
      lmrsNetworkConfigContract injected = lmrsNetworkConfigContract document) ∧
    (¬ ((Dict.get? document "registration").isSome ∨ (Dict.get? document "proxy_registration").isSome) →
      ∀ listener endpoint, lmrsNetworkConfigContract injected = .ok (listener, endpoint) → endpoint.Off) ∧
    ((∀ name ∈ listenNames, Dict.get? document name = none) →
      lmrsNetworkConfigContract injected = .error (valueError "listen configuration section is required")) := by
  have hlisten : contractSection injected "listen" listenNames = contractSection document "listen" listenNames :=
    contractSection_injected h (by decide)
  refine ⟨fun hthere => ?_, fun hnone listener endpoint hread => ?_, fun hnone => ?_⟩
  · unfold lmrsNetworkConfigContract
    rw [hlisten, registrationSection_injected h hthere]
  · rw [not_or, Option.not_isSome_iff_eq_none, Option.not_isSome_iff_eq_none] at hnone
    obtain ⟨registration, hstub⟩ := get?_injected_stub h
    rw [hnone.2, Option.none_or] at hstub
    have hsection : contractSection injected "registration" registrationNames =
        .ok (proxyRegistrationStub g registration) := by
      unfold registrationNames
      rw [contractSection_skip ((get?_injected_other h (by decide)).trans hnone.1), contractSection, hstub]
      rfl
    obtain ⟨endpoint', hendpoint, hoff⟩ := registrationSettings_stub g registration
    obtain ⟨_, -, hread⟩ := bind_eq_ok.mp hread
    obtain ⟨fields, hfields, hread⟩ := bind_eq_ok.mp hread
    rw [hsection] at hfields
    cases hfields
    obtain ⟨_, -, hread⟩ := bind_eq_ok.mp hread
    obtain ⟨_, hsame, hread⟩ := bind_eq_ok.mp hread
    rw [hendpoint] at hsame
    cases hsame
    cases hread
    exact hoff
  · have hmissing : contractSection document "listen" listenNames =
        .error (valueError "listen configuration section is required") := by
      unfold listenNames at hnone ⊢
      rw [contractSection_skip (hnone _ (by simp)), contractSection_skip (hnone _ (by simp)),
        contractSection_skip (hnone _ (by simp))]
      rfl
    unfold lmrsNetworkConfigContract
    rw [hlisten, hmissing]
    rfl

end injection

/-- A document of a server that registers under another name. -/
def listeningDocument : Dict Value :=
  [("listen", .dict [("host", .str "127.0.0.1"), ("port", .int 8012)]),
   ("registration_endpoint", .dict [("enabled", .bool true), ("register_url", .str "http://proxy:3004/register")])]

/-- The statement of that document: its registration is hidden by the stub. -/
theorem injected_contract_hidden : ∃ injected, injectLmrsSections {} listeningDocument = .ok injected ∧
    ∀ listener endpoint, lmrsNetworkConfigContract injected = .ok (listener, endpoint) → endpoint.Off := by
  refine ⟨_, rfl, ?_⟩
  apply (@injected_contract {} listeningDocument _ rfl).2.1
  decide

end Lmrs
