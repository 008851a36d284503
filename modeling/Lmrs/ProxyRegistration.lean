import Lmrs.Lib.Dicts
import Lmrs.Lib.Url

/-!
# The advertised URL and the registration payload

Source: `lmrs/proxy/registration.py`, `resolve_advertised_url`, `build_registration_payload`.

One function puts the URL of a listener together, the other reads it apart for the proxy. What the URL names is
the host that was chosen as it was written, unless it is one of four spellings of a wildcard.

* `payload_of_name`, `payload_of_bracketed`: the address that is read off the URL of a name, or of an address in
  brackets.
* `payload_of_bare`: the URL of a bare IPv6 address has no port to read.
* `registration_iff`: which listeners and metadata are registered under their own address.
-/

namespace Lmrs

open Python

/-- Source: `proxy/registration.py`, `ServerListenEndpoint`, the fields its URL is derived from. -/
structure ServerListenEndpoint where
  host : String
  port : Int
  protocol : String := "http"
  advertisedHost : Option String := none

/-- Source: `proxy/registration.py`, `ProxyRegistrationEndpoint`, the fields the payload is made of. Its metadata
has a key once. -/
structure ProxyRegistrationEndpoint where
  serverId : Option String := none
  serverName : Option String := none
  instanceUuid : Option String := none
  metadata : Dict Value := []
  metadata_distinct : Dict.Distinct metadata := by simp [Dict.Distinct]

namespace ServerListenEndpoint

/-- The scheme of the URL. -/
def scheme (endpoint : ServerListenEndpoint) : String :=
  if endpoint.protocol = "https" ∨ endpoint.protocol = "mtls" then "https" else "http"

/-- `endpoint.advertised_host or endpoint.host`. -/
def chosenHost (endpoint : ServerListenEndpoint) : String :=
  match endpoint.advertisedHost with
  | some host => if host = "" then endpoint.host else host
  | none => endpoint.host

end ServerListenEndpoint

/-- The spellings of a wildcard that are not advertised. -/
def wildcardSpellings : List String := ["0.0.0.0", "::", "*", ""]

/-- The host the URL names. -/
def advertisedHostOf (endpoint : ServerListenEndpoint) : String :=
  if endpoint.chosenHost ∈ wildcardSpellings then "localhost" else endpoint.chosenHost

/-- `f"{scheme}://{host}:{port}"`. -/
def urlText (scheme host : String) (port : Int) : String :=
  scheme ++ "://" ++ host ++ ":" ++ toString port

/-- Source: `proxy/registration.py`, `resolve_advertised_url`. -/
def resolveAdvertisedUrl (endpoint : ServerListenEndpoint) : String :=
  urlText endpoint.scheme (advertisedHostOf endpoint) endpoint.port

/-- `a or b` of texts that may be missing. -/
def textOr (a : Option String) (b : String) : String :=
  match a with
  | some s => if s = "" then b else s
  | none => b

/-- A text, or `None`. -/
def optionalText : Option String → Value
  | some s => .str s
  | none => .none

/-- The metadata derived from the address. -/
def derivedMetadata (protocol host : String) (port : Int) (instanceUuid : Option String) : Dict Value :=
  [("protocol", .str protocol), ("host", .str host), ("port", .int port),
   ("instance_uuid", optionalText instanceUuid)]

/-- Source: `proxy/registration.py`, `build_registration_payload`. -/
def buildRegistrationPayload (clashes : List Char → Bool) (endpoint : ProxyRegistrationEndpoint)
    (advertisedUrl : String) : Except PyException (Dict Value) := do
  let parsed ← Url.urlsplit clashes advertisedUrl.toList
  let host := String.ofList ((Url.hostname parsed.netloc).getD "localhost".toList)
  let parsedPort ← Url.port parsed.netloc
  let port := parsedPort.getD 0
  let serverName := textOr endpoint.serverId (textOr endpoint.serverName (host ++ "-" ++ toString port))
  let protocol := textOr (some (String.ofList parsed.scheme)) "http"
  let metadata := Dict.update (derivedMetadata protocol host port endpoint.instanceUuid) endpoint.metadata
  return [("server_id", optionalText endpoint.serverId), ("server_name", .str serverName),
          ("url", .str advertisedUrl), ("capabilities", .list []), ("metadata", .dict metadata)]

/-! ## Hosts -/

/-- The hosts a listener may have: a name or an IPv4 address, an IPv6 address bare or in brackets, or none. -/
inductive HostText : List Char → Prop
  | empty : HostText []
  | name {cs : List Char} (hne : cs ≠ []) (h : ∀ c ∈ cs, Url.isNameChar c = true) : HostText cs
  | bare {cs : List Char} {ns : List Nat} (h : Url.ipv6 cs = some ns) : HostText cs
  | bracketed {cs : List Char} {ns : List Nat} (h : Url.ipv6 cs = some ns) : HostText ('[' :: (cs ++ [']']))

/-- A host without the brackets of an address. -/
def unbracketed (cs : List Char) : List Char :=
  if cs.head? = some '[' ∧ cs.getLast? = some ']' then cs.tail.dropLast else cs

/-- A host that stands for every address of a machine: none, a star, or an address of zeros. -/
def Wildcard (host : String) : Prop :=
  host = "" ∨ host = "*" ∨ host = "0.0.0.0" ∨
    Url.ipv6 (unbracketed host.toList) = some (List.replicate 8 0)

instance (host : String) : Decidable (Wildcard host) := inferInstanceAs (Decidable (_ ∨ _))

/-- The host a listener is reached under: the chosen one, without brackets, or `localhost` for a wildcard. -/
def effectiveHost (endpoint : ServerListenEndpoint) : List Char :=
  if Wildcard endpoint.chosenHost then "localhost".toList else unbracketed endpoint.chosenHost.toList

/-- The URL names no wildcard. -/
def NamesNoWildcard (endpoint : ServerListenEndpoint) : Prop :=
  ∀ host, resolveAdvertisedUrl endpoint = urlText endpoint.scheme host endpoint.port → ¬ Wildcard host

/-- The payload of the URL reports the scheme, the host (up to case) and the port of the listener. -/
def Reports (clashes : List Char → Bool) (listen : ServerListenEndpoint)
    (registration : ProxyRegistrationEndpoint) : Prop :=
  ∃ payload metadata, buildRegistrationPayload clashes registration (resolveAdvertisedUrl listen) = .ok payload ∧
    Value.item payload "metadata" = .dict metadata ∧
    Value.item metadata "protocol" = .str listen.scheme ∧
    (∃ host, Value.item metadata "host" = .str host ∧
      Url.lowerCase host.toList = Url.lowerCase (effectiveHost listen)) ∧
    Value.item metadata "port" = .int listen.port

/-- The host that was chosen can be put in a URL as it is: it is no IPv6 address without brackets, but for the
wildcard that is replaced, and no address of zeros in brackets. -/
structure Advertisable (listen : ServerListenEndpoint) : Prop where
  bare : ∀ ns, Url.ipv6 listen.chosenHost.toList = some ns → listen.chosenHost = "::"
  bracketed : ∀ cs, listen.chosenHost.toList = '[' :: (cs ++ [']']) → Url.ipv6 cs ≠ some (List.replicate 8 0)

/-- The metadata of a registration says nothing else of the address: what it has under the three keys is what is
reported. -/
structure Agrees (listen : ServerListenEndpoint) (registration : ProxyRegistrationEndpoint) : Prop where
  protocol : ∀ v, Dict.get? registration.metadata "protocol" = some v → v = .str listen.scheme
  host : ∀ v, Dict.get? registration.metadata "host" = some v → ∃ host, v = .str host ∧
    Url.lowerCase host.toList = Url.lowerCase (effectiveHost listen)
  port : ∀ v, Dict.get? registration.metadata "port" = some v → v = .int listen.port

/-! ## Reading the URL apart -/

section payload

variable {clashes : List Char → Bool} {listen : ServerListenEndpoint} {registration : ProxyRegistrationEndpoint}

/-- The scheme is that of a URL. -/
theorem scheme_facts (listen : ServerListenEndpoint) :
    listen.scheme.toList.head?.any Char.isAlpha = true ∧
      (∀ c ∈ listen.scheme.toList, Url.isSchemeChar c = true ∧ Url.Plain c ∧ c ≠ ':' ∧ c.toLower = c) ∧
      listen.scheme ≠ "" := by
  have hchars : ∀ c ∈ listen.scheme.toList, c.isAlphanum = true ∧ c.toLower = c := by
    unfold ServerListenEndpoint.scheme
    split_ifs <;> simp
  refine ⟨?_, fun c hc => ?_, ?_⟩
  · unfold ServerListenEndpoint.scheme
    split_ifs <;> decide
  · obtain ⟨halphanum, hlower⟩ := hchars c hc
    have hname : Url.isNameChar c = true := by simp [Url.isNameChar, halphanum]
    obtain ⟨hplain, hcolon, -, -⟩ := Url.nameChar_facts hname
    exact ⟨by simp [Url.isSchemeChar, halphanum], hplain, hcolon, hlower⟩
  · unfold ServerListenEndpoint.scheme
    split_ifs <;> decide

/-- The text of a port: the digits of a number. -/
theorem port_text {p : Int} (h : 1 ≤ p ∧ p ≤ 65535) :
    ∃ n : Nat, p = n ∧ n ≤ 65535 ∧ (toString p).toList = Nat.toDigits 10 n ∧
      ∀ c ∈ Nat.toDigits 10 n, c.isDigit = true := by
  obtain ⟨n, rfl⟩ := Int.eq_ofNat_of_zero_le (by omega : 0 ≤ p)
  refine ⟨n, rfl, by omega, ?_, fun c hc => Nat.isDigit_of_mem_toDigits (by decide) (by decide) hc⟩
  rw [toList_toString, if_neg (by omega), Int.natAbs_natCast]

/-- An authority of plain characters and the digits of a port. -/
theorem plain_netloc {host digits : List Char} (hhost : ∀ c ∈ host, Url.Plain c)
    (hdigits : ∀ c ∈ digits, c.isDigit = true) : ∀ c ∈ host ++ ':' :: digits, Url.Plain c := by
  intro c hc
  rcases List.mem_append.mp hc with hmem | hmem
  · exact hhost c hmem
  · rcases List.mem_cons.mp hmem with rfl | hmem
    · decide
    · exact (Url.digit_plain (hdigits c hmem)).1

/-- The characters of a URL that was put together. -/
theorem toList_urlText (scheme host : String) (port : Int) :
    (urlText scheme host port).toList =
      scheme.toList ++ ':' :: '/' :: '/' :: (host.toList ++ ':' :: (toString port).toList) := by
  simp [urlText, String.toList_append]

/-- A URL of the listener's scheme and port names one host. -/
theorem urlText_inj {scheme host host' : String} {port : Int}
    (h : urlText scheme host port = urlText scheme host' port) : host = host' := by
  have hlist := congrArg String.toList h
  rw [toList_urlText, toList_urlText] at hlist
  exact String.toList_inj.mp (by simpa using hlist)

/-- The metadata of a payload: what the registration has, over what was derived. -/
def reportedMetadata (listen : ServerListenEndpoint) (registration : ProxyRegistrationEndpoint) (host : String) :
    Dict Value :=
  Dict.update (derivedMetadata listen.scheme host listen.port registration.instanceUuid) registration.metadata

/-- The URL with a host is read apart: the payload has the scheme and the port of the listener, and a name up to
case. -/
def ReadApart (clashes : List Char → Bool) (listen : ServerListenEndpoint)
    (registration : ProxyRegistrationEndpoint) (host : String) (name : List Char) : Prop :=
  ∃ text payload, buildRegistrationPayload clashes registration (urlText listen.scheme host listen.port) =
      .ok payload ∧
    Value.item payload "metadata" = .dict (reportedMetadata listen registration text) ∧
    Url.lowerCase text.toList = Url.lowerCase name

/-- What is reported under a key that was derived: that, or what the registration has instead. -/
theorem reported_iff {host key : String} {derived : Value} {P : Value → Prop}
    (hderived : Dict.get? (derivedMetadata listen.scheme host listen.port registration.instanceUuid) key =
      some derived) (hP : P derived) :
    P (Value.item (reportedMetadata listen registration host) key) ↔
      ∀ v, Dict.get? registration.metadata key = some v → P v := by
  unfold Value.item reportedMetadata
  rw [registration.metadata_distinct.get?_update, hderived]
  cases Dict.get? registration.metadata key with
  | none => simp [hP]
  | some v => simp

/-- **What a registration reports of an address that was read**: the address, exactly when its metadata agrees. -/
theorem reports_iff_agrees
    (hread : ReadApart clashes listen registration (advertisedHostOf listen) (effectiveHost listen)) :
    Reports clashes listen registration ↔ Agrees listen registration := by
  obtain ⟨host, payload, hpayload, hmetadata, hhost⟩ := hread
  have hprotocol : Value.item (reportedMetadata listen registration host) "protocol" = .str listen.scheme ↔
      ∀ v, Dict.get? registration.metadata "protocol" = some v → v = .str listen.scheme :=
    reported_iff (P := fun v => v = .str listen.scheme) rfl rfl
  have hname : (∃ name, Value.item (reportedMetadata listen registration host) "host" = .str name ∧
        Url.lowerCase name.toList = Url.lowerCase (effectiveHost listen)) ↔
      ∀ v, Dict.get? registration.metadata "host" = some v → ∃ name, v = .str name ∧
        Url.lowerCase name.toList = Url.lowerCase (effectiveHost listen) :=
    reported_iff (P := fun v => ∃ name, v = .str name ∧
      Url.lowerCase name.toList = Url.lowerCase (effectiveHost listen)) rfl ⟨host, rfl, hhost⟩
  have hport : Value.item (reportedMetadata listen registration host) "port" = .int listen.port ↔
      ∀ v, Dict.get? registration.metadata "port" = some v → v = .int listen.port :=
    reported_iff (P := fun v => v = .int listen.port) rfl rfl
  constructor
  · rintro ⟨payload', metadata, hpayload', hmetadata', h⟩
    obtain rfl : payload = payload' := Except.ok.inj (hpayload.symm.trans hpayload')
    rw [hmetadata] at hmetadata'
    cases hmetadata'
    exact ⟨hprotocol.mp h.1, hname.mp h.2.1, hport.mp h.2.2⟩
  · intro h
    exact ⟨payload, _, hpayload, hmetadata, hprotocol.mpr h.protocol, hname.mpr h.host, hport.mpr h.port⟩

/-- The payload of a URL whose authority was read. -/
theorem payload_of_hostinfo {host : String} {name : List Char} {n : Nat} (hn : n ≤ 65535)
    (hport : listen.port = n) (hdigits : (toString listen.port).toList = Nat.toDigits 10 n)
    (hplain : ∀ c ∈ host.toList ++ ':' :: Nat.toDigits 10 n, Url.Plain c)
    (hcheck : Url.checkBrackets (host.toList ++ ':' :: Nat.toDigits 10 n) = .ok ())
    (hinfo : Url.hostinfo (host.toList ++ ':' :: Nat.toDigits 10 n) = (name, Nat.toDigits 10 n)) (hname : name ≠ []) :
    ReadApart clashes listen registration host name := by
  obtain ⟨hfirst, hscheme, hne⟩ := scheme_facts listen
  obtain ⟨text, htext, hlower⟩ := Url.lowerCase_hostname (congrArg Prod.fst hinfo) hname
  have hread := Url.port_of_digits (congrArg Prod.snd hinfo) hn
  have hsplit : Url.urlsplit clashes (urlText listen.scheme host listen.port).toList =
      .ok ⟨listen.scheme.toList, host.toList ++ ':' :: Nat.toDigits 10 n⟩ := by
    rw [toList_urlText, hdigits, Url.urlsplit_format hfirst hscheme hplain, hcheck]
    rfl
  refine ⟨String.ofList text, ?_⟩
  unfold buildRegistrationPayload
  rw [hsplit]
  simp only [bind, Except.bind, hread, htext, pure, Except.pure, Option.getD_some, String.ofList_toList, textOr,
    if_neg hne, ← hport]
  exact ⟨_, rfl, rfl, by rw [String.toList_ofList, hlower]⟩

/-- **The address of a name is read off its URL.** -/
theorem payload_of_name {host : String} (hport : 1 ≤ listen.port ∧ listen.port ≤ 65535) (hne : host ≠ "")
    (hhost : ∀ c ∈ host.toList, Url.isNameChar c = true) :
    ReadApart clashes listen registration host host.toList := by
  obtain ⟨n, hn, hle, hdigits, hdigit⟩ := port_text hport
  obtain ⟨hinfo, hcheck⟩ := Url.hostinfo_name (fun c hc => Url.nameChar_facts (hhost c hc)) hdigit
  have hplain := plain_netloc (fun c hc => (Url.nameChar_facts (hhost c hc)).1) hdigit
  exact payload_of_hostinfo hle hn hdigits hplain hcheck hinfo (by simpa using hne)

/-- **The address in brackets is read off its URL.** -/
theorem payload_of_bracketed {host : String} {cs : List Char} {ns : List Nat}
    (hport : 1 ≤ listen.port ∧ listen.port ≤ 65535) (hhost : host.toList = '[' :: (cs ++ [']']))
    (hns : Url.ipv6 cs = some ns) :
    ReadApart clashes listen registration host cs := by
  obtain ⟨n, hn, hle, hdigits, hdigit⟩ := port_text hport
  obtain ⟨hinfo, hcheck, hplain⟩ := Url.hostinfo_bracketed hns hdigit
  have hnetloc : host.toList ++ ':' :: Nat.toDigits 10 n = '[' :: (cs ++ ']' :: ':' :: Nat.toDigits 10 n) := by
    rw [hhost]
    simp
  have hne : cs ≠ [] := by
    rintro rfl
    exact absurd (Url.colon_mem_ipv6 hns) (by simp)
  rw [← hnetloc] at hinfo hcheck hplain
  exact payload_of_hostinfo hle hn hdigits hplain hcheck hinfo hne

/-- **The URL of a bare IPv6 address has no port to read.** -/
theorem payload_of_bare {host : String} {ns : List Nat} (hport : 1 ≤ listen.port ∧ listen.port ≤ 65535)
    (hns : Url.ipv6 host.toList = some ns) :
    buildRegistrationPayload clashes registration (urlText listen.scheme host listen.port) =
      .error (valueError "Port could not be cast to integer value") := by
  obtain ⟨n, hn, hle, hdigits, hdigit⟩ := port_text hport
  have hchars : ∀ c ∈ host.toList, Url.Plain c ∧ c ≠ '[' ∧ c ≠ ']' := by
    intro c hc
    obtain ⟨hplain, hopen, hclose, -, -⟩ := Url.ipv6Char_facts (Url.ipv6_chars hns c hc)
    exact ⟨hplain, hopen, hclose⟩
  obtain ⟨hread, hcheck⟩ := Url.port_of_colon hchars (Url.colon_mem_ipv6 hns) hdigit
  obtain ⟨hfirst, hscheme, -⟩ := scheme_facts listen
  have hsplit : Url.urlsplit clashes (urlText listen.scheme host listen.port).toList =
      .ok ⟨listen.scheme.toList, host.toList ++ ':' :: Nat.toDigits 10 n⟩ := by
    have hplain := plain_netloc (fun c hc => (hchars c hc).1) hdigit
    rw [toList_urlText, hdigits, Url.urlsplit_format hfirst hscheme hplain, hcheck]
    rfl
  unfold buildRegistrationPayload
  rw [hsplit]
  simp only [bind, Except.bind, hread]

end payload

/-! ## Which listeners are registered under their own address -/

section hosts

variable {listen : ServerListenEndpoint} {cs : List Char} {ns : List Nat}

/-- A name is no IPv6 address. -/
theorem ipv6_of_name (h : ∀ c ∈ cs, Url.isNameChar c = true) : Url.ipv6 cs = none := by
  cases hns : Url.ipv6 cs with
  | none => rfl
  | some ns => exact absurd rfl (Url.nameChar_facts (h ':' (Url.colon_mem_ipv6 hns))).2.1

/-- An address in brackets is no IPv6 address itself. -/
theorem ipv6_of_bracketed (cs : List Char) : Url.ipv6 ('[' :: cs) = none := by
  cases hns : Url.ipv6 ('[' :: cs) with
  | none => rfl
  | some ns => exact absurd rfl (Url.ipv6Char_facts (Url.ipv6_chars hns '[' (List.mem_cons_self ..))).2.1

@[simp] theorem unbracketed_bracketed (cs : List Char) : unbracketed ('[' :: (cs ++ [']'])) = cs := by
  unfold unbracketed
  rw [if_pos]
  · simp
  · simp [List.getLast?_cons]

/-- A host that starts with no bracket has none to take off. -/
theorem unbracketed_of_head (h : cs.head? ≠ some '[') : unbracketed cs = cs := by
  unfold unbracketed
  rw [if_neg]
  exact fun hboth => h hboth.1

/-- The URL names a wildcard exactly when its host is one. -/
theorem namesNoWildcard_iff : NamesNoWildcard listen ↔ ¬ Wildcard (advertisedHostOf listen) := by
  constructor
  · exact fun h => h _ rfl
  · intro h host hurl
    rwa [← urlText_inj hurl]

/-- `localhost` is no wildcard. -/
theorem localhost_not_wildcard : ¬ Wildcard "localhost" := by decide

end hosts

section registered

variable {clashes : List Char → Bool} {listen : ServerListenEndpoint} {registration : ProxyRegistrationEndpoint}

/-- What a replaced spelling is: a wildcard, in no brackets, and of the IPv6 addresses the one without digits. -/
theorem wildcardSpellings_facts {host : String} (h : host ∈ wildcardSpellings) :
    Wildcard host ∧ host.toList.head? ≠ some '[' ∧
      (∀ ns, Url.ipv6 host.toList = some ns → host = "::") := by
  have hall : ∀ host ∈ wildcardSpellings, Wildcard host ∧ host.toList.head? ≠ some '[' ∧
      ((Url.ipv6 host.toList).isSome = true → host = "::") := by decide
  obtain ⟨hwild, hhead, hbare⟩ := hall host h
  exact ⟨hwild, hhead, fun ns hns => hbare (by rw [hns]; rfl)⟩

/-- A host that is not replaced is a wildcard only as an IPv6 address of zeros. -/
theorem wildcard_iff_of_not_replaced {host : String} (h : host ∉ wildcardSpellings) :
    Wildcard host ↔ Url.ipv6 (unbracketed host.toList) = some (List.replicate 8 0) := by
  constructor
  · rintro (heq | heq | heq | hzeros)
    · exact absurd (by simp [heq, wildcardSpellings]) h
    · exact absurd (by simp [heq, wildcardSpellings]) h
    · exact absurd (by simp [heq, wildcardSpellings]) h
    · exact hzeros
  · exact fun hzeros => .inr (.inr (.inr hzeros))

/-- A host with an opening bracket is not replaced. -/
theorem not_replaced_of_bracket {host : String} (h : host.toList.head? = some '[') : host ∉ wildcardSpellings :=
  fun hmem => (wildcardSpellings_facts hmem).2.1 h

/-- A wildcard that is replaced is registered as `localhost`. -/
theorem registered_of_replaced (hport : 1 ≤ listen.port ∧ listen.port ≤ 65535)
    (h : listen.chosenHost ∈ wildcardSpellings) :
    (NamesNoWildcard listen ∧ Reports clashes listen registration) ↔
      (Advertisable listen ∧ Agrees listen registration) := by
  have hadvertised : advertisedHostOf listen = "localhost" := if_pos h
  obtain ⟨hwild, hhead, hbare⟩ := wildcardSpellings_facts h
  have heffective : effectiveHost listen = "localhost".toList := if_pos hwild
  have hnames : NamesNoWildcard listen := by
    rw [namesNoWildcard_iff, hadvertised]
    exact localhost_not_wildcard
  have hadvertisable : Advertisable listen := by
    refine ⟨hbare, fun cs heq => ?_⟩
    rw [heq] at hhead
    exact absurd rfl hhead
  have hchars : ∀ c ∈ "localhost".toList, Url.isNameChar c = true := by simp [Url.isNameChar]
  have hreports : Reports clashes listen registration ↔ Agrees listen registration := by
    apply reports_iff_agrees
    rw [hadvertised, heffective]
    exact payload_of_name hport (by decide) hchars
  simp only [hnames, hadvertisable, hreports, true_and]

/-- A name that is not replaced is registered as it was written. -/
theorem registered_of_name (hport : 1 ≤ listen.port ∧ listen.port ≤ 65535)
    (hreplaced : listen.chosenHost ∉ wildcardSpellings)
    (hhost : ∀ c ∈ listen.chosenHost.toList, Url.isNameChar c = true) :
    (NamesNoWildcard listen ∧ Reports clashes listen registration) ↔
      (Advertisable listen ∧ Agrees listen registration) := by
  have hadvertised : advertisedHostOf listen = listen.chosenHost := if_neg hreplaced
  have hhead : listen.chosenHost.toList.head? ≠ some '[' := by
    intro hhead
    exact (Url.nameChar_facts (hhost _ (List.mem_of_mem_head? hhead))).2.2.1 rfl
  have hplain : unbracketed listen.chosenHost.toList = listen.chosenHost.toList := unbracketed_of_head hhead
  have hnone : Url.ipv6 listen.chosenHost.toList = none := ipv6_of_name hhost
  have hwild : ¬ Wildcard listen.chosenHost := by
    rw [wildcard_iff_of_not_replaced hreplaced, hplain, hnone]
    exact Option.some_ne_none _ ∘ Eq.symm
  have heffective : effectiveHost listen = listen.chosenHost.toList := by
    rw [effectiveHost, if_neg hwild, hplain]
  have hnames : NamesNoWildcard listen := by
    rwa [namesNoWildcard_iff, hadvertised]
  have hadvertisable : Advertisable listen := by
    refine ⟨fun ns hns => ?_, fun cs heq => ?_⟩
    · rw [hnone] at hns
      cases hns
    · rw [heq] at hhead
      exact absurd rfl hhead
  have hne : listen.chosenHost ≠ "" := fun heq => hreplaced (by simp [heq, wildcardSpellings])
  have hreports : Reports clashes listen registration ↔ Agrees listen registration := by
    apply reports_iff_agrees
    rw [hadvertised, heffective]
    exact payload_of_name hport hne hhost
  simp only [hnames, hadvertisable, hreports, true_and]

/-- An address in brackets is registered without them; where it is one of zeros, its URL names a wildcard. -/
theorem registered_of_bracketed {cs : List Char} {ns : List Nat} (hport : 1 ≤ listen.port ∧ listen.port ≤ 65535)
    (hhost : listen.chosenHost.toList = '[' :: (cs ++ [']'])) (hns : Url.ipv6 cs = some ns) :
    (NamesNoWildcard listen ∧ Reports clashes listen registration) ↔
      (Advertisable listen ∧ Agrees listen registration) := by
  have hreplaced : listen.chosenHost ∉ wildcardSpellings := not_replaced_of_bracket (by rw [hhost]; rfl)
  have hadvertised : advertisedHostOf listen = listen.chosenHost := if_neg hreplaced
  have hwild : Wildcard listen.chosenHost ↔ Url.ipv6 cs = some (List.replicate 8 0) := by
    rw [wildcard_iff_of_not_replaced hreplaced, hhost, unbracketed_bracketed]
  have hnames : NamesNoWildcard listen ↔ Url.ipv6 cs ≠ some (List.replicate 8 0) := by
    rw [namesNoWildcard_iff, hadvertised, hwild]
  have hadvertisable : Advertisable listen ↔ Url.ipv6 cs ≠ some (List.replicate 8 0) := by
    constructor
    · exact fun h => h.bracketed cs hhost
    · intro h
      refine ⟨fun ns hns => ?_, fun cs' heq => ?_⟩
      · rw [hhost, ipv6_of_bracketed] at hns
        cases hns
      · rw [hhost] at heq
        simp only [List.cons.injEq, List.append_cancel_right_eq, true_and] at heq
        rwa [← heq]
  rw [hnames, hadvertisable]
  refine and_congr_right fun hzeros => ?_
  have heffective : effectiveHost listen = cs := by
    rw [effectiveHost, if_neg (mt hwild.mp hzeros), hhost, unbracketed_bracketed]
  apply reports_iff_agrees
  rw [hadvertised, heffective]
  exact payload_of_bracketed hport hhost hns

/-- A bare IPv6 address is registered exactly when it is the wildcard that is replaced. -/
theorem registered_of_bare {ns : List Nat} (hport : 1 ≤ listen.port ∧ listen.port ≤ 65535)
    (hreplaced : listen.chosenHost ∉ wildcardSpellings) (hns : Url.ipv6 listen.chosenHost.toList = some ns) :
    (NamesNoWildcard listen ∧ Reports clashes listen registration) ↔
      (Advertisable listen ∧ Agrees listen registration) := by
  have hadvertised : advertisedHostOf listen = listen.chosenHost := if_neg hreplaced
  constructor
  · rintro ⟨-, payload, metadata, hpayload, -⟩
    rw [resolveAdvertisedUrl, hadvertised, payload_of_bare hport hns] at hpayload
    cases hpayload
  · rintro ⟨hadvertisable, -⟩
    have heq := hadvertisable.bare ns hns
    exact absurd (by simp [heq, wildcardSpellings]) hreplaced

/-- The host that is chosen is one a listener may have. -/
theorem hostText_chosenHost (hhost : HostText listen.host.toList)
    (hadvertised : ∀ advertised, listen.advertisedHost = some advertised → HostText advertised.toList) :
    HostText listen.chosenHost.toList := by
  unfold ServerListenEndpoint.chosenHost
  split
  · split_ifs
    · exact hhost
    · exact hadvertised _ ‹_›
  · exact hhost

/-- **Registration under an address.** Whatever host a listener has, whatever protocol and whichever port, its URL
names no wildcard and the payload of that URL reports its scheme, its effective host and its port exactly when the
host that was chosen can be put in a URL as it is and the metadata of the registration says nothing else. -/
theorem registration_iff (clashes : List Char → Bool) (listen : ServerListenEndpoint)
    (registration : ProxyRegistrationEndpoint) (hhost : HostText listen.host.toList)
    (hadvertised : ∀ advertised, listen.advertisedHost = some advertised → HostText advertised.toList)
    (hport : 1 ≤ listen.port ∧ listen.port ≤ 65535) :
    (NamesNoWildcard listen ∧ Reports clashes listen registration) ↔
      (Advertisable listen ∧ Agrees listen registration) := by
  by_cases hreplaced : listen.chosenHost ∈ wildcardSpellings
  · exact registered_of_replaced hport hreplaced
  · have htext := hostText_chosenHost hhost hadvertised
    generalize hchosen : listen.chosenHost.toList = cs at htext
    cases htext with
    | empty => exact absurd (by simp [String.toList_eq_nil_iff.mp hchosen, wildcardSpellings]) hreplaced
    | name hne h => exact registered_of_name hport hreplaced (hchosen ▸ h)
    | bare h => exact registered_of_bare hport hreplaced (hchosen ▸ h)
    | bracketed h => exact registered_of_bracketed hport hchosen h

/-- The registration of a listener on every address that advertises an address in brackets. -/
theorem registration_iff_bracketed :
    (NamesNoWildcard { host := "0.0.0.0", port := 8080, protocol := "mtls", advertisedHost := some "[2001:DB8::1]" } ∧
      Reports (fun _ => false)
        { host := "0.0.0.0", port := 8080, protocol := "mtls", advertisedHost := some "[2001:DB8::1]" } {}) ↔
      (Advertisable
          { host := "0.0.0.0", port := 8080, protocol := "mtls", advertisedHost := some "[2001:DB8::1]" } ∧
        Agrees { host := "0.0.0.0", port := 8080, protocol := "mtls", advertisedHost := some "[2001:DB8::1]" }
          {}) := by
  have hns : Url.ipv6 "2001:DB8::1".toList = some [0x2001, 0xDB8, 0, 0, 0, 0, 0, 1] := by decide
  refine registration_iff (fun _ => false) _ {} (.name (by simp) (by simp [Url.isNameChar])) ?_ (by decide)
  intro advertised h
  cases h
  exact .bracketed hns

/-- The wildcard in brackets is advertised, a bare IPv6 address makes the payload raise, and the metadata of a
registration takes the place of the port. -/
theorem wildcard_advertised_and_bare_address_raises :
    (HostText "[::]".toList ∧ ¬ NamesNoWildcard { host := "[::]", port := 8080 }) ∧
    (HostText "::1".toList ∧
      buildRegistrationPayload (fun _ => false) {} (resolveAdvertisedUrl { host := "::1", port := 8080 }) =
        .error (valueError "Port could not be cast to integer value")) ∧
    (HostText "node".toList ∧
      ¬ Reports (fun _ => false) { host := "node", port := 8080 } { metadata := [("port", .int 1)] }) := by
  have hzeros : Url.ipv6 "::".toList = some (List.replicate 8 0) := by decide
  have hone : Url.ipv6 "::1".toList = some [0, 0, 0, 0, 0, 0, 0, 1] := by decide
  refine ⟨⟨.bracketed hzeros, ?_⟩, ⟨.bare hone, payload_of_bare ⟨by decide, by decide⟩ hone⟩,
    ⟨.name (by simp) (by simp [Url.isNameChar]), ?_⟩⟩
  · rw [namesNoWildcard_iff]
    decide
  · intro hreports
    have hchars : ∀ c ∈ ({ host := "node", port := 8080 } : ServerListenEndpoint).chosenHost.toList,
        Url.isNameChar c = true := by
      simp [ServerListenEndpoint.chosenHost, Url.isNameChar]
    have hnames : NamesNoWildcard { host := "node", port := 8080 } := by
      rw [namesNoWildcard_iff]
      decide
    have hagrees : Agrees { host := "node", port := 8080 } { metadata := [("port", .int 1)] } :=
      ((registered_of_name ⟨by decide, by decide⟩ (by decide) hchars).mp ⟨hnames, hreports⟩).2
    cases hagrees.port _ rfl

end registered

end Lmrs
