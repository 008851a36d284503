import Lmrs.Lib.Untyped

/-!
# Requests of the gateway

Source: `lmrs/gateway.py`, `normalize_messages`, `validate_gateway_request`.

A payload is a document: every entry, every message and every tool may be of any type. A request that is
accepted is read off the payload (`Accepted`). What is refused is refused with a `ValueError`, with one
exception: a message is asked for its role before anything says that it is a mapping.

* `validateGatewayRequest_ok`: what an accepted request says of its payload.
* `normalizeMessage_raises`: a message that is a mapping is refused with a `ValueError` only.
* `gateway_contract_iff`: which payloads are accepted or refused with a `ValueError`.
-/

namespace Lmrs.Gateway

open Python

/-- The content of a message: a text, or a list of blocks. -/
inductive MessageContent where
  | text (s : String)
  | blocks (items : List Value)

/-- Source: `gateway.py`, `ChatMessage`. -/
structure ChatMessage where
  role : String
  content : MessageContent
  name : Option String := none
  metadata : Dict Value := []

/-- Source: `gateway.py`, `CanonicalChatRequest`. -/
structure CanonicalChatRequest where
  sessionId : String
  requestId : String
  modelName : String
  messages : List ChatMessage
  tools : List (Dict Value) := []
  reservedOutputTokens : Int := 0
  options : Dict Value := []

/-- What is normalized: a message that was built already, or a value of the payload. -/
inductive RawMessage where
  | built (message : ChatMessage)
  | value (v : Value)

/-! ## The checks -/

/-- `if not isinstance(value, str) or not value: raise ValueError(f"{name} must be a non-empty string")`. -/
def nonEmptyText (name : String) (v : Value) : Except PyException String :=
  match v with
  | .str s => if s = "" then .error (valueError (name ++ " must be a non-empty string")) else .ok s
  | _ => .error (valueError (name ++ " must be a non-empty string"))

/-- The content of a message. -/
def messageContent (v : Value) : Except PyException MessageContent :=
  match v with
  | .str s => .ok (.text s)
  | .list items => .ok (.blocks items)
  | _ => .error (valueError "message content must be a string or list payload")

/-- The name of a message, when it is provided. -/
def messageName (v : Value) : Except PyException (Option String) :=
  match v with
  | .none => .ok none
  | .str s => .ok (some s)
  | _ => .error (valueError "message name must be a string when provided")

/-- `if not isinstance(value, Mapping): raise ValueError(message)`. -/
def requireMapping (message : String) (v : Value) : Except PyException (Dict Value) :=
  match v with
  | .dict items => .ok items
  | _ => .error (valueError message)

/-- `if not isinstance(value, Sequence) or isinstance(value, (str, bytes)): raise ValueError(message)`: of the
values of a document only a list is such a sequence. -/
def requireSequence (message : String) (v : Value) : Except PyException (List Value) :=
  match v with
  | .list items => .ok items
  | _ => .error (valueError message)

/-- `if not isinstance(value, int) or value < 0: raise ValueError(...)`. -/
def reservedTokens (v : Value) : Except PyException Int :=
  match v.asInt? with
  | some n =>
      if n < 0 then .error (valueError "reserved_output_tokens must be a non-negative integer") else .ok n
  | none => .error (valueError "reserved_output_tokens must be a non-negative integer")

/-- One pass of the loop over the messages. -/
def normalizeMessage (raw : RawMessage) : Except PyException ChatMessage :=
  match raw with
  | .built message => .ok message
  | .value v => do
      let rawRole ← v.getAttr "role"
      let rawContent ← v.getAttr "content"
      let role ← nonEmptyText "message role" rawRole
      let content ← messageContent rawContent
      let rawName ← v.getAttr "name"
      let name ← messageName rawName
      let rawMetadata ← v.getAttr "metadata" (.dict [])
      let metadata ← requireMapping "message metadata must be a mapping" rawMetadata
      return { role, content, name, metadata }

/-- Source: `gateway.py`, `normalize_messages`. -/
def normalizeMessages (rawMessages : List RawMessage) : Except PyException (List ChatMessage) :=
  rawMessages.mapM normalizeMessage

/-- `if not messages: raise ValueError(...)`. -/
def requireMessages (messages : List ChatMessage) : Except PyException Unit :=
  if messages = [] then .error (valueError "messages must not be empty") else .ok ()

/-- `payload.get(key, default)`. -/
def entryOr (payload : Dict Value) (key : String) (fallback : Value) : Value :=
  (Dict.get? payload key).getD fallback

/-- Source: `gateway.py`, `validate_gateway_request`. -/
def validateGatewayRequest (payload : Dict Value) : Except PyException CanonicalChatRequest := do
  let sessionId ← nonEmptyText "session_id" (Value.item payload "session_id")
  let requestId ← nonEmptyText "request_id" (Value.item payload "request_id")
  let modelName ← nonEmptyText "model_name" (Value.item payload "model_name")
  let rawMessages ← requireSequence "messages must be a sequence" (Value.item payload "messages")
  let messages ← normalizeMessages (rawMessages.map .value)
  requireMessages messages
  let rawTools ← requireSequence "tools must be a sequence when provided" (entryOr payload "tools" (.list []))
  let tools ← rawTools.mapM (requireMapping "tools entries must be mappings")
  let reservedOutputTokens ← reservedTokens (entryOr payload "reserved_output_tokens" (.int 0))
  let options ← requireMapping "options must be a mapping" (entryOr payload "options" (.dict []))
  return { sessionId, requestId, modelName, messages, tools, reservedOutputTokens, options }

/-! ## What passes a check -/

section checks

variable {v : Value} {payload : Dict Value}

theorem nonEmptyText_eq_ok {name s : String} : nonEmptyText name v = .ok s ↔ v = .str s ∧ s ≠ "" := by
  unfold nonEmptyText
  cases v with
  | str text =>
      by_cases h : text = ""
      · simp only [h, if_true, reduceCtorEq, Value.str.injEq, false_iff, not_and, not_not]
        exact Eq.symm
      · simp only [h, if_false, Except.ok.injEq, Value.str.injEq]
        constructor
        · rintro rfl
          exact ⟨rfl, h⟩
        · exact And.left
  | _ => simp

/-- The value of a content. -/
def MessageContent.value : MessageContent → Value
  | .text s => .str s
  | .blocks items => .list items

theorem messageContent_eq_ok {content : MessageContent} :
    messageContent v = .ok content ↔ v = content.value := by
  unfold messageContent
  cases v <;> cases content <;> simp [MessageContent.value]

/-- The value of a name. -/
def nameValue : Option String → Value
  | some s => .str s
  | none => .none

theorem messageName_eq_ok {name : Option String} : messageName v = .ok name ↔ v = nameValue name := by
  unfold messageName
  cases v <;> cases name <;> simp [nameValue]

theorem requireMapping_eq_ok {message : String} {d : Dict Value} :
    requireMapping message v = .ok d ↔ v = .dict d := by
  unfold requireMapping
  cases v <;> simp

theorem requireSequence_eq_ok {message : String} {items : List Value} :
    requireSequence message v = .ok items ↔ v = .list items := by
  unfold requireSequence
  cases v <;> simp

theorem reservedTokens_eq_ok {n : Int} : reservedTokens v = .ok n ↔ v.asInt? = some n ∧ 0 ≤ n := by
  unfold reservedTokens
  cases v.asInt? with
  | none => simp
  | some m =>
      by_cases h : m < 0
      · simp [h]
        rintro rfl
        exact h
      · simp [h]
        rintro rfl
        exact not_lt.mp h

end checks

/-! ## What is accepted -/

/-- A message read off a value of the payload. -/
structure IsMessage (raw : Value) (message : ChatMessage) : Prop where
  mapping : ∃ d, raw = .dict d ∧ Value.item d "role" = .str message.role ∧
    Value.item d "content" = message.content.value ∧ Value.item d "name" = nameValue message.name ∧
    entryOr d "metadata" (.dict []) = .dict message.metadata
  role_ne : message.role ≠ ""

/-- A request read off its payload: the ids, the messages in their order, the tools, the reservation and the
options are those the payload states, and each is what it has to be. -/
structure Accepted (payload : Dict Value) (request : CanonicalChatRequest) : Prop where
  sessionId : Value.item payload "session_id" = .str request.sessionId ∧ request.sessionId ≠ ""
  requestId : Value.item payload "request_id" = .str request.requestId ∧ request.requestId ≠ ""
  modelName : Value.item payload "model_name" = .str request.modelName ∧ request.modelName ≠ ""
  messages : ∃ raws, Value.item payload "messages" = .list raws ∧
    List.Forall₂ IsMessage raws request.messages ∧ request.messages ≠ []
  tools : entryOr payload "tools" (.list []) = .list (request.tools.map .dict)
  reserved : (entryOr payload "reserved_output_tokens" (.int 0)).asInt? = some request.reservedOutputTokens ∧
    0 ≤ request.reservedOutputTokens
  options : entryOr payload "options" (.dict []) = .dict request.options

section accepted

variable {v : Value} {payload : Dict Value}

/-- A value is asked for its entries exactly when it is a mapping. -/
theorem getAttr_eq_ok {key : String} {fallback w : Value} :
    v.getAttr key fallback = .ok w ↔ ∃ d, v = .dict d ∧ w = entryOr d key fallback := by
  rw [Value.getAttr_eq_ok_iff]
  cases v <;> simp [Value.asDict?, entryOr]

/-- What a value is normalized to. -/
theorem normalizeMessage_eq_ok {message : ChatMessage} :
    normalizeMessage (.value v) = .ok message ↔ IsMessage v message := by
  unfold normalizeMessage
  simp only [bind_eq_ok, getAttr_eq_ok, nonEmptyText_eq_ok, messageContent_eq_ok, messageName_eq_ok,
    requireMapping_eq_ok, pure, Except.pure, Except.ok.injEq]
  constructor
  · rintro ⟨_, ⟨d, rfl, rfl⟩, _, ⟨d', hd', rfl⟩, role, ⟨hrole, hne⟩, content, hcontent, _, ⟨d'', hd'', rfl⟩, name, hname,
      _, ⟨d₃, hd₃, rfl⟩, metadata, hmetadata, rfl⟩
    cases hd'
    cases hd''
    cases hd₃
    exact ⟨⟨d, rfl, hrole, hcontent, hname, hmetadata⟩, hne⟩
  · rintro ⟨⟨d, rfl, hrole, hcontent, hname, hmetadata⟩, hne⟩
    exact ⟨_, ⟨d, rfl, rfl⟩, _, ⟨d, rfl, rfl⟩, message.role, ⟨hrole, hne⟩, message.content, hcontent, _,
      ⟨d, rfl, rfl⟩, message.name, hname, _, ⟨d, rfl, rfl⟩, message.metadata, hmetadata, rfl⟩

/-- **What an accepted request says of its payload.** -/
theorem validateGatewayRequest_ok {request : CanonicalChatRequest}
    (h : validateGatewayRequest payload = .ok request) : Accepted payload request := by
  unfold validateGatewayRequest at h
  simp only [bind_eq_ok, nonEmptyText_eq_ok, requireSequence_eq_ok, requireMapping_eq_ok, reservedTokens_eq_ok,
    normalizeMessages, mapM_eq_ok_iff, pure, Except.pure, Except.ok.injEq] at h
  obtain ⟨sessionId, hsession, requestId, hrequest, modelName, hmodel, raws, hraws, messages, hmessages, _, hne,
    rawTools, hrawTools, tools, htools, reserved, hreserved, options, hoptions, rfl⟩ := h
  refine ⟨hsession, hrequest, hmodel, ⟨raws, hraws, ?_, ?_⟩, ?_, hreserved, hoptions⟩
  · rw [List.forall₂_map_left_iff] at hmessages
    exact hmessages.imp fun raw message hmessage => normalizeMessage_eq_ok.mp hmessage
  · rintro rfl
    cases hne
  · rw [hrawTools]
    congr 1
    rw [← List.forall₂_eq_eq_eq, List.forall₂_map_right_iff]
    exact htools

end accepted

/-! ## What is refused -/

section refused

variable {v : Value} {payload : Dict Value}

theorem nonEmptyText_raises (name : String) (v : Value) : OnlyRaises "ValueError" (nonEmptyText name v) := by
  unfold nonEmptyText
  split
  · split_ifs
    · exact .valueError _
    · exact .ok _
  · exact .valueError _

theorem messageContent_raises (v : Value) : OnlyRaises "ValueError" (messageContent v) := by
  unfold messageContent
  split
  · exact .ok _
  · exact .ok _
  · exact .valueError _

theorem messageName_raises (v : Value) : OnlyRaises "ValueError" (messageName v) := by
  unfold messageName
  split
  · exact .ok _
  · exact .ok _
  · exact .valueError _

theorem requireMapping_raises (message : String) (v : Value) :
    OnlyRaises "ValueError" (requireMapping message v) := by
  unfold requireMapping
  split
  · exact .ok _
  · exact .valueError _

theorem requireSequence_raises (message : String) (v : Value) :
    OnlyRaises "ValueError" (requireSequence message v) := by
  unfold requireSequence
  split
  · exact .ok _
  · exact .valueError _

theorem reservedTokens_raises (v : Value) : OnlyRaises "ValueError" (reservedTokens v) := by
  unfold reservedTokens
  split
  · split_ifs
    · exact .valueError _
    · exact .ok _
  · exact .valueError _

theorem requireMessages_raises (messages : List ChatMessage) :
    OnlyRaises "ValueError" (requireMessages messages) := by
  unfold requireMessages
  split_ifs
  · exact .valueError _
  · exact .ok _

/-- **A mapping is refused with a `ValueError` only.** -/
theorem normalizeMessage_raises (d : Dict Value) : OnlyRaises "ValueError" (normalizeMessage (.value (.dict d))) := by
  have hget (key : String) (fallback : Value) : OnlyRaises "ValueError" ((Value.dict d).getAttr key fallback) :=
    .ok _
  unfold normalizeMessage
  exact .bind (hget _ _) fun _ => .bind (hget _ _) fun _ => .bind (nonEmptyText_raises _ _) fun _ =>
    .bind (messageContent_raises _) fun _ => .bind (hget _ _) fun _ => .bind (messageName_raises _) fun _ =>
    .bind (hget _ _) fun _ => .bind (requireMapping_raises _ _) fun _ => .ok _

/-- A value that is no mapping has no entries to ask for. -/
theorem normalizeMessage_of_not_mapping (h : v.asDict? = none) :
    normalizeMessage (.value v) = .error (attributeError v.typeName "get") := by
  have hget : v.getAttr "role" = .error (attributeError v.typeName "get") := by
    unfold Value.getAttr
    rw [h]
  unfold normalizeMessage
  dsimp only
  rw [hget]
  rfl

/-- A value among the messages that the validation gets to: the ids are stated, and every value before it is a
message. -/
structure Reached (payload : Dict Value) (x : Value) : Prop where
  ids : ∀ name ∈ ["session_id", "request_id", "model_name"], ∃ s, Value.item payload name = .str s ∧ s ≠ ""
  messages : ∃ before after, Value.item payload "messages" = .list (before ++ x :: after) ∧
    ∀ raw ∈ before, ∃ message, IsMessage raw message

/-- A value that is reached and is no mapping is what the payload is refused for, and not with a `ValueError`. -/
theorem validateGatewayRequest_of_reached (hreached : Reached payload v) (hv : v.asDict? = none) :
    validateGatewayRequest payload = .error (attributeError v.typeName "get") := by
  obtain ⟨hids, before, after, hmessages, hbefore⟩ := hreached
  simp only [List.forall_mem_cons, List.not_mem_nil, false_implies, implies_true, and_true] at hids
  obtain ⟨⟨sessionId, hsession⟩, ⟨requestId, hrequest⟩, ⟨modelName, hmodel⟩⟩ := hids
  have hraised : normalizeMessages ((before ++ v :: after).map .value) =
      .error (attributeError v.typeName "get") := by
    refine mapM_eq_error_iff.mpr ⟨before.map .value, .value v, after.map .value, by simp, ?_,
      normalizeMessage_of_not_mapping hv⟩
    intro raw hraw
    obtain ⟨value, hvalue, rfl⟩ := List.mem_map.mp hraw
    obtain ⟨message, hmessage⟩ := hbefore value hvalue
    exact ⟨message, normalizeMessage_eq_ok.mpr hmessage⟩
  unfold validateGatewayRequest
  rw [nonEmptyText_eq_ok.mpr hsession, nonEmptyText_eq_ok.mpr hrequest, nonEmptyText_eq_ok.mpr hmodel,
    requireSequence_eq_ok.mpr hmessages]
  simp only [bind, Except.bind, hraised]

/-- Where every value that is reached is a mapping, a payload is refused with a `ValueError` only. -/
theorem validateGatewayRequest_raises (h : ∀ x, Reached payload x → ∃ d, x = .dict d) :
    OnlyRaises "ValueError" (validateGatewayRequest payload) := by
  unfold validateGatewayRequest
  refine .bind_of_ok (nonEmptyText_raises _ _) fun sessionId hsession =>
    .bind_of_ok (nonEmptyText_raises _ _) fun requestId hrequest =>
    .bind_of_ok (nonEmptyText_raises _ _) fun modelName hmodel =>
    .bind_of_ok (requireSequence_raises _ _) fun raws hraws => .bind ?_ fun messages =>
    .bind (requireMessages_raises _) fun _ => .bind (requireSequence_raises _ _) fun rawTools =>
    .bind (.mapM fun _ tool _ _ _ => requireMapping_raises _ tool) fun tools =>
    .bind (reservedTokens_raises _) fun reserved => .bind (requireMapping_raises _ _) fun options => .ok _
  refine .mapM fun before x after heq hbefore => ?_
  obtain ⟨values, rest, rfl, rfl, hrest⟩ := List.map_eq_append_iff.mp heq
  obtain ⟨value, later, rfl, rfl, -⟩ := List.map_eq_cons_iff.mp hrest
  have hreached : Reached payload value := by
    refine ⟨?_, values, later, requireSequence_eq_ok.mp hraws, fun raw hraw => ?_⟩
    · simp only [List.forall_mem_cons, List.not_mem_nil, false_implies, implies_true, and_true]
      exact ⟨⟨_, nonEmptyText_eq_ok.mp hsession⟩, ⟨_, nonEmptyText_eq_ok.mp hrequest⟩,
        ⟨_, nonEmptyText_eq_ok.mp hmodel⟩⟩
    · obtain ⟨message, hmessage⟩ := hbefore _ (List.mem_map_of_mem hraw)
      exact ⟨message, normalizeMessage_eq_ok.mp hmessage⟩
  obtain ⟨d, rfl⟩ := h value hreached
  exact normalizeMessage_raises d

end refused

/-- A request whose only message is a number is refused with an `AttributeError`. -/
theorem number_for_message :
    validateGatewayRequest [("session_id", .str "s"), ("request_id", .str "r"), ("model_name", .str "m"),
        ("messages", .list [.int 1])] = .error ⟨"AttributeError", "'int' object has no attribute 'get'"⟩ ∧
      ¬ OnlyRaises "ValueError" (validateGatewayRequest [("session_id", .str "s"), ("request_id", .str "r"),
        ("model_name", .str "m"), ("messages", .list [.int 1])]) := by
  have hraised : validateGatewayRequest [("session_id", .str "s"), ("request_id", .str "r"),
      ("model_name", .str "m"), ("messages", .list [.int 1])] =
        .error ⟨"AttributeError", "'int' object has no attribute 'get'"⟩ := rfl
  refine ⟨hraised, fun honly => ?_⟩
  exact absurd (honly _ hraised) (by decide)

/-- **Which payloads are accepted or refused with a `ValueError`**: those in which every value among the messages
that the validation gets to is a mapping. -/
theorem gateway_contract_iff (payload : Dict Value) :
    (OnlyRaises "ValueError" (validateGatewayRequest payload) ∧
      ∀ request, validateGatewayRequest payload = .ok request → Accepted payload request) ↔
      ∀ x, Reached payload x → ∃ d, x = .dict d := by
  constructor
  · rintro ⟨hraises, -⟩ x hreached
    cases hx : x.asDict? with
    | some d =>
        refine ⟨d, ?_⟩
        cases x with
        | dict items => exact congrArg Value.dict (Option.some.inj hx)
        | _ => cases hx
    | none =>
        have hkind := hraises _ (validateGatewayRequest_of_reached hreached hx)
        exact absurd hkind (by simp [attributeError])
  · exact fun h => ⟨validateGatewayRequest_raises h, fun request => validateGatewayRequest_ok⟩

end Lmrs.Gateway
