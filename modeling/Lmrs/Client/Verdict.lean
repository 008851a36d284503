import Lmrs.Adapter.Legibility

/-!
# The verdict of a client on a response

Source: `client/lmrs_client/verdict.py`, `verdict`.

The server wraps what a command returns or raises in a response, and a queued command in a job besides; the
client unwraps it and judges it.

* `verdict_wrap`: the envelopes do not matter.
* `verdict_reports`: the verdict is what the command reported.
-/

namespace Lmrs

open Python

/-! ## The client -/

/-- `value is False`. -/
def isFalse : Value → Bool
  | .bool false => true
  | _ => false

/-- The result inside a job, when it is one. -/
def unwrapJob (result : Value) : Value :=
  match result with
  | .dict fields =>
      match Dict.get? fields "job_id", Value.item fields "result" with
      | some _, .dict inner => .dict inner
      | _, _ => result
  | _ => result

/-- The verdict on the result of one command. -/
def judge (result : Dict Value) : Bool × String :=
  if isFalse (Value.item result "success") then
    match Value.item result "error" with
    | .dict error =>
        let code := match Value.item error "data" with
          | .dict data => Value.item data "code"
          | _ => .none
        (false, ((code.or (Value.item error "code")).or (.str "UNKNOWN_ERROR")).text)
    | _ => (false, "UNKNOWN_ERROR")
  else
    let payload := match Value.item result "data" with
      | .dict data => Value.item data "payload"
      | _ => .none
    match payload with
    | .dict payload =>
        if isFalse (Value.item payload "success") ∨ (Value.item payload "status").asStr? = some "failed" then
          (false, ((Value.item payload "reason_code").or (.str "UNKNOWN_REASON")).text)
        else (true, "")
    | _ => (true, "")

/-- Source: `verdict.py`, `verdict`. -/
def verdict : Value → Bool × String
  | .dict response =>
      match unwrapJob ((Dict.get? response "result").getD (.dict response)) with
      | .dict result => judge result
      | _ => (true, "")
  | _ => (true, "")

/-! ## What arrives -/

/-- What stands around a response when it arrives: nothing, a mapping with it as its `result`, or a mapping
whose `result` is a job. A mapping with it as its `result` may be a job itself. -/
inductive Envelope where
  | direct
  | result (fields : Dict Value)
  | job (fields facts : Dict Value) (jobId : Value)

/-- A response inside its envelope. -/
def Envelope.wrap (response : Dict Value) : Envelope → Value
  | .direct => .dict response
  | .result fields => .dict (Dict.set fields "result" (.dict response))
  | .job fields facts jobId =>
      .dict (Dict.set fields "result"
        (.dict (Dict.set (Dict.set facts "job_id" jobId) "result" (.dict response))))

/-- A mapping that is no job is not unwrapped. -/
theorem unwrapJob_of_absent {fields : Dict Value} (h : Dict.get? fields "job_id" = none) :
    unwrapJob (.dict fields) = .dict fields := by
  unfold unwrapJob
  dsimp only
  rw [h]

/-- **The envelopes do not matter**, for a response that is neither an envelope nor a job. -/
theorem verdict_wrap {response : Dict Value} (hresult : Dict.get? response "result" = none)
    (hjob : Dict.get? response "job_id" = none) (envelope : Envelope) :
    verdict (envelope.wrap response) = judge response := by
  cases envelope with
  | direct =>
      simp only [Envelope.wrap, verdict, hresult, Option.getD_none, unwrapJob_of_absent hjob]
  | result fields =>
      simp only [Envelope.wrap, verdict, Dict.get?_set_self, Option.getD_some, unwrapJob_of_absent hjob]
  | job fields facts jobId =>
      have hid : Dict.get? (Dict.set (Dict.set facts "job_id" jobId) "result" (.dict response)) "job_id" =
          some jobId := by
        rw [Dict.get?_set_of_ne _ _ (by decide), Dict.get?_set_self]
      have hinner : Value.item (Dict.set (Dict.set facts "job_id" jobId) "result" (.dict response)) "result" =
          .dict response := by
        rw [Value.item, Dict.get?_set_self]
        rfl
      simp only [Envelope.wrap, verdict, Dict.get?_set_self, Option.getD_some, unwrapJob, hid, hinner]

/-! ## What the client finds out -/

theorem isFalse_iff {value : Value} : isFalse value = true ↔ value = .bool false := by
  unfold isFalse
  split
  · simp
  · rename_i hne
    simpa using hne

theorem asStr?_iff {value : Value} {text : String} : value.asStr? = some text ↔ value = .str text := by
  cases value <;> simp [Value.asStr?]

namespace DomainResult

/-- A payload whose success is false is that of a failure. -/
theorem reportsFailure_of_success {d : DomainResult} (h : Value.item d.payload "success" = .bool false) :
    d.reportsFailure = true := by
  cases d with
  | command r => simpa [reportsFailure, payload, CommandResult.asdict, Value.item, Dict.get?_cons] using h
  | cache r => simpa [reportsFailure, payload, CacheCommandResult.asdict, Value.item, Dict.get?_cons] using h
  | lifecycle r => simpa [reportsFailure, payload, LifecycleCommandResult.asdict, Value.item, Dict.get?_cons] using h
  | switch modelName result progress =>
      have habsent : "success" ∉ (DomainResult.switch modelName result progress).payload.map Prod.fst := by
        cases result <;> simp [payload, ModelMemoryLifecycle.SwitchResult.fields]
      rw [item_of_absent habsent] at h
      cases h
  | mapping fields =>
      have hfields : Value.item fields "success" = .bool false := h
      rw [reportsFailure, hfields]

/-- A failure shows in its payload, in the success or in the status. -/
theorem shown_of_reportsFailure {d : DomainResult} (h : d.reportsFailure = true) :
    Value.item d.payload "success" = .bool false ∨ Value.item d.payload "status" = .str "failed" := by
  cases d with
  | command r =>
      have hsuccess : r.success = false := by simpa [reportsFailure] using h
      simp [payload, CommandResult.asdict, Value.item, Dict.get?_cons, hsuccess]
  | cache r =>
      have hsuccess : r.success = false := by simpa [reportsFailure] using h
      simp [payload, CacheCommandResult.asdict, Value.item, Dict.get?_cons, hsuccess]
  | lifecycle r =>
      have hsuccess : r.success = false := by simpa [reportsFailure] using h
      simp [payload, LifecycleCommandResult.asdict, Value.item, Dict.get?_cons, hsuccess]
  | switch modelName result progress =>
      cases result with
      | failed reasonCode stage => exact Or.inr rfl
      | loadedInMemory load => cases h
  | mapping fields =>
      rw [reportsFailure] at h
      split at h
      · next hfields => exact Or.inl hfields
      · cases h

/-- The reason code of a result is in its payload. -/
theorem item_reasonCode {d : DomainResult} {code : String} (h : d.reasonCode = some code) :
    Value.item d.payload "reason_code" = .str code := by
  have hoption {reasonCode : Option ReasonCode} (hcode : reasonCode.map ReasonCode.text = some code) :
      reasonValue reasonCode = .str code := by
    obtain ⟨found, rfl, rfl⟩ := Option.map_eq_some_iff.mp hcode
    rfl
  cases d with
  | command r => exact hoption h
  | cache r => exact hoption h
  | lifecycle r => exact hoption h
  | switch modelName result progress =>
      cases result with
      | failed reasonCode stage =>
          cases h
          rfl
      | loadedInMemory load => exact hoption h
  | mapping fields => exact asStr?_iff.mp h

/-- **The client sees a failure exactly where one is reported.** -/
theorem seen_iff {d : DomainResult} (hd : d.Legible) :
    (isFalse (Value.item d.payload "success") = true ∨
        (Value.item d.payload "status").asStr? = some "failed") ↔ d.reportsFailure = true := by
  rw [isFalse_iff, asStr?_iff]
  constructor
  · rintro (hsuccess | hstatus)
    · exact reportsFailure_of_success hsuccess
    · by_contra hfails
      exact hd.status (Bool.eq_false_iff.mpr hfails) hstatus
  · exact shown_of_reportsFailure

end DomainResult

/-- The response to a result is judged by its payload. -/
theorem judge_successResponse (command : CommandName) {d : DomainResult} (hd : d.Legible) :
    judge (successResponse command d) =
      if d.reportsFailure = true then
        (false, ((Value.item d.payload "reason_code").or (.str "UNKNOWN_REASON")).text)
      else (true, "") := by
  have hpayload : judge (successResponse command d) =
      if isFalse (Value.item d.payload "success") ∨
          (Value.item d.payload "status").asStr? = some "failed" then
        (false, ((Value.item d.payload "reason_code").or (.str "UNKNOWN_REASON")).text)
      else (true, "") := rfl
  rw [hpayload]
  simp only [DomainResult.seen_iff hd]

/-- The response to a named exception is judged by its name. -/
theorem judge_errorResponse (command : CommandName) {kind : String} (hkind : kind ≠ "") (message : String) :
    judge (errorResponse command kind message) = (false, kind) := by
  have hcode : judge (errorResponse command kind message) =
      (false, (((Value.str kind).or .none).or (.str "UNKNOWN_ERROR")).text) := rfl
  rw [hcode]
  simp [Value.or, Value.truthy, hkind, Value.text]

/-- A response in its envelope is judged by what it was made of. -/
theorem verdict_of_ends (command : CommandName) {out : Except PyException DomainResult}
    (hends : Raising.Ends DomainResult.Legible Named out) (envelope : Envelope) :
    let answer := verdict (envelope.wrap (execute command out))
    (answer.1 = true ↔ ∃ result, out = .ok result ∧ result.reportsFailure = false) ∧
      (∀ result, out = .ok result → result.reportsFailure = true → result.reasonCode = some answer.2) ∧
      ∀ exc, out = .error exc → answer.2 = exc.kind := by
  cases out with
  | error exc =>
      dsimp only
      rw [verdict_wrap rfl rfl envelope, execute, judge_errorResponse command (hends.raises exc rfl) exc.message]
      refine ⟨?_, ?_, ?_⟩
      · simp
      · intro result h
        cases h
      · intro exc' h
        cases h
        rfl
  | ok result =>
      have hlegible := hends.gives result rfl
      dsimp only
      rw [verdict_wrap rfl rfl envelope, execute, judge_successResponse command hlegible]
      by_cases hfails : result.reportsFailure = true
      · obtain ⟨code, hcode, hne⟩ := hlegible.coded hfails
        rw [if_pos hfails, DomainResult.item_reasonCode hcode]
        refine ⟨?_, ?_, fun _ h => ?_⟩
        · simp [hfails]
        · intro result' h _
          cases h
          simp [hcode, Value.or, Value.truthy, hne, Value.text]
        · cases h
      · rw [if_neg hfails]
        refine ⟨?_, ?_, fun _ h => ?_⟩
        · simpa using hfails
        · intro result' h hfails'
          cases h
          exact absurd hfails' hfails
        · cases h

/-- **The verdict is what the command reported**, for every command, whatever the process keeps and reads,
whatever the parameters, and in whatever envelope the response arrives: it is a success exactly for a
result that reports no failure; of a failing result it has the reason code, of an exception the name of its
class. -/
theorem verdict_reports (p : PublicReadings) (s : PublicState) (command : CommandName) (params : Dict Value)
    (envelope : Envelope) :
    let out := (delegate p s command params).result
    let answer := verdict (envelope.wrap (execute command out))
    (answer.1 = true ↔ ∃ result, out = .ok result ∧ result.reportsFailure = false) ∧
      (∀ result, out = .ok result → result.reportsFailure = true → result.reasonCode = some answer.2) ∧
      ∀ exc, out = .error exc → answer.2 = exc.kind :=
  verdict_of_ends command (delegate_ends p s params command) envelope

example :
    verdict (Envelope.wrap (execute .modelStatus
      ((ModelStatusCommand.delegate {} [("model_name", .str "m")]).map .lifecycle))
      (.job [] [("status", .str "completed")] (.str "7"))) = (false, "MODEL_NOT_LOADED") := by
  decide

end Lmrs
