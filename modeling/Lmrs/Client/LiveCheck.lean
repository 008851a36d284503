import Lmrs.Client.Verdict

/-!
# What a client does with a verdict

Source: `client/lmrs_client/cli.py`, `main`; `client/lmrs_client/live_check.py`, `client_commands`, `_drive`.

The command line exits with the verdict on a response, and the live check prints a line for it. A command
of the live check may be expected to fail for one reason; its line passes exactly then.

* `drive_lines`, `drive_exitCode`: the lines of a live check, and its exit code.
* `judgedBy_verdict`: a failure in the mapping a response is judged by is the verdict.
* `failure_is_seen`: such a response exits with 1, and passes only as the expected failure.
-/

namespace Lmrs

open Python

/-! ## The command line -/

/-- What a call of a client method gives: a response, or an exception with the code it carries. -/
inductive ClientAnswer where
  | response (value : Value)
  | raised (exc : PyException) (code : Value)

/-- What a run of the command line prints and exits with. -/
structure CliRun where
  stdout : Value
  stderr : Option String := none
  exitCode : Int

/-- Source: `cli.py`, `main`, once the arguments are parsed. -/
def cliMain : ClientAnswer → CliRun
  | .raised exc _ =>
      { stdout := .dict [("success", .bool false), ("error", .str (exc.kind ++ ": " ++ exc.message))]
        exitCode := 1 }
  | .response value =>
      let (succeeded, code) := verdict value
      { stdout := value
        stderr := if succeeded then none else some ("verdict: FAIL (" ++ code ++ ")")
        exitCode := if succeeded then 0 else 1 }

/-! ## The live check -/

namespace LiveCheck

/-- Source: `live_check.py`, `ORDER`. -/
def order : List String :=
  ["healthcheck", "info", "capacity", "queue_status", "local_lmcache_status", "token_count", "estimate",
   "chat", "local_model_cache_preload", "local_model_cache_status", "local_model_load", "model_status",
   "local_model_reload", "local_lmcache_purge", "cancel", "local_model_unload", "local_model_cache_delete",
   "local_model_switch"]

/-- Source: `live_check.py`, `EXPECTED_REASONS`. -/
def expectedReasons : Dict String := [("local_model_unload", "VLLM_DYNAMIC_UNLOAD_UNSUPPORTED")]

/-- Source: `live_check.py`, `client_commands`, of the public methods of the client. -/
def clientCommands (methods : List String) : List String :=
  let ordered := order.filter fun name => name ∈ methods
  ordered ++ (methods.dedup.filter fun name => name ∉ ordered).insertionSort (· ≤ ·)

/-- A line of the live check. -/
structure CheckLine where
  command : String
  passed : Bool
  detail : String := ""

/-- What is printed. -/
def CheckLine.text (line : CheckLine) : String :=
  (if line.passed then "PASS " else "FAIL ") ++ line.command ++ line.detail

/-- The line for what a command gives. -/
def checkLine (command : String) : ClientAnswer → CheckLine
  | .raised exc code =>
      { command, passed := false
        detail := ": " ++ (code.or (.str exc.kind)).text ++ ": " ++ exc.message }
  | .response value =>
      let (succeeded, code) := verdict value
      match Dict.get? expectedReasons command with
      | some expected =>
          if succeeded = false ∧ code = expected then
            { command, passed := true, detail := ": failed with the expected " ++ code }
          else
            { command, passed := false
              detail := ": expected " ++ expected ++ ", got " ++ if succeeded then "success" else code }
      | none =>
          if succeeded then { command, passed := true } else { command, passed := false, detail := ": " ++ code }

/-- The lines printed, and the commands that failed. -/
structure Drive where
  lines : List CheckLine := []
  failures : List String := []

/-- One turn of the loop. -/
def Drive.step (answers : String → ClientAnswer) (drive : Drive) (command : String) : Drive :=
  let line := checkLine command (answers command)
  { lines := drive.lines ++ [line]
    failures := if line.passed then drive.failures else drive.failures ++ [command] }

/-- Source: `live_check.py`, `_drive`: the loop over the commands. -/
def drive (answers : String → ClientAnswer) (commands : List String) : Drive :=
  commands.foldl (Drive.step answers) {}

/-- The last line. -/
def Drive.summary (drive : Drive) : String :=
  "commands-live summary: " ++ toString ((drive.lines.length : Int) - drive.failures.length) ++ " passed, " ++
    toString drive.failures.length ++ " failed"

/-- What the check returns. -/
def Drive.exitCode (drive : Drive) : Int := if drive.failures.isEmpty then 0 else 1

/-- One turn after another. -/
theorem foldl_step (answers : String → ClientAnswer) (commands : List String) (start : Drive) :
    (commands.foldl (Drive.step answers) start).lines =
        start.lines ++ commands.map (fun command => checkLine command (answers command)) ∧
      (commands.foldl (Drive.step answers) start).failures =
        start.failures ++
          commands.filter fun command => !(checkLine command (answers command)).passed := by
  induction commands generalizing start with
  | nil => simp
  | cons command commands ih =>
      obtain ⟨hlines, hfailures⟩ := ih (start.step answers command)
      rw [List.foldl_cons]
      refine ⟨hlines.trans ?_, hfailures.trans ?_⟩
      · simp [Drive.step]
      · cases hpassed : (checkLine command (answers command)).passed <;> simp [Drive.step, hpassed]

/-- **A line for each command**, in order. -/
theorem drive_lines (answers : String → ClientAnswer) (commands : List String) :
    (drive answers commands).lines = commands.map fun command => checkLine command (answers command) := by
  exact (foldl_step answers commands {}).1

/-- **The check exits with 0 exactly when every line passed.** -/
theorem drive_exitCode (answers : String → ClientAnswer) (commands : List String) :
    (drive answers commands).exitCode = 0 ↔ ∀ line ∈ (drive answers commands).lines, line.passed = true := by
  have hfailures : (drive answers commands).failures = [] ↔
      ∀ command ∈ commands, (checkLine command (answers command)).passed = true := by
    have hfold := (foldl_step answers commands {}).2
    rw [show (drive answers commands).failures = _ from hfold]
    simp
  rw [drive_lines]
  simp only [List.mem_map, forall_exists_index, and_imp, forall_apply_eq_imp_iff₂, ← hfailures]
  unfold Drive.exitCode
  cases (drive answers commands).failures <;> simp

end LiveCheck

/-! ## What a response is judged by -/

/-- A mapping is a job with a mapping as its own result. -/
def IsJob (fields : Dict Value) (result : Dict Value) : Prop :=
  (Dict.get? fields "job_id").isSome ∧ Dict.get? fields "result" = some (.dict result)

/-- The mapping a response is judged by: its `result`, or itself without one, and of a job with a mapping as
its own result that mapping. -/
inductive JudgedBy : Value → Dict Value → Prop where
  | plain {fields result : Dict Value}
      (outer : (Dict.get? fields "result").getD (.dict fields) = .dict result)
      (single : ∀ inner, ¬ IsJob result inner) : JudgedBy (.dict fields) result
  | job {fields facts result : Dict Value}
      (outer : (Dict.get? fields "result").getD (.dict fields) = .dict facts)
      (inner : IsJob facts result) : JudgedBy (.dict fields) result

/-- A mapping reports a failure: in its own success, or in the success or the status of its payload. -/
inductive ShowsFailure (result : Dict Value) : Prop where
  | command (success : Value.item result "success" = .bool false)
  | payload {data payload : Dict Value} (within : Value.item result "data" = .dict data)
      (found : Value.item data "payload" = .dict payload)
      (failed : Value.item payload "success" = .bool false ∨ Value.item payload "status" = .str "failed")

/-- A job is unwrapped. -/
theorem unwrapJob_of_isJob {fields result : Dict Value} (h : IsJob fields result) :
    unwrapJob (.dict fields) = .dict result := by
  obtain ⟨hid, hresult⟩ := h
  obtain ⟨jobId, hid⟩ := Option.isSome_iff_exists.mp hid
  have hitem : Value.item fields "result" = .dict result := by
    rw [Value.item, hresult]
    rfl
  unfold unwrapJob
  dsimp only
  rw [hid, hitem]

/-- A mapping that is no job is not unwrapped. -/
theorem unwrapJob_of_single {fields : Dict Value} (h : ∀ inner, ¬ IsJob fields inner) :
    unwrapJob (.dict fields) = .dict fields := by
  unfold unwrapJob
  dsimp only
  split
  · next jobId inner hid hitem =>
      exfalso
      apply h inner
      refine ⟨by simp [hid], ?_⟩
      unfold Value.item at hitem
      cases hresult : Dict.get? fields "result" with
      | none =>
          rw [hresult] at hitem
          cases hitem
      | some value =>
          rw [hresult] at hitem
          exact congrArg some hitem
  · rfl

/-- **A response is judged by its mapping.** -/
theorem judgedBy_verdict {response : Value} {result : Dict Value} (h : JudgedBy response result) :
    verdict response = judge result := by
  cases h with
  | plain houter hsingle => simp only [verdict, houter, unwrapJob_of_single hsingle]
  | job houter hinner => simp only [verdict, houter, unwrapJob_of_isJob hinner]

/-- A mapping that reports a failure is judged to be one. -/
theorem judge_of_showsFailure {result : Dict Value} (h : ShowsFailure result) : (judge result).1 = false := by
  unfold judge
  by_cases hsuccess : isFalse (Value.item result "success") = true
  · rw [if_pos hsuccess]
    split <;> rfl
  · rw [if_neg hsuccess]
    cases h with
    | command hfalse => exact absurd (isFalse_iff.mpr hfalse) hsuccess
    | payload hdata hpayload hfailed =>
        have hseen := hfailed.imp isFalse_iff.mpr asStr?_iff.mpr
        simp only [hdata, hpayload, hseen, if_true]

/-- A line passes for a failing response only as the expected failure. -/
theorem LiveCheck.checkLine_passed {command : String} {response : Value} (hfails : (verdict response).1 = false)
    (hpassed : (LiveCheck.checkLine command (.response response)).passed = true) :
    Dict.get? LiveCheck.expectedReasons command = some (verdict response).2 := by
  unfold LiveCheck.checkLine at hpassed
  cases hexpected : Dict.get? LiveCheck.expectedReasons command with
  | none => simp [hexpected, hfails] at hpassed
  | some expected =>
      by_cases hcode : (verdict response).2 = expected
      · rw [hcode]
      · simp [hexpected, hcode] at hpassed

/-- **A failure reported where a response is judged is seen.** For every response whose mapping reports a
failure, in its success or in the success or status of its payload: the verdict is a failure, the command
line exits with 1, and in every live check, over whatever methods and answers, a line for the response passes
only as the failure its command is expected to give. -/
theorem failure_is_seen (response : Value) (result : Dict Value) (hjudged : JudgedBy response result)
    (hfails : ShowsFailure result) :
    (verdict response).1 = false ∧ (cliMain (.response response)).exitCode = 1 ∧
      ∀ (methods : List String) (answers : String → ClientAnswer),
        ∀ line ∈ (LiveCheck.drive answers (LiveCheck.clientCommands methods)).lines,
          answers line.command = .response response → line.passed = true →
            Dict.get? LiveCheck.expectedReasons line.command = some (verdict response).2 := by
  have hverdict : (verdict response).1 = false := by
    rw [judgedBy_verdict hjudged]
    exact judge_of_showsFailure hfails
  refine ⟨hverdict, ?_, ?_⟩
  · unfold cliMain
    simp [hverdict]
  · intro methods answers line hline hanswer hpassed
    rw [LiveCheck.drive_lines, List.mem_map] at hline
    obtain ⟨command, -, rfl⟩ := hline
    have hcommand : (LiveCheck.checkLine command (answers command)).command = command := by
      unfold LiveCheck.checkLine
      split
      · rfl
      · dsimp only
        split
        · split_ifs <;> rfl
        · split_ifs <;> rfl
    rw [hcommand] at hanswer ⊢
    rw [hanswer] at hpassed
    exact LiveCheck.checkLine_passed hverdict hpassed

/-- The response to an unload the runtime does not support. -/
def unsupportedUnload : Value :=
  .dict [("result", .dict [("success", .bool true), ("data", .dict [("payload", .dict
    [("success", .bool false), ("reason_code", .str "VLLM_DYNAMIC_UNLOAD_UNSUPPORTED")])])])]

/-- The statement of that response. -/
theorem failure_is_seen_unload :
    (verdict unsupportedUnload).1 = false ∧ (cliMain (.response unsupportedUnload)).exitCode = 1 ∧
      ∀ (methods : List String) (answers : String → ClientAnswer),
        ∀ line ∈ (LiveCheck.drive answers (LiveCheck.clientCommands methods)).lines,
          answers line.command = .response unsupportedUnload → line.passed = true →
            Dict.get? LiveCheck.expectedReasons line.command = some (verdict unsupportedUnload).2 :=
  failure_is_seen unsupportedUnload _ (.plain rfl fun _ hjob => absurd hjob.1 (by decide))
    (.payload rfl rfl (.inl rfl))

/-- **The expected failure of an unload passes the live check**, and an error at the top of a response and a
failed job around a result are no failures to the verdict. -/
theorem failing_responses_pass :
    (LiveCheck.checkLine "local_model_unload" (.response unsupportedUnload)).passed = true ∧
      (verdict unsupportedUnload).1 = false ∧
      verdict (.dict [("jsonrpc", .str "2.0"), ("error", .dict [("code", .int (-32603))])]) = (true, "") ∧
      verdict (.dict [("result", .dict [("job_id", .str "7"), ("status", .str "failed"),
        ("result", .dict [("success", .bool true)])])]) = (true, "") := by
  decide

end Lmrs
