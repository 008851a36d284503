import Lmrs.Client.Acceptance

/-!
# The drive over all commands

Source: `client/lmrs_client/live_check.py`, `arguments_for`, `_drive`, `run_commands_live`.

The check calls each public method of the client once and prints a line for it. What a command raises becomes its
line, and the next command is called all the same.

* `LiveCheck.commands_live_requests`: the requests sent, whatever the server does.
* `LiveCheck.commands_live_resident`: what a passing load brings on the deployed server.
-/

namespace Lmrs

open Python

namespace LiveCheck

open Effects

/-- Source: `live_check.py`, `arguments_for`. -/
def argumentsFor (environ : String → Option String) (command : String) : Except PyException (Dict Value) := do
  let (model, scratch) ← acceptanceModels environ
  let perCommand : Dict (Dict Value) :=
    [("model_status", [("model_name", .str model)]),
     ("token_count", [("message", .str "Count the tokens of this sentence."), ("model_name", .str model),
        ("reserved_output_tokens", .int 8)]),
     ("estimate", promptArguments "Would this prompt fit?" model 16),
     ("chat", promptArguments "Reply with the single word: ready" model 16),
     ("cancel", [("request_id", .str "live-nonexistent-request")]),
     ("local_model_cache_preload", [("model_name", .str scratch)]),
     ("local_model_cache_status", [("model_name", .str scratch)]),
     ("local_model_cache_delete", [("model_name", .str scratch)]),
     ("local_model_load", [("model_name", .str model)]),
     ("local_model_unload", [("model_name", .str model)]),
     ("local_model_reload", [("model_name", .str model)]),
     ("local_model_switch", [("model_name", .str model)])]
  return (Dict.get? perCommand command).getD []

/-- The lines so far, the server, and the requests sent. -/
structure CommandsRun (σ : Type) where
  drive : Drive := {}
  server : σ
  requests : List ClientRequest := []

section drive

variable {σ : Type} (environ : String → Option String) (server : LiveServer σ)

/-- The call of one command, with its arguments. -/
def callCommand (command : String) : Live σ Value := do
  let arguments ← lift (argumentsFor environ command)
  call server command arguments

/-- One turn of the loop: whatever a command raises becomes a line. -/
def CommandsRun.step (run : CommandsRun σ) (command : String) : CommandsRun σ :=
  let called := callCommand environ server command run.server
  { drive := run.drive.step (fun _ => answerOf called.result) command
    server := called.state
    requests := run.requests ++ called.events }

/-- Source: `live_check.py`, `_drive`. -/
def driveCommands (start : σ) : CommandsRun σ :=
  (clientCommands LmrsClient.names).foldl (CommandsRun.step environ server) { server := start }

/-- Source: `live_check.py`, `run_commands_live`: the run, or the reason why the check could not. -/
def runCommandsLive (start : σ) : Except PyException (CommandsRun σ) := do
  let _ ← settings environ
  let _ ← acceptanceModels environ
  return driveCommands environ server start

end drive

/-- The commands that act on the disk cache of models. -/
def cacheCommands : List String :=
  ["local_model_cache_preload", "local_model_cache_status", "local_model_cache_delete"]

/-- A line is the line of its command. -/
theorem checkLine_command (command : String) (answer : ClientAnswer) :
    (checkLine command answer).command = command := by
  unfold checkLine
  split
  · rfl
  · dsimp only
    split
    · split_ifs
      all_goals rfl
    · split_ifs
      all_goals rfl

section requests

variable {σ : Type} (environ : String → Option String) (server : LiveServer σ)

/-- The request a command of the check sends. -/
def requestFor (command : String) : Except PyException ClientRequest :=
  argumentsFor environ command >>= LmrsClient.invoke command

/-- A command whose request is known. -/
theorem callCommand_of_request {command : String} {request : ClientRequest}
    (h : requestFor environ command = .ok request) (s : σ) :
    callCommand environ server command s =
      ⟨returned (server s request).1, (server s request).2, [request]⟩ := by
  obtain ⟨arguments, harguments, hinvoke⟩ := bind_eq_ok.mp h
  unfold callCommand call
  rw [Effect.bind_ok (lift_ok harguments s), Effect.bind_ok (lift_ok hinvoke s)]
  rfl

/-- One turn, for a command whose request is known. -/
theorem step_of_request {command : String} {request : ClientRequest}
    (h : requestFor environ command = .ok request) (run : CommandsRun σ) :
    run.step environ server command =
      { drive := run.drive.step (fun _ => (server run.server request).1) command
        server := (server run.server request).2
        requests := run.requests ++ [request] } := by
  unfold CommandsRun.step
  rw [callCommand_of_request environ server h]
  dsimp only
  rcases (server run.server request).1 with _ | _
  · rfl
  · rfl

/-- The requests of a run are those of its commands, in order. -/
theorem foldl_requests {commands : List String} {requests : List ClientRequest}
    (h : List.Forall₂ (fun command request => requestFor environ command = .ok request) commands requests)
    (run : CommandsRun σ) :
    (commands.foldl (CommandsRun.step environ server) run).requests = run.requests ++ requests ∧
      (commands.foldl (CommandsRun.step environ server) run).server =
        requests.foldl (fun s request => (server s request).2) run.server := by
  induction h generalizing run with
  | nil => exact ⟨(List.append_nil _).symm, rfl⟩
  | cons hrequest _ ih =>
      obtain ⟨hrequests, hserver⟩ := ih (run.step environ server _)
      rw [step_of_request environ server hrequest] at hrequests hserver
      rw [List.foldl_cons, step_of_request environ server hrequest]
      refine ⟨hrequests.trans ?_, hserver⟩
      rw [List.append_assoc]
      rfl

/-- Each turn adds the line of its command, and the command itself when the line has not passed. -/
theorem foldl_lines (commands : List String) (run : CommandsRun σ) :
    ∃ lines, (commands.foldl (CommandsRun.step environ server) run).drive.lines = run.drive.lines ++ lines ∧
      (commands.foldl (CommandsRun.step environ server) run).drive.failures =
        run.drive.failures ++ (lines.filter fun line => !line.passed).map CheckLine.command ∧
      lines.map CheckLine.command = commands := by
  induction commands generalizing run with
  | nil => exact ⟨[], (List.append_nil _).symm, (List.append_nil _).symm, rfl⟩
  | cons command commands ih =>
      obtain ⟨lines, hlines, hfailures, hcommands⟩ := ih (run.step environ server command)
      refine ⟨_, hlines.trans (List.append_assoc ..), hfailures.trans ?_, ?_⟩
      · unfold CommandsRun.step Drive.step
        dsimp only
        rcases hpassed : (checkLine command (answerOf (callCommand environ server command
          run.server).result)).passed with _ | _
        · simp [hpassed, checkLine_command]
        · simp [hpassed]
      · rw [List.map_append, hcommands]
        exact congrArg (· :: commands) (checkLine_command ..)

/-- The check goes through its commands in their order. -/
theorem clientCommands_eq : clientCommands LmrsClient.names = order := by decide

/-- A request names the model it may: the cache commands the scratch model, the others the served one. -/
structure ForCommand (served scratch command : String) (request : ClientRequest) : Prop where
  command_eq : request.command.text = command
  scratch_eq : command ∈ cacheCommands → Value.item request.params "model_name" = .str scratch
  served_eq : command ∉ cacheCommands →
    Value.item request.params "model_name" = .none ∨ Value.item request.params "model_name" = .str served

/-- Each command of the check has its request. -/
theorem requestFor_spec {served scratch : String} (hmodels : acceptanceModels environ = .ok (served, scratch))
    {command : String} (hcommand : command ∈ order) :
    ∃ request, requestFor environ command = .ok request ∧ ForCommand served scratch command request := by
  unfold requestFor argumentsFor
  rw [hmodels]
  simp only [order, List.mem_cons, List.not_mem_nil, or_false] at hcommand
  rcases hcommand with rfl | rfl | rfl | rfl | rfl | rfl | rfl | rfl | rfl | rfl | rfl | rfl | rfl | rfl | rfl |
    rfl | rfl | rfl
  all_goals
    refine ⟨_, rfl, rfl, ?_, ?_⟩
    all_goals first
      | exact fun _ => rfl
      | exact fun _ => Or.inl rfl
      | exact fun _ => Or.inr rfl
      | exact fun h => absurd h (by decide)

/-- Requests for commands that each have one. -/
theorem exists_requests {R : String → ClientRequest → Prop} {commands : List String}
    (h : ∀ command ∈ commands, ∃ request, R command request) : ∃ requests, List.Forall₂ R commands requests := by
  induction commands with
  | nil => exact ⟨[], .nil⟩
  | cons command commands ih =>
      obtain ⟨request, hrequest⟩ := h command (List.mem_cons_self ..)
      obtain ⟨requests, hrequests⟩ := ih fun c hc => h c (List.mem_cons_of_mem _ hc)
      exact ⟨request :: requests, .cons hrequest hrequests⟩

/-- The commands of the check have their requests, in order. -/
theorem order_requests {served scratch : String} (hmodels : acceptanceModels environ = .ok (served, scratch)) :
    ∃ requests,
      List.Forall₂ (fun command request => requestFor environ command = .ok request) order requests ∧
        List.Forall₂ (ForCommand served scratch) order requests := by
  obtain ⟨requests, hrequests⟩ := exists_requests fun _ => requestFor_spec environ hmodels
  exact ⟨requests, hrequests.imp fun _ _ h => h.1, hrequests.imp fun _ _ h => h.2⟩

end requests

/-- **What a drive over all commands sends.** For every server, whatever it answers or raises and however it
changes on the way, and every environment that names the two models: the requests sent are one for each public
method of the client, in the order of the check; the commands on the disk cache name the scratch model, which is
not the served one, and no other request names it. There is a line for each command, in the same order, and the
check exits with 0 exactly when every line passed. -/
theorem commands_live_requests {σ : Type} (environ : String → Option String) (server : LiveServer σ) (start : σ)
    (served scratch : String) (hmodels : acceptanceModels environ = .ok (served, scratch)) :
    let run := driveCommands environ server start
    order.Perm LmrsClient.names ∧ scratch ≠ served ∧
      List.Forall₂ (ForCommand served scratch) order run.requests ∧
      run.drive.lines.map CheckLine.command = order ∧
      (run.drive.exitCode = 0 ↔ ∀ line ∈ run.drive.lines, line.passed = true) := by
  intro run
  obtain ⟨requests, hrequests, hfor⟩ := order_requests environ hmodels
  obtain ⟨hsent, -⟩ := foldl_requests environ server hrequests { server := start }
  obtain ⟨lines, hlines, hfailures, hcommands⟩ := foldl_lines environ server order { server := start }
  have hrun : run = order.foldl (CommandsRun.step environ server) { server := start } := by
    unfold run driveCommands
    rw [clientCommands_eq]
  refine ⟨by decide, (acceptanceModels_ne hmodels).2, ?_, ?_, ?_⟩
  · rw [hrun, hsent]
    exact hfor
  · rw [hrun, hlines]
    exact hcommands
  · have hnone : (lines.filter fun line => !line.passed) = [] ↔ ∀ line ∈ lines, line.passed = true := by
      simp [List.filter_eq_nil_iff]
    have hempty (failed : List CheckLine) :
        (if (failed.map CheckLine.command).isEmpty then (0 : Int) else 1) = 0 ↔ failed = [] := by
      rcases failed with _ | ⟨line, failed⟩
      · exact iff_of_true rfl rfl
      · exact iff_of_false (by simp) (List.cons_ne_nil line failed)
    unfold Drive.exitCode
    rw [hrun, hlines, hfailures]
    exact (hempty _).trans hnone

/-! ### The drive over the deployed server -/

/-- A model of this name is resident. -/
def ResidentNamed (name : String) (s : AdapterState) : Prop :=
  ∃ resident, s.residency = some resident ∧ resident.modelName = name

section deployed

variable (d : Deployment) {served : String}

/-- A request that spares the resident model keeps it. -/
theorem residentNamed_deployed {w : Watched} {request : ClientRequest}
    (h : ResidentNamed served w.state.adapter) (hspares : request.Spares served) :
    ResidentNamed served (deployed d w request).2.state.adapter := by
  obtain ⟨resident, hresident, rfl⟩ := h
  rcases exchange_resident_cases
    { readings := d.readings w.answered, framework := d.framework w.answered, request } hresident hspares with hkept | hkept
  · exact ⟨resident, hkept, rfl⟩
  · exact ⟨_, hkept, rfl⟩

/-- Requests that spare the resident model keep it. -/
theorem residentNamed_foldl {requests : List ClientRequest} (hspares : ∀ q ∈ requests, q.Spares served)
    {w : Watched} (h : ResidentNamed served w.state.adapter) :
    ResidentNamed served (requests.foldl (fun w q => (deployed d w q).2) w).state.adapter := by
  induction requests generalizing w with
  | nil => exact h
  | cons request requests ih =>
      rw [List.foldl_cons]
      apply ih fun q hq => hspares q (List.mem_cons_of_mem _ hq)
      exact residentNamed_deployed d h (hspares request (List.mem_cons_self ..))

/-- The request of a load of a model. -/
def loadRequest (model : String) : ClientRequest :=
  { command := .localModelLoad, params := [("model_name", .str model), ("allow_preload", .bool false)] }

/-- The request of an unload of a model. -/
def unloadRequest (model : String) : ClientRequest :=
  { command := .localModelUnload, params := [("model_name", .str model)] }

/-- A command that may not fail passes as its verdict. -/
theorem checkLine_unexpected {command : String} (h : Dict.get? expectedReasons command = none) (value : Value) :
    (checkLine command (.response value)).passed = (verdict value).1 := by
  unfold checkLine
  dsimp only
  rw [h]
  rcases (verdict value).1 with _ | _
  · rfl
  · rfl

/-- A load whose line passes makes its model resident. -/
theorem residentNamed_of_load {w : Watched} (hserved : served ≠ "")
    (hpassed : (checkLine "local_model_load" (deployed d w (loadRequest served)).1).passed = true) :
    ResidentNamed served (deployed d w (loadRequest served)).2.state.adapter := by
  let p := d.readings w.answered
  let f := d.framework w.answered
  let r := p.withStore w.state.store
  let params := f.deliver (loadRequest served).params
  have hparam : param params "model_name" = .ok served := by
    rw [f.param_deliver _ (by simp [schemaProperties])]
    exact param_eq_ok.mpr ⟨rfl, hserved⟩
  have hends := delegate_ends p w.state params .localModelLoad
  obtain ⟨result, hok, hreports⟩ := (verdict_of_ends .localModelLoad hends f.envelope).1.mp
    ((checkLine_unexpected (by decide) _).symm.trans hpassed)
  have hstate : (deployed d w (loadRequest served)).2.state.adapter =
      (LocalModelLoadCommand.delegate w.state.adapter r params).state := rfl
  have hresult : (LocalModelLoadCommand.delegate w.state.adapter r params).result.map DomainResult.lifecycle =
      .ok result := hok
  unfold LocalModelLoadCommand.delegate at hstate hresult
  rw [hparam] at hstate hresult
  rcases hload : (lifecycle r).loadModel w.state.adapter.residency w.state.adapter.facts served
    (Value.item params "allow_preload").truthy with exc | out
  · simp only [bind, Except.bind, hload] at hresult
    cases hresult
  · simp only [bind, Except.bind, hload] at hstate hresult
    cases hresult
    have hsuccess : out.result.success = true := by simpa [DomainResult.reportsFailure] using hreports
    rw [hstate]
    rcases ModelMemoryLifecycle.loadModel_cases hload with ⟨resident, hbefore, hname, hsame, -⟩ |
      ⟨-, hfailed⟩ | ⟨record, hrecord, hloaded, -⟩
    · exact ⟨resident, hsame.trans hbefore, hname⟩
    · rw [hfailed] at hsuccess
      cases hsuccess
    · exact ⟨record, hrecord, hloaded.name⟩

/-- The line of an unload of the resident model passes. -/
theorem unload_passes {w : Watched} (hserved : served ≠ "") (h : ResidentNamed served w.state.adapter) :
    (checkLine "local_model_unload" (deployed d w (unloadRequest served)).1).passed = true := by
  let p := d.readings w.answered
  let f := d.framework w.answered
  let r := p.withStore w.state.store
  let params := f.deliver (unloadRequest served).params
  obtain ⟨resident, hresident, rfl⟩ := h
  have hparam : param params "model_name" = .ok resident.modelName := by
    rw [f.param_deliver _ (by simp [schemaProperties])]
    exact param_eq_ok.mpr ⟨rfl, hserved⟩
  have hends := delegate_ends p w.state params .localModelUnload
  obtain ⟨hfailed, hreason⟩ := ModelMemoryLifecycle.unloadModel_self resident
    (show (lifecycle r).modelProbe.isSome = true from rfl)
  have hresult : (delegate p w.state .localModelUnload params).result =
      .ok (.lifecycle ((lifecycle r).unloadModel (some resident) resident.modelName).1) := by
    show (LocalModelUnloadCommand.delegate w.state.adapter r params).result.map DomainResult.lifecycle = _
    unfold LocalModelUnloadCommand.delegate
    rw [hparam, hresident]
    rfl
  have hverdict := verdict_of_ends .localModelUnload hends f.envelope
  have hfalse : (verdict (d.serve w (unloadRequest resident.modelName)).response).1 = false := by
    apply Bool.eq_false_iff.mpr
    intro hsucceeds
    obtain ⟨result, hok, hreports⟩ := hverdict.1.mp hsucceeds
    rw [hresult] at hok
    cases hok
    simp [DomainResult.reportsFailure, hfailed] at hreports
  have hcode := hverdict.2.1 _ hresult (by simp [DomainResult.reportsFailure, hfailed])
  have hexpected : (DomainResult.lifecycle
      ((lifecycle r).unloadModel (some resident) resident.modelName).1).reasonCode =
        some "VLLM_DYNAMIC_UNLOAD_UNSUPPORTED" := by
    unfold DomainResult.reasonCode
    dsimp only
    rw [hreason]
    rfl
  rw [hexpected] at hcode
  have hcode' : (verdict (d.serve w (unloadRequest resident.modelName)).response).2 =
      "VLLM_DYNAMIC_UNLOAD_UNSUPPORTED" := (Option.some.inj hcode).symm
  show (checkLine "local_model_unload"
    (.response (d.serve w (unloadRequest resident.modelName)).response)).passed = true
  unfold checkLine
  dsimp only
  rw [hfalse, hcode']
  rfl

end deployed

/-- The line of a command is judged on what the server answers when its turn comes. -/
theorem line_of_command {σ : Type} {environ : String → Option String} {server : LiveServer σ}
    {before after : List String} {command : String} {sent : List ClientRequest} {request : ClientRequest}
    (hbefore : List.Forall₂ (fun command request => requestFor environ command = .ok request) before sent)
    (hrequest : requestFor environ command = .ok request) (hfirst : command ∉ before) (hlast : command ∉ after)
    (start : σ) {line : CheckLine}
    (hline : line ∈ ((before ++ command :: after).foldl (CommandsRun.step environ server)
      { server := start }).drive.lines) (hcommand : line.command = command) :
    line = checkLine command (server (sent.foldl (fun s q => (server s q).2) start) request).1 := by
  have hserver := (foldl_requests environ server hbefore { server := start }).2
  obtain ⟨first, hfirstLines, -, hfirstCommands⟩ := foldl_lines environ server before { server := start }
  rw [List.foldl_append, List.foldl_cons] at hline
  obtain ⟨last, hlastLines, -, hlastCommands⟩ := foldl_lines environ server after
    (CommandsRun.step environ server (before.foldl (CommandsRun.step environ server) { server := start }) command)
  rw [hlastLines, step_of_request environ server hrequest, hserver] at hline
  simp only [Drive.step, hfirstLines, List.mem_append, List.mem_singleton] at hline
  have hnot (lines : List CheckLine) {commands : List String} (hlines : lines.map CheckLine.command = commands)
      (habsent : command ∉ commands) : line ∉ lines := by
    intro hmem
    apply habsent
    rw [← hlines, ← hcommand]
    exact List.mem_map_of_mem hmem
  rcases hline with ((hnone | hbeforeLine) | hturn) | hafterLine
  · cases hnone
  · exact absurd hbeforeLine (hnot first hfirstCommands hfirst)
  · exact hturn
  · exact absurd hafterLine (hnot last hlastCommands hlast)

/-- The commands before the load, between the load and the unload, and after it. -/
def beforeLoad : List String := order.take 10

@[inherit_doc beforeLoad]
def beforeUnload : List String := ["model_status", "local_model_reload", "local_lmcache_purge", "cancel"]

@[inherit_doc beforeLoad]
def afterUnload : List String := ["local_model_cache_delete", "local_model_switch"]

theorem order_eq :
    order = beforeLoad ++ "local_model_load" :: (beforeUnload ++ "local_model_unload" :: afterUnload) := by
  decide

theorem order_eq_unload :
    order = (beforeLoad ++ "local_model_load" :: beforeUnload) ++ "local_model_unload" :: afterUnload := by
  decide

/-- After the load every request of the check spares the served model. -/
theorem requestFor_spares {environ : String → Option String} {served scratch : String}
    (hmodels : acceptanceModels environ = .ok (served, scratch)) {command : String}
    (hcommand : command ∈ beforeUnload ++ afterUnload) :
    ∃ request, requestFor environ command = .ok request ∧ request.Spares served := by
  unfold requestFor argumentsFor
  rw [hmodels]
  simp only [beforeUnload, afterUnload, List.mem_append, List.mem_cons, List.not_mem_nil, or_false] at hcommand
  rcases hcommand with (rfl | rfl | rfl | rfl) | rfl | rfl
  all_goals
    refine ⟨_, rfl, ?_⟩
    intro other hother hne
    first
      | exact absurd (Value.str.inj (param_eq_ok.mp hother).1).symm hne
      | exact ⟨by rintro ⟨⟩, by rintro ⟨⟩⟩

/-- Requests that each spare the resident model. -/
theorem spares_of_requests {environ : String → Option String} {served : String} {commands : List String}
    {requests : List ClientRequest}
    (h : List.Forall₂ (fun command request => requestFor environ command = .ok request ∧ request.Spares served)
      commands requests) : ∀ q ∈ requests, q.Spares served := by
  induction h with
  | nil => exact nofun
  | cons hrequest _ ih =>
      intro q hq
      rcases List.mem_cons.mp hq with rfl | hmem
      · exact hrequest.2
      · exact ih q hmem

/-- **What a passing load of the check brings.** For every deployment, whatever it reads and however its framework
treats each of the requests, and every environment that names the two models: when the line of the load passes, the
served model stays resident to the end of the check, and the line of the unload, which the runtime cannot do, passes
too. -/
theorem commands_live_resident (d : Deployment) (s : PublicState)
    (environ : String → Option String) (served scratch : String)
    (hmodels : acceptanceModels environ = .ok (served, scratch)) :
    let run := driveCommands environ (deployed d) { state := s }
    (∀ line ∈ run.drive.lines, line.command = "local_model_load" → line.passed = true) →
      ResidentNamed served run.server.state.adapter ∧
        ∀ line ∈ run.drive.lines, line.command = "local_model_unload" → line.passed = true := by
  intro run hload
  have hserved := (acceptanceModels_ne hmodels).1
  have hrun : run = order.foldl (CommandsRun.step environ (deployed d)) { server := { state := s } } := by
    unfold run driveCommands
    rw [clientCommands_eq]
  -- the requests before the load, between, and after the unload
  obtain ⟨first, hfirst⟩ := exists_requests
    fun command (hcommand : command ∈ beforeLoad) =>
      (requestFor_spec environ hmodels (List.mem_of_mem_take hcommand)).imp fun _ h => h.1
  obtain ⟨middle, hmiddle⟩ := exists_requests
    fun command (hcommand : command ∈ beforeUnload) =>
      requestFor_spares hmodels (List.mem_append_left _ hcommand)
  obtain ⟨last, hlast⟩ := exists_requests
    fun command (hcommand : command ∈ afterUnload) =>
      requestFor_spares hmodels (List.mem_append_right _ hcommand)
  have hloadRequest : requestFor environ "local_model_load" = .ok (loadRequest served) := by
    unfold requestFor argumentsFor
    rw [hmodels]
    rfl
  have hunloadRequest : requestFor environ "local_model_unload" = .ok (unloadRequest served) := by
    unfold requestFor argumentsFor
    rw [hmodels]
    rfl
  have hsent := List.rel_append hfirst (List.Forall₂.cons hloadRequest (hmiddle.imp fun _ _ h => h.1))
  -- the line of the load, and the state it leaves
  obtain ⟨lines, hlines, -, hcommands⟩ := foldl_lines environ (deployed d) order { server := { state := s } }
  have hmem : "local_model_load" ∈ lines.map CheckLine.command := by
    rw [hcommands]
    decide
  obtain ⟨line, hline, hcommand⟩ := List.mem_map.mp hmem
  have hinRun : line ∈ run.drive.lines := by
    rw [hrun, hlines]
    exact List.mem_append_right _ hline
  have hpassed := hload line hinRun hcommand
  rw [hrun, order_eq] at hinRun
  rw [line_of_command hfirst hloadRequest (by decide) (by decide) _ hinRun hcommand] at hpassed
  have hresident := residentNamed_of_load d hserved hpassed
  have hkept := residentNamed_foldl d (spares_of_requests hmiddle) hresident
  have hunloadSpares : (unloadRequest served).Spares served := by
    intro other _ _
    exact ⟨by rintro ⟨⟩, by rintro ⟨⟩⟩
  constructor
  · have hall := List.rel_append hsent (List.Forall₂.cons hunloadRequest (hlast.imp fun _ _ h => h.1))
    obtain ⟨-, hserver⟩ := foldl_requests environ (deployed d) hall { server := { state := s } }
    rw [hrun, order_eq_unload, hserver, List.foldl_append, List.foldl_append, List.foldl_cons, List.foldl_cons]
    exact residentNamed_foldl d (spares_of_requests hlast) (residentNamed_deployed d hkept hunloadSpares)
  · intro line hline hcommand
    rw [hrun, order_eq_unload] at hline
    rw [line_of_command hsent hunloadRequest (by decide) (by decide) _ hline hcommand, List.foldl_append,
      List.foldl_cons]
    exact unload_passes d hserved hkept

/-- A server that is down. -/
def downServer : LiveServer Unit := fun _ _ => (.raised ⟨"ConnectionError", "refused"⟩ .none, ())

/-- Against a server that is down there still is a line for each command. -/
theorem commands_live_requests_down :
    (driveCommands smallEnviron downServer ()).drive.lines.map CheckLine.command = order :=
  (commands_live_requests smallEnviron downServer () "small" "hf-internal-testing/tiny-random-gpt2" rfl).2.2.2.1

/-- The line of a load of the resident model passes. -/
theorem load_passes (d : Deployment) {served : String} {w : Watched} (hserved : served ≠ "")
    (h : ResidentNamed served w.state.adapter) :
    (checkLine "local_model_load" (deployed d w (loadRequest served)).1).passed = true := by
  let p := d.readings w.answered
  let f := d.framework w.answered
  let params := f.deliver (loadRequest served).params
  obtain ⟨resident, hresident, rfl⟩ := h
  have hparam : param params "model_name" = .ok resident.modelName := by
    rw [f.param_deliver _ (by simp [schemaProperties])]
    exact param_eq_ok.mpr ⟨rfl, hserved⟩
  have hresult : ∃ result, (delegate p w.state .localModelLoad params).result = .ok (.lifecycle result) ∧
      result.success = true := by
    show ∃ result, (LocalModelLoadCommand.delegate w.state.adapter (p.withStore w.state.store)
      params).result.map DomainResult.lifecycle = .ok (.lifecycle result) ∧ _
    unfold LocalModelLoadCommand.delegate
    rw [hparam, hresident]
    simp only [bind, Except.bind, ModelMemoryLifecycle.loadModel, if_true]
    exact ⟨_, rfl, rfl⟩
  obtain ⟨result, hok, hsuccess⟩ := hresult
  refine (checkLine_unexpected (by decide) _).trans ?_
  apply (verdict_of_ends .localModelLoad (delegate_ends p w.state params .localModelLoad) f.envelope).1.mpr
  exact ⟨_, hok, by simp [DomainResult.reportsFailure, hsuccess]⟩

/-- Before the load every request of the check spares every model. -/
theorem requestFor_spares_before {environ : String → Option String} {served scratch : String}
    (hmodels : acceptanceModels environ = .ok (served, scratch)) {command : String}
    (hcommand : command ∈ beforeLoad) :
    ∃ request, requestFor environ command = .ok request ∧ request.Spares served := by
  unfold requestFor argumentsFor
  rw [hmodels]
  have hone : command ∈ ["healthcheck", "info", "capacity", "queue_status", "local_lmcache_status", "token_count",
      "estimate", "chat", "local_model_cache_preload", "local_model_cache_status"] := hcommand
  simp only [List.mem_cons, List.not_mem_nil, or_false] at hone
  rcases hone with rfl | rfl | rfl | rfl | rfl | rfl | rfl | rfl | rfl | rfl
  all_goals
    refine ⟨_, rfl, ?_⟩
    intro other _ _
    exact ⟨by rintro ⟨⟩, by rintro ⟨⟩⟩

/-- Where the served model is resident the line of the load passes. -/
theorem load_line_passes (d : Deployment) (s : PublicState)
    {environ : String → Option String} {served scratch : String}
    (hmodels : acceptanceModels environ = .ok (served, scratch)) (h : ResidentNamed served s.adapter) :
    ∀ line ∈ (driveCommands environ (deployed d) { state := s }).drive.lines,
      line.command = "local_model_load" → line.passed = true := by
  intro line hline hcommand
  obtain ⟨first, hfirst⟩ := exists_requests
    fun command (hcommand : command ∈ beforeLoad) => requestFor_spares_before hmodels hcommand
  have hloadRequest : requestFor environ "local_model_load" = .ok (loadRequest served) := by
    unfold requestFor argumentsFor
    rw [hmodels]
    rfl
  unfold driveCommands at hline
  rw [clientCommands_eq, order_eq] at hline
  rw [line_of_command (hfirst.imp fun _ _ h => h.1) hloadRequest (by decide) (by decide) _ hline hcommand]
  exact load_passes d (acceptanceModels_ne hmodels).1 (residentNamed_foldl d (spares_of_requests hfirst) h)

/-- A deployment whose clock goes on from request to request, and whose framework answers the two requests it runs as
jobs, the preload and the switch, in the envelope of a job. -/
def jobDeployment : Deployment where
  readings n := { bareReadings with readings := { now := n } }
  framework n :=
    if n = 8 ∨ n = 17 then { bareFramework with envelope := .job [] [("status", .str "completed")] (.int n) }
    else bareFramework

/-- Where the small model is resident the check leaves it resident. -/
theorem commands_live_resident_small :
    ResidentNamed "small" (driveCommands smallEnviron (deployed jobDeployment)
      { state := { adapter := smallResident, store := waitingState.store } }).server.state.adapter :=
  (commands_live_resident jobDeployment { adapter := smallResident, store := waitingState.store }
    smallEnviron "small" "hf-internal-testing/tiny-random-gpt2" rfl
    (load_line_passes jobDeployment _ rfl ⟨_, rfl, rfl⟩)).1

end LiveCheck

end Lmrs
