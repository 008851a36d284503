import Lmrs.Adapter.ChatAdmission
import Lmrs.Adapter.Registration
import Lmrs.Lib.Flags
import Lmrs.Lib.Transition
import Lmrs.ModelSwitch

/-!
# Switches beside the other commands

Source: `lmrs/model_lifecycle.py`, `switch_model`, `model_switch_in_progress`;
`lmrs/adapter/registration.py`, `_CHAT_HANDLER`.

A `SwitchService` is the adapter with the `switch_model` calls and the chats that are running in it. A call
flags its target when it starts and unflags it when it is left; between the two its steps interleave with
those of other calls, with chats and estimates, and with whatever else changes the adapter. A chat measures,
then looks at the flags for its verdict, and calls the runtime after that.

* `chat_points`: with nothing in between, the three points of a chat are the chat command.
* `switch_flags_exact_iff`: the registry says which models are being switched to, all along a run,
  exactly when no call is left while another one for the same target is running.
* `requests_while_switching`: while one switch runs, a chat or an estimate for its target that looks at the
  flags is refused, and a chat for it that is sent had its verdict before the switch; for every other model,
  the one being unloaded included, a request comes to what it would come to with no switch running.
-/

namespace Lmrs

open Python Transition ModelMemoryLifecycle

/-! ## The points of a chat -/

/-- A chat between its measurements and its verdict. -/
structure MeasuredChat where
  plan : ChatPlan
  /-- The queue it took when it was called. -/
  captured : RequestQueue
  capacity : CapacitySnapshot

/-- The chat command up to its verdict: it is sized, takes the queue and measures, or it ends before. -/
def ChatCommand.measure (s : AdapterState) (r : Readings) (params : Dict Value) :
    (Except PyException CommandResult ⊕ MeasuredChat) × AdapterState :=
  match ChatCommand.plan r params with
  | .error exc => (.inl (.error exc), s)
  | .ok (.inl refusal) => (.inl (.ok refusal), s)
  | .ok (.inr plan) =>
      match capacitySnapshot s r plan.modelName with
      | .error exc => (.inl (.error exc), s.measured r)
      | .ok capacity => (.inr ⟨plan, s.queue, capacity⟩, s.measured r)

/-- The verdict of a measured chat. The first thing it looks at are the flags. -/
def MeasuredChat.settle (chat : MeasuredChat) (s : AdapterState) : ChatAdmission × AdapterState :=
  match (chatHandler s).chatStep chat.captured chat.plan.requestMetadata chat.plan.queueMetadata
      (chat.plan.request chat.capacity) with
  | .error exc => (.finished (.error exc), s)
  | .ok (.refused result) => (.finished (.ok result), s)
  | .ok (.queued updated _ result) => (.finished (.ok result), { s with queue := updated })
  | .ok (.admitted estimate verdict) => (.admitted ⟨chat.plan, chat.capacity, estimate, verdict⟩, s)

section points

variable {s : AdapterState} {r : Readings} {params : Dict Value}

/-- A chat that ends before its verdict, and one that gets that far. -/
theorem ChatCommand.admission_of_measure :
    (∀ result state, ChatCommand.measure s r params = (.inl result, state) →
        ChatCommand.admission s r params = (.finished result, state)) ∧
      ∀ chat state, ChatCommand.measure s r params = (.inr chat, state) →
        ChatCommand.admission s r params = chat.settle state := by
  unfold ChatCommand.measure ChatCommand.admission
  rcases ChatCommand.plan r params with exc | refusal | plan
  · exact ⟨by rintro _ _ ⟨⟩; rfl, by rintro _ _ ⟨⟩⟩
  · exact ⟨by rintro _ _ ⟨⟩; rfl, by rintro _ _ ⟨⟩⟩
  · dsimp only
    rcases capacitySnapshot s r plan.modelName with exc | capacity
    · exact ⟨by rintro _ _ ⟨⟩; rfl, by rintro _ _ ⟨⟩⟩
    · refine ⟨by rintro _ _ ⟨⟩, ?_⟩
      rintro _ _ ⟨⟩
      unfold MeasuredChat.settle
      rfl

/-- **With nothing in between, the points of a chat are the chat command.** -/
theorem chat_points {chat : MeasuredChat} {state after : AdapterState}
    (hmeasure : ChatCommand.measure s r params = (.inr chat, state)) :
    (∀ result, chat.settle state = (.finished result, after) →
        ChatCommand.delegate s r params = { result, state := after }) ∧
      ∀ admitted, chat.settle state = (.admitted admitted, after) →
        ChatCommand.delegate s r params =
          { result := .ok (admitted.result r), state := after, calls := (admitted.execution r).calls } := by
  rw [ChatCommand.delegate_eq_admission, ChatCommand.admission_of_measure.2 chat state hmeasure]
  constructor
  · intro result hsettle
    rw [hsettle]
  · intro admitted hsettle
    rw [hsettle]

end points

/-! ## The running switches -/

/-- The adapter, and the switches and chats running in it. -/
structure SwitchService where
  adapter : AdapterState
  calls : List SwitchCall := []
  /-- The chats that have measured and not looked at the flags. -/
  measured : List MeasuredChat := []
  /-- The chats with a verdict to execute whose runtime call has not begun. -/
  admitted : List AdmittedChat := []
  /-- The chats whose runtime call has begun. -/
  sent : List AdmittedChat := []

/-- What happens to the adapter and its running switches. -/
inductive SwitchEvent where
  /-- `switch_model(target, ...)` is called. -/
  | start (target : String)
  /-- The `i`-th running call takes one step, with these answers of its collaborators. -/
  | advance (i : Nat) (lifecycle : ModelMemoryLifecycle VramFactsStore.File)
      (collab : SwitchCollaborators)
  /-- The `i`-th running call is left, with its result or by an exception, and its `finally` block
  runs. -/
  | leave (i : Nat)
  /-- A chat is called, is sized and measures. -/
  | measure (params : Dict Value) (r : Readings)
  /-- The `i`-th measured chat gets its verdict. -/
  | settle (i : Nat)
  /-- The `i`-th admitted chat calls the runtime. -/
  | call (i : Nat)
  | estimate (params : Dict Value) (r : Readings)
  /-- Something else changes the queue, the facts file or the residency record. -/
  | elsewhere (queue : RequestQueue) (facts : VramFactsStore.File) (residency : Option ModelResidency)

namespace SwitchService

/-- The state a running call acts on. -/
def switchState (c : SwitchService) (call : SwitchCall) : SwitchState VramFactsStore.File where
  call := call
  residency := c.adapter.residency
  recorder := c.adapter.facts

/-- One event. -/
def step (c : SwitchService) : SwitchEvent → SwitchService
  | .start target =>
      { c with adapter := { c.adapter with switches := flagSwitch c.adapter.switches target }
               calls := c.calls ++ [{ target }] }
  | .advance i lifecycle collab =>
      match c.calls[i]? with
      | none => c
      | some call =>
          let s := (c.switchState call).advance lifecycle collab
          { c with adapter := { c.adapter with residency := s.residency, facts := s.recorder }
                   calls := c.calls.set i s.call }
  | .leave i =>
      match c.calls[i]? with
      | none => c
      | some call =>
          { c with adapter := { c.adapter with switches := unflagSwitch c.adapter.switches call.target }
                   calls := c.calls.eraseIdx i }
  | .measure params r =>
      match ChatCommand.measure c.adapter r params with
      | (.inl _, state) => { c with adapter := state }
      | (.inr chat, state) => { c with adapter := state, measured := c.measured ++ [chat] }
  | .settle i =>
      match c.measured[i]? with
      | none => c
      | some chat =>
          match chat.settle c.adapter with
          | (.finished _, state) => { c with adapter := state, measured := c.measured.eraseIdx i }
          | (.admitted chat, state) =>
              { c with adapter := state, measured := c.measured.eraseIdx i, admitted := c.admitted ++ [chat] }
  | .call i =>
      match c.admitted[i]? with
      | none => c
      | some chat => { c with admitted := c.admitted.eraseIdx i, sent := c.sent ++ [chat] }
  | .estimate params r => { c with adapter := (EstimateCommand.delegate c.adapter r params).state }
  | .elsewhere queue facts residency => { c with adapter := { c.adapter with queue, facts, residency } }

/-- The targets of the running calls. -/
def targets (c : SwitchService) : List String := c.calls.map SwitchCall.target

/-- A model is reported as being switched to exactly when a call for it has started and not
finished. -/
def FlagsExact (c : SwitchService) : Prop :=
  ∀ modelName, modelSwitchInProgress c.adapter.switches modelName = true ↔
    ∃ call ∈ c.calls, call.target = modelName

/-- A call that is left is the only one running for its target. -/
def LeavesAlone (c : SwitchService) : SwitchEvent → Prop
  | .leave i => ∀ call, c.calls[i]? = some call →
      ∀ other ∈ c.calls.eraseIdx i, other.target ≠ call.target
  | _ => True

/-- The adapter with no switch running in it. -/
def idle (s : AdapterState) : SwitchService := { adapter := { s with switches := [] } }

section flags

variable {c : SwitchService}

/-- The flags are exact in the sense of the library. -/
theorem flagsExact_iff : c.FlagsExact ↔ Flags.Exact c.adapter.switches c.targets := by
  simp [FlagsExact, Flags.Exact, modelSwitchInProgress, targets]

/-- What a chat measures keeps the registry. -/
theorem measure_switches (s : AdapterState) (r : Readings) (params : Dict Value) :
    (ChatCommand.measure s r params).2.switches = s.switches := by
  unfold ChatCommand.measure
  rcases ChatCommand.plan r params with exc | refusal | plan
  · rfl
  · rfl
  · dsimp only
    rcases capacitySnapshot s r plan.modelName with exc | capacity
    · rfl
    · rfl

/-- A verdict keeps the registry. -/
theorem settle_switches (chat : MeasuredChat) (s : AdapterState) : (chat.settle s).2.switches = s.switches := by
  unfold MeasuredChat.settle
  rcases (chatHandler s).chatStep chat.captured chat.plan.requestMetadata chat.plan.queueMetadata
    (chat.plan.request chat.capacity) with exc | result | ⟨updated, entry, result⟩ | ⟨estimate, verdict⟩
  all_goals rfl

/-- The points of a chat keep the registry and the running calls. -/
theorem step_chat (c : SwitchService) {e : SwitchEvent}
    (hchat : (∃ params r, e = .measure params r) ∨ (∃ i, e = .settle i) ∨ ∃ i, e = .call i) :
    (c.step e).adapter.switches = c.adapter.switches ∧ (c.step e).targets = c.targets := by
  rcases hchat with ⟨params, r, rfl⟩ | ⟨i, rfl⟩ | ⟨i, rfl⟩
  · have hkept := measure_switches c.adapter r params
    unfold step
    dsimp only
    rcases hmeasure : ChatCommand.measure c.adapter r params with ⟨result | chat, state⟩
    · rw [hmeasure] at hkept
      exact ⟨hkept, rfl⟩
    · rw [hmeasure] at hkept
      exact ⟨hkept, rfl⟩
  · unfold step
    dsimp only
    rcases c.measured[i]? with _ | chat
    · exact ⟨rfl, rfl⟩
    · have hkept := settle_switches chat c.adapter
      dsimp only
      rcases hsettle : chat.settle c.adapter with ⟨result | chat', state⟩
      · rw [hsettle] at hkept
        exact ⟨hkept, rfl⟩
      · rw [hsettle] at hkept
        exact ⟨hkept, rfl⟩
  · unfold step
    dsimp only
    rcases c.admitted[i]? with _ | chat
    · exact ⟨rfl, rfl⟩
    · exact ⟨rfl, rfl⟩

/-- An estimate keeps the registry. -/
theorem estimate_switches (s : AdapterState) (r : Readings) (params : Dict Value) :
    (EstimateCommand.delegate s r params).state.switches = s.switches := by
  unfold EstimateCommand.delegate
  split
  · rfl
  · rfl
  · unfold EstimateCommand.textModeEstimate
    repeat' split
    all_goals rfl

/-- A step of a running call keeps the targets. -/
theorem targets_advance {i : Nat} {call next : SwitchCall} (hcall : c.calls[i]? = some call)
    (hnext : next.target = call.target) :
    (c.calls.set i next).map SwitchCall.target = c.targets := by
  obtain ⟨hi, hget⟩ := List.getElem?_eq_some_iff.mp hcall
  have hi' : i < (c.calls.map SwitchCall.target).length := by simpa using hi
  have hsame : call.target = (c.calls.map SwitchCall.target)[i] := by simp [hget]
  unfold targets
  rw [List.map_set, hnext, hsame, List.set_getElem_self]

/-- Exactness is about the registry and the targets alone. -/
theorem flagsExact_congr {d : SwitchService} (hswitches : d.adapter.switches = c.adapter.switches)
    (htargets : d.targets = c.targets) : d.FlagsExact ↔ c.FlagsExact := by
  rw [flagsExact_iff, flagsExact_iff, hswitches, htargets]

/-- **One event keeps exact flags exact** unless it leaves a call beside another one for the same
target. -/
theorem flagsExact_step_iff (hexact : c.FlagsExact) (e : SwitchEvent) :
    (c.step e).FlagsExact ↔ c.LeavesAlone e := by
  have hflags := flagsExact_iff.mp hexact
  cases e with
  | start target =>
      refine iff_of_true ?_ trivial
      have hstart : Flags.Exact (flagSwitch c.adapter.switches target) (c.targets ++ [target]) :=
        hflags.start fun name => mem_flagSwitch
      apply flagsExact_iff.mpr
      simpa [step, targets] using hstart
  | advance i lifecycle collab =>
      refine iff_of_true ?_ trivial
      cases hcall : c.calls[i]? with
      | none => simpa only [step, hcall] using hexact
      | some call =>
          simp only [step, hcall]
          refine (flagsExact_congr ?_ ?_).mpr hexact
          · rfl
          · exact targets_advance hcall SwitchState.advance_target
  | leave i =>
      cases hcall : c.calls[i]? with
      | none =>
          simp only [step, hcall, LeavesAlone]
          exact iff_of_true hexact fun call h => by cases h
      | some call =>
          have htarget : c.targets[i]? = some call.target := by simp [targets, hcall]
          have hfinish : Flags.Exact (unflagSwitch c.adapter.switches call.target)
              (c.targets.eraseIdx i) ↔ call.target ∉ c.targets.eraseIdx i :=
            hflags.finish_iff htarget fun _ => mem_unflagSwitch
          have herase : c.targets.eraseIdx i = (c.calls.eraseIdx i).map SwitchCall.target :=
            List.eraseIdx_map ..
          rw [herase] at hfinish
          rw [flagsExact_iff]
          simp only [step, hcall, LeavesAlone, targets]
          rw [hfinish]
          simp
  | measure params r =>
      obtain ⟨hswitches, htargets⟩ := step_chat c (Or.inl ⟨params, r, rfl⟩)
      exact iff_of_true ((flagsExact_congr hswitches htargets).mpr hexact) trivial
  | settle i =>
      obtain ⟨hswitches, htargets⟩ := step_chat c (Or.inr (Or.inl ⟨i, rfl⟩))
      exact iff_of_true ((flagsExact_congr hswitches htargets).mpr hexact) trivial
  | call i =>
      obtain ⟨hswitches, htargets⟩ := step_chat c (Or.inr (Or.inr ⟨i, rfl⟩))
      exact iff_of_true ((flagsExact_congr hswitches htargets).mpr hexact) trivial
  | estimate params r =>
      have hsame : (c.step (.estimate params r)).FlagsExact ↔ c.FlagsExact :=
        flagsExact_congr (estimate_switches _ _ _) rfl
      exact iff_of_true (hsame.mpr hexact) trivial
  | elsewhere queue facts residency => exact iff_of_true ((flagsExact_congr rfl rfl).mpr hexact) trivial

/-- An idle adapter reports no switch. -/
theorem flagsExact_idle (s : AdapterState) : (idle s).FlagsExact := by
  intro modelName
  simp [idle, modelSwitchInProgress]

end flags

end SwitchService

open SwitchService

/-- **The registry is exact all along a run exactly when no call is left beside another one for its
target.** From an adapter with no switch running, whatever calls are started, advanced and left and
whatever runs between: at every moment a model is reported as being switched to iff a call for it has
started and not finished, if and only if each call that is left is the only one running for its
target. -/
theorem switch_flags_exact_iff (s : AdapterState) (events : List SwitchEvent) :
    (∀ p, p <+: events → (runAll step (idle s) p).FlagsExact) ↔
      ∀ p e, p ++ [e] <+: events → (runAll step (idle s) p).LeavesAlone e := by
  apply always_iff_guarded (J := fun _ => True) trivial (flagsExact_idle s)
  · exact fun _ _ _ => trivial
  · exact fun c e _ hexact => flagsExact_step_iff hexact e

/-- Collaborators of a switch whose disk cache cannot be read. -/
def unreadableCache : SwitchCollaborators where
  status := fun _ => .error (osError "PermissionError" "[Errno 13] Permission denied")
  preload := fun _ => .error (osError "PermissionError" "[Errno 13] Permission denied")

/-- **The registry loses a running switch**: of two calls for one target the first fails at its first
step and is left, and its `finally` block lowers the flag of the second. -/
theorem flag_lowered_while_switching :
    ¬ ∀ (s : AdapterState) (events : List SwitchEvent), (runAll step (idle s) events).FlagsExact := by
  intro h
  have hexact := h {} [.start "m", .start "m", .advance 0 { now := "" } unreadableCache, .leave 0] "m"
  have hflag := hexact.mpr ⟨{ target := "m" }, List.mem_singleton_self _, rfl⟩
  exact absurd hflag (by decide)

/-! ## Requests while a switch is running -/

namespace SwitchService

/-- The model an estimate is about. -/
def estimateTarget (s : AdapterState) (r : Readings) (params : Dict Value) : Option String :=
  match (Value.item params "message").asStr? with
  | none | some "" => some (Value.item params "model_name").text
  | some _ => resolveTargetModel s r params

/-- Refused because of a switch; or for want of a model or of its KV cost, which is looked at before
the switch. -/
def RefusedForSwitch (r : Readings) (modelName : String) (result : CommandResult) : Prop :=
  result.success = false ∧
    (result.reasonCode = some .modelSwitching ∨
      result.reasonCode = some .hardwareCapacityUnknown ∧
        (modelName = "" ∨ modelKvProfile r modelName = .ok none))

section requests

variable {s : AdapterState} {r : Readings} {params : Dict Value} {modelName : String}

/-- The wired handler looks the model up in the registry. -/
theorem chatHandler_switching_eq (s : AdapterState) (modelName : String) :
    (chatHandler s).switching modelName = decide (modelName ∈ s.switches) := rfl

/-- **A chat for a flagged model** that looks at the flags is refused. -/
theorem settle_of_flagged {chat : MeasuredChat} (hflag : chat.plan.modelName ∈ s.switches) :
    ∃ result, chat.settle s = (.finished (.ok result), s) ∧ result.success = false ∧
      result.reasonCode = some .modelSwitching := by
  have hswitch : (chatHandler s).switching (chat.plan.request chat.capacity).modelName = true :=
    (chatHandler_switching_eq s chat.plan.modelName).trans (decide_eq_true hflag)
  unfold MeasuredChat.settle
  rw [(CanonicalChatHandler.refused_of_switching hswitch).1]
  exact ⟨_, rfl, rfl, rfl⟩

/-- A chat whose verdict is to execute is admitted under its plan. -/
theorem settle_admitted {chat : MeasuredChat} {admitted : AdmittedChat} {state : AdapterState}
    (h : chat.settle s = (.admitted admitted, state)) : admitted.plan = chat.plan := by
  unfold MeasuredChat.settle at h
  rcases hstep : (chatHandler s).chatStep chat.captured chat.plan.requestMetadata chat.plan.queueMetadata
    (chat.plan.request chat.capacity) with exc | result | ⟨updated, entry, result⟩ | ⟨estimate, verdict⟩
  all_goals
    rw [hstep] at h
    cases h
  rfl

/-- A chat that reports before its verdict cannot be sized. -/
theorem measure_refused {result : CommandResult}
    (h : (ChatCommand.measure s r params).1 = .inl (.ok result)) :
    result.success = false ∧ result.reasonCode = some .hardwareCapacityUnknown := by
  unfold ChatCommand.measure at h
  rcases hplan : ChatCommand.plan r params with exc | refusal | plan
  · rw [hplan] at h
    cases h
  · rw [hplan] at h
    obtain ⟨modelName, _, _, rfl⟩ := ChatCommand.plan_refused hplan
    cases h
    exact ⟨rfl, rfl⟩
  · rw [hplan] at h
    dsimp only at h
    rcases hcapacity : capacitySnapshot s r plan.modelName with exc | capacity
    · rw [hcapacity] at h
      cases h
    · rw [hcapacity] at h
      cases h

/-- An estimate on raw inputs for a flagged model is refused for the switch, when its inputs can be
read. -/
theorem rawEstimate_of_flagged {result : CommandResult}
    (hflag : (Value.item params "model_name").text ∈ s.switches)
    (h : EstimateCommand.rawEstimate s r params = .ok result) :
    result.success = false ∧ result.reasonCode = some .modelSwitching := by
  have hswitch : (chatHandler s).switching (Value.item params "model_name").text = true :=
    (chatHandler_switching_eq s _).trans (decide_eq_true hflag)
  rcases EstimateCommand.rawEstimate_cases h with ⟨_, _, -, rfl⟩ | ⟨_, _, _, _, hnone, -⟩
  · exact ⟨rfl, rfl⟩
  · rw [hswitch] at hnone
    cases hnone

/-- A text-mode estimate for a flagged model is refused, when it reports. -/
theorem textModeEstimate_of_flagged {result : CommandResult} {message : String}
    (hflag : modelName ∈ s.switches) (htarget : resolveTargetModel s r params = some modelName)
    (h : (EstimateCommand.textModeEstimate s r params message).result = .ok result) :
    RefusedForSwitch r modelName result := by
  unfold EstimateCommand.textModeEstimate at h
  rw [htarget] at h
  by_cases hempty : modelName = ""
  · subst hempty
    cases h
    exact ⟨rfl, Or.inr ⟨rfl, Or.inl rfl⟩⟩
  · simp only at h
    cases hprofile : modelKvProfile r modelName with
    | error exc =>
        rw [hprofile] at h
        cases h
    | ok profile? =>
        rw [hprofile] at h
        cases profile? with
        | none =>
            cases h
            exact ⟨rfl, Or.inr ⟨rfl, Or.inr hprofile⟩⟩
        | some profile =>
            dsimp only at h
            cases hmax : maxTokensParam params with
            | error exc =>
                rw [hmax] at h
                cases h
            | ok maxTokens =>
                rw [hmax] at h
                obtain ⟨capacity, -, h⟩ := bind_eq_ok.mp h
                have hswitch : (chatHandler s).switching modelName = true :=
                  (chatHandler_switching_eq s modelName).trans (decide_eq_true hflag)
                unfold CanonicalChatHandler.estimate at h
                rw [if_pos hswitch] at h
                cases h
                exact ⟨rfl, Or.inl rfl⟩

/-- **An estimate for a flagged model** reports a refusal, or raises. -/
theorem estimate_of_flagged {result : CommandResult} (hflag : modelName ∈ s.switches)
    (htarget : estimateTarget s r params = some modelName)
    (h : (EstimateCommand.delegate s r params).result = .ok result) :
    RefusedForSwitch r modelName result := by
  have hraw (htext : some (Value.item params "model_name").text = some modelName)
      (hraw : EstimateCommand.rawEstimate s r params = .ok result) :
      RefusedForSwitch r modelName result := by
    cases htext
    obtain ⟨hfailed, hreason⟩ := rawEstimate_of_flagged hflag hraw
    exact ⟨hfailed, Or.inl hreason⟩
  unfold estimateTarget at htarget
  unfold EstimateCommand.delegate at h
  split at h
  · next hmessage =>
      rw [hmessage] at htarget
      exact hraw htarget h
  · next hmessage =>
      rw [hmessage] at htarget
      exact hraw htarget h
  · next message hempty hmessage =>
      rw [hmessage] at htarget
      simp only at htarget
      exact textModeEstimate_of_flagged hflag htarget h

/-- The adapter as it would be with no switch running. -/
abbrev unswitched (s : AdapterState) : AdapterState := { s with switches := [] }

/-- The handler says the same of a model that is not flagged as it says with no switch running. -/
theorem chatHandler_unswitched (hflag : modelName ∉ s.switches) :
    (chatHandler s).switching modelName = (chatHandler (unswitched s)).switching modelName := by
  rw [chatHandler_switching.mpr hflag]
  rfl

/-- A chat measures what it would with no switch running. -/
theorem measure_unswitched (s : AdapterState) (r : Readings) (params : Dict Value) :
    (ChatCommand.measure s r params).1 = (ChatCommand.measure (unswitched s) r params).1 := by
  unfold ChatCommand.measure
  rcases ChatCommand.plan r params with exc | refusal | plan
  · rfl
  · rfl
  · have hsnapshot : capacitySnapshot (unswitched s) r plan.modelName = capacitySnapshot s r plan.modelName := rfl
    dsimp only
    rw [hsnapshot]
    rcases capacitySnapshot s r plan.modelName with exc | capacity
    · rfl
    · rfl

/-- **A chat for any other model** gets the verdict it would with no switch running. -/
theorem settle_of_unflagged {chat : MeasuredChat} (hflag : chat.plan.modelName ∉ s.switches) :
    (chat.settle s).1 = (chat.settle (unswitched s)).1 := by
  have hsame : (chatHandler s).switching (chat.plan.request chat.capacity).modelName =
      (chatHandler (unswitched s)).switching (chat.plan.request chat.capacity).modelName :=
    chatHandler_unswitched hflag
  unfold MeasuredChat.settle
  rw [(CanonicalChatHandler.decided_congr hsame).1]
  rcases (chatHandler (unswitched s)).chatStep chat.captured chat.plan.requestMetadata chat.plan.queueMetadata
    (chat.plan.request chat.capacity) with exc | result | ⟨updated, entry, result⟩ | ⟨estimate, verdict⟩
  all_goals rfl

/-- **An estimate for any other model** reports what it would with no switch running. -/
theorem estimate_of_unflagged
    (htarget : ∀ modelName, estimateTarget s r params = some modelName → modelName ∉ s.switches) :
    (EstimateCommand.delegate s r params).result =
      (EstimateCommand.delegate (unswitched s) r params).result := by
  have hraw (hflag : (Value.item params "model_name").text ∉ s.switches) :
      EstimateCommand.rawEstimate s r params = EstimateCommand.rawEstimate (unswitched s) r params := by
    unfold EstimateCommand.rawEstimate
    simp only [chatHandler_unswitched hflag]
  unfold estimateTarget at htarget
  unfold EstimateCommand.delegate
  split
  · next hmessage =>
      rw [hmessage] at htarget
      exact hraw (htarget _ rfl)
  · next hmessage =>
      rw [hmessage] at htarget
      exact hraw (htarget _ rfl)
  · next message hempty hmessage =>
      rw [hmessage] at htarget
      simp only at htarget
      have hresolve : resolveTargetModel (unswitched s) r params = resolveTargetModel s r params := rfl
      unfold EstimateCommand.textModeEstimate
      rw [hresolve]
      split
      · rfl
      · rfl
      · next modelName _ hmodel =>
          have hflag := htarget modelName hmodel
          have hsnapshot : capacitySnapshot (unswitched s) r modelName =
              capacitySnapshot s r modelName := rfl
          simp only [CanonicalChatHandler.estimate, chatHandler_unswitched hflag, hsnapshot]
          split
          · rfl
          · rfl
          · split <;> rfl

end requests

/-- An event that neither starts a switch nor leaves one. -/
def Between : SwitchEvent → Prop
  | .start _ | .leave _ => False
  | _ => True

/-- While one switch runs its target alone is flagged, and the chats for it that were admitted or sent had their
verdict before. -/
structure Gated (target : String) (before : List AdmittedChat) (c : SwitchService) : Prop where
  flagged : c.adapter.switches = [target]
  earlier : ∀ chat ∈ c.admitted ++ c.sent, chat.plan.modelName = target → chat ∈ before

/-- **One event keeps the target gated**, as long as no switch starts and none is left. -/
theorem Gated.step {target : String} {before : List AdmittedChat} {c : SwitchService} (h : Gated target before c)
    {e : SwitchEvent} (hbetween : Between e) : Gated target before (c.step e) := by
  obtain ⟨hflagged, hearlier⟩ := h
  cases e with
  | start _ => exact hbetween.elim
  | leave _ => exact hbetween.elim
  | advance i lifecycle collab =>
      unfold SwitchService.step
      dsimp only
      rcases c.calls[i]? with _ | call
      · exact ⟨hflagged, hearlier⟩
      · exact ⟨hflagged, hearlier⟩
  | measure params r =>
      refine ⟨(step_chat c (Or.inl ⟨params, r, rfl⟩)).1.trans hflagged, ?_⟩
      unfold SwitchService.step
      dsimp only
      rcases ChatCommand.measure c.adapter r params with ⟨result | chat, state⟩
      · exact hearlier
      · exact hearlier
  | settle i =>
      refine ⟨(step_chat c (Or.inr (Or.inl ⟨i, rfl⟩))).1.trans hflagged, ?_⟩
      unfold SwitchService.step
      dsimp only
      rcases c.measured[i]? with _ | chat
      · exact hearlier
      · dsimp only
        rcases hsettle : chat.settle c.adapter with ⟨result | admitted, state⟩
        · exact hearlier
        · -- the chat admitted is not for the target, which is flagged
          intro chat' hchat' hname
          dsimp only at hchat'
          rw [List.append_assoc, List.mem_append, List.singleton_append, List.mem_cons] at hchat'
          rcases hchat' with hold | rfl | hold
          · exact hearlier chat' (List.mem_append_left _ hold) hname
          · rw [settle_admitted hsettle] at hname
            have hflag : chat.plan.modelName ∈ c.adapter.switches := by simp [hflagged, hname]
            obtain ⟨result, hrefused, -⟩ := settle_of_flagged hflag
            rw [hrefused] at hsettle
            cases hsettle
          · exact hearlier chat' (List.mem_append_right _ hold) hname
  | call i =>
      refine ⟨(step_chat c (Or.inr (Or.inr ⟨i, rfl⟩))).1.trans hflagged, ?_⟩
      unfold SwitchService.step
      dsimp only
      rcases hadmitted : c.admitted[i]? with _ | chat
      · exact hearlier
      · intro chat' hchat'
        dsimp only at hchat'
        apply hearlier
        rw [List.mem_append, List.mem_append, List.mem_singleton] at hchat'
        rcases hchat' with hold | hold | rfl
        · exact List.mem_append_left _ (List.mem_of_mem_eraseIdx hold)
        · exact List.mem_append_right _ hold
        · exact List.mem_append_left _ (List.mem_of_getElem? hadmitted)
  | estimate params r => exact ⟨(estimate_switches _ _ _).trans hflagged, hearlier⟩
  | elsewhere queue facts residency => exact ⟨hflagged, hearlier⟩

/-- An adapter with no switch running in it, and with chats under way. -/
def busy (s : AdapterState) (measured : List MeasuredChat) (admitted : List AdmittedChat) : SwitchService :=
  { idle s with measured, admitted }

/-- Between the start of a switch and the moment it is left, its target is gated. -/
theorem gated_between (s : AdapterState) (measured : List MeasuredChat) (admitted : List AdmittedChat)
    (target : String) {events : List SwitchEvent} (hbetween : ∀ e ∈ events, Between e) :
    Gated target admitted (runAll SwitchService.step (busy s measured admitted) (.start target :: events)) := by
  induction events using List.reverseRecOn with
  | nil => exact ⟨rfl, fun chat hchat _ => by simpa [runAll, SwitchService.step, busy, idle] using hchat⟩
  | append_singleton events e ih =>
      have hbefore := ih fun e' he' => hbetween e' (List.mem_append_left [e] he')
      rw [← List.cons_append, runAll_concat]
      exact hbefore.step (hbetween e (List.mem_append_right events (List.mem_singleton_self e)))

end SwitchService

/-- **Requests while a switch is running.** Between the start of a switch and the moment it is left, however its
steps interleave with requests under way or called in between and with what else changes the adapter:
* a chat for the target that looks at the flags is refused for the switch, and none for the target is admitted or
  sent but those admitted before the start;
* an estimate for the target that reports is refused for the switch or, before that is looked at, for want of a model
  or of its KV cost; for that a chat that reports before it looks at the flags is refused too;
* a chat or an estimate for any other model, the one being unloaded included, measures and comes to what it would come
  to with no switch running. -/
theorem requests_while_switching (s : AdapterState) (measured : List MeasuredChat) (admitted : List AdmittedChat)
    (target : String) (events : List SwitchEvent) (hbetween : ∀ e ∈ events, Between e) :
    let c := runAll step (busy s measured admitted) (.start target :: events)
    (∀ chat : MeasuredChat, chat.plan.modelName = target →
        ∃ result, chat.settle c.adapter = (.finished (.ok result), c.adapter) ∧ result.success = false ∧
          result.reasonCode = some .modelSwitching) ∧
      (∀ chat ∈ c.admitted ++ c.sent, chat.plan.modelName = target → chat ∈ admitted) ∧
      (∀ r params result, estimateTarget c.adapter r params = some target →
        (EstimateCommand.delegate c.adapter r params).result = .ok result → RefusedForSwitch r target result) ∧
      (∀ r params result, (ChatCommand.measure c.adapter r params).1 = .inl (.ok result) →
        result.success = false ∧ result.reasonCode = some .hardwareCapacityUnknown) ∧
      (∀ r params, (ChatCommand.measure c.adapter r params).1 =
        (ChatCommand.measure (unswitched c.adapter) r params).1) ∧
      (∀ chat : MeasuredChat, chat.plan.modelName ≠ target →
        (chat.settle c.adapter).1 = (chat.settle (unswitched c.adapter)).1) ∧
      ∀ r params, estimateTarget c.adapter r params ≠ some target →
        (EstimateCommand.delegate c.adapter r params).result =
          (EstimateCommand.delegate (unswitched c.adapter) r params).result := by
  intro c
  obtain ⟨hswitches, hearlier⟩ := gated_between s measured admitted target hbetween
  have hflag : target ∈ c.adapter.switches := by simp [c, hswitches]
  have hother {modelName : String} (hne : modelName ≠ target) : modelName ∉ c.adapter.switches := by
    simpa [c, hswitches] using hne
  refine ⟨?_, hearlier, ?_, fun r params result => measure_refused, measure_unswitched c.adapter, ?_, ?_⟩
  · rintro chat rfl
    exact settle_of_flagged hflag
  · exact fun r params result htarget h => estimate_of_flagged hflag htarget h
  · exact fun chat hname => settle_of_unflagged (hother hname)
  · intro r params htarget
    refine estimate_of_unflagged fun modelName hmodel => hother ?_
    rintro rfl
    exact htarget hmodel

/-- The small model is resident. -/
def smallResident : AdapterState :=
  { residency := some { modelName := "small", runtimeBackend := .vllm, state := .loaded } }

/-- A switch to the small model runs, and a chat with it is called, looks at the flags and would call the runtime. -/
def smallTarget : List SwitchEvent :=
  [.start "small", .measure (smallChat "hello" 10) (smallHost 1000), .settle 0, .call 0]

/-- While a switch to the small model runs, a chat with it that has measured is refused for the switch, and none is
sent. -/
theorem requests_while_switching_small :
    ∃ chat, (ChatCommand.measure (runAll step (idle {}) smallTarget).adapter (smallHost 1000)
        (smallChat "hello" 10)).1 = .inr chat ∧
      (∃ result, (chat.settle (runAll step (idle {}) smallTarget).adapter).1 = .finished (.ok result) ∧
        result.reasonCode = some .modelSwitching) ∧
      ∀ sent ∈ (runAll step (idle {}) smallTarget).sent, sent.plan.modelName ≠ "small" := by
  obtain ⟨hrefused, hearlier, -⟩ := requests_while_switching {} [] [] "small"
    [.measure (smallChat "hello" 10) (smallHost 1000), .settle 0, .call 0]
    (by simp [Between])
  obtain ⟨chat, hmeasured, hname⟩ : ∃ chat : MeasuredChat,
      (ChatCommand.measure (runAll step (idle {}) smallTarget).adapter (smallHost 1000) (smallChat "hello" 10)).1 =
        .inr chat ∧ chat.plan.modelName = "small" := ⟨_, rfl, rfl⟩
  refine ⟨chat, hmeasured, ?_, ?_⟩
  · obtain ⟨result, hsettle, -, hreason⟩ := hrefused chat hname
    exact ⟨result, congrArg Prod.fst hsettle, hreason⟩
  · intro sent hsent hname
    exact List.not_mem_nil (hearlier sent (List.mem_append_right _ hsent) hname)

/-- **The model being unloaded is sent requests during the switch**: the switch from the small model to another one has
started, and a chat with the small model is called, gets its verdict and reaches the runtime. -/
theorem chat_sent_to_model_being_unloaded :
    ¬ ∀ (s : AdapterState) (resident : ModelResidency) (target : String) (events : List SwitchEvent),
        s.residency = some resident → resident.modelName ≠ target → (∀ e ∈ events, Between e) →
        ∀ chat ∈ (runAll step (idle s) (.start target :: events)).sent,
          chat.plan.modelName ≠ resident.modelName ∧ chat.plan.modelName ≠ target := by
  intro h
  have hnone := h smallResident _ "other" [.measure (smallChat "hello" 10) (smallHost 1000), .settle 0, .call 0]
    rfl (by decide) (by simp [Between]) _ (List.mem_singleton_self _)
  exact hnone.1 rfl

end Lmrs
