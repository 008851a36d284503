import Lmrs.Lib.Posix.Processes
import Lmrs.Lib.Text
import Lmrs.Lib.Transition

/-!
# The server process manager

Source: `lmrs/manager.py`.

An invocation of `lmrsmgr` is a process of the host that goes from one system call to the next
(`Point`); `Running.next` is what it does at a point, given the pid file, the process table and what the
system answers. Between two of its calls anything may happen on the host: `Host.step` is a step of either.

The manager knows the server by the number in the pid file alone.

* `Running.next_cases`: what a step of the manager can be.
* `Host.Sound.step`: the numbers the manager may signal keep standing for servers, if nothing disorderly
  happens.
* `launched_of_server`: the servers of a host are what the starts of the run launched.
* `signals_own_server`: in an orderly run every signal goes to a live server that a start launched.
-/

namespace Lmrs.Manager

open Python Posix Transition

/-! ## The pid file -/

/-- The pid file. -/
inductive PidFile where
  /-- There is no regular file. -/
  | missing
  /-- Reading it raises `OSError`. -/
  | unreadable
  /-- Its bytes are not UTF-8. -/
  | undecodable (message : String)
  | text (content : String)
deriving DecidableEq

/-- `_read_state`. -/
def readState : PidFile → Except PyException (Option Int × Option String)
  | .missing | .unreadable => .ok (none, none)
  | .undecodable message => .error ⟨"UnicodeDecodeError", message⟩
  | .text content =>
      match splitLines content.toList with
      | [] => .ok (none, none)
      | line :: rest =>
          match intOfString (String.ofList (strip line)) with
          | .error _ => .ok (none, none)
          | .ok pid => .ok (some pid, rest.head?.map fun cfg => String.ofList (strip cfg))

/-- The text `_write_state` writes. -/
def stateText (pid : Nat) (cfg : String) : String :=
  String.ofList (Nat.toDigits 10 pid ++ '\n' :: (cfg.toList ++ ['\n']))

/-- The number recorded in the pid file. -/
def PidFile.recorded (file : PidFile) : Option Int :=
  match readState file with
  | .ok (pid, _) => pid
  | .error _ => none

/-! ## The manager -/

/-- Where a process of the host comes from. -/
inductive Origin where
  /-- A start launched it as the server. -/
  | server
  | other
deriving DecidableEq

/-- The signals the manager sends to stop a process. -/
inductive Signal where
  | sigterm
  | sigkill
deriving DecidableEq

/-- A signal sent, with the process that got it as it was then. -/
structure Sent where
  signal : Signal
  process : Process Origin
deriving DecidableEq

/-- `_pid_alive`. -/
def pidAlive (procs : List (Process Origin)) (self : Sender) (pid : Int) : Except KillError Bool :=
  match kill procs self pid with
  | .error .noSuchProcess => .ok false
  | .error .notPermitted => .ok true
  | .error .outOfRange => .error .outOfRange
  | .ok _ => .ok true

/-- `cfg or config_path()`. -/
def resolveConfig (cfg : Option String) (configPath : String) : String :=
  match cfg with
  | none => configPath
  | some cfg => if cfg = "" then configPath else cfg

/-- The operations of the manager. -/
inductive Action where
  | start (wait : Bool)
  | stop
  | status
  | restart

/-- What follows once the pid file is cleared. `child` is the server this invocation launched, if any. -/
inductive After where
  | finish (code : Nat) (child : Option Nat)
  | awaitPort
  | launch (wait : Bool)
deriving DecidableEq

/-- The call an invocation makes next. -/
inductive Point where
  | stopRead (restarting : Bool)
  | stopProbe (pid : Int) (restarting : Bool)
  | terminate (pid : Int) (after : After)
  | grace (pid : Int) (after : After)
  | slay (pid : Int) (after : After)
  | clear (after : After)
  | awaitPort
  | startRead (wait : Bool)
  | startProbe (pid : Int) (wait : Bool)
  | launch (wait : Bool)
  | settle (pid : Nat) (wait : Bool)
  | write (pid : Nat) (wait : Bool)
  | health (pid : Nat)
  | statusRead
  | statusProbe (pid : Int) (cfg : Option String)
  | statusHealth (cfg : String)
  | exit (code : Nat) (child : Option Nat)
deriving DecidableEq

/-- Where an operation begins. -/
def Action.point : Action → Point
  | .start wait => .startRead wait
  | .stop => .stopRead false
  | .status => .statusRead
  | .restart => .stopRead true

/-- What follows `stop`. -/
def afterStop (restarting : Bool) : After :=
  if restarting then .awaitPort else .finish 0 none

/-- Where the invocation goes on after clearing the pid file. -/
def After.point : After → Point
  | .finish code child => .exit code child
  | .awaitPort => .awaitPort
  | .launch wait => .launch wait

/-- The server this invocation launched. -/
def After.child : After → Option Nat
  | .finish _ child => child
  | .awaitPort | .launch _ => none

/-- The server this invocation launched. -/
def Point.child : Point → Option Nat
  | .settle pid _ | .write pid _ | .health pid => some pid
  | .terminate _ after | .grace _ after | .slay _ after | .clear after => after.child
  | .exit _ child => child
  | _ => none

/-- The number this invocation is about to stop. -/
def Point.target : Point → Option Int
  | .stopProbe pid _ | .terminate pid _ | .grace pid _ | .slay pid _ => some pid
  | _ => none

/-- The server whose health this invocation waits for. -/
def Point.awaited : Point → Option Nat
  | .health pid => some pid
  | _ => none

/-- An invocation of `lmrsmgr`. -/
structure Running where
  self : Sender
  /-- `config_path()` -/
  configPath : String
  /-- The configuration the operation resolved. -/
  resolved : String
  point : Point

/-- What the system answers at a call. -/
structure Answer where
  /-- The call raises, where it can. -/
  raises : Bool
  /-- The deadline of the loop has passed. -/
  expired : Bool
  /-- The health endpoint answers with status 200; the port is free. -/
  ok : Bool
  /-- The number of a process that is created. -/
  newPid : Nat

/-- What an invocation does in one step. -/
inductive Move where
  | goto (point : Point)
  | signal (signal : Signal) (hit : List (Process Origin)) (point : Point)
  | clear (point : Point)
  | create (pid : Nat) (point : Point)
  | record (pid : Nat) (point : Point)
  /-- It returns a code, or ends with an exception. -/
  | leave (code : Option Nat)

/-- `stop`, `_kill`, `start`, `status` and `restart`, one system call at a time. -/
def Running.next (m : Running) (file : PidFile) (procs : List (Process Origin)) (a : Answer) : Move :=
  match m.point with
  | .stopRead restarting =>
      match readState file with
      | .error _ => .leave none
      | .ok (none, _) => .goto (afterStop restarting).point
      | .ok (some pid, _) => .goto (.stopProbe pid restarting)
  | .stopProbe pid restarting =>
      match pidAlive procs m.self pid with
      | .error _ => .leave none
      | .ok false => .goto (.clear (afterStop restarting))
      | .ok true => .goto (.terminate pid (afterStop restarting))
  | .terminate pid after =>
      match kill procs m.self pid with
      | .error .noSuchProcess => .goto (.clear after)
      | .error _ => .leave none
      | .ok hit => .signal .sigterm hit (.grace pid after)
  | .grace pid after =>
      if a.expired then .goto (.slay pid after)
      else match pidAlive procs m.self pid with
        | .error _ => .leave none
        | .ok false => .goto (.clear after)
        | .ok true => .goto (.grace pid after)
  | .slay pid after =>
      match kill procs m.self pid with
      | .error .noSuchProcess => .goto (.clear after)
      | .error _ => .leave none
      | .ok hit => .signal .sigkill hit (.clear after)
  | .clear after => if a.raises then .leave none else .clear after.point
  | .awaitPort =>
      if a.raises then .leave none
      else if a.expired || a.ok then .goto (.startRead true) else .goto .awaitPort
  | .startRead wait =>
      match readState file with
      | .error _ => .leave none
      | .ok (none, _) => .goto (.launch wait)
      | .ok (some pid, _) => .goto (.startProbe pid wait)
  | .startProbe pid wait =>
      match pidAlive procs m.self pid with
      | .error _ => .leave none
      | .ok false => .goto (.clear (.launch wait))
      | .ok true => .goto (.exit 1 none)
  | .launch wait =>
      if a.raises || decide (¬ Unused procs a.newPid) then .leave none
      else .create a.newPid (.settle a.newPid wait)
  | .settle pid wait =>
      if procs.any fun p => decide (p.pid = pid) && p.exited then .goto (.exit 1 (some pid))
      else .goto (.write pid wait)
  | .write pid wait =>
      if a.raises then .leave none
      else .record pid (if wait then .health pid else .exit 0 (some pid))
  | .health pid =>
      -- the deadline is looked at before the endpoint is
      if a.expired then .goto (.terminate pid (.finish 1 (some pid)))
      else if a.raises then .leave none
      else if a.ok then .goto (.exit 0 (some pid)) else .goto (.health pid)
  | .statusRead =>
      match readState file with
      | .error _ => .leave none
      | .ok (none, _) => .goto (.exit 3 none)
      | .ok (some pid, cfg) => .goto (.statusProbe pid cfg)
  | .statusProbe pid cfg =>
      match pidAlive procs m.self pid with
      | .error _ => .leave none
      | .ok false => .goto (.clear (.finish 3 none))
      | .ok true => .goto (.statusHealth (resolveConfig cfg m.configPath))
  | .statusHealth _ => if a.raises then .leave none else .goto (.exit (if a.ok then 0 else 1) none)
  | .exit code _ => .leave (some code)

/-! ## The host -/

/-- A host with its processes, its pid file, the invocation of the manager that is running, and the
signals sent so far. -/
structure Host where
  procs : List (Process Origin)
  pidFile : PidFile
  running : Option Running
  signals : List Sent
  /-- What the last operation returned; nothing, if it raised or was killed. -/
  returned : Option Nat

/-- A host before the manager was ever used. -/
def Host.booted : Host := ⟨[], .missing, none, [], none⟩

/-- What happens on the host. -/
inductive Event where
  /-- A process exits, on its own or at a signal. -/
  | exits (pid : Nat)
  /-- A process the manager has nothing to do with gets a number. -/
  | appears (pid group : Nat) (permitted : Bool)
  | reboots
  /-- Something else writes the pid file, or removes it. -/
  | writes (file : PidFile)
  | begins (action : Action) (cfg : Option String) (configPath : String) (self : Sender)
  | proceeds (answer : Answer)

/-- The invocation ends; its parent collects it, and the first process its children. -/
def Host.leave (h : Host) (m : Running) (code : Option Nat) : Host :=
  { h with procs := collect m.self.pid h.procs, running := none, returned := code }

/-- The effect of a move. -/
def Host.apply (h : Host) (m : Running) : Move → Host
  | .goto point => { h with running := some { m with point } }
  | .signal signal hit point =>
      { h with
        running := some { m with point }
        signals := h.signals ++ hit.map fun p => ⟨signal, p⟩ }
  | .clear point => { h with running := some { m with point }, pidFile := .missing }
  | .create pid point =>
      -- `start_new_session=True`: the server leads a group of its own
      { h with
        running := some { m with point }
        procs := ⟨pid, pid, .server, true, false⟩ :: h.procs }
  | .record pid point =>
      { h with running := some { m with point }, pidFile := .text (stateText pid m.resolved) }
  | .leave code => h.leave m code

/-- A step of the host. Two processes with one number cannot be, and a step to that changes nothing. The model follows
one invocation of the manager at a time: that another begins beside it is left out, and changes nothing either. -/
def Host.step (h : Host) : Event → Host
  | .exits pid =>
      match h.running with
      | none => { h with procs := remove pid h.procs }
      | some m =>
          if m.self.pid = pid then h.leave m none
          else if m.point.child = some pid then { h with procs := markExited pid h.procs }
          else { h with procs := remove pid h.procs }
  | .appears pid group permitted =>
      if Unused h.procs pid then { h with procs := ⟨pid, group, .other, permitted, false⟩ :: h.procs }
      else h
  | .reboots => { h with procs := [], running := none, returned := none }
  | .writes file => { h with pidFile := file }
  | .begins action cfg configPath self =>
      if h.running.isNone ∧ Unused h.procs self.pid then
        { h with
          procs := ⟨self.pid, self.group, .other, true, false⟩ :: h.procs
          running := some ⟨self, configPath, resolveConfig cfg configPath, action.point⟩ }
      else h
  | .proceeds answer =>
      match h.running with
      | none => h
      | some m => h.apply m (m.next h.pidFile h.procs answer)

/-! ## Orderly steps -/

/-- The invocation that is running, as a sender. -/
def Host.sender (h : Host) : Option Sender := h.running.map Running.self

/-- The server the invocation that is running has launched. -/
def Host.child (h : Host) : Option Nat := h.running.bind fun m => m.point.child

/-- The number the invocation that is running is about to stop. -/
def Host.target (h : Host) : Option Int := h.running.bind fun m => m.point.target

/-- The server whose health the invocation that is running waits for. -/
def Host.awaited (h : Host) : Option Nat := h.running.bind fun m => m.point.awaited

/-- The numbers the manager may come to signal: the one in the pid file, and the one that is about to be
stopped. -/
def Host.named (h : Host) : List Int := h.pidFile.recorded.toList ++ h.target.toList

/-- The number stands for nothing but servers. -/
def OnlyServers (procs : List (Process Origin)) (sender : Option Sender) (n : Int) : Prop :=
  ∀ p ∈ procs, p.reachedBy sender n = true → p.origin = .server

instance (procs : List (Process Origin)) (sender : Option Sender) (n : Int) :
    Decidable (OnlyServers procs sender n) :=
  inferInstanceAs (Decidable (∀ p ∈ procs, _))

/-- Nothing disorderly happens:

* a process that appears, an invocation of the manager among them, is not one that the number in the pid
  file, or the one being stopped, stands for;
* whatever else writes the pid file leaves no number in it that stands for anything but servers;
* a server does not exit while the invocation that launched it waits for its health in vain or stops it,
  as that invocation is its parent and does not collect it. -/
def Orderly (h : Host) : Event → Prop
  | .exits pid => h.child = some pid → h.target = none
  | .appears pid group permitted => ∀ n ∈ h.named,
      Process.reachedBy h.sender n (⟨pid, group, .other, permitted, false⟩ : Process Origin) = false
  | .reboots => True
  | .writes file => ∀ n ∈ file.recorded, OnlyServers h.procs h.sender n
  | .begins _ _ _ self => ∀ n ∈ h.pidFile.recorded,
      OnlyServers (⟨self.pid, self.group, .other, true, false⟩ :: h.procs) (some self) n
  | .proceeds answer => answer.expired = true →
      ∀ pid ∈ h.awaited, ∀ p ∈ h.procs, p.pid = pid → p.exited = false

instance (h : Host) : DecidablePred (Orderly h)
  | .exits _ => inferInstanceAs (Decidable (_ → _))
  | .appears .. => inferInstanceAs (Decidable (∀ n ∈ h.named, _))
  | .reboots => inferInstanceAs (Decidable True)
  | .writes file => inferInstanceAs (Decidable (∀ n ∈ file.recorded, _))
  | .begins .. => inferInstanceAs (Decidable (∀ n ∈ h.pidFile.recorded, _))
  | .proceeds _ => inferInstanceAs (Decidable (_ → ∀ pid ∈ h.awaited, ∀ p ∈ h.procs, _))

/-! ## What a step of the manager can be -/

/-- The moves of an invocation, as far as the processes it may signal go. -/
inductive Running.Moves (m : Running) (file : PidFile) (procs : List (Process Origin)) (a : Answer) :
    Move → Prop
  | goto {point : Point} : point.child = m.point.child → point.target = none →
      Moves m file procs a (.goto point)
  /-- It takes the number from the pid file. -/
  | reads {point : Point} {n : Int} : file.recorded = some n → point.target = some n →
      m.point.child = none → point.child = none → Moves m file procs a (.goto point)
  | holds {point : Point} {n : Int} : m.point.target = some n → point.target = some n →
      point.child = m.point.child → Moves m file procs a (.goto point)
  /-- The server it launched is not healthy in time. -/
  | givesUp {pid : Nat} : m.point = .health pid → a.expired = true →
      Moves m file procs a (.goto (.terminate pid (.finish 1 (some pid))))
  | signals {n : Int} {signal : Signal} {hit : List (Process Origin)} {point : Point} :
      m.point.target = some n → kill procs m.self n = .ok hit → point.child = m.point.child →
      (∀ k, point.target = some k → k = n) → Moves m file procs a (.signal signal hit point)
  | clears {point : Point} : point.child = m.point.child → point.target = none →
      Moves m file procs a (.clear point)
  | creates {wait : Bool} {point : Point} : m.point = .launch wait → Unused procs a.newPid →
      point.child = some a.newPid → point.target = none → Moves m file procs a (.create a.newPid point)
  | records {pid : Nat} {point : Point} : m.point.child = some pid → point.child = some pid →
      point.target = none → Moves m file procs a (.record pid point)
  | leaves {code : Option Nat} : Moves m file procs a (.leave code)

@[simp] theorem afterStop_child (restarting : Bool) : (afterStop restarting).child = none := by
  cases restarting <;> rfl

@[simp] theorem After.point_child (after : After) : after.point.child = after.child := by
  cases after <;> rfl

@[simp] theorem After.point_target (after : After) : after.point.target = none := by
  cases after <;> rfl

/-- The number read is the one recorded. -/
theorem PidFile.recorded_of_readState {file : PidFile} {pid : Option Int} {cfg : Option String}
    (h : readState file = .ok (pid, cfg)) : file.recorded = pid := by
  rw [recorded, h]

/-- **What a step of the manager can be.** -/
theorem Running.next_cases (m : Running) (file : PidFile) (procs : List (Process Origin)) (a : Answer) :
    m.Moves file procs a (m.next file procs a) := by
  cases hpoint : m.point with
  | stopRead restarting =>
      have hchild : m.point.child = none := by rw [hpoint]; rfl
      simp only [next, hpoint]
      split
      · exact .leaves
      · exact .goto (by rw [hchild, After.point_child, afterStop_child]) (After.point_target _)
      · next hread => exact .reads (PidFile.recorded_of_readState hread) rfl hchild rfl
  | stopProbe pid restarting =>
      have hchild : m.point.child = none := by rw [hpoint]; rfl
      simp only [next, hpoint]
      split
      · exact .leaves
      · exact .goto ((afterStop_child restarting).trans hchild.symm) rfl
      · exact .holds (by rw [hpoint]; rfl) rfl ((afterStop_child restarting).trans hchild.symm)
  | terminate pid after =>
      simp only [next, hpoint]
      split
      · exact .goto (by rw [hpoint]; rfl) rfl
      · exact .leaves
      · next hkill =>
          refine .signals (by rw [hpoint]; rfl) hkill (by rw [hpoint]; rfl) ?_
          intro k hk
          exact (Option.some_inj.mp hk).symm
  | grace pid after =>
      simp only [next, hpoint]
      split_ifs
      · exact .holds (by rw [hpoint]; rfl) rfl (by rw [hpoint]; rfl)
      · split
        · exact .leaves
        · exact .goto (by rw [hpoint]; rfl) rfl
        · exact .holds (by rw [hpoint]; rfl) rfl (by rw [hpoint])
  | slay pid after =>
      simp only [next, hpoint]
      split
      · exact .goto (by rw [hpoint]; rfl) rfl
      · exact .leaves
      · next hkill =>
          refine .signals (by rw [hpoint]; rfl) hkill (by rw [hpoint]; rfl) ?_
          intro k hk
          cases hk
  | clear after =>
      simp only [next, hpoint]
      split_ifs
      · exact .leaves
      · exact .clears (by rw [hpoint]; exact After.point_child after) (After.point_target after)
  | awaitPort =>
      simp only [next, hpoint]
      split_ifs
      · exact .leaves
      · exact .goto (by rw [hpoint]; rfl) rfl
      · exact .goto (by rw [hpoint]) rfl
  | startRead wait =>
      simp only [next, hpoint]
      split
      · exact .leaves
      · exact .goto (by rw [hpoint]; rfl) rfl
      · exact .goto (by rw [hpoint]; rfl) rfl
  | startProbe pid wait =>
      simp only [next, hpoint]
      split
      · exact .leaves
      · exact .goto (by rw [hpoint]; rfl) rfl
      · exact .goto (by rw [hpoint]; rfl) rfl
  | launch wait =>
      simp only [next, hpoint]
      split_ifs with hraises
      · exact .leaves
      · simp only [Bool.or_eq_true, decide_eq_true_eq, not_or, not_not] at hraises
        exact .creates hpoint hraises.2 rfl rfl
  | settle pid wait =>
      simp only [next, hpoint]
      split_ifs
      · exact .goto (by rw [hpoint]; rfl) rfl
      · exact .goto (by rw [hpoint]; rfl) rfl
  | write pid wait =>
      simp only [next, hpoint]
      split_ifs
      · exact .leaves
      · exact .records (by rw [hpoint]; rfl) rfl rfl
      · exact .records (by rw [hpoint]; rfl) rfl rfl
  | health pid =>
      simp only [next, hpoint]
      split_ifs with hexpired
      · exact .givesUp hpoint hexpired
      · exact .leaves
      · exact .goto (by rw [hpoint]; rfl) rfl
      · exact .goto (by rw [hpoint]) rfl
  | statusRead =>
      simp only [next, hpoint]
      split
      · exact .leaves
      · exact .goto (by rw [hpoint]; rfl) rfl
      · exact .goto (by rw [hpoint]; rfl) rfl
  | statusProbe pid cfg =>
      simp only [next, hpoint]
      split
      · exact .leaves
      · exact .goto (by rw [hpoint]; rfl) rfl
      · exact .goto (by rw [hpoint]; rfl) rfl
  | statusHealth cfg =>
      simp only [next, hpoint]
      split_ifs
      · exact .leaves
      · exact .goto (by rw [hpoint]; rfl) rfl
      · exact .goto (by rw [hpoint]; rfl) rfl
  | exit code child =>
      simp only [next, hpoint]
      exact .leaves

/-! ## The invariant -/

/-- The number written is read back. -/
theorem recorded_stateText {pid : Nat} (hpid : pid < 2 ^ 31) (cfg : String) :
    (PidFile.text (stateText pid cfg)).recorded = some (pid : Int) := by
  have hdigits : ∀ c ∈ Nat.toDigits 10 pid, c.isDigit = true :=
    fun c hc => Nat.isDigit_of_mem_toDigits (by decide) (by decide) hc
  have hlines : splitLines (stateText pid cfg).toList
      = Nat.toDigits 10 pid :: splitLines (cfg.toList ++ ['\n']) := by
    rw [stateText, String.toList_ofList]
    exact splitLines_cons_line (fun c hc => (digit_facts (hdigits c hc)).2.2.1) _
  have hstrip : strip (Nat.toDigits 10 pid) = Nat.toDigits 10 pid :=
    strip_of_no_space fun c hc => (digit_facts (hdigits c hc)).2.1
  have hlength : (Nat.toDigits 10 pid).length ≤ maxStrDigits := by
    have hten : (Nat.toDigits 10 pid).length ≤ 10 :=
      (Nat.length_toDigits_le_iff (by decide) (by decide)).mpr (hpid.trans (by norm_num))
    exact hten.trans (by decide)
  have hread : intOfString (String.ofList (Nat.toDigits 10 pid)) = .ok (pid : Int) :=
    intOfString_toDigits (by rw [String.toList_ofList, hstrip]) hlength
  simp only [PidFile.recorded, readState, hlines, hstrip, hread]

/-- **The invariant**: every signal so far was the manager's to send, the numbers it may come to signal
stand for servers, the server it launched is in the table, and nothing waits to be collected but this
server, while nothing is being stopped. -/
structure Host.Sound (h : Host) : Prop where
  signalled : ∀ sent ∈ h.signals, sent.process.origin = .server ∧ sent.process.exited = false
  named : ∀ n ∈ h.named, OnlyServers h.procs h.sender n
  child : ∀ c, h.child = some c → 0 < c ∧ c < 2 ^ 31 ∧ (∃ p ∈ h.procs, p.pid = c) ∧
    ∀ p ∈ h.procs, p.pid = c → p.origin = .server
  exited : ∀ p ∈ h.procs, p.exited = true → h.child = some p.pid ∧ h.target = none

/-- A host before the manager was ever used. -/
theorem Host.Sound.booted : Host.booted.Sound where
  signalled := fun _ hsent => absurd hsent List.not_mem_nil
  named := fun _ _ _ hp => absurd hp List.not_mem_nil
  child := fun c hc => by cases hc
  exited := fun _ hp => absurd hp List.not_mem_nil

section steps

variable {h : Host} {m : Running}

/-- What the host knows of the invocation that is running. -/
theorem Host.of_running (hm : h.running = some m) : h.sender = some m.self ∧
    h.child = m.point.child ∧ h.target = m.point.target ∧ h.awaited = m.point.awaited := by
  unfold sender child target awaited
  rw [hm]
  exact ⟨rfl, rfl, rfl, rfl⟩

/-- Without an invocation there is nothing to know. -/
theorem Host.of_idle (hidle : h.running = none) :
    h.sender = none ∧ h.child = none ∧ h.target = none := by
  unfold sender child target
  rw [hidle]
  exact ⟨rfl, rfl, rfl⟩

/-- The numbers that matter. -/
theorem Host.mem_named {n : Int} :
    n ∈ h.named ↔ h.pidFile.recorded = some n ∨ h.target = some n := by
  rw [named, List.mem_append, Option.mem_toList, Option.mem_toList]

/-- The recorded number stands for servers. -/
theorem Host.Sound.recorded (hs : h.Sound) {n : Int} (hn : h.pidFile.recorded = some n) :
    OnlyServers h.procs h.sender n :=
  hs.named n (mem_named.mpr (.inl hn))

/-- The number that is about to be stopped stands for servers. -/
theorem Host.Sound.held (hs : h.Sound) {n : Int} (hn : h.target = some n) :
    OnlyServers h.procs h.sender n :=
  hs.named n (mem_named.mpr (.inr hn))

/-- While no invocation runs, the numbers that matter are the recorded one. -/
theorem Host.Sound.idle
    (hs : ∀ sent ∈ h.signals, sent.process.origin = .server ∧ sent.process.exited = false)
    (hrecorded : ∀ n, h.pidFile.recorded = some n → OnlyServers h.procs none n)
    (hexited : ∀ p ∈ h.procs, p.exited = false) (hidle : h.running = none) : h.Sound where
  signalled := hs
  named := by
    obtain ⟨hsender, -, htarget⟩ := of_idle hidle
    intro n hn
    rw [hsender]
    rcases mem_named.mp hn with hfile | hheld
    · exact hrecorded n hfile
    · cases htarget.symm.trans hheld
  child := by
    intro c hc
    cases (of_idle hidle).2.1.symm.trans hc
  exited := fun p hp he => absurd he (by rw [hexited p hp]; decide)

/-- A number that stands for servers only does so for fewer processes and without the sender. -/
theorem OnlyServers.mono {procs procs' : List (Process Origin)} {sender : Option Sender} {n : Int}
    (hn : OnlyServers procs sender n) (hsub : ∀ p ∈ procs', p ∈ procs) : OnlyServers procs' none n :=
  fun p hp hreach => hn p (hsub p hp) (Process.reachedBy_of_none sender hreach)

/-- An invocation ends. -/
theorem Host.Sound.leave (hs : h.Sound) (m : Running) (code : Option Nat) : (h.leave m code).Sound := by
  refine Host.Sound.idle hs.signalled ?_ (fun p hp => (mem_collect hp).2) rfl
  intro n hfile
  exact (hs.recorded hfile).mono fun p hp => (mem_collect hp).1

/-- The invocation goes on with the processes as they are. -/
theorem Host.Sound.advance (hs : h.Sound) (hm : h.running = some m) {h' : Host} {point : Point}
    (hprocs : h'.procs = h.procs) (hrunning : h'.running = some { m with point })
    (hsignals : ∀ sent ∈ h'.signals, sent.process.origin = .server ∧ sent.process.exited = false)
    (hfile : ∀ n, h'.pidFile.recorded = some n → OnlyServers h.procs (some m.self) n)
    (hchild : point.child = m.point.child)
    (htarget : ∀ n, point.target = some n →
      OnlyServers h.procs (some m.self) n ∧ ∀ p ∈ h.procs, p.exited = false) : h'.Sound where
  signalled := hsignals
  named := by
    obtain ⟨hsender, -, hheld, -⟩ := of_running hrunning
    intro n hn
    rw [hprocs, hsender]
    rcases mem_named.mp hn with hrecorded | hn
    · exact hfile n hrecorded
    · exact (htarget n (hheld.symm.trans hn)).1
  child := by
    have hsame : h'.child = h.child := by
      rw [(of_running hrunning).2.1, (of_running hm).2.1]
      exact hchild
    rw [hsame, hprocs]
    exact hs.child
  exited := by
    rw [hprocs, (of_running hrunning).2.1, (of_running hrunning).2.2.1]
    intro p hp he
    refine ⟨?_, ?_⟩
    · rw [← (hs.exited p hp he).1, (of_running hm).2.1]
      exact hchild
    · by_contra hsome
      obtain ⟨n, hn⟩ := Option.ne_none_iff_exists'.mp hsome
      cases ((htarget n hn).2 p hp).symm.trans he

/-- While something is being stopped, nothing waits to be collected. -/
theorem Host.Sound.none_exited (hs : h.Sound) {n : Int} (hn : h.target = some n) :
    ∀ p ∈ h.procs, p.exited = false := by
  intro p hp
  by_contra he
  cases (hs.exited p hp (Bool.not_eq_false _ ▸ he)).2.symm.trans hn

/-- The invocation launches the server. -/
theorem Host.Sound.create (hs : h.Sound) (hm : h.running = some m) {pid : Nat} {point : Point}
    (hunused : Unused h.procs pid) (hchild : point.child = some pid) (htarget : point.target = none)
    (hnone : m.point.child = none) : (h.apply m (.create pid point)).Sound where
  signalled := hs.signalled
  named := by
    intro n hn p hp hreach
    rcases mem_named.mp hn with hrecorded | hheld
    · rcases List.mem_cons.mp hp with rfl | hp
      · rfl
      · exact hs.recorded hrecorded p hp ((of_running hm).1 ▸ hreach)
    · cases htarget.symm.trans hheld
  child := by
    intro c hc
    cases hchild.symm.trans hc
    obtain ⟨hpos, hlt, hfree⟩ := hunused
    refine ⟨hpos, hlt, ⟨_, List.mem_cons_self, rfl⟩, ?_⟩
    intro p hp hpid
    rcases List.mem_cons.mp hp with rfl | hp
    · rfl
    · exact absurd hpid (hfree p hp)
  exited := by
    intro p hp he
    rcases List.mem_cons.mp hp with rfl | hp
    · cases he
    · cases hnone.symm.trans ((of_running hm).2.1.symm.trans (hs.exited p hp he).1)

/-- **One move of the invocation that is running.** -/
theorem Host.Sound.apply (hs : h.Sound) (hm : h.running = some m) {a : Answer} {move : Move}
    (hmove : m.Moves h.pidFile h.procs a move) (horderly : Orderly h (.proceeds a)) :
    (h.apply m move).Sound := by
  obtain ⟨hsender, hlaunched, hheld, hawaited⟩ := of_running hm
  have hfile : ∀ n, h.pidFile.recorded = some n → OnlyServers h.procs (some m.self) n :=
    fun n hn => hsender ▸ hs.recorded hn
  have hstopping : ∀ n, m.point.target = some n →
      OnlyServers h.procs (some m.self) n ∧ ∀ p ∈ h.procs, p.exited = false :=
    fun n hn => ⟨hsender ▸ hs.held (hheld.trans hn), hs.none_exited (hheld.trans hn)⟩
  cases hmove with
  | goto hchild htarget =>
      refine hs.advance hm rfl rfl hs.signalled hfile hchild ?_
      intro n hn
      rw [htarget] at hn
      cases hn
  | reads hrecorded htarget hnone hchild =>
      refine hs.advance hm rfl rfl hs.signalled hfile (hchild.trans hnone.symm) ?_
      intro n hn
      rw [htarget] at hn
      cases hn
      refine ⟨hfile _ hrecorded, ?_⟩
      intro p hp
      by_contra he
      cases hnone.symm.trans (hlaunched.symm.trans (hs.exited p hp (Bool.not_eq_false _ ▸ he)).1)
  | holds hbefore htarget hchild =>
      refine hs.advance hm rfl rfl hs.signalled hfile hchild ?_
      intro n hn
      rw [htarget] at hn
      cases hn
      exact hstopping _ hbefore
  | @givesUp pid hpoint hexpired =>
      have hpid : h.child = some pid := hlaunched.trans (by rw [hpoint]; rfl)
      have hwaits : h.awaited = some pid := hawaited.trans (by rw [hpoint]; rfl)
      obtain ⟨hpos, -, -, hserver⟩ := hs.child pid hpid
      refine hs.advance hm rfl rfl hs.signalled hfile (by rw [hpoint]; rfl) ?_
      intro n hn
      cases hn
      refine ⟨?_, ?_⟩
      · exact fun p hp hreach => hserver p hp ((Process.reachedBy_pid _ hpos).mp hreach)
      · intro p hp
        by_contra he
        have hself := (hs.exited p hp (Bool.not_eq_false _ ▸ he)).1
        rw [hpid] at hself
        exact he (horderly hexpired pid hwaits p hp (Option.some_inj.mp hself).symm)
  | signals hbefore hkill hchild htarget =>
      refine hs.advance hm rfl rfl ?_ hfile hchild ?_
      · intro sent hsent
        rcases List.mem_append.mp hsent with hold | hnew
        · exact hs.signalled sent hold
        · obtain ⟨p, hp, rfl⟩ := List.mem_map.mp hnew
          obtain ⟨hmem, hreach⟩ := mem_of_kill hkill hp
          obtain ⟨hservers, halive⟩ := hstopping _ hbefore
          exact ⟨hservers p hmem hreach, halive p hmem⟩
      · intro k hk
        obtain rfl := htarget k hk
        exact hstopping _ hbefore
  | clears hchild htarget =>
      refine hs.advance hm rfl rfl hs.signalled ?_ hchild ?_
      · intro n hn
        cases hn
      · intro n hn
        rw [htarget] at hn
        cases hn
  | creates hpoint hunused hchild htarget =>
      exact hs.create hm hunused hchild htarget (by rw [hpoint]; rfl)
  | records hbefore hchild htarget =>
      obtain ⟨hpos, hlt, -, hserver⟩ := hs.child _ (hlaunched.trans hbefore)
      refine hs.advance hm rfl rfl hs.signalled ?_ (hchild.trans hbefore.symm) ?_
      · intro n hn
        cases (recorded_stateText hlt m.resolved).symm.trans hn
        exact fun p hp hreach => hserver p hp ((Process.reachedBy_pid _ hpos).mp hreach)
      · intro n hn
        rw [htarget] at hn
        cases hn
  | leaves => exact hs.leave m _

/-- Fewer processes, among them the server the invocation launched. -/
theorem Host.Sound.remove (hs : h.Sound) {pid : Nat} (hpid : h.child ≠ some pid) :
    { h with procs := remove pid h.procs }.Sound where
  signalled := hs.signalled
  named := fun n hn p hp => hs.named n hn p (mem_remove.mp hp).1
  child := by
    intro c hc
    obtain ⟨hpos, hlt, ⟨p, hp, hpc⟩, hserver⟩ := hs.child c hc
    refine ⟨hpos, hlt, ⟨p, mem_remove.mpr ⟨hp, ?_⟩, hpc⟩, ?_⟩
    · rintro rfl
      exact hpid (hpc ▸ hc)
    · exact fun q hq => hserver q (mem_remove.mp hq).1
  exited := fun p hp => hs.exited p (mem_remove.mp hp).1

/-- The server that the invocation launched exits, and waits for it. -/
theorem Host.Sound.markExited (hs : h.Sound) {pid : Nat} (hpid : h.child = some pid)
    (hidle : h.target = none) :
    { h with procs := markExited pid h.procs }.Sound where
  signalled := hs.signalled
  named := by
    intro n hn p hp hreach
    obtain ⟨q, hq, -, horigin, hsame, -⟩ := mem_markExited hp
    rw [horigin]
    exact hs.named n hn q hq ((hsame _ _).symm.trans hreach)
  child := by
    intro c hc
    obtain ⟨hpos, hlt, hpresent, hserver⟩ := hs.child c hc
    refine ⟨hpos, hlt, exists_mem_markExited hpresent, ?_⟩
    intro p hp hpc
    obtain ⟨q, hq, hnumber, horigin, -, -⟩ := mem_markExited hp
    rw [horigin]
    exact hserver q hq (hnumber ▸ hpc)
  exited := by
    intro p hp he
    obtain ⟨q, hq, hnumber, -, -, hexited⟩ := mem_markExited hp
    rw [hnumber]
    refine ⟨?_, hidle⟩
    rcases hexited he with hbefore | hnow
    · exact (hs.exited q hq hbefore).1
    · exact hnow ▸ hpid

/-- A process that no number that matters stands for. -/
theorem Host.Sound.appears (hs : h.Sound) {pid group : Nat} {permitted : Bool}
    (hunused : Unused h.procs pid) (horderly : Orderly h (.appears pid group permitted)) :
    { h with procs := ⟨pid, group, .other, permitted, false⟩ :: h.procs }.Sound where
  signalled := hs.signalled
  named := by
    intro n hn p hp hreach
    rcases List.mem_cons.mp hp with rfl | hp
    · exact absurd ((horderly n hn).symm.trans hreach) (by decide)
    · exact hs.named n hn p hp hreach
  child := by
    intro c hc
    obtain ⟨hpos, hlt, ⟨p, hp, hpc⟩, hserver⟩ := hs.child c hc
    refine ⟨hpos, hlt, ⟨p, List.mem_cons_of_mem _ hp, hpc⟩, ?_⟩
    intro q hq hqc
    rcases List.mem_cons.mp hq with rfl | hq
    · exact absurd (hpc.trans hqc.symm) (hunused.2.2 p hp)
    · exact hserver q hq hqc
  exited := by
    intro p hp he
    rcases List.mem_cons.mp hp with rfl | hp
    · cases he
    · exact hs.exited p hp he

/-- An invocation begins: it holds no number yet and has launched nothing. -/
theorem Action.point_facts (action : Action) : action.point.target = none ∧ action.point.child = none := by
  cases action <;> exact ⟨rfl, rfl⟩

/-- An invocation begins. -/
theorem Host.Sound.begins (hs : h.Sound) {action : Action} {cfg : Option String} {configPath : String}
    {self : Sender} (hidle : h.running.isNone) (horderly : Orderly h (.begins action cfg configPath self)) :
    { h with
      procs := ⟨self.pid, self.group, .other, true, false⟩ :: h.procs
      running := some ⟨self, configPath, resolveConfig cfg configPath, action.point⟩ }.Sound where
  signalled := hs.signalled
  named := by
    intro n hn
    rcases mem_named.mp hn with hrecorded | hheld
    · exact horderly n hrecorded
    · cases action.point_facts.1.symm.trans hheld
  child := by
    intro c hc
    cases action.point_facts.2.symm.trans hc
  exited := by
    intro p hp he
    rcases List.mem_cons.mp hp with rfl | hp
    · cases he
    · cases (of_idle (Option.isNone_iff_eq_none.mp hidle)).2.1.symm.trans (hs.exited p hp he).1

/-- **A step of the host**, orderly as it is, keeps the invariant. -/
theorem Host.Sound.step (hs : h.Sound) {e : Event} (horderly : Orderly h e) : (h.step e).Sound := by
  cases e with
  | exits pid =>
      simp only [Host.step]
      split
      · next hidle =>
          refine hs.remove ?_
          rw [(of_idle hidle).2.1]
          exact fun h => nomatch h
      · next m hm =>
          have hlaunched := (of_running hm).2.1
          split_ifs with hself hchild
          · exact hs.leave m none
          · exact hs.markExited (hlaunched.trans hchild) (horderly (hlaunched.trans hchild))
          · exact hs.remove (hlaunched ▸ hchild)
  | appears pid group permitted =>
      simp only [Host.step]
      split_ifs with hunused
      · exact hs.appears hunused horderly
      · exact hs
  | reboots =>
      have hnone : ∀ p ∈ ([] : List (Process Origin)), p.exited = false := by simp
      exact Host.Sound.idle hs.signalled (fun _ _ p hp => absurd hp List.not_mem_nil) hnone rfl
  | writes file =>
      refine ⟨hs.signalled, ?_, hs.child, hs.exited⟩
      intro n hn
      rcases mem_named.mp hn with hrecorded | hheld
      · exact horderly n hrecorded
      · exact hs.held hheld
  | begins action cfg configPath self =>
      simp only [Host.step]
      split_ifs with hbegins
      · exact hs.begins hbegins.1 horderly
      · exact hs
  | proceeds a =>
      simp only [Host.step]
      split
      · exact hs
      · next m hm => exact hs.apply hm (m.next_cases h.pidFile h.procs a) horderly

end steps

/-! ## Runs -/

/-- A start of the run launched a process with the number `pid`. -/
def LaunchedBy (as : List Event) (pid : Nat) : Prop :=
  ∃ before a after m wait, as = before ++ .proceeds a :: after ∧
    (runAll Host.step Host.booted before).running = some m ∧ m.point = .launch wait ∧ a.newPid = pid

/-- Every signal of the run went to a server that a start of the run had launched and that was alive. -/
def SignalsOwnServer (as : List Event) : Prop :=
  ∀ sent ∈ (runAll Host.step Host.booted as).signals,
    LaunchedBy as sent.process.pid ∧ sent.process.origin = .server ∧ sent.process.exited = false

/-- What a run launched, a longer one did. -/
theorem LaunchedBy.concat {as : List Event} {pid : Nat} (h : LaunchedBy as pid) (e : Event) :
    LaunchedBy (as ++ [e]) pid := by
  obtain ⟨before, a, after, m, wait, rfl, hrest⟩ := h
  exact ⟨before, a, after ++ [e], m, wait, by simp, hrest⟩

/-- A server of the table was there before the step, or the step launched it. -/
theorem Host.server_cases {h : Host} {e : Event} {p : Process Origin} (hp : p ∈ (h.step e).procs)
    (hserver : p.origin = .server) :
    (∃ q ∈ h.procs, q.origin = .server ∧ q.pid = p.pid) ∨
      ∃ m a wait, e = .proceeds a ∧ h.running = some m ∧ m.point = .launch wait ∧ a.newPid = p.pid := by
  cases e with
  | exits pid =>
      left
      simp only [Host.step] at hp
      split at hp
      · exact ⟨p, (mem_remove.mp hp).1, hserver, rfl⟩
      · next m hm =>
          split_ifs at hp
          · exact ⟨p, (mem_collect hp).1, hserver, rfl⟩
          · obtain ⟨q, hq, hnumber, horigin, -, -⟩ := mem_markExited hp
            exact ⟨q, hq, horigin ▸ hserver, hnumber.symm⟩
          · exact ⟨p, (mem_remove.mp hp).1, hserver, rfl⟩
  | appears pid group permitted =>
      left
      simp only [Host.step] at hp
      split_ifs at hp
      · rcases List.mem_cons.mp hp with rfl | hp
        · cases hserver
        · exact ⟨p, hp, hserver, rfl⟩
      · exact ⟨p, hp, hserver, rfl⟩
  | reboots => exact absurd hp List.not_mem_nil
  | writes file => exact .inl ⟨p, hp, hserver, rfl⟩
  | begins action cfg configPath self =>
      left
      simp only [Host.step] at hp
      split_ifs at hp
      · rcases List.mem_cons.mp hp with rfl | hp
        · cases hserver
        · exact ⟨p, hp, hserver, rfl⟩
      · exact ⟨p, hp, hserver, rfl⟩
  | proceeds a =>
      simp only [Host.step] at hp
      split at hp
      · exact .inl ⟨p, hp, hserver, rfl⟩
      · next m hm =>
          have hmove := m.next_cases h.pidFile h.procs a
          generalize m.next h.pidFile h.procs a = move at hp hmove
          cases hmove with
          | creates hpoint =>
              rcases List.mem_cons.mp hp with rfl | hp
              · exact .inr ⟨m, a, _, rfl, hm, hpoint, rfl⟩
              · exact .inl ⟨p, hp, hserver, rfl⟩
          | leaves => exact .inl ⟨p, (mem_collect hp).1, hserver, rfl⟩
          | goto | reads | holds | givesUp | signals | clears | records =>
              exact .inl ⟨p, hp, hserver, rfl⟩

/-- A signal was sent before the step, or the step sends it to a process of the table. -/
theorem Host.sent_cases {h : Host} {e : Event} {sent : Sent} (hsent : sent ∈ (h.step e).signals) :
    sent ∈ h.signals ∨ sent.process ∈ h.procs := by
  cases e with
  | exits pid =>
      simp only [Host.step] at hsent
      split at hsent
      · exact .inl hsent
      · split_ifs at hsent
        · exact .inl hsent
        · exact .inl hsent
        · exact .inl hsent
  | appears pid group permitted =>
      simp only [Host.step] at hsent
      split_ifs at hsent
      · exact .inl hsent
      · exact .inl hsent
  | reboots | writes file => exact .inl hsent
  | begins action cfg configPath self =>
      simp only [Host.step] at hsent
      split_ifs at hsent
      · exact .inl hsent
      · exact .inl hsent
  | proceeds a =>
      simp only [Host.step] at hsent
      split at hsent
      · exact .inl hsent
      · next m hm =>
          have hmove := m.next_cases h.pidFile h.procs a
          generalize m.next h.pidFile h.procs a = move at hsent hmove
          cases hmove with
          | signals hbefore hkill =>
              rcases List.mem_append.mp hsent with hold | hnew
              · exact .inl hold
              · obtain ⟨p, hp, rfl⟩ := List.mem_map.mp hnew
                exact .inr (mem_of_kill hkill hp).1
          | goto | reads | holds | givesUp | clears | creates | records | leaves => exact .inl hsent

/-- **Where a server comes from**: a start of the run launched it. -/
theorem launched_of_server (as : List Event) :
    (∀ p ∈ (runAll Host.step Host.booted as).procs, p.origin = .server → LaunchedBy as p.pid) ∧
      ∀ sent ∈ (runAll Host.step Host.booted as).signals, sent.process.origin = .server →
        LaunchedBy as sent.process.pid := by
  induction as using List.reverseRecOn with
  | nil => exact ⟨fun _ hp => absurd hp List.not_mem_nil, fun _ hsent => absurd hsent List.not_mem_nil⟩
  | append_singleton as e ih =>
      rw [runAll_concat]
      refine ⟨?_, ?_⟩
      · intro p hp hserver
        rcases Host.server_cases hp hserver with ⟨q, hq, hqserver, hpid⟩ |
          ⟨m, a, wait, rfl, hm, hpoint, hpid⟩
        · exact hpid ▸ (ih.1 q hq hqserver).concat e
        · exact ⟨as, a, [], m, wait, rfl, hm, hpoint, hpid⟩
      · intro sent hsent hserver
        rcases Host.sent_cases hsent with hbefore | hnow
        · exact (ih.2 sent hbefore hserver).concat e
        · exact (ih.1 _ hnow hserver).concat e

/-- **In an orderly run the manager signals nothing but live servers that a start launched.** -/
theorem signals_own_server {as : List Event}
    (horderly : ∀ before e, before ++ [e] <+: as →
      Orderly (runAll Host.step Host.booted before) e) : SignalsOwnServer as := by
  have hsound : (runAll Host.step Host.booted as).Sound :=
    runAll_guarded Host.Sound.booted (fun s e hs => hs.step) horderly
  intro sent hsent
  obtain ⟨hserver, halive⟩ := hsound.signalled sent hsent
  exact ⟨(launched_of_server as).2 sent hsent hserver, hserver, halive⟩

/-- A start with the manager as process 100 and the server as process 200. -/
def startRun : List Event :=
  let answer : Answer := ⟨false, false, true, 200⟩
  [.begins (.start false) none "/etc/lmrs/config.json" ⟨100, 100⟩, .proceeds answer, .proceeds answer,
    .proceeds answer, .proceeds answer, .proceeds answer]

/-- A stop with the manager as process 300. -/
def stopRun : List Event :=
  let answer : Answer := ⟨false, false, true, 0⟩
  [.begins .stop none "/etc/lmrs/config.json" ⟨300, 300⟩, .proceeds answer, .proceeds answer,
    .proceeds answer, .exits 200, .proceeds answer, .proceeds answer, .proceeds answer]

/-- A server started and stopped beside another process. -/
theorem signals_own_server_stop :
    SignalsOwnServer (startRun ++ [.appears 250 250 true] ++ stopRun) ∧
      (runAll Host.step Host.booted (startRun ++ [.appears 250 250 true] ++ stopRun)).signals ≠ [] :=
  ⟨signals_own_server ((meets_iff _).mp (by decide)), by decide⟩

/-- The server exits, and its number goes to a process that has nothing to do with it. -/
theorem signals_stranger : ¬ ∀ as : List Event, SignalsOwnServer as := by
  intro hall
  have hsent : (⟨.sigterm, ⟨200, 200, .other, true, false⟩⟩ : Sent) ∈
      (runAll Host.step Host.booted
        (startRun ++ [.exits 200, .appears 200 200 true] ++ stopRun)).signals := by decide
  cases (hall _ _ hsent).2.1

end Lmrs.Manager
