import Lmrs.Client.Methods
import Lmrs.Client.LiveCheck
import Lmrs.Lib.Floats
import Lmrs.Lib.Json.Loads

/-!
# The command line of the client

Source: `client/lmrs_client/cli.py`; `client/lmrs_client/pipeline.py`, `run_cli_surface`.

The arguments are a namespace, as `argparse` leaves it: a flag that was not given is `None`, a switch that was
not given is `False`, and a required flag is there.

* `unkebab_kebab`, `runCliSurface_passes`: a subcommand leads back to its method, on every surface.
* `cliRequest_of_flags`: each method is called with its flags, and with its defaults where there is no flag.
* `cliRequest_of_estimate`: the explicit flags of `estimate` win over the body they are merged into.
-/

namespace Lmrs

open Python

/-- What a run of the command line finds: the environment, and how floats are read. -/
structure CliHost where
  environ : String → Option String
  floats : Json.FloatText
  round : ℚ → PyFloat

/-- `SystemExit(2)`: a usage error. It is no `Exception`. -/
def usageError (message : String) : PyException := ⟨"SystemExit", message⟩

/-! ## Names -/

/-- `name.replace("_", "-")`. -/
def kebab (name : String) : String :=
  String.ofList (name.toList.map fun c => if c = '_' then '-' else c)

/-- `name.replace("-", "_")`. -/
def unkebab (name : String) : String :=
  String.ofList (name.toList.map fun c => if c = '-' then '_' else c)

/-- Source: `pipeline.py`, `run_cli_surface`, with the subcommands of a surface. -/
def runCliSurface (subcommands methods : List String) : Int :=
  let exposed := subcommands.map unkebab
  if (∀ name ∈ exposed, name ∈ methods) ∧ ∀ name ∈ methods, name ∈ exposed then 0 else 1

/-! ## The connection -/

/-- Source: `cli.py`, `_CONNECTION_FLAGS`: the name of each flag, and its variable. -/
def connectionFlags : Dict String :=
  [("host", "LMRS_LIVE_HOST"), ("port", "LMRS_LIVE_PORT"), ("protocol", "LMRS_LIVE_PROTOCOL"),
   ("token", "LMRS_LIVE_TOKEN"), ("cert", "LMRS_LIVE_CERT"), ("key", "LMRS_LIVE_KEY"),
   ("ca", "LMRS_LIVE_CA"), ("timeout", "LMRS_LIVE_TIMEOUT")]

/-- `float(value)` of a text. -/
def toFloat (round : ℚ → PyFloat) (value : Value) : Except PyException Value :=
  match value.asStr?.bind fun text => floatOfString round text.toList with
  | some x => .ok (.float x)
  | none => .error (valueError "could not convert string to float")

/-- The value under a key, converted. -/
def convertAt (values : Dict Value) (name : String) (convert : Value → Except PyException Value) :
    Except PyException (Dict Value) :=
  match Dict.get? values name with
  | some value => (convert value).map (Dict.set values name)
  | none => .ok values

/-- Source: `cli.py`, `_connection`. -/
def connection (host : CliHost) (args : Dict Value) : Except PyException (Dict Value) := do
  let values : Dict Value := connectionFlags.filterMap fun flag =>
    if (Value.item args flag.1).isNone then (host.environ flag.2).map fun text => (flag.1, .str text)
    else some (flag.1, Value.item args flag.1)
  if (Dict.get? values "host").isNone then .error (usageError "2")
  else
    let values ← convertAt values "port" fun value => (toInt value).map .int
    convertAt values "timeout" (toFloat host.round)

/-! ## The arguments of a method -/

/-- Source: `cli.py`, `_ESTIMATE_FLAGS`: where each flag is kept. -/
def estimateFlags : List String := ["message", "system", "model_name", "max_tokens", "request_id"]

/-- A value is passed on unless it is `None`, or `False` for a switch. -/
def passes (p : Parameter) (value : Value) : Bool :=
  !value.isNone && !((p.default.map isFalse).getD false && isFalse value)

/-- The body `--json` carries. -/
def jsonBody (floats : Json.FloatText) (raw : Value) : Except PyException (Dict Value) :=
  if raw.truthy then
    match raw.asStr?.bind fun text => Json.loads floats text.toList with
    | none => .error ⟨"JSONDecodeError", "the body is no JSON document"⟩
    | some (.dict loaded) => .ok loaded
    | some _ => .error (usageError "2")
  else .ok []

/-- The flags of `estimate` that were given. -/
def givenEstimateFlags (args : Dict Value) : Dict Value := estimateFlags.flatMap (given args)

/-- Source: `cli.py`, `_method_arguments`. -/
def methodArguments (floats : Json.FloatText) (args : Dict Value) (sig : Signature) :
    Except PyException (Dict Value) :=
  if sig.varKeyword then do
    let body ← jsonBody floats (Value.item args "json")
    return Dict.update body (givenEstimateFlags args)
  else .ok (sig.select passes args)

/-- The request of a subcommand. -/
def cliRequest (floats : Json.FloatText) (subcommand : String) (args : Dict Value) :
    Except PyException ClientRequest := do
  let m ← LmrsClient.find (unkebab subcommand)
  let arguments ← methodArguments floats args m.signature
  LmrsClient.invoke m.name arguments

/-- What a run of the command line comes to: it finishes, exits early, or ends in a traceback. -/
inductive CliEnd where
  | finished (run : CliRun)
  | exited (status : Int)
  | crashed (exc : PyException)

/-- The status a shell sees. -/
def CliEnd.status : CliEnd → Int
  | .finished run => run.exitCode
  | .exited status => status
  | .crashed _ => 1

/-- Source: `cli.py`, `main`, once the arguments are parsed. The request is sent over a connection. -/
def cliRun (host : CliHost) (subcommand : String) (args : Dict Value)
    (send : Dict Value → ClientRequest → ClientAnswer) : CliEnd :=
  match LmrsClient.find (unkebab subcommand), connection host args with
  | .error exc, _ => .crashed exc
  | .ok _, .error exc => if exc.kind = "SystemExit" then .exited 2 else .crashed exc
  | .ok _, .ok settings =>
      match cliRequest host.floats subcommand args with
      | .ok request => .finished (cliMain (send settings request))
      | .error exc => if exc.kind = "SystemExit" then .exited 2 else .finished (cliMain (.raised exc .none))

/-! ## A subcommand leads back to its method -/

/-- A name without a hyphen is written with hyphens and read back. -/
theorem unkebab_kebab {name : String} (h : '-' ∉ name.toList) : unkebab (kebab name) = name := by
  unfold unkebab kebab
  rw [String.toList_ofList, List.map_map]
  have hid : name.toList.map ((fun c => if c = '-' then '_' else c) ∘ fun c => if c = '_' then '-' else c) =
      name.toList := by
    refine (List.map_congr_left fun c hc => ?_).trans (List.map_id _)
    by_cases hbar : c = '_'
    · subst hbar
      rfl
    · have hne : c ≠ '-' := by
        rintro rfl
        exact h hc
      simp [hbar, hne]
  rw [hid, String.ofList_toList]

/-- **The surface check passes on every surface**, when a method has no hyphen in its name. -/
theorem runCliSurface_passes {methods : List String} (h : ∀ name ∈ methods, '-' ∉ name.toList) :
    runCliSurface (methods.map kebab) methods = 0 := by
  have hexposed : (methods.map kebab).map unkebab = methods := by
    rw [List.map_map]
    exact (List.map_congr_left fun name hname => unkebab_kebab (h name hname)).trans (List.map_id _)
  unfold runCliSurface
  rw [hexposed]
  simp

/-- No method of the client has a hyphen in its name. -/
theorem LmrsClient.name_plain {m : ClientMethod} (hm : m ∈ LmrsClient.methods) : '-' ∉ m.name.toList := by
  simp only [LmrsClient.methods, List.mem_cons, List.not_mem_nil, or_false] at hm
  rcases hm with rfl | rfl | rfl | rfl | rfl | rfl | rfl | rfl | rfl | rfl | rfl | rfl | rfl | rfl | rfl |
    rfl | rfl | rfl
  all_goals decide

/-- The subcommand of a method is answered by that method. -/
theorem cliRequest_method (floats : Json.FloatText) {m : ClientMethod} (hm : m ∈ LmrsClient.methods)
    (args : Dict Value) :
    cliRequest floats (kebab m.name) args =
      (methodArguments floats args m.signature).bind fun arguments => LmrsClient.invoke m.name arguments := by
  unfold cliRequest
  rw [unkebab_kebab (LmrsClient.name_plain hm), LmrsClient.find_method hm]
  rfl

/-! ## What a method is called with -/

/-- What a parameter is after the command line: its flag, or its default. -/
def flagOrDefault (args : Dict Value) (p : Parameter) : Value :=
  if (Value.item args p.name).isNone then p.default.getD .none else Value.item args p.name

/-- A value that is kept back is no flag, or the default. -/
theorem passes_or_default (args : Dict Value) (p : Parameter) :
    (if passes p (Value.item args p.name) then Value.item args p.name else p.default.getD .none) =
      flagOrDefault args p := by
  unfold flagOrDefault passes
  rcases hnone : (Value.item args p.name).isNone with _ | _
  · rcases hfalse : ((p.default.map isFalse).getD false && isFalse (Value.item args p.name)) with _ | _
    · simp
    · simp only [Bool.and_eq_true] at hfalse
      obtain ⟨hdefault, hvalue⟩ := hfalse
      rw [isFalse_iff.mp hvalue]
      rcases hd : p.default with _ | d
      · rw [hd] at hdefault
        cases hdefault
      · rw [hd] at hdefault
        rw [isFalse_iff.mp hdefault]
        simp
  · simp

/-- **The command line calls a method with its flags**: for every method but `estimate`, and every namespace
that has the required flags, the request is that of the method whose parameters are the flags, and the
defaults where there is none. -/
theorem cliRequest_of_flags (floats : Json.FloatText) {m : ClientMethod} (hm : m ∈ LmrsClient.methods)
    (hvar : m.signature.varKeyword = false) {args : Dict Value}
    (hrequired : ∀ p ∈ m.signature.parameters, p.default = none → (Value.item args p.name).isNone = false) :
    cliRequest floats (kebab m.name) args =
      .ok (m.request (m.signature.parameters.map fun p => (p.name, flagOrDefault args p))) := by
  rw [cliRequest_method floats hm]
  have harguments : methodArguments floats args m.signature = .ok (m.signature.select passes args) := by
    unfold methodArguments
    rw [hvar]
    rfl
  rw [harguments]
  have hleft : ∀ p ∈ m.signature.parameters, passes p (Value.item args p.name) = false → p.default ≠ none := by
    intro p hp hpasses hdefault
    unfold passes at hpasses
    rw [hrequired p hp hdefault, hdefault] at hpasses
    simp at hpasses
  have hbind := Signature.bind_select (LmrsClient.signature_nodup hm) hleft
  have hinvoke := LmrsClient.invoke_ok hm hbind
  rw [show (Except.ok (m.signature.select passes args)).bind
      (fun arguments => LmrsClient.invoke m.name arguments) =
      LmrsClient.invoke m.name (m.signature.select passes args) from rfl, hinvoke]
  congr 3
  funext p
  rw [passes_or_default]

/-- **The explicit flags of `estimate` win**: what the server is sent is the body, with the flags over it. -/
theorem cliRequest_of_estimate (floats : Json.FloatText) (args : Dict Value) :
    cliRequest floats "estimate" args =
      (jsonBody floats (Value.item args "json")).map fun body =>
        { command := .estimate, params := Dict.update body (givenEstimateFlags args) } := by
  have hmem : LmrsClient.estimate ∈ LmrsClient.methods := by simp [LmrsClient.methods]
  have hmethod := cliRequest_method floats hmem args
  rw [show kebab LmrsClient.estimate.name = "estimate" by decide] at hmethod
  rw [hmethod]
  have harguments : methodArguments floats args LmrsClient.estimate.signature =
      (jsonBody floats (Value.item args "json")).map fun body => Dict.update body (givenEstimateFlags args) := by
    unfold methodArguments
    rcases jsonBody floats (Value.item args "json") with _ | _
    · rfl
    · rfl
  rw [harguments]
  rcases jsonBody floats (Value.item args "json") with exc | body
  · rfl
  · apply LmrsClient.invoke_ok hmem
    apply Signature.bind_ok_iff.mpr
    refine ⟨⟨Signature.unexpected_eq_none.mpr (Or.inl rfl), rfl⟩, ?_⟩
    simp [LmrsClient.estimate, Signature.names]

end Lmrs
