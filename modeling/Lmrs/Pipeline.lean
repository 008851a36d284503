import Lmrs.Lib.Dicts
import Lmrs.Lib.Effects
import Lmrs.Lib.Loops

/-!
# The verification pipelines

Source: `pipeline/registry.py`, `pipeline/cli.py` (the server's repository); `client/lmrs_client/pipeline.py`,
`Check`, `_run_all`, `main` (the installed client).

Both command lines run named checks: the server's over a registry that refuses a name it has, the client's over a
fixed tuple. A check acts on a state, prints lines and may raise, which ends the run.

* `pipelines_agree`: over one series of checks the two are the same command, and their full run is a run of each
  named check in turn.
-/

namespace Lmrs

open Python Effects

/-- What a check and a command line do: act on a state, print lines, answer or raise. -/
abbrev Suite (σ : Type) : Type → Type := Effect σ String PyException

/-- `print(line)`. -/
def print {σ : Type} (line : String) : Suite σ Unit := Effect.log fun _ => line

/-- Source: `registry.py` and the client's `pipeline.py`, `Check`. -/
structure Check (σ : Type) where
  name : String
  description : String
  run : Suite σ Int

/-- The namespace both parsers give. -/
structure PipelineArguments where
  check : Option String := none
  listChecks : Bool := false

/-! ## The registry -/

/-- Source: `registry.py`, `CheckRegistry`: the checks under their names. -/
structure CheckRegistry (σ : Type) where
  checks : Dict (Check σ)
  named : ∀ entry ∈ checks, entry.2.name = entry.1
  distinct : Dict.Distinct checks

namespace CheckRegistry

variable {σ : Type}

/-- Source: `registry.py`, `CheckRegistry.__init__`. -/
def empty : CheckRegistry σ where
  checks := []
  named := by simp
  distinct := by simp [Dict.Distinct]

/-- Source: `registry.py`, `CheckRegistry.register`. -/
def register (registry : CheckRegistry σ) (check : Check σ) : Except PyException (CheckRegistry σ) :=
  if check.name ∈ registry.checks.map Prod.fst then
    .error (valueError ("check name already registered: '" ++ check.name ++ "'"))
  else
    .ok {
      checks := Dict.set registry.checks check.name check
      named := by
        intro entry hentry
        rcases Dict.mem_set hentry with rfl | hbefore
        · rfl
        · exact registry.named entry hbefore
      distinct := registry.distinct.set check.name check }

/-- Source: `registry.py`, `CheckRegistry.names`. -/
def names (registry : CheckRegistry σ) : List String := registry.checks.map Prod.fst

/-- Source: `registry.py`, `CheckRegistry.get`. -/
def get (registry : CheckRegistry σ) (name : String) : Except PyException (Check σ) :=
  match Dict.get? registry.checks name with
  | some check => .ok check
  | none => .error ⟨"KeyError", "unknown check: '" ++ name ++ "'"⟩

/-- Source: `registry.py`, `CheckRegistry.all`. -/
def all (registry : CheckRegistry σ) : List (Check σ) := registry.checks.map Prod.snd

end CheckRegistry

/-- The checks of a package, registered one after the other as its modules are imported. -/
def registerAll {σ : Type} (checks : List (Check σ)) : Except PyException (CheckRegistry σ) :=
  checks.foldlM CheckRegistry.register CheckRegistry.empty

/-! ## The two command lines -/

/-- `'PASS' if status == 0 else 'FAIL'`. -/
def passWord (status : Int) : String := if status = 0 then "PASS" else "FAIL"

/-- The last line of a full run. -/
def pipelineSummary (passed failed : Int) : String :=
  "pipeline summary: " ++ toString passed ++ " passed, " ++ toString failed ++ " failed"

namespace CheckRegistry

variable {σ : Type} (registry : CheckRegistry σ)

/-- Source: `cli.py`, `_run_all`. -/
def runAll : Suite σ Int := do
  let results : List (String × Int) ← registry.all.foldlM (fun results check => do
      print ("--- " ++ check.name)
      let status ← check.run
      let results := results ++ [(check.name, status)]
      print (passWord status ++ " " ++ check.name)
      return results) []
  let passed := results.countP fun result => result.2 = 0
  let failed : Int := results.length - passed
  print (pipelineSummary passed failed)
  return if failed = 0 then 0 else 1

/-- Source: `cli.py`, `main`, on the namespace its parser gives. -/
def main (args : PipelineArguments) : Suite σ Int :=
  if args.listChecks then do
    registry.all.forM fun check => print (check.name ++ ": " ++ check.description)
    return 0
  else match args.check with
    | some name => match registry.get name with
      | .error _ => do
          print ("unknown check: " ++ name)
          print ("available checks: " ++ ", ".intercalate registry.names)
          return 2
      | .ok check => check.run
    | none => registry.runAll

end CheckRegistry

namespace LmrsClient

variable {σ : Type} (checks : List (Check σ))

/-- Source: the client's `pipeline.py`, `_run_all`, over its checks. -/
def runAll : Suite σ Int := do
  let failed : Nat ← checks.foldlM (fun failed check => do
      print ("--- " ++ check.name)
      let status ← check.run
      print (passWord status ++ " " ++ check.name)
      return if status ≠ 0 then failed + 1 else failed) 0
  print (pipelineSummary (checks.length - failed) failed)
  return if failed = 0 then 0 else 1

/-- Source: the client's `pipeline.py`, `main`, over its checks and on the namespace its parser gives. -/
def pipelineMain (args : PipelineArguments) : Suite σ Int :=
  if args.listChecks then do
    checks.forM fun check => print (check.name ++ ": " ++ check.description)
    return 0
  else match args.check with
    | some name => match checks.find? fun check => check.name = name with
      | some check => check.run
      | none => do
          print ("unknown check: " ++ name)
          print ("available checks: " ++ ", ".intercalate (checks.map Check.name))
          return 2
    | none => runAll checks

end LmrsClient

/-! ## What a registry holds -/

section registry

variable {σ : Type} {registry registry' : CheckRegistry σ} {check : Check σ}

/-- A registered check comes last. -/
theorem all_register (h : registry.register check = .ok registry') :
    check.name ∉ registry.names ∧ registry'.all = registry.all ++ [check] := by
  unfold CheckRegistry.register at h
  split at h
  · cases h
  · next hnew =>
      cases h
      refine ⟨hnew, ?_⟩
      have hset := Dict.set_of_not_mem registry.checks check hnew
      exact (congrArg (List.map Prod.snd) hset).trans (List.map_append ..)

/-- The names of a registry are those of its checks. -/
theorem names_eq (registry : CheckRegistry σ) : registry.names = registry.all.map Check.name := by
  unfold CheckRegistry.names CheckRegistry.all
  rw [List.map_map]
  exact List.map_congr_left fun entry hentry => (registry.named entry hentry).symm

theorem names_register (h : registry.register check = .ok registry') :
    registry'.names = registry.names ++ [check.name] := by
  rw [names_eq, names_eq, (all_register h).2, List.map_append]
  rfl

/-- A check is looked up where it stands first. -/
theorem get?_eq_find? {d : Dict (Check σ)} (h : ∀ entry ∈ d, entry.2.name = entry.1) (name : String) :
    Dict.get? d name = (d.map Prod.snd).find? fun check => check.name = name := by
  induction d with
  | nil => rfl
  | cons entry d ih =>
      have hkey : entry.2.name = entry.1 := h entry (List.mem_cons_self ..)
      rw [Dict.get?_cons, List.map_cons, ih fun e he => h e (List.mem_cons_of_mem _ he)]
      by_cases hname : name = entry.1
      · simp [hkey, hname]
      · simp [hkey, hname, Ne.symm hname]

/-- Registering one after the other keeps the order. -/
theorem all_foldlM {checks : List (Check σ)} (h : checks.foldlM CheckRegistry.register registry = .ok registry') :
    registry'.all = registry.all ++ checks := by
  induction checks generalizing registry with
  | nil =>
      cases h
      simp
  | cons check checks ih =>
      obtain ⟨next, hregister, hrest⟩ := bind_eq_ok.mp h
      rw [ih hrest, (all_register hregister).2, List.append_assoc]
      rfl

/-- It raises exactly on a name that is there. -/
theorem foldlM_register_iff (checks : List (Check σ)) (registry : CheckRegistry σ) :
    (∃ registry', checks.foldlM CheckRegistry.register registry = .ok registry') ↔
      (registry.names ++ checks.map Check.name).Nodup := by
  induction checks generalizing registry with
  | nil =>
      have hnodup : registry.names.Nodup := registry.distinct
      simpa using iff_of_true ⟨registry, rfl⟩ hnodup
  | cons check checks ih =>
      rw [List.foldlM_cons, List.map_cons]
      constructor
      · rintro ⟨registry', h⟩
        obtain ⟨next, hregister, hrest⟩ := bind_eq_ok.mp h
        have hnodup := (ih next).mp ⟨registry', hrest⟩
        rw [names_register hregister, List.append_assoc] at hnodup
        exact hnodup
      · intro hnodup
        have hnew : check.name ∉ registry.names := fun hmem =>
          (List.nodup_append.mp hnodup).2.2 _ hmem _ (List.mem_cons_self ..) rfl
        obtain ⟨next, hregister⟩ : ∃ next, registry.register check = .ok next := ⟨_, if_neg hnew⟩
        obtain ⟨registry', hrest⟩ := (ih next).mpr (by
          rw [names_register hregister, List.append_assoc]
          exact hnodup)
        exact ⟨registry', bind_eq_ok.mpr ⟨next, hregister, hrest⟩⟩

end registry

/-! ## What a full run does -/

section runs

variable {σ : Type}

/-- A run of a check between its header and its verdict. -/
def framed (check : Check σ) (run : Suite σ Int) : Suite σ Int := do
  print ("--- " ++ check.name)
  let status ← run
  print (passWord status ++ " " ++ check.name)
  return status

/-- The end of a full run. -/
def summarize (total failed : Nat) : Suite σ Int := do
  print (pipelineSummary (total - failed) failed)
  return if failed = 0 then 0 else 1

/-- The checks that failed. -/
def failures (statuses : List Int) : Nat := statuses.countP (· ≠ 0)

/-- One run for each check, in turn, and the summary of their statuses. -/
def inTurn (checks : List (Check σ)) (run : Check σ → Suite σ Int) : Suite σ Int := do
  let statuses ← checks.mapM fun check => framed check (run check)
  summarize statuses.length (failures statuses)

variable {registry : CheckRegistry σ} {checks : List (Check σ)}

/-- A loop that folds in the statuses of the checks is the list of the statuses, folded. -/
theorem loop_eq {γ : Type} (φ : γ → Int → γ) (c : γ) (checks : List (Check σ)) :
    (checks.foldlM (fun c check => do
      print ("--- " ++ check.name)
      let status ← check.run
      print (passWord status ++ " " ++ check.name)
      return φ c status) c : Suite σ γ) =
    (fun statuses => statuses.foldl φ c) <$> checks.mapM fun check => framed check check.run := by
  rw [← Loops.foldlM_gather]
  simp [framed]

theorem foldl_failures (statuses : List Int) :
    statuses.foldl (fun failed status => if status ≠ 0 then failed + 1 else failed) 0 = failures statuses := by
  unfold failures
  simpa using Loops.foldl_count (fun status : Int => decide (status ≠ 0)) statuses 0

/-- The client's full run is one run of each check in turn. -/
theorem client_runAll (checks : List (Check σ)) : LmrsClient.runAll checks = inTurn checks Check.run := by
  have hloop := loop_eq (fun failed status => if status ≠ 0 then failed + 1 else failed) 0 checks
  have hlength := Loops.mapM_bind_length (fun check : Check σ => framed check check.run) checks
    fun n statuses => summarize n (failures statuses)
  unfold LmrsClient.runAll inTurn
  rw [hloop, bind_map_left, hlength]
  refine bind_congr fun statuses => ?_
  rw [foldl_failures]
  rfl

theorem passed_add_failures (statuses : List Int) :
    (statuses.countP fun status => status = 0) + failures statuses = statuses.length := by
  unfold failures
  rw [List.length_eq_countP_add_countP fun status : Int => decide (status = 0)]
  simp

/-- The server's loop gathers the statuses, each with its name. -/
theorem server_loop (checks : List (Check σ)) :
    (fun results => results.map Prod.snd) <$> (checks.foldlM (fun results check => do
      print ("--- " ++ check.name)
      let status ← check.run
      let results := results ++ [(check.name, status)]
      print (passWord status ++ " " ++ check.name)
      return results) [] : Suite σ (List (String × Int))) =
    checks.mapM fun check => framed check check.run := by
  rw [Loops.map_foldlM (g := fun statuses check => do
    print ("--- " ++ check.name)
    let status ← check.run
    print (passWord status ++ " " ++ check.name)
    return statuses ++ [status])]
  · rw [loop_eq fun statuses status => statuses ++ [status]]
    simp only [Loops.foldl_append, List.map_nil, List.nil_append, id_map']
  · intro results check
    simp only [map_bind, map_pure, List.map_append, List.map_cons, List.map_nil]

/-- What the server counts among its results is what it counts among their statuses. -/
theorem summarize_results (results : List (String × Int)) :
    (do let passed := results.countP fun result => result.2 = 0
        let failed : Int := results.length - passed
        print (pipelineSummary passed failed)
        return if failed = 0 then 0 else 1 : Suite σ Int) =
      summarize (results.map Prod.snd).length (failures (results.map Prod.snd)) := by
  have hsum : (results.countP fun result => result.2 = 0) + failures (results.map Prod.snd) =
      results.length := by
    have h := passed_add_failures (results.map Prod.snd)
    rw [List.countP_map, List.length_map] at h
    exact h
  have hfailed : (results.length : Int) - (results.countP fun result => result.2 = 0 : Nat) =
      failures (results.map Prod.snd) := by omega
  have hpassed : ((results.countP fun result => result.2 = 0 : Nat) : Int) =
      results.length - failures (results.map Prod.snd) := by omega
  unfold summarize
  dsimp only
  rw [hfailed, hpassed, List.length_map]
  simp only [Nat.cast_eq_zero]

/-- So is the server's. -/
theorem server_runAll (registry : CheckRegistry σ) :
    registry.runAll = inTurn registry.all Check.run := by
  unfold CheckRegistry.runAll inTurn
  simp only [summarize_results]
  rw [← server_loop, bind_map_left]

/-- A registered check is run by its name. -/
theorem main_named {check : Check σ} (h : check ∈ registry.all) :
    registry.main { check := some check.name } = check.run := by
  obtain ⟨entry, hentry, rfl⟩ := List.mem_map.mp h
  have hget : registry.get entry.2.name = .ok entry.2 := by
    unfold CheckRegistry.get
    rw [registry.named entry hentry, registry.distinct.get?_of_mem hentry]
  simp [CheckRegistry.main, hget]

/-- **The two pipelines are one.** A series of checks can be registered exactly when no two have one name. Over
the checks registered, the server's command line does what the client's does on every namespace, and without a
name it runs each check as it would by its name, between a header and a verdict, and sums up. -/
theorem pipelines_agree (checks : List (Check σ)) :
    ((∃ registry, registerAll checks = .ok registry) ↔ (checks.map Check.name).Nodup) ∧
    ∀ registry, registerAll checks = .ok registry →
      (∀ args, registry.main args = LmrsClient.pipelineMain checks args) ∧
      registry.main {} = inTurn checks fun check => registry.main { check := some check.name } := by
  refine ⟨foldlM_register_iff checks CheckRegistry.empty, fun registry hregistry => ?_⟩
  have hall : registry.all = checks := all_foldlM hregistry
  refine ⟨fun args => ?_, ?_⟩
  · have hnames : registry.names = checks.map Check.name := by rw [names_eq, hall]
    have hrun : registry.runAll = LmrsClient.runAll checks := by rw [server_runAll, client_runAll, hall]
    unfold CheckRegistry.main LmrsClient.pipelineMain CheckRegistry.get
    rcases args.check with _ | name
    · rw [hall, hrun]
    · have hfind : Dict.get? registry.checks name = checks.find? fun check => check.name = name := by
        rw [get?_eq_find? registry.named, ← hall]
        rfl
      dsimp only
      rw [hall, ← hfind, hnames]
      rcases Dict.get? registry.checks name with _ | check
      · rfl
      · rfl
  · have hmain : registry.main {} = inTurn checks Check.run := by
      rw [← hall]
      exact server_runAll registry
    have hruns : (checks.mapM fun check => framed check check.run) =
        checks.mapM fun check => framed check (registry.main { check := some check.name }) := by
      refine Loops.mapM_congr fun check hmem => ?_
      rw [main_named (hall ▸ hmem)]
    rw [hmain]
    unfold inTurn
    rw [hruns]

end runs

end Lmrs
