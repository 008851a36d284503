import Lmrs.Lib.Dicts

/-!
# Calls with keyword arguments

`Signature.bind` is the call `f(**arguments)`: each parameter gets the argument of its name or its default.
The text of its `TypeError` names a parameter and leaves the name of the function out.

* `Signature.bind_ok_iff`: when a call goes through, and what the parameters are then.
* `Signature.bind_select`: what the parameters are when only some of a namespace's values are passed.
-/

namespace Python

/-- A parameter that may be passed by keyword. Without a default it is required. -/
structure Parameter where
  name : String
  default : Option Value := none

/-- The parameters of a function, and whether it takes further keyword arguments. -/
structure Signature where
  parameters : List Parameter
  varKeyword : Bool := false

namespace Signature

/-- The names of the parameters. -/
def names (sig : Signature) : List String := sig.parameters.map Parameter.name

/-- What a parameter is bound to. -/
def value (arguments : Dict Value) (p : Parameter) : Value :=
  (Dict.get? arguments p.name).getD (p.default.getD .none)

/-- The first keyword the function does not take. -/
def unexpected (sig : Signature) (arguments : Dict Value) : Option (String × Value) :=
  arguments.find? fun kv => !sig.varKeyword && kv.1 ∉ sig.names

/-- The first required parameter without an argument. -/
def missing (sig : Signature) (arguments : Dict Value) : Option Parameter :=
  sig.parameters.find? fun p => p.default.isNone && (Dict.get? arguments p.name).isNone

/-- `f(**arguments)`: the parameters, and after them the further keyword arguments. -/
def bind (sig : Signature) (arguments : Dict Value) : Except PyException (Dict Value) :=
  match sig.unexpected arguments, sig.missing arguments with
  | some kv, _ => .error (typeError ("got an unexpected keyword argument '" ++ kv.1 ++ "'"))
  | none, some p => .error (typeError ("missing a required argument: '" ++ p.name ++ "'"))
  | none, none =>
      .ok (sig.parameters.map (fun p => (p.name, value arguments p)) ++
        arguments.filter fun kv => kv.1 ∉ sig.names)

/-! ## When a call goes through -/

section calls

variable {sig : Signature} {arguments : Dict Value}

/-- Nothing is unexpected: the function takes further keywords, or each keyword is a parameter's. -/
theorem unexpected_eq_none :
    sig.unexpected arguments = none ↔ sig.varKeyword = true ∨ ∀ kv ∈ arguments, kv.1 ∈ sig.names := by
  unfold unexpected
  rw [List.find?_eq_none]
  rcases h : sig.varKeyword with _ | _
  · simp
  · simp

/-- Nothing is missing: each required parameter has an argument. -/
theorem missing_eq_none :
    sig.missing arguments = none ↔
      ∀ p ∈ sig.parameters, p.default = none → (Dict.get? arguments p.name).isSome = true := by
  unfold missing
  rw [List.find?_eq_none]
  constructor
  · intro h p hp hdefault
    have hne := h p hp
    rw [hdefault] at hne
    simpa [Option.isSome_iff_ne_none] using hne
  · intro h p hp hboth
    simp only [Bool.and_eq_true, Option.isNone_iff_eq_none] at hboth
    have hsome := h p hp hboth.1
    rw [hboth.2] at hsome
    cases hsome

/-- **When a call goes through**: nothing is unexpected and nothing is missing. -/
theorem bind_ok_iff {bound : Dict Value} :
    sig.bind arguments = .ok bound ↔
      (sig.unexpected arguments = none ∧ sig.missing arguments = none) ∧
        bound = sig.parameters.map (fun p => (p.name, value arguments p)) ++
          arguments.filter fun kv => kv.1 ∉ sig.names := by
  unfold bind
  rcases hunexpected : sig.unexpected arguments with _ | kv
  · rcases hmissing : sig.missing arguments with _ | p
    · simp [eq_comm]
    · simp
  · simp

end calls

/-! ## Passing what is worth passing -/

/-- The arguments of a namespace that are passed: those a parameter's test keeps. -/
def select (sig : Signature) (keep : Parameter → Value → Bool) (namespace' : Dict Value) : Dict Value :=
  sig.parameters.filterMap fun p =>
    if keep p (Value.item namespace' p.name) then some (p.name, Value.item namespace' p.name) else none

section selected

variable {sig : Signature} {keep : Parameter → Value → Bool} {ns : Dict Value}

/-- What is passed is passed under the name of a parameter. -/
theorem mem_names_of_mem_select {kv : String × Value} (h : kv ∈ sig.select keep ns) : kv.1 ∈ sig.names := by
  obtain ⟨p, hp, hkv⟩ := List.mem_filterMap.mp h
  split_ifs at hkv with hkeep
  cases hkv
  exact List.mem_map_of_mem hp

/-- What is passed for a parameter, when no two have one name. -/
theorem get?_select (hnodup : sig.names.Nodup) {p : Parameter} (hp : p ∈ sig.parameters) :
    Dict.get? (sig.select keep ns) p.name =
      if keep p (Value.item ns p.name) then some (Value.item ns p.name) else none := by
  obtain ⟨parameters, varKeyword⟩ := sig
  unfold select
  unfold names at hnodup
  induction parameters with
  | nil => cases hp
  | cons q parameters ih =>
      have hdistinct := List.nodup_cons.mp hnodup
      rcases List.mem_cons.mp hp with rfl | hmem
      · have habsent : Dict.get? (parameters.filterMap fun q =>
            if keep q (Value.item ns q.name) then some (q.name, Value.item ns q.name) else none) p.name =
            none := by
          apply List.lookup_eq_none_iff.mpr
          intro kv hkv
          obtain ⟨q, hq, hkv⟩ := List.mem_filterMap.mp hkv
          split_ifs at hkv with hkeep
          cases hkv
          have hne : p.name ≠ q.name := by
            intro heq
            apply hdistinct.1
            rw [heq]
            exact List.mem_map_of_mem hq
          simpa using hne
        rw [List.filterMap_cons]
        split_ifs with hkeep
        · exact (Dict.get?_cons ..).trans (if_pos rfl)
        · exact habsent
      · have hne : p.name ≠ q.name := by
          intro heq
          apply hdistinct.1
          rw [← heq]
          exact List.mem_map_of_mem hmem
        have hrest := ih hdistinct.2 hmem
        rcases hq : keep q (Value.item ns q.name) with _ | _
        · rw [List.filterMap_cons_none (by rw [hq]; rfl)]
          exact hrest
        · rw [List.filterMap_cons_some (by rw [hq]; rfl)]
          exact (Dict.get?_cons ..).trans ((if_neg hne).trans hrest)

/-- **Passing what is worth passing.** When no required parameter is left out, a parameter is what the
namespace has for it, or its default where it is left out. -/
theorem bind_select (hnodup : sig.names.Nodup)
    (hleft : ∀ p ∈ sig.parameters, keep p (Value.item ns p.name) = false → p.default ≠ none) :
    sig.bind (sig.select keep ns) = .ok (sig.parameters.map fun p =>
      (p.name, if keep p (Value.item ns p.name) then Value.item ns p.name else p.default.getD .none)) := by
  apply bind_ok_iff.mpr
  refine ⟨⟨unexpected_eq_none.mpr (Or.inr fun kv => mem_names_of_mem_select), ?_⟩, ?_⟩
  · apply missing_eq_none.mpr
    intro p hp hdefault
    rw [get?_select hnodup hp]
    rcases hkeep : keep p (Value.item ns p.name) with _ | _
    · exact absurd hdefault (hleft p hp hkeep)
    · rfl
  · have hrest : (sig.select keep ns).filter (fun kv => kv.1 ∉ sig.names) = [] := by
      apply List.filter_eq_nil_iff.mpr
      intro kv hkv
      simpa using mem_names_of_mem_select hkv
    rw [hrest, List.append_nil]
    apply List.map_congr_left
    intro p hp
    unfold value
    rw [get?_select hnodup hp]
    rcases hkeep : keep p (Value.item ns p.name) with _ | _
    · rfl
    · rfl

end selected

end Signature

end Python
