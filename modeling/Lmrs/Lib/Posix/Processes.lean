import Mathlib

/-!
# Processes and signals

A process table is a list of processes, each with what the user of the library knows about its origin.
A number handed to `kill` stands for one process, for a group, or for every process the sender may
reach (`Process.reachedBy`); `kill` says who gets the signal.

A process that has exited stays in the table until its parent collects it (`markExited`, `remove`, `collect`).
Until then its number is taken and a signal to it is accepted.
-/

namespace Posix

/-- A process. `permitted` says that the sender of the signals may signal it, `exited` that it only waits
for its parent to collect it. -/
structure Process (ρ : Type) where
  pid : Nat
  group : Nat
  origin : ρ
  permitted : Bool
  exited : Bool
deriving DecidableEq

/-- The process that sends signals. -/
structure Sender where
  pid : Nat
  group : Nat
deriving DecidableEq

/-- What `kill` raises. -/
inductive KillError where
  | outOfRange
  | noSuchProcess
  | notPermitted
deriving DecidableEq

variable {ρ : Type} {procs : List (Process ρ)} {p q : Process ρ} {n : Int} {pid : Nat}

/-- The number `n` stands for the process `p`: a positive number for the process that has it, zero for
the sender's group, minus one for every process but the first and the sender, any other for a group. -/
def Process.reachedBy (sender : Option Sender) (n : Int) (p : Process ρ) : Bool :=
  if 0 < n then decide ((p.pid : Int) = n)
  else if n < -1 then decide ((p.group : Int) = -n)
  else match sender with
    | none => false
    | some s => if n = 0 then decide (p.group = s.group) else decide (p.pid ≠ 1 ∧ p.pid ≠ s.pid)

/-- The processes that get a signal sent to `n`. -/
def kill (procs : List (Process ρ)) (sender : Sender) (n : Int) :
    Except KillError (List (Process ρ)) :=
  if n < -2 ^ 31 ∨ 2 ^ 31 ≤ n then .error .outOfRange
  else match procs.filter (Process.reachedBy (some sender) n) with
    | [] => .error .noSuchProcess
    | reached => match reached.filter Process.permitted with
        | [] => .error .notPermitted
        | hit => .ok hit

/-- No process has the number `pid`, and it is one that a process can have. -/
def Unused (procs : List (Process ρ)) (pid : Nat) : Prop :=
  0 < pid ∧ pid < 2 ^ 31 ∧ ∀ p ∈ procs, p.pid ≠ pid

instance (procs : List (Process ρ)) (pid : Nat) : Decidable (Unused procs pid) :=
  inferInstanceAs (Decidable (_ ∧ _ ∧ _))

/-- The process `pid` exits and waits for its parent. -/
def markExited (pid : Nat) (procs : List (Process ρ)) : List (Process ρ) :=
  procs.map fun p => if p.pid = pid then { p with exited := true } else p

/-- The process `pid` is gone. -/
def remove (pid : Nat) (procs : List (Process ρ)) : List (Process ρ) :=
  procs.filter fun p => decide (p.pid ≠ pid)

/-- The process `pid` is gone, and every exited process with it. -/
def collect (pid : Nat) (procs : List (Process ρ)) : List (Process ρ) :=
  (remove pid procs).filter fun p => !p.exited

/-! ## Reach -/

/-- A positive number stands for the process that has it. -/
@[simp] theorem Process.reachedBy_pid (sender : Option Sender) (hpid : 0 < pid) :
    p.reachedBy sender pid = true ↔ p.pid = pid := by
  have hpos : 0 < (pid : Int) := by exact_mod_cast hpid
  unfold reachedBy
  rw [if_pos hpos, decide_eq_true_eq]
  exact Nat.cast_inj

/-- What a number stands for without a sender, it stands for with one. -/
theorem Process.reachedBy_of_none (sender : Option Sender) (h : p.reachedBy none n = true) :
    p.reachedBy sender n = true := by
  unfold reachedBy at h ⊢
  split_ifs at h ⊢
  · exact h
  · exact h

/-- Whether a number stands for a process does not hang on whether it has exited. -/
@[simp] theorem Process.reachedBy_exited (sender : Option Sender) (b : Bool) :
    Process.reachedBy sender n { p with exited := b } = p.reachedBy sender n := rfl

/-- **Who gets a signal**: processes of the table that the number stands for. -/
theorem mem_of_kill {sender : Sender} {hit : List (Process ρ)} (h : kill procs sender n = .ok hit)
    (hp : p ∈ hit) : p ∈ procs ∧ p.reachedBy (some sender) n = true := by
  unfold kill at h
  split_ifs at h
  split at h
  · cases h
  · split at h
    · cases h
    · cases h
      exact List.mem_filter.mp (List.mem_filter.mp hp).1

/-! ## The table -/

/-- A process of the table after one of them exited is one of the table before, exited or not. -/
theorem mem_markExited (h : q ∈ markExited pid procs) :
    ∃ p ∈ procs, q.pid = p.pid ∧ q.origin = p.origin ∧
      (∀ sender n, q.reachedBy sender n = p.reachedBy sender n) ∧
      (q.exited = true → p.exited = true ∨ p.pid = pid) := by
  obtain ⟨p, hp, rfl⟩ := List.mem_map.mp h
  refine ⟨p, hp, ?_⟩
  split_ifs with hpid
  · exact ⟨rfl, rfl, fun _ _ => rfl, fun _ => .inr hpid⟩
  · exact ⟨rfl, rfl, fun _ _ => rfl, .inl⟩

/-- A process that exits keeps its number. -/
theorem exists_mem_markExited {c : Nat} (h : ∃ p ∈ procs, p.pid = c) :
    ∃ q ∈ markExited pid procs, q.pid = c := by
  obtain ⟨p, hp, hc⟩ := h
  refine ⟨_, List.mem_map_of_mem hp, ?_⟩
  split_ifs
  · exact hc
  · exact hc

/-- What is left after a removal was there. -/
theorem mem_remove : p ∈ remove pid procs ↔ p ∈ procs ∧ p.pid ≠ pid := by
  unfold remove
  rw [List.mem_filter, decide_eq_true_eq]

/-- What is left after collecting was there and has not exited. -/
theorem mem_collect (h : p ∈ collect pid procs) : p ∈ procs ∧ p.exited = false := by
  obtain ⟨hp, hkept⟩ := List.mem_filter.mp h
  exact ⟨(mem_remove.mp hp).1, (Bool.not_eq_true' _).mp hkept⟩

end Posix
