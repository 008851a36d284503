import Lmrs.Lib.Posix

/-!
# Purging the LMCache storage

Source: `lmrs/lmcache.py`, `_purge_scope`, `_purge_targets`, `_remove_artifact`, `purge_lmcache`.

A purge is a function of the tree it runs on: it gives the tree it leaves, the places it removed
and its summary or exception. The targets are all found before the first is removed; a removal that
raises ends the purge.

* `mem_purgeTargets`: what a target of each scope is.
* `removeArtifact_cases`: what removing one target does.
-/

namespace Lmrs

open Python Posix

/-- Source: `lmcache.py`, `LMCacheStoragePolicy`. -/
structure LMCacheStoragePolicy where
  cacheStoragePath : Option String := none

/-- The tree a removal leaves, the places it removed, and how many files or the exception. -/
structure Purge (α : Type) where
  tree : Tree
  removed : List Location
  result : Except PyException α

/-- The exception of a refused removal. -/
def refusalError : Tree.Refusal → PyException
  | .onLink => osError "OSError" "Cannot call rmtree on a symbolic link"
  | .os .noEntry => osError "FileNotFoundError" "[Errno 2] No such file or directory"
  | .os .notDirectory => osError "NotADirectoryError" "[Errno 20] Not a directory"
  | .os .isDirectory => osError "IsADirectoryError" "[Errno 21] Is a directory"
  | .os .tooManyLinks => osError "OSError" "[Errno 40] Too many levels of symbolic links"
  | .os .notEmpty => osError "OSError" "[Errno 39] Directory not empty"
  | .os .alreadyExists => osError "FileExistsError" "[Errno 17] File exists"
  | .os .busy => osError "OSError" "[Errno 16] Device or resource busy"
  | .os .invalid => osError "OSError" "[Errno 22] Invalid argument"

/-- Source: `lmcache.py`, `_purge_scope`. -/
def purgeScope (namespace_ session : Option String) : String :=
  if namespace_ = none ∧ session = none then "global"
  else
    String.intercalate "/"
      ((namespace_.map fun n => "namespace:" ++ n).toList ++
        (session.map fun s => "session:" ++ s).toList)

/-- `sorted` on paths: by their components. -/
def sortPaths (paths : List RawPath) : List RawPath :=
  paths.insertionSort fun p q => p.parts ≤ q.parts

/-- Source: `lmcache.py`, `_purge_targets`. -/
def purgeTargets (t : Tree) (root : RawPath) (namespace_ session : Option String) : List RawPath :=
  match namespace_, session with
  | none, none => sortPaths (t.iterdir root)
  | some n, some s =>
      let target := (root.join (.parse n)).join (.parse s)
      if t.present target then [target] else []
  | some n, none =>
      let target := root.join (.parse n)
      if t.present target then [target] else []
  | none, some s =>
      sortPaths (((t.iterdir root).filter fun child =>
        t.presentDir child && t.present (child.join (.parse s))).map fun child =>
          child.join (.parse s))

/-- The regular files `rglob` finds below a directory. -/
def filesBelow (t : Tree) (target : RawPath) : Nat :=
  match t.locate true target with
  | .ok d =>
      (t.below d).countP fun l =>
        t.isFile ⟨target.absolute, target.parts ++ l.drop d.length⟩
  | .error _ => 0

/-- Source: `lmcache.py`, `_remove_artifact`. -/
def removeArtifact (t : Tree) (target : RawPath) : Purge Nat :=
  if t.presentDir target then
    let out := t.rmtree target
    ⟨out.tree, out.removed,
      match out.refusal with
      | none => .ok (filesBelow t target)
      | some refusal => .error (refusalError refusal)⟩
  else
    let out := t.unlink target
    ⟨out.tree, out.removed,
      match out.refusal with
      | none => .ok 1
      | some refusal => .error (refusalError refusal)⟩

/-- The sum over the targets, one after another. -/
def removeArtifacts (t : Tree) : List RawPath → Purge Nat
  | [] => ⟨t, [], .ok 0⟩
  | target :: targets =>
      let first := removeArtifact t target
      match first.result with
      | .error exc => ⟨first.tree, first.removed, .error exc⟩
      | .ok count =>
          let rest := removeArtifacts first.tree targets
          ⟨rest.tree, first.removed ++ rest.removed, rest.result.map (count + ·)⟩

/-- The storage root of a policy, when it is configured and a directory. -/
def storageRoot (t : Tree) (policy : LMCacheStoragePolicy) : Option RawPath :=
  match policy.cacheStoragePath with
  | none | some "" => none
  | some path => if t.presentDir (.parse path) then some (.parse path) else none

/-- Source: `lmcache.py`, `purge_lmcache`. -/
def purgeLmcache (t : Tree) (policy : LMCacheStoragePolicy) (namespace_ session : Option String) :
    Purge (Dict Value) :=
  let summary (count : Nat) : Dict Value :=
    [("scope", .str (purgeScope namespace_ session)), ("removed_count", .int count)]
  match storageRoot t policy with
  | none => ⟨t, [], .ok (summary 0)⟩
  | some root =>
      let out := removeArtifacts t (purgeTargets t root namespace_ session)
      ⟨out.tree, out.removed, out.result.map summary⟩

/-! ## The storage root -/

section storage

variable {t : Tree} {policy : LMCacheStoragePolicy} {root p : RawPath} {d l : Location}

/-- What leads somewhere is a directory where its path is open as one. -/
theorem presentDir_of_located {follow : Bool} (h : t.locate follow p = .ok l) :
    t.presentDir p = t.isDir p := by
  unfold Tree.presentDir
  rw [Tree.gone_of_located h, Bool.or_false]

/-- The storage root of a policy is its path, where that is a directory. -/
theorem storageRoot_iff : storageRoot t policy = some root ↔
    ∃ path, policy.cacheStoragePath = some path ∧ path ≠ "" ∧ root = .parse path ∧ t.presentDir root = true := by
  unfold storageRoot
  split
  · next h => simp [h]
  · next h => simp [h]
  · next path hne h =>
      rw [h]
      constructor
      · intro hroot
        split_ifs at hroot with hdir
        cases hroot
        exact ⟨path, rfl, hne, rfl, hdir⟩
      · rintro ⟨_, heq, -, rfl, hdir⟩
        cases heq
        rw [if_pos hdir]

/-- The path of a storage root is open as a directory. -/
theorem storageRoot_open (h : storageRoot t policy = some root) : t.presentDir root = true := by
  obtain ⟨-, -, -, -, hopen⟩ := storageRoot_iff.mp h
  exact hopen

/-- A storage root whose path leads somewhere leads to a directory. -/
theorem dir_of_storageRoot (h : storageRoot t policy = some root) (hd : t.locate true root = .ok d) :
    t.kind d = some .dir := by
  have hopen := storageRoot_open h
  rw [presentDir_of_located hd] at hopen
  obtain ⟨l, hl, hdir⟩ := Tree.isDir_iff.mp hopen
  rw [hd] at hl
  cases hl
  exact hdir

end storage

/-! ## What is purged -/

section targets

variable {t : Tree} {root p : RawPath} {namespace_ session : Option String}

/-- Components after the same ones are in their own order. -/
theorem append_le_append_iff (parts a b : List String) : parts ++ a ≤ parts ++ b ↔ a ≤ b := by
  constructor
  · intro h
    by_contra hlt
    exact absurd h (not_le.mpr (List.append_left_lt (not_le.mp hlt)))
  · intro h
    rcases h.lt_or_eq with hlt | rfl
    · exact le_of_lt (List.append_left_lt hlt)
    · exact le_refl _

@[simp] theorem mem_sortPaths {paths : List RawPath} : p ∈ sortPaths paths ↔ p ∈ paths :=
  List.mem_insertionSort _

/-- The paths a directory lists. -/
theorem mem_iterdir {d : Location} (hd : t.locate true root = .ok d) :
    p ∈ t.iterdir root ↔ ∃ n, (t.kind (d ++ [n])).isSome ∧ p = root.child n := by
  unfold Tree.iterdir
  rw [hd]
  simp only [List.mem_map, Tree.mem_children]
  constructor
  · rintro ⟨n, hn, rfl⟩
    exact ⟨n, hn, rfl⟩
  · rintro ⟨n, hn, rfl⟩
    exact ⟨n, hn, rfl⟩

/-- **What a target of a purge is**: an entry of the root; the root joined with the namespace, with
or without the session; or the session below a directory of the root. -/
theorem mem_purgeTargets (h : p ∈ purgeTargets t root namespace_ session) :
    (namespace_ = none ∧ session = none ∧ p ∈ t.iterdir root) ∨
      (∃ n, namespace_ = some n ∧ p = root.join (.parse n)) ∨
      (∃ n s, namespace_ = some n ∧ session = some s ∧
        p = (root.join (.parse n)).join (.parse s)) ∨
      ∃ s child, session = some s ∧ child ∈ t.iterdir root ∧ t.presentDir child = true ∧
        p = child.join (.parse s) := by
  unfold purgeTargets at h
  split at h
  · exact Or.inl ⟨rfl, rfl, mem_sortPaths.mp h⟩
  · dsimp only at h
    split_ifs at h
    · exact Or.inr (Or.inr (Or.inl ⟨_, _, rfl, rfl, List.mem_singleton.mp h⟩))
    · cases h
  · dsimp only at h
    split_ifs at h
    · exact Or.inr (Or.inl ⟨_, rfl, List.mem_singleton.mp h⟩)
    · cases h
  · obtain ⟨child, hchild, rfl⟩ := List.mem_map.mp (mem_sortPaths.mp h)
    obtain ⟨hmem, hcond⟩ := List.mem_filter.mp hchild
    have hdir : t.presentDir child = true := (Bool.and_eq_true_iff.mp hcond).1
    exact Or.inr (Or.inr (Or.inr ⟨_, child, rfl, hmem, hdir, rfl⟩))

end targets

/-! ## What removing a target does -/

section removal

variable {t : Tree} {p : RawPath} {l : Location}

/-- A target that is not there is not removed. -/
theorem removeArtifact_of_error {error : Errno} (h : t.locate false p = .error error) :
    (removeArtifact t p).removed = [] ∧ (removeArtifact t p).tree = t := by
  obtain ⟨refusal, hcase⟩ := Tree.rmtree_error h
  unfold removeArtifact Tree.unlink
  rw [hcase, h]
  split <;> exact ⟨rfl, rfl⟩

/-- A target that is a file, or a link to anything but a directory, is unlinked. -/
theorem removeArtifact_of_unlinked (h : t.locate false p = .ok l) (hdir : t.isDir p = false)
    (hkind : t.kind l ≠ some .dir) :
    (removeArtifact t p).removed = [l] ∧ (removeArtifact t p).tree = t.prune l := by
  unfold removeArtifact Tree.unlink
  rw [presentDir_of_located h, hdir, h]
  dsimp only
  rw [if_neg hkind]
  exact ⟨rfl, rfl⟩

/-- A link to a directory is refused. -/
theorem removeArtifact_of_link {target : RawPath} (h : t.locate false p = .ok l)
    (hdir : t.isDir p = true) (hkind : t.kind l = some (.symlink target)) :
    (removeArtifact t p).removed = [] ∧ (removeArtifact t p).tree = t := by
  unfold removeArtifact
  rw [if_pos (Tree.presentDir_of_isDir hdir), Tree.rmtree_symlink h hkind]
  exact ⟨rfl, rfl⟩

/-- A directory loses everything inside, and goes itself when its path still names it then. -/
theorem removeArtifact_of_dir (h : t.locate false p = .ok l) (hkind : t.kind l = some .dir) :
    ((t.clear l).Names p l ∧ (removeArtifact t p).removed = t.below l ++ [l] ∧
        (removeArtifact t p).tree = (t.clear l).prune l) ∨
      (¬ (t.clear l).Names p l ∧ (removeArtifact t p).removed = t.below l ∧
        (removeArtifact t p).tree = t.clear l) := by
  have hdir : t.isDir p = true :=
    (Tree.isDir_iff_of_locate h (by simp [hkind])).mpr hkind
  unfold removeArtifact
  rw [if_pos (Tree.presentDir_of_isDir hdir)]
  rcases Tree.rmtree_cases h hkind with ⟨hnames, hcase⟩ | ⟨hnames, refusal, hcase⟩
  · rw [hcase]
    exact Or.inl ⟨hnames, rfl, rfl⟩
  · rw [hcase]
    exact Or.inr ⟨hnames, rfl, rfl⟩

/-- **What removing one target does**, by what its path leads to. -/
theorem removeArtifact_cases (t : Tree) (p : RawPath) :
    (∃ error, t.locate false p = .error error ∧ (removeArtifact t p).removed = [] ∧
        (removeArtifact t p).tree = t) ∨
      ∃ l, t.locate false p = .ok l ∧
        ((t.isDir p = false ∧ t.kind l ≠ some .dir ∧ (removeArtifact t p).removed = [l] ∧
            (removeArtifact t p).tree = t.prune l) ∨
          (t.isDir p = true ∧ (∃ target, t.kind l = some (.symlink target)) ∧
            (removeArtifact t p).removed = [] ∧ (removeArtifact t p).tree = t) ∨
          (t.kind l = some .dir ∧
            (((t.clear l).Names p l ∧ (removeArtifact t p).removed = t.below l ++ [l] ∧
                (removeArtifact t p).tree = (t.clear l).prune l) ∨
              (¬ (t.clear l).Names p l ∧ (removeArtifact t p).removed = t.below l ∧
                (removeArtifact t p).tree = t.clear l)))) := by
  cases hloc : t.locate false p with
  | error error => exact Or.inl ⟨error, rfl, removeArtifact_of_error hloc⟩
  | ok l =>
      refine Or.inr ⟨l, rfl, ?_⟩
      obtain ⟨k, hk, -⟩ := Tree.locate_alive hloc
      cases k with
      | dir => exact Or.inr (Or.inr ⟨hk, removeArtifact_of_dir hloc hk⟩)
      | file =>
          left
          have hdir : t.isDir p = false := by
            rw [Bool.eq_false_iff, ne_eq, Tree.isDir_iff_of_locate hloc (by simp [hk]), hk]
            simp
          exact ⟨hdir, by simp [hk], removeArtifact_of_unlinked hloc hdir (by simp [hk])⟩
      | symlink target =>
          cases hdir : t.isDir p with
          | true => exact Or.inr (Or.inl ⟨rfl, ⟨target, hk⟩, removeArtifact_of_link hloc hdir hk⟩)
          | false =>
              exact Or.inl ⟨rfl, by simp [hk],
                removeArtifact_of_unlinked hloc hdir (by simp [hk])⟩

end removal

end Lmrs
