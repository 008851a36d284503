import Lmrs.CacheIsolation
import Lmrs.Integrity

/-!
# The ground of a cache

Source: `lmrs/model_cache.py`, `DiskModelCache._hub_root`, `DiskModelCache._state_directory`.

The commands of a cache write below its root, which may not be there at first: the first of them that writes
makes it.

* `Placed`: where a cache is on a disk, and that nothing a command changes is on the way there.
* `Placed.layout`: a model that has nothing in the hub finds the layout in which commands on others are told.
* `exists_bystander`: there is always one that no command is on.
* `Unmade`: a cache root that is not there yet. `Unmade.writeJson_eq`, `Unmade.fetch_eq`: a command writes there
  as if the root had been made before.
-/

namespace Lmrs

open Python Json Posix Footprint DiskReading Reading

/-! ## Trees that grow -/

namespace Disk

variable {disk : Disk} {a b : Tree}

/-- Another tree has something else at a place, or directly below it. -/
def Changed (disk : Disk) (tree : Tree) (l : Location) : Prop :=
  tree.kind l ≠ disk.tree.kind l ∨ ∃ m, tree.kind m ≠ disk.tree.kind m ∧ m.dropLast = l

/-- The time of a place is told by what changes there. -/
theorem retree_cases (disk : Disk) (tree : Tree) (now : Int) (l : Location) :
    disk.Changed tree l ∧ (disk.retree tree now).data l = { disk.data l with modified := now } ∨
      ¬ disk.Changed tree l ∧ (disk.retree tree now).data l = disk.data l := by
  have hchanged (m : Location) : m ∈ ((disk.tree.entries ++ tree.entries).map Prod.fst).filter
      (fun l => tree.kind l ≠ disk.tree.kind l) ↔ tree.kind m ≠ disk.tree.kind m := by
    rw [List.mem_filter]
    simp only [decide_eq_true_eq, and_iff_right_iff_imp]
    intro hdiff
    have hne : m ≠ [] := by
      rintro rfl
      exact hdiff rfl
    rw [List.map_append, List.mem_append]
    cases hkind : disk.tree.kind m with
    | some k => exact Or.inl (List.mem_map_of_mem (Tree.mem_of_kind hne hkind))
    | none =>
        obtain ⟨k, hk⟩ := Option.ne_none_iff_exists'.mp (hkind ▸ hdiff)
        exact Or.inr (List.mem_map_of_mem (Tree.mem_of_kind hne hk))
  by_cases h : disk.Changed tree l
  · refine Or.inl ⟨h, if_pos ?_⟩
    exact h.imp (hchanged l).mpr fun ⟨m, hm, hlast⟩ => List.mem_map.mpr ⟨m, (hchanged m).mpr hm, hlast⟩
  · refine Or.inr ⟨h, if_neg fun hmem => h (hmem.imp (hchanged l).mp fun hmap => ?_)⟩
    obtain ⟨m, hm, hlast⟩ := List.mem_map.mp hmap
    exact ⟨m, (hchanged m).mp hm, hlast⟩

/-- **Entries added in two steps are those added in one.** -/
theorem retree_retree (now : Int) (hfirst : Tree.LeftOf disk.tree a) (hnext : Tree.LeftOf a b) :
    (disk.retree a now).retree b now = disk.retree b now := by
  have hkind (l : Location) : b.kind l ≠ disk.tree.kind l ↔
      a.kind l ≠ disk.tree.kind l ∨ b.kind l ≠ a.kind l := by
    cases hdisk : disk.tree.kind l with
    | some k => simp [hfirst.kind l k hdisk, hnext.kind l k (hfirst.kind l k hdisk)]
    | none =>
        cases ha : a.kind l with
        | some k => simp [hnext.kind l k ha]
        | none => simp
  have hchanged (l : Location) :
      disk.Changed b l ↔ disk.Changed a l ∨ (disk.retree a now).Changed b l := by
    have htree : (disk.retree a now).tree = a := rfl
    unfold Changed
    simp only [hkind, htree, or_and_right, exists_or]
    exact or_or_or_comm
  have hdata : ((disk.retree a now).retree b now).data = (disk.retree b now).data := by
    funext l
    rcases disk.retree_cases a now l with ⟨h, heq⟩ | ⟨h, heq⟩ <;>
      rcases (disk.retree a now).retree_cases b now l with ⟨h', heq'⟩ | ⟨h', heq'⟩ <;>
      rcases disk.retree_cases b now l with ⟨h'', heq''⟩ | ⟨h'', heq''⟩ <;>
      rw [heq', heq'', heq]
    · exact absurd ((hchanged l).mpr (Or.inl h)) h''
    · exact absurd ((hchanged l).mpr (Or.inl h)) h''
    · exact absurd ((hchanged l).mpr (Or.inr h')) h''
    · exact absurd ((hchanged l).mp h'') (by simp [h, h'])
  calc (disk.retree a now).retree b now = ⟨b, ((disk.retree a now).retree b now).data⟩ := rfl
    _ = disk.retree b now := by rw [hdata]; rfl

end Disk

/-! ## Places -/

/-- What a command on some model may change. -/
def Commanded (c h l : Location) : Prop :=
  ((∃ name, h ++ [repoDirectoryName name] <+: l) ∨ h ++ [".locks"] <+: l) ∨ stateRoot c <+: l

/-- What is foreign to a model is what a command on another may change. -/
theorem Foreign.commanded {c h l : Location} {modelName : String} (hl : Foreign c h modelName l) :
    Commanded c h l := hl.imp (Or.imp (fun ⟨other, _, hother⟩ => ⟨other, hother⟩) id) id

/-- Where a cache is on a disk: its root leads to the directory `c` and its hub to the directory `h`, the state of
LMRS is a directory without links, if there is one, and nothing that commands change is the root, the hub, or
looked at on the way to them. -/
structure Placed (cache : HubCache) (c h : Location) (hub : RawPath) (disk : Disk) : Prop where
  root : disk.tree.locate true (RawPath.parse cache.cacheRoot) = .ok c
  rootDir : disk.tree.kind c = some .dir
  hubRoot : (hubCacheRoot cache.cacheRoot disk).1 = .ok hub
  hubAt : disk.tree.locate true hub = .ok h
  hubDir : disk.tree.kind h = some .dir
  state : disk.tree.kind (stateRoot c) = none ∨ disk.tree.kind (stateRoot c) = some .dir
  plain : ∀ l target, stateRoot c <+: l → disk.tree.kind l ≠ some (.symlink target)
  apart : ∀ l, Commanded c h l → l ≠ c ∧ l ≠ h ∧ l ∉ disk.tree.visits true hub ∧
    .kind l ∉ (hubCacheRoot cache.cacheRoot disk).2

section looks

variable {disk : Disk} {p : RawPath} {look : Look}

/-- What is looked at to tell whether a path is a directory. -/
theorem isDir_looks (h : look ∈ (isDir p disk).2) :
    look = .cwd ∨ (∃ l ∈ disk.tree.visits true p, look = .kind l) ∨
      ∃ l, disk.tree.locate true p = .ok l ∧ look = .kind l := by
  rcases looks_cases h with hkind | ⟨kind, -, hnone⟩
  · rcases looks_cases hkind with hlocate | ⟨found, hfound, hat⟩
    · rcases List.mem_append.mp hlocate with hcwd | hvisit
      · split_ifs at hcwd
        · cases hcwd
        · exact Or.inl (List.mem_singleton.mp hcwd)
      · obtain ⟨l, hl, rfl⟩ := List.mem_map.mp hvisit
        exact Or.inr (Or.inl ⟨l, hl, rfl⟩)
    · have hloc : disk.tree.locate true p = found := Except.ok.inj hfound
      cases found with
      | ok l => exact Or.inr (Or.inr ⟨l, hloc, List.mem_singleton.mp hat⟩)
      | error error => cases hat
  · cases hnone

/-- The hub is told by looks at the working directory and at places. -/
theorem hubCacheRoot_look {cacheRoot : String} (h : look ∈ (hubCacheRoot cacheRoot disk).2) :
    look = .cwd ∨ ∃ l, look = .kind l := by
  unfold hubCacheRoot at h
  dsimp only at h
  split_ifs at h
  · cases h
  · rcases looks_cases h with hdir | ⟨found, -, hnone⟩
    · rcases isDir_looks hdir with rfl | ⟨l, -, rfl⟩ | ⟨l, -, rfl⟩
      · exact Or.inl rfl
      · exact Or.inr ⟨l, rfl⟩
      · exact Or.inr ⟨l, rfl⟩
    · split_ifs at hnone <;> cases hnone

/-- The hub is told by the tree. -/
theorem hubCacheRoot_tree {disk' : Disk} (cacheRoot : String) (htree : disk'.tree = disk.tree) :
    hubCacheRoot cacheRoot disk' = hubCacheRoot cacheRoot disk := by
  apply localScans.hubCacheRoot
  intro look hlook
  rcases hubCacheRoot_look hlook with rfl | ⟨l, rfl⟩
  · exact congrArg Tree.cwd htree
  · exact congrArg (Tree.kind · l) htree

end looks

/-! ## A bystander -/

section bystander

variable {cache : HubCache} {c h : Location} {hub : RawPath} {disk : Disk} {bystander : String}

/-- The place of a model in the hub is foreign to no other name than its own. -/
theorem Placed.repo_own (hplaced : Placed cache c h hub disk) (bystander : String) :
    ¬ Foreign c h bystander (h ++ [repoDirectoryName bystander]) := by
  rintro ((⟨other, hne, hother⟩ | hlocks) | hstate)
  · rw [List.prefix_append_right_inj] at hother
    exact hne (List.cons_prefix_cons.mp hother).1
  · rw [List.prefix_append_right_inj] at hlocks
    exact repoDirectoryName_ne bystander (by decide) (List.cons_prefix_cons.mp hlocks).1.symm
  · rcases List.prefix_concat_iff.mp hstate with heq | hin
    · have hlast := List.singleton_inj.mp (List.append_inj' heq rfl).2
      exact repoDirectoryName_ne bystander (by decide) hlast.symm
    · exact (hplaced.apart h (Or.inr hin)).2.1 rfl

/-- **A model that has nothing in the hub finds the layout** in which commands on others are told. -/
theorem Placed.layout (hplaced : Placed cache c h hub disk)
    (hfree : disk.tree.kind (h ++ [repoDirectoryName bystander]) = none) :
    Layout cache bystander c h hub disk where
  root := hplaced.root
  rootDir := hplaced.rootDir
  hubRoot := hplaced.hubRoot
  hubAt := hplaced.hubAt
  hubDir := hplaced.hubDir
  state := hplaced.state
  plain := hplaced.plain
  rootApart hl := (hplaced.apart c hl.commanded).1 rfl
  hubApart hl := (hplaced.apart h hl.commanded).2.1 rfl
  avoids look hlook := by
    have hname := isName_repoDirectoryName bystander
    have hrepo : (cache.repoDirectory bystander disk).1 = .ok (hub.child (repoDirectoryName bystander)) :=
      answer_bind hplaced.hubRoot
    have hloc : disk.tree.locate true (hub.child (repoDirectoryName bystander)) = .error .noEntry := by
      rw [Tree.locate_name true hplaced.hubAt hplaced.hubDir hname.2.2.1 (by simp [hfree]), if_pos hfree]
    have hdir : disk.tree.isDir (hub.child (repoDirectoryName bystander)) = false := by
      rw [Bool.eq_false_iff]
      intro hisDir
      obtain ⟨l, hl, -⟩ := Tree.isDir_iff.mp hisDir
      rw [hloc] at hl
      cases hl
    have hscan : (cache.scanHub bystander disk).1 = .ok none := by
      unfold HubCache.scanHub
      simp only [bind_answers_iff, hrepo, isDir_answers, hdir, Except.ok.injEq, exists_eq_left',
        Bool.false_eq_true, if_false, pure_answers_iff]
    -- only the hub and the place of the repository are looked at
    have hscanned : look ∈ (cache.scanHub bystander disk).2 := by
      rcases looks_cases hlook with hscanned | ⟨found, hfound, hnone⟩
      · exact hscanned
      · rw [hscan] at hfound
        cases hfound
        cases hnone
    rcases looks_cases hscanned with hrepoLook | ⟨repo, hfound, hlater⟩
    · rcases looks_cases hrepoLook with hhub | ⟨hub', -, hnone⟩
      · rcases hubCacheRoot_look hhub with rfl | ⟨l, rfl⟩
        · trivial
        · exact fun hl => (hplaced.apart l hl.commanded).2.2.2 hhub
      · cases hnone
    · rw [hrepo] at hfound
      cases hfound
      rcases looks_cases hlater with hisDir | ⟨found, hfound, hnone⟩
      · rcases isDir_looks hisDir with rfl | ⟨l, hl, rfl⟩ | ⟨l, hl, -⟩
        · trivial
        · rcases Tree.mem_visits_child hplaced.hubAt hplaced.hubDir hname.2.2.1 (by simp [hfree]) hl with hway | rfl
          · exact fun hl => (hplaced.apart l hl.commanded).2.2.1 hway
          · exact hplaced.repo_own bystander
        · rw [hloc] at hl
          cases hl
      · rw [isDir_answers, hdir] at hfound
        cases hfound
        cases hnone

/-- The directory names of the models `x`, `xx`, `xxx` and so on are different. -/
theorem repoDirectoryName_replicate (n : Nat) :
    repoDirectoryName (String.ofList (List.replicate n 'x')) = "models--" ++ String.ofList (List.replicate n 'x') := by
  unfold repoDirectoryName
  simp

/-- **There is a model that none of some names shares its directory name with, and that has nothing in a
directory.** -/
theorem exists_bystander (tree : Tree) (h : Location) (names : List String) :
    ∃ bystander, (∀ name ∈ names, repoDirectoryName name ≠ repoDirectoryName bystander) ∧
      tree.kind (h ++ [repoDirectoryName bystander]) = none := by
  let directory (n : Nat) : String := repoDirectoryName (String.ofList (List.replicate n 'x'))
  have hinjective : Function.Injective directory := by
    intro n m hnm
    have htext := congrArg String.length ((repoDirectoryName_replicate n).symm.trans
      (hnm.trans (repoDirectoryName_replicate m)))
    simpa using htext
  obtain ⟨name, ⟨n, rfl⟩, hnew⟩ := (Set.infinite_range_of_injective hinjective).exists_notMem_finset
    (names.map repoDirectoryName ++ tree.children h).toFinset
  rw [List.mem_toFinset, List.mem_append, not_or] at hnew
  obtain ⟨hnames, hchildren⟩ := hnew
  refine ⟨_, fun name hname heq => hnames (List.mem_map.mpr ⟨name, hname, heq⟩), ?_⟩
  rw [Tree.mem_children] at hchildren
  simpa using hchildren

end bystander

/-! ## A root that is made -/

/-- A cache root that is not there, and can be made in a place where there is no state of LMRS. -/
structure Unmade (cache : HubCache) (c : Location) (made : Tree) (disk : Disk) : Prop where
  lacking : disk.tree.isDir (RawPath.parse cache.cacheRoot) = false
  makes : disk.tree.makeDirs (RawPath.parse cache.cacheRoot).absolute
    (RawPath.parse cache.cacheRoot).parts.reverse = .ok made
  placed : Placed cache c c (RawPath.parse cache.cacheRoot) ⟨made, disk.data⟩
  free : made.kind (stateRoot c) = none

namespace Unmade

variable {cache : HubCache} {c : Location} {made : Tree} {disk : Disk} {modelName : String} {host : CacheHost}

/-- A cache is placed by the tree. -/
theorem placed_retree (hunmade : Unmade cache c made disk) (now : Int) :
    Placed cache c c (RawPath.parse cache.cacheRoot) (disk.retree made now) where
  root := hunmade.placed.root
  rootDir := hunmade.placed.rootDir
  hubRoot := hunmade.placed.hubRoot ▸ congrArg Prod.fst (hubCacheRoot_tree cache.cacheRoot rfl)
  hubAt := hunmade.placed.hubAt
  hubDir := hunmade.placed.hubDir
  state := hunmade.placed.state
  plain := hunmade.placed.plain
  apart := by
    have hsame : hubCacheRoot cache.cacheRoot (disk.retree made now) =
        hubCacheRoot cache.cacheRoot ⟨made, disk.data⟩ := hubCacheRoot_tree cache.cacheRoot rfl
    rw [congrArg Prod.snd hsame]
    exact hunmade.placed.apart

/-- The root leads nowhere. -/
theorem nowhere (hunmade : Unmade cache c made disk) :
    disk.tree.locate true (RawPath.parse cache.cacheRoot) = .error .noEntry :=
  Tree.locate_of_makeDirs hunmade.makes hunmade.lacking

/-- Below the root there is no directory. -/
theorem isDir_child {name : String} (hunmade : Unmade cache c made disk) (hname : name ≠ "..") :
    disk.tree.isDir ((RawPath.parse cache.cacheRoot).child name) = false := by
  rw [Bool.eq_false_iff]
  intro hisDir
  obtain ⟨l, hl, -⟩ := Tree.isDir_iff.mp hisDir
  rw [Tree.locate_child_error true (fun hdot => absurd hdot hname) hunmade.nowhere] at hl
  cases hl

/-- The hub is the root. -/
theorem hubRoot (hunmade : Unmade cache c made disk) :
    (hubCacheRoot cache.cacheRoot disk).1 = .ok (RawPath.parse cache.cacheRoot) := by
  unfold hubCacheRoot
  dsimp only
  split_ifs
  · rfl
  · rw [answer_bind isDir_answers, hunmade.isDir_child (by decide)]
    rfl

/-- The state of a model leads nowhere. -/
theorem state_nowhere (hunmade : Unmade cache c made disk) (modelName : String) :
    disk.tree.locate true (cache.stateDirectory modelName) = .error .noEntry := by
  have hname := (isName_repoDirectoryName modelName).2.2.1
  refine Tree.locate_child_error true (fun hdot => absurd hdot hname) ?_
  exact Tree.locate_child_error true (fun hdot => absurd hdot (by decide)) hunmade.nowhere

/-- **A file of a model is written as if the root had been made before.** -/
theorem writeJson_eq (hunmade : Unmade cache c made disk) (hdone : host.writes = .done) (F : FloatText)
    (modelName file : String) (facts : Dict Value) :
    disk.writeJson F host ((cache.stateDirectory modelName).child file) facts =
      (disk.retree made host.now).writeJson F host ((cache.stateDirectory modelName).child file) facts := by
  have hname : IsName ".lmrs" := by decide
  have hmakes := Tree.makeDirs_through (m := repoDirectoryName modelName) hunmade.makes hunmade.lacking
    hunmade.placed.root hunmade.placed.rootDir hname (isName_repoDirectoryName modelName).2.2.1 hunmade.free
  have hboth := Tree.makeDirs_below (m := repoDirectoryName modelName) hunmade.placed.root
    hunmade.placed.rootDir hname (isName_repoDirectoryName modelName) hunmade.free
  have hparts : (cache.stateDirectory modelName).parts.reverse =
      repoDirectoryName modelName :: ".lmrs" :: (RawPath.parse cache.cacheRoot).parts.reverse := by
    simp [HubCache.stateDirectory, RawPath.child]
  have hparents := disk.retree_retree host.now (Tree.makeDirs_leftOf hunmade.makes) (Tree.makeDirs_leftOf hboth)
  have hmade : disk.tree.makeDirs (cache.stateDirectory modelName).absolute
      (cache.stateDirectory modelName).parts.reverse = _ := hparts ▸ hmakes.trans hboth
  have hmade' : (disk.retree made host.now).tree.makeDirs (cache.stateDirectory modelName).absolute
      (cache.stateDirectory modelName).parts.reverse = _ := hparts ▸ hboth
  unfold Disk.writeJson
  rw [hdone, Tree.parent_child, hmade, hmade']
  dsimp only
  rw [hparents]

/-- **A download finds the root made.** -/
theorem fetch_eq (hunmade : Unmade cache c made disk) (host : CacheHost) (download : Download)
    (modelName : String) :
    HubCache.fetch host download modelName (RawPath.parse cache.cacheRoot) disk =
      HubCache.fetch host download modelName (RawPath.parse cache.cacheRoot) (disk.retree made host.now) := by
  have hpresent := Tree.makeDirs_present (Tree.isDir_iff.mpr ⟨c, hunmade.placed.root, hunmade.placed.rootDir⟩)
  have hgrown : (disk.retree made host.now).tree.makeDirs (RawPath.parse cache.cacheRoot).absolute
      (RawPath.parse cache.cacheRoot).parts.reverse = .ok (disk.retree made host.now).tree := hpresent
  unfold HubCache.fetch
  rw [hunmade.makes, hgrown]
  dsimp only
  rw [Disk.retree_self]

end Unmade

/-- The ground of a cache: it is placed, or its root is made by the first command that writes, and placed then. -/
inductive Ground (cache : HubCache) (c h : Location) (hub : RawPath) (disk : Disk) : Prop
  | placed (hplaced : Placed cache c h hub disk)
  | unmade {made : Tree} (hunmade : Unmade cache c made disk) (hat : h = c)
      (hhub : hub = RawPath.parse cache.cacheRoot)

/-- The ground as a bystander keeps it: the layout, or a root that is made, with no place for the bystander. -/
inductive Kept (cache : HubCache) (bystander : String) (c h : Location) (hub : RawPath) (disk : Disk) : Prop
  | laid (hlayout : Layout cache bystander c h hub disk)
  | unmade {made : Tree} (hunmade : Unmade cache c made disk) (hat : h = c)
      (hhub : hub = RawPath.parse cache.cacheRoot)
      (hfree : made.kind (c ++ [repoDirectoryName bystander]) = none)

/-- **There is a bystander of a run**: a model that none of its names is of keeps the ground. -/
theorem Ground.kept {cache : HubCache} {c h : Location} {hub : RawPath} {disk : Disk}
    (hground : Ground cache c h hub disk) (names : List String) :
    ∃ bystander, (∀ name ∈ names, repoDirectoryName name ≠ repoDirectoryName bystander) ∧
      Kept cache bystander c h hub disk := by
  cases hground with
  | placed hplaced =>
      obtain ⟨bystander, hnames, hfree⟩ := exists_bystander disk.tree h names
      exact ⟨bystander, hnames, .laid (hplaced.layout hfree)⟩
  | @unmade made hunmade hat hhub =>
      obtain ⟨bystander, hnames, hfree⟩ := exists_bystander made c names
      exact ⟨bystander, hnames, .unmade hunmade hat hhub hfree⟩

end Lmrs
