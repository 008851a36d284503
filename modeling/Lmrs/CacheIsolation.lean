import Lmrs.CacheOperations
import Lmrs.ScanLocality

/-!
# Models apart in one cache

Source: `lmrs/model_cache.py`, `DiskModelCache`.

A command on a model changes the repository directory the hub has for it, the state directory LMRS has for
it, and the locks of the download. A model with another directory name, whose files are reached without
looking there, is left as it is.

* `Touched`: what a command on a model may change.
* `Layout`: where a cache and a model are on a disk, and what the model's files are apart from.
* `Layout.call_touched`: a command changes no more than that, and leaves the layout.
* `others_unchanged`: over a sequence of commands, every other model is reported and held as before.
-/

namespace Lmrs

open Python Json Posix Footprint DiskReading

/-! ## Regions -/

/-- The state directory of a cache. -/
def stateRoot (c : Location) : Location := c ++ [".lmrs"]

/-- What a command on the model with a directory name reaches: its directory in the hub `h`, the locks of
the hub, and its directory below the cache root `c`. -/
def Reach (c h : Location) (n : String) (l : Location) : Prop :=
  (h ++ [n] <+: l ∨ h ++ [".locks"] <+: l) ∨ stateRoot c ++ [n] <+: l

/-- What is of other models, or of no model. -/
def Foreign (c h : Location) (modelName : String) (l : Location) : Prop :=
  ((∃ other, repoDirectoryName other ≠ repoDirectoryName modelName ∧
      h ++ [repoDirectoryName other] <+: l) ∨ h ++ [".locks"] <+: l) ∨ stateRoot c <+: l

/-- What a command on a model reaches is foreign to the others. -/
theorem Reach.foreign {c h l : Location} {modelName other : String}
    (hne : repoDirectoryName other ≠ repoDirectoryName modelName)
    (hreach : Reach c h (repoDirectoryName other) l) : Foreign c h modelName l := by
  rcases hreach with (hhub | hlocks) | hstate
  · exact Or.inl (Or.inl ⟨other, hne, hhub⟩)
  · exact Or.inl (Or.inr hlocks)
  · exact Or.inr ((List.prefix_append (stateRoot c) _).trans hstate)

/-- A look that avoids what is foreign to a model, and the times of the cache's own directories. -/
def Look.Avoids (c h : Location) (modelName : String) : Look → Prop
  | .cwd => True
  | .kind l => ¬ Foreign c h modelName l
  | .data l => ¬ Foreign c h modelName l ∧ l ≠ c ∧ l ≠ h
  | .names d => ∀ n, ¬ Foreign c h modelName (d ++ [n])
  | .below d => ∀ l, d <+: l → ¬ Foreign c h modelName l

/-! ## What a command may change -/

/-- What a command on a model may change. -/
structure Touched (c h : Location) (n : String) (disk disk' : Disk) : Prop where
  cwd : disk'.tree.cwd = disk.tree.cwd
  kind : ∀ l, ¬ Reach c h n l → l ≠ stateRoot c → disk'.tree.kind l = disk.tree.kind l
  data : ∀ l, ¬ Reach c h n l → l ≠ stateRoot c → l ≠ c → l ≠ h → disk'.data l = disk.data l
  state : disk'.tree.kind (stateRoot c) = disk.tree.kind (stateRoot c) ∨
    disk.tree.kind (stateRoot c) = none ∧ disk'.tree.kind (stateRoot c) = some .dir
  plain : ∀ l target, stateRoot c <+: l → disk'.tree.kind l = some (.symlink target) →
    disk.tree.kind l = some (.symlink target)

variable {cache : HubCache} {c h : Location} {n modelName other : String} {hub : RawPath}
  {disk disk' disk'' : Disk}

theorem Touched.refl (disk : Disk) : Touched c h n disk disk :=
  ⟨rfl, fun _ _ _ => rfl, fun _ _ _ _ _ => rfl, Or.inl rfl, fun _ _ _ hlink => hlink⟩

theorem Touched.trans (hfirst : Touched c h n disk disk') (hnext : Touched c h n disk' disk'') :
    Touched c h n disk disk'' where
  cwd := hnext.cwd.trans hfirst.cwd
  kind l hl hs := (hnext.kind l hl hs).trans (hfirst.kind l hl hs)
  data l hl hs hc hh := (hnext.data l hl hs hc hh).trans (hfirst.data l hl hs hc hh)
  state := by
    rcases hfirst.state with hsame | ⟨hnone, hdir⟩
    · rcases hnext.state with hsame' | ⟨hnone', hdir'⟩
      · exact Or.inl (hsame'.trans hsame)
      · exact Or.inr ⟨hsame ▸ hnone', hdir'⟩
    · rcases hnext.state with hsame' | ⟨hnone', hdir'⟩
      · exact Or.inr ⟨hnone, hsame'.trans hdir⟩
      · rw [hdir] at hnone'
        cases hnone'
  plain l target hl hlink := hfirst.plain l target hl (hnext.plain l target hl hlink)

/-- A place keeps what it holds where nothing appears or goes, there or directly below. -/
theorem Disk.retree_data {tree : Tree} {l : Location} (now : Int)
    (hhere : tree.kind l = disk.tree.kind l)
    (hbelow : ∀ m, tree.kind (l ++ [m]) = disk.tree.kind (l ++ [m])) :
    (disk.retree tree now).data l = disk.data l := by
  unfold Disk.retree
  refine if_neg ?_
  rintro (hchanged | hchanged)
  · simp [hhere] at hchanged
  · obtain ⟨m, hm, rfl⟩ := List.mem_map.mp hchanged
    have hdiff : tree.kind m ≠ disk.tree.kind m := by simpa using (List.mem_filter.mp hm).2
    rcases List.eq_nil_or_concat m with rfl | ⟨before, last, rfl⟩
    · exact hdiff rfl
    · rw [List.concat_eq_append] at hdiff hbelow
      rw [List.dropLast_concat] at hbelow
      exact hdiff (hbelow last)

/-- Another tree that differs in reach of a command. -/
theorem Touched.retree {tree : Tree} (now : Int) (hcwd : tree.cwd = disk.tree.cwd)
    (hkind : ∀ l, ¬ Reach c h n l → l ≠ stateRoot c → tree.kind l = disk.tree.kind l)
    (hstate : tree.kind (stateRoot c) = disk.tree.kind (stateRoot c) ∨
      disk.tree.kind (stateRoot c) = none ∧ tree.kind (stateRoot c) = some .dir)
    (hplain : ∀ l target, stateRoot c <+: l → tree.kind l = some (.symlink target) →
      disk.tree.kind l = some (.symlink target)) :
    Touched c h n disk (disk.retree tree now) where
  cwd := hcwd
  kind := hkind
  data l hl hs hc hh := by
    refine Disk.retree_data now (hkind l hl hs) fun m => hkind _ ?_ ?_
    · -- a place reached that is directly below one that is not is the first of its region
      have hfirst {d : Location} {k : String} (hpre : d ++ [k] <+: l ++ [m]) (hout : ¬ d ++ [k] <+: l) :
          d = l := by
        rcases List.prefix_concat_iff.mp hpre with heq | hin
        · exact (List.append_inj' heq rfl).1
        · exact absurd hin hout
      rintro ((hhub | hlocks) | hown)
      · exact hh (hfirst hhub fun hin => hl (Or.inl (Or.inl hin))).symm
      · exact hh (hfirst hlocks fun hin => hl (Or.inl (Or.inr hin))).symm
      · exact hs (hfirst hown fun hin => hl (Or.inr hin)).symm
    · intro heq
      exact hc (List.append_inj' heq rfl).1
  state := hstate
  plain := hplain

/-- A text in reach of a command. -/
theorem Touched.setText {l : Location} (text : StoredText) (now : Int) (hl : Reach c h n l) :
    Touched c h n disk (disk.setText l text now) where
  cwd := rfl
  kind _ _ _ := rfl
  data m hm _ _ _ := by
    refine if_neg ?_
    rintro rfl
    exact hm hl
  state := Or.inl rfl
  plain _ _ _ hlink := hlink

/-! ## Layouts -/

/-- Where a cache is on a disk, and what a model's files are apart from: the cache root leads to the
directory `c`, the hub to the directory `h`; the state of LMRS is a directory without links, if there is
one; and to read the model, nothing of the others is looked at. -/
structure Layout (cache : HubCache) (modelName : String) (c h : Location) (hub : RawPath)
    (disk : Disk) : Prop where
  root : disk.tree.locate true (RawPath.parse cache.cacheRoot) = .ok c
  rootDir : disk.tree.kind c = some .dir
  hubRoot : (hubCacheRoot cache.cacheRoot disk).1 = .ok hub
  hubAt : disk.tree.locate true hub = .ok h
  hubDir : disk.tree.kind h = some .dir
  state : disk.tree.kind (stateRoot c) = none ∨ disk.tree.kind (stateRoot c) = some .dir
  plain : ∀ l target, stateRoot c <+: l → disk.tree.kind l ≠ some (.symlink target)
  rootApart : ¬ Foreign c h modelName c
  hubApart : ¬ Foreign c h modelName h
  avoids : ∀ look ∈ (cache.weights modelName disk).2, look.Avoids c h modelName

namespace Layout

variable {l : Location}

/-- What is not foreign to a model is not changed by a command on another. -/
theorem not_reach (hne : repoDirectoryName other ≠ repoDirectoryName modelName)
    (hl : ¬ Foreign c h modelName l) : ¬ Reach c h (repoDirectoryName other) l ∧ l ≠ stateRoot c := by
  refine ⟨fun hreach => hl (hreach.foreign hne), ?_⟩
  rintro rfl
  exact hl (Or.inr List.prefix_rfl)

/-- Two disks are the same wherever a reading of the model looks. -/
theorem looks_same (hne : repoDirectoryName other ≠ repoDirectoryName modelName)
    (htouched : Touched c h (repoDirectoryName other) disk disk') {look : Look}
    (havoids : look.Avoids c h modelName) : look.Same disk disk' := by
  have hkind {l : Location} (hl : ¬ Foreign c h modelName l) :
      disk'.tree.kind l = disk.tree.kind l :=
    htouched.kind l (not_reach hne hl).1 (not_reach hne hl).2
  cases look with
  | cwd => exact htouched.cwd
  | kind l => exact hkind havoids
  | data l =>
      obtain ⟨hl, hc, hh⟩ := havoids
      exact htouched.data l (not_reach hne hl).1 (not_reach hne hl).2 hc hh
  | names d => exact fun n => hkind (havoids n)
  | below d => exact fun l hl => hkind (havoids l hl)

variable (hlayout : Layout cache modelName c h hub disk)
  (hne : repoDirectoryName other ≠ repoDirectoryName modelName)
  (htouched : Touched c h (repoDirectoryName other) disk disk')

include hlayout hne htouched

theorem weights_same : cache.weights modelName disk' = cache.weights modelName disk :=
  localScans.weights cache modelName disk disk' fun look hlook =>
    looks_same hne htouched (hlayout.avoids look hlook)

theorem scanHub_same : cache.scanHub modelName disk' = cache.scanHub modelName disk :=
  localScans.scanHub cache modelName disk disk' fun look hlook =>
    looks_same hne htouched (hlayout.avoids look (HubCache.scanHub_looks hlook))

theorem hubCacheRoot_same : hubCacheRoot cache.cacheRoot disk' = hubCacheRoot cache.cacheRoot disk :=
  localScans.hubCacheRoot cache.cacheRoot disk disk' fun look hlook =>
    looks_same hne htouched (hlayout.avoids look (HubCache.hubCacheRoot_looks hlook))

/-- **A command on another model leaves the layout.** -/
theorem touched : Layout cache modelName c h hub disk' where
  root := by
    have hsame := Tree.locate_congr (fun _ => htouched.cwd) fun l hl => looks_same hne htouched
      (hlayout.avoids _ (HubCache.root_looks hlayout.hubRoot hl))
    exact hsame.1.trans hlayout.root
  rootDir := by
    rw [htouched.kind c (not_reach hne hlayout.rootApart).1 (not_reach hne hlayout.rootApart).2]
    exact hlayout.rootDir
  hubRoot := by
    rw [hlayout.hubCacheRoot_same hne htouched]
    exact hlayout.hubRoot
  hubAt := by
    have hsame := Tree.locate_congr (fun _ => htouched.cwd) fun l hl => looks_same hne htouched
      (hlayout.avoids _ (HubCache.repo_looks hlayout.hubRoot (Tree.visits_child true _ hl)))
    exact hsame.1.trans hlayout.hubAt
  hubDir := by
    rw [htouched.kind h (not_reach hne hlayout.hubApart).1 (not_reach hne hlayout.hubApart).2]
    exact hlayout.hubDir
  state := by
    rcases htouched.state with hsame | ⟨-, hdir⟩
    · rw [hsame]
      exact hlayout.state
    · exact Or.inr hdir
  plain l target hl hlink := hlayout.plain l target hl (htouched.plain l target hl hlink)
  rootApart := hlayout.rootApart
  hubApart := hlayout.hubApart
  avoids := by
    rw [hlayout.weights_same hne htouched]
    exact hlayout.avoids

end Layout

/-! ## Removing -/

namespace Layout

/-- What is in the hub under a name of its own is apart from the state of LMRS. -/
theorem hub_apart {l : Location} {name : String} (hlayout : Layout cache modelName c h hub disk)
    (hname : name ≠ ".lmrs") (hforeign : ∀ l, h ++ [name] <+: l → Foreign c h modelName l)
    (hhub : h ++ [name] <+: l) : ¬ stateRoot c <+: l := by
  intro hstate
  have hlast {d : Location} {n m : String} (heq : h ++ [n] = d ++ [m]) : n = m := by
    simpa using (List.append_inj' heq rfl).2
  rcases List.prefix_or_prefix_of_prefix hhub hstate with hbelow | habove
  · rcases List.prefix_concat_iff.mp hbelow with heq | hin
    · exact hname (hlast heq)
    · exact hlayout.rootApart (hforeign c hin)
  · rcases List.prefix_concat_iff.mp habove with heq | hin
    · exact hname (hlast heq.symm)
    · exact hlayout.hubApart (Or.inr hin)

/-- The directory the hub has for another model is apart from the state of LMRS. -/
theorem repo_apart {l : Location} (hlayout : Layout cache modelName c h hub disk)
    (hne : repoDirectoryName other ≠ repoDirectoryName modelName)
    (hhub : h ++ [repoDirectoryName other] <+: l) : ¬ stateRoot c <+: l :=
  hlayout.hub_apart (repoDirectoryName_ne other (by decide))
    (fun _ hl => Or.inl (Or.inl ⟨other, hne, hl⟩)) hhub

/-- The locks of the hub are apart from the state of LMRS. -/
theorem locks_apart {l : Location} (hlayout : Layout cache modelName c h hub disk)
    (hhub : h ++ [".locks"] <+: l) : ¬ stateRoot c <+: l :=
  hlayout.hub_apart (by decide) (fun _ hl => Or.inl (Or.inr hl)) hhub

/-- Removing a tree in reach of a command. -/
theorem rmtree_touched {p : RawPath} (now : Int)
    (hp : ∀ l, disk.tree.locate false p = .ok l →
      (∀ m, l <+: m → Reach c h n m) ∧ ¬ l <+: stateRoot c) :
    Touched c h n disk (disk.retree (disk.tree.rmtree p).tree now) := by
  obtain ⟨hcwd, hchanges⟩ := disk.tree.rmtree_changes p
  refine .retree now hcwd ?_ (Or.inl ?_) ?_
  · intro m hm _
    rcases hchanges m with hsame | ⟨-, l, hl, hin⟩
    · exact hsame
    · exact absurd ((hp l hl).1 m hin) hm
  · rcases hchanges (stateRoot c) with hsame | ⟨-, l, hl, hin⟩
    · exact hsame
    · exact absurd hin (hp l hl).2
  · intro m target _ hlink
    rcases hchanges m with hsame | ⟨hnone, -⟩
    · rwa [hsame] at hlink
    · rw [hnone] at hlink
      cases hlink

variable (hlayout : Layout cache modelName c h hub disk)
  (hne : repoDirectoryName other ≠ repoDirectoryName modelName)

include hlayout in
/-- The path of a model's state leads to its directory. -/
theorem state_located {l : Location}
    (hl : disk.tree.locate false (cache.stateDirectory other) = .ok l) :
    l = stateRoot c ++ [repoDirectoryName other] := by
  obtain ⟨d, hd, -, rfl⟩ := Tree.locate_parent (isName_repoDirectoryName other).2.2.1 hl
  have hroot := Tree.locate_name true hlayout.root hlayout.rootDir (n := ".lmrs") (by decide)
    (hlayout.plain _ · List.prefix_rfl)
  rw [hroot] at hd
  split_ifs at hd
  cases hd
  rfl

include hlayout hne

/-- **Removing what a model has changes what is in its reach.** -/
theorem removeDirs_touched (now : Int) (paths : List RawPath)
    (hpaths : ∀ p ∈ paths, p = hub.child (repoDirectoryName other) ∨ p = cache.stateDirectory other) :
    Touched c h (repoDirectoryName other) disk (disk.removeDirs now paths).disk := by
  induction paths generalizing disk with
  | nil => exact .refl _
  | cons p rest ih =>
      rw [List.forall_mem_cons] at hpaths
      have hremoved : Touched c h (repoDirectoryName other) disk
          (disk.retree (disk.tree.rmtree p).tree now) := by
        apply rmtree_touched
        intro l hl
        rcases hpaths.1 with rfl | rfl
        · obtain ⟨d, hd, -, rfl⟩ := Tree.locate_parent (isName_repoDirectoryName other).2.2.1 hl
          obtain rfl := Except.ok.inj (hlayout.hubAt.symm.trans hd)
          refine ⟨fun m hm => Or.inl (Or.inl hm), fun hin => ?_⟩
          exact hlayout.repo_apart hne hin List.prefix_rfl
        · obtain rfl := hlayout.state_located hl
          refine ⟨fun m hm => Or.inr hm, fun hin => ?_⟩
          have hlength := hin.length_le
          simp at hlength
      unfold Disk.removeDirs
      split
      · dsimp only
        split
        · exact hremoved
        · exact hremoved.trans (ih (hlayout.touched hne hremoved) hpaths.2)
      · exact ih hlayout hpaths.2

end Layout

/-! ## Writing -/

/-- A name in a directory that is one itself. -/
theorem locate_dir {t : Tree} {p : RawPath} {d : Location} {name : String}
    (hp : t.locate true p = .ok d) (hd : t.kind d = some .dir) (hname : IsName name)
    (hdir : t.kind (d ++ [name]) = some .dir) : t.locate true (p.child name) = .ok (d ++ [name]) := by
  rw [Tree.locate_name true hp hd hname.2.2.1 (by simp [hdir]), if_neg (by simp [hdir])]

namespace Layout

variable {l : Location} {made : Tree}

/-- The directory LMRS has for a model. -/
theorem makeDirs_state (hlayout : Layout cache modelName c h hub disk)
    (hmade : disk.tree.makeDirs (cache.stateDirectory other).absolute
      (cache.stateDirectory other).parts.reverse = .ok made) :
    Tree.LeftOf disk.tree made ∧ made.kind (stateRoot c) = some .dir ∧
      made.kind (stateRoot c ++ [repoDirectoryName other]) = some .dir ∧
      ∀ l, l ≠ stateRoot c → l ≠ stateRoot c ++ [repoDirectoryName other] →
        made.kind l = disk.tree.kind l := by
  have hname : IsName ".lmrs" := by decide
  have hother := isName_repoDirectoryName other
  have hparts : (cache.stateDirectory other).parts.reverse =
      repoDirectoryName other :: ".lmrs" :: (RawPath.parse cache.cacheRoot).parts.reverse := by
    simp [HubCache.stateDirectory, RawPath.child]
  rw [hparts] at hmade
  have hstate := hlayout.state
  unfold stateRoot at hstate
  rcases hstate with hfree | hdir
  · -- neither directory is there
    have hnew := Tree.kind_create (k := .dir) ⟨hlayout.rootDir, hname, hfree⟩
    have hboth := Tree.makeDirs_below hlayout.root hlayout.rootDir hname hother hfree
    have hcan : (disk.tree.create c ".lmrs" .dir).kind (stateRoot c) = some .dir ∧
        IsName (repoDirectoryName other) ∧
        (disk.tree.create c ".lmrs" .dir).kind (stateRoot c ++ [repoDirectoryName other]) = none := by
      refine ⟨by rw [hnew]; exact if_pos rfl, hother, ?_⟩
      rw [hnew, if_neg (by simp [stateRoot])]
      exact Tree.kind_none_of_below (by simp [stateRoot, hfree]) (List.cons_ne_nil _ [])
    have hnext := Tree.kind_create (k := .dir) hcan
    obtain rfl := Except.ok.inj (hboth.symm.trans hmade)
    refine ⟨(Tree.leftOf_create ..).trans (Tree.leftOf_create ..), ?_, ?_, ?_⟩
    · exact (hnext _).trans ((if_neg (by simp)).trans hcan.1)
    · exact (hnext _).trans (if_pos rfl)
    · intro l hs hl
      exact (hnext l).trans ((if_neg hl).trans ((hnew l).trans (if_neg hs)))
  · have hat := Tree.locate_name true hlayout.root hlayout.rootDir hname.2.2.1
      (hlayout.plain _ · List.prefix_rfl)
    rw [if_neg (by simp [hdir])] at hat
    have hone := Tree.makeDirs_child hat hdir hother
      (hlayout.plain _ · (List.prefix_append (stateRoot c) _))
    have hpath : ((RawPath.parse cache.cacheRoot).child ".lmrs").parts.reverse =
        ".lmrs" :: (RawPath.parse cache.cacheRoot).parts.reverse := by
      simp [RawPath.child]
    rw [hpath] at hone
    have heq := hone.symm.trans hmade
    split_ifs at heq with hfree hthere
    · have hnext := Tree.kind_create (k := .dir) ⟨hdir, hother, hfree⟩
      obtain rfl := Except.ok.inj heq
      refine ⟨Tree.leftOf_create .., ?_, (hnext _).trans (if_pos rfl), fun l _ hl => ?_⟩
      · exact (hnext _).trans ((if_neg (by simp [stateRoot])).trans hdir)
      · exact (hnext l).trans (if_neg hl)
    · obtain rfl := Except.ok.inj heq
      exact ⟨.refl _, hdir, hthere, fun _ _ _ => rfl⟩

/-- The directories made for a model are in its reach. -/
theorem makeDirs_touched (now : Int) (hlayout : Layout cache modelName c h hub disk)
    (hmade : disk.tree.makeDirs (cache.stateDirectory other).absolute
      (cache.stateDirectory other).parts.reverse = .ok made) :
    Touched c h (repoDirectoryName other) disk (disk.retree made now) := by
  obtain ⟨hleft, hroot, hdir, hkind⟩ := hlayout.makeDirs_state hmade
  refine .retree now hleft.cwd.symm ?_ ?_ ?_
  · intro l hl hs
    refine hkind l hs ?_
    rintro rfl
    exact hl (Or.inr List.prefix_rfl)
  · rcases hlayout.state with hnone | hthere
    · exact Or.inr ⟨hnone, hroot⟩
    · exact Or.inl (hroot.trans hthere.symm)
  · intro l target hl hlink
    by_cases hs : l = stateRoot c
    · rw [hs, hroot] at hlink
      cases hlink
    · by_cases hown : l = stateRoot c ++ [repoDirectoryName other]
      · rw [hown, hdir] at hlink
        cases hlink
      · rwa [hkind l hs hown] at hlink

/-- The file opened in the directory of a model. -/
theorem openTarget_state {file : String} (hfile : IsName file) (hlayout : Layout cache modelName c h hub disk)
    (hmade : disk.tree.makeDirs (cache.stateDirectory other).absolute
      (cache.stateDirectory other).parts.reverse = .ok made) :
    made.openTarget 40 ((cache.stateDirectory other).child file) =
      if made.kind (stateRoot c ++ [repoDirectoryName other] ++ [file]) = none then
        .ok (made.create (stateRoot c ++ [repoDirectoryName other]) file .file,
          stateRoot c ++ [repoDirectoryName other] ++ [file])
      else if made.kind (stateRoot c ++ [repoDirectoryName other] ++ [file]) = some .file then
        .ok (made, stateRoot c ++ [repoDirectoryName other] ++ [file])
      else .error .isDirectory := by
  obtain ⟨hleft, hroot, hdir, hkind⟩ := hlayout.makeDirs_state hmade
  have hstate := locate_dir (Tree.locate_mono hleft hlayout.root) (hleft.kind _ _ hlayout.rootDir)
    (by decide) hroot
  have hown : made.locate true (cache.stateDirectory other) =
      .ok (stateRoot c ++ [repoDirectoryName other]) :=
    locate_dir hstate hroot (isName_repoDirectoryName other) hdir
  have hplace : made.kind (stateRoot c ++ [repoDirectoryName other] ++ [file]) =
      disk.tree.kind (stateRoot c ++ [repoDirectoryName other] ++ [file]) :=
    hkind _ (by simp) (by simp)
  refine Tree.openTarget_child 40 hown hdir hfile fun target => ?_
  rw [hplace]
  exact hlayout.plain _ target ((List.prefix_append _ _).trans (List.prefix_append _ _))

/-- The file opened in the directory of a model is in its reach. -/
theorem openTarget_touched (now : Int) {file : String} (hfile : IsName file) {opened : Tree}
    (hlayout : Layout cache modelName c h hub disk)
    (hmade : disk.tree.makeDirs (cache.stateDirectory other).absolute
      (cache.stateDirectory other).parts.reverse = .ok made)
    (hopened : made.openTarget 40 ((cache.stateDirectory other).child file) = .ok (opened, l)) :
    Touched c h (repoDirectoryName other) (disk.retree made now)
        ((disk.retree made now).retree opened now) ∧
      Reach c h (repoDirectoryName other) l := by
  obtain ⟨-, -, hdir, -⟩ := hlayout.makeDirs_state hmade
  have hfound := hlayout.openTarget_state hfile hmade
  have hreach : Reach c h (repoDirectoryName other)
      (stateRoot c ++ [repoDirectoryName other] ++ [file]) := Or.inr (List.prefix_append _ _)
  rw [hopened] at hfound
  split_ifs at hfound with hfree hfile
  · obtain ⟨rfl, rfl⟩ := Prod.mk.inj (Except.ok.inj hfound)
    have hnew := Tree.kind_create (k := .file) ⟨hdir, ‹IsName file›, hfree⟩
    refine ⟨.retree now (Tree.create_cwd ..) ?_ (Or.inl ?_) ?_, hreach⟩
    · intro l hl _
      rw [hnew, if_neg]
      · rfl
      · rintro rfl
        exact hl hreach
    · rw [hnew, if_neg (by simp)]
      rfl
    · intro l target _ hlink
      rw [hnew] at hlink
      split_ifs at hlink
      · cases hlink
      · exact hlink
  · obtain ⟨rfl, rfl⟩ := Prod.mk.inj (Except.ok.inj hfound)
    exact ⟨.retree now rfl (fun _ _ _ => rfl) (Or.inl rfl) fun _ _ _ hlink => hlink, hreach⟩

/-- **A write for a model changes what is in its reach.** -/
theorem writeJson_touched (hlayout : Layout cache modelName c h hub disk) {file : String}
    (hfile : IsName file) (F : FloatText) (host : CacheHost) (facts : Dict Value) :
    Touched c h (repoDirectoryName other) disk
      (disk.writeJson F host ((cache.stateDirectory other).child file) facts).2 := by
  unfold Disk.writeJson
  rw [Tree.parent_child]
  split
  · exact .refl _
  · split
    · exact .refl _
    · next made hmade =>
        have hparents := hlayout.makeDirs_touched host.now hmade
        dsimp only
        split
        · exact hparents
        · exact hparents
        · exact hparents
        · next hopened _ =>
            obtain ⟨hfile, hreach⟩ := hlayout.openTarget_touched host.now hfile hmade hopened
            exact (hparents.trans hfile).trans (.setText _ _ hreach)
        · next hopened _ _ =>
            obtain ⟨hfile, hreach⟩ := hlayout.openTarget_touched host.now hfile hmade hopened
            exact (hparents.trans hfile).trans (.setText _ _ hreach)

end Layout

/-! ## Commands -/

/-- On a disk, the download of a model into the hub at `h` writes in its directory there and in the
locks. -/
def Download.Confined (download : Download) (h : Location) (modelName : String) (hub : RawPath)
    (disk : Disk) : Prop :=
  let left := (download modelName hub disk).2
  left.tree.cwd = disk.tree.cwd ∧
    ∀ l, ¬ h ++ [repoDirectoryName modelName] <+: l → ¬ h ++ [".locks"] <+: l →
      left.tree.kind l = disk.tree.kind l ∧ (l ≠ h → left.data l = disk.data l)

/-- A disk with the tree it has. -/
theorem Disk.retree_self (disk : Disk) (now : Int) : disk.retree disk.tree now = disk := by
  have hdata : (disk.retree disk.tree now).data = disk.data :=
    funext fun l => Disk.retree_data now rfl fun _ => rfl
  calc disk.retree disk.tree now = ⟨disk.tree, (disk.retree disk.tree now).data⟩ := rfl
    _ = disk := by rw [hdata]

/-- A scan that answers a record answers that of what it found. -/
theorem HubCache.scanRecord_cases {record : CachedModelRecord}
    (h : (cache.scanRecord modelName disk).1 = .ok (some record)) :
    ∃ found stored marker, record = cache.recordOf modelName found stored marker := by
  obtain ⟨found, -, h⟩ := Reading.bind_answers h
  cases found with
  | none => cases h
  | some found =>
      obtain ⟨stored, -, h⟩ := Reading.bind_answers h
      obtain ⟨marker, -, h⟩ := Reading.bind_answers h
      cases h
      exact ⟨found, stored, marker, rfl⟩

/-- The record a scan answers has the model's name. -/
theorem HubCache.scanRecord_modelName {record : CachedModelRecord}
    (h : (cache.scanRecord modelName disk).1 = .ok (some record)) : record.modelName = modelName := by
  obtain ⟨⟨repo, revision, incomplete, snapshot⟩, stored, marker, rfl⟩ := scanRecord_cases h
  cases snapshot <;> rfl

/-- The record of a model has its name. -/
theorem HubCache.record_modelName {store : CacheStore} {record : CachedModelRecord}
    (h : cache.record store modelName = .ok (some record)) : record.modelName = modelName := by
  obtain ⟨found, hfound, hrecord⟩ := map_eq_ok.mp h
  cases found with
  | none =>
      have hseeded : seededRecord store.records modelName = some record := hrecord
      simpa using List.find?_some hseeded
  | some scanned =>
      obtain rfl : scanned = record := by simpa using hrecord
      exact scanRecord_modelName hfound

namespace Layout

variable {store : CacheStore} {host : CacheHost} {record : CachedModelRecord}

/-- A download into the hub is in reach. -/
theorem download_touched {download : Download} (hlayout : Layout cache modelName c h hub disk)
    (hne : repoDirectoryName other ≠ repoDirectoryName modelName)
    (hconfined : download.Confined h other hub disk) :
    Touched c h (repoDirectoryName other) disk (download other hub disk).2 := by
  obtain ⟨hcwd, hsame⟩ := hconfined
  have hstate {l : Location} (hl : stateRoot c <+: l) :
      (download other hub disk).2.tree.kind l = disk.tree.kind l :=
    (hsame l (fun hhub => hlayout.repo_apart hne hhub hl) fun hlocks => hlayout.locks_apart hlocks hl).1
  refine ⟨hcwd, ?_, ?_, Or.inl (hstate List.prefix_rfl), ?_⟩
  · intro l hl _
    exact (hsame l (fun hhub => hl (Or.inl (Or.inl hhub))) fun hlocks => hl (Or.inl (Or.inr hlocks))).1
  · intro l hl _ _ hh
    exact (hsame l (fun hhub => hl (Or.inl (Or.inl hhub)))
      fun hlocks => hl (Or.inl (Or.inr hlocks))).2 hh
  · intro l target hl hlink
    rwa [hstate hl] at hlink

/-- Fetching a model is in reach. -/
theorem fetch_touched (host : CacheHost) {download : Download} (hlayout : Layout cache modelName c h hub disk)
    (hne : repoDirectoryName other ≠ repoDirectoryName modelName)
    (hconfined : download.Confined h other hub disk) :
    Touched c h (repoDirectoryName other) disk (HubCache.fetch host download other hub disk).2 := by
  have hpresent := Tree.makeDirs_present (Tree.isDir_iff.mpr ⟨h, hlayout.hubAt, hlayout.hubDir⟩)
  unfold HubCache.fetch
  rw [hpresent]
  dsimp only
  rw [Disk.retree_self]
  exact hlayout.download_touched hne hconfined

/-- Writing the readiness marker of a model is in reach. -/
theorem preloaded_touched (store : CacheStore) (hlayout : Layout cache modelName c h hub store.disk)
    (hrecord : record.modelName = other) (how : String × Value) :
    Touched c h (repoDirectoryName other) store.disk
      (cache.preloaded host store other record how).2.disk := by
  unfold HubCache.preloaded HubCache.writeReadinessMarker HubCache.readinessMarker
  rw [hrecord]
  exact hlayout.writeJson_touched (by decide) _ _ _

/-- Preloading a model is in reach. -/
theorem preload_touched (hlayout : Layout cache modelName c h hub store.disk)
    (hne : repoDirectoryName other ≠ repoDirectoryName modelName)
    (hconfined : ∀ download, host.download = some download →
      download.Confined h other hub store.disk) :
    Touched c h (repoDirectoryName other) store.disk (cache.preload host store other).2.disk := by
  unfold HubCache.preload
  split
  · exact .refl _
  · next existing hexisting =>
      split
      · next record hrecord =>
          obtain ⟨rfl, -⟩ := Option.filter_eq_some_iff.mp hrecord
          exact preloaded_touched store hlayout (HubCache.record_modelName hexisting) _
      · unfold HubCache.preloadMissing
        split
        · exact .refl _
        · exact .refl _
        · next download hub' hdownload hhub =>
            obtain rfl := Except.ok.inj (hlayout.hubRoot.symm.trans hhub)
            have hfetch := hlayout.fetch_touched host hne (hconfined download hdownload)
            dsimp only
            split
            · refine hfetch.trans ?_
              have hleft := hlayout.touched hne hfetch
              unfold HubCache.afterDownload
              split
              · exact .refl _
              · next found hfound =>
                  split
                  · next record hrecord =>
                      obtain ⟨rfl, -⟩ := Option.filter_eq_some_iff.mp hrecord
                      exact preloaded_touched ⟨_, _⟩ hleft (HubCache.scanRecord_modelName hfound) _
                  · exact .refl _
            · exact hfetch

/-- Deleting a model is in reach. -/
theorem delete_touched (hlayout : Layout cache modelName c h hub store.disk)
    (hne : repoDirectoryName other ≠ repoDirectoryName modelName) :
    Touched c h (repoDirectoryName other) store.disk (cache.delete host store other).2.disk := by
  unfold HubCache.delete
  split
  · exact .refl _
  · exact .refl _
  · exact .refl _
  · next record hub' _ hhub =>
      obtain rfl := Except.ok.inj (hlayout.hubRoot.symm.trans hhub)
      have hremoved := hlayout.removeDirs_touched hne host.now
        [hub.child (repoDirectoryName other), cache.stateDirectory other] (by simp)
      dsimp only
      split
      · exact hremoved
      · exact hremoved

/-- Updating the metadata of a model is in reach. -/
theorem updateMetadata_touched (metadata : Dict Value)
    (hlayout : Layout cache modelName c h hub store.disk) :
    Touched c h (repoDirectoryName other) store.disk
      (cache.updateMetadata host store other metadata).2.disk := by
  unfold HubCache.updateMetadata
  split
  · exact .refl _
  · exact .refl _
  · next record _ =>
      obtain ⟨facts, hwritten⟩ := cache.updateStored_disk host store other metadata record
      rw [hwritten]
      exact hlayout.writeJson_touched (by decide) _ _ _

/-- **What a command on another model changes is in its reach.** -/
theorem call_touched (call : CacheCall) (hlayout : Layout cache modelName c h hub store.disk)
    (hne : repoDirectoryName call.modelName ≠ repoDirectoryName modelName)
    (hconfined : ∀ download, call.host.download = some download →
      download.Confined h call.modelName hub store.disk) :
    Touched c h (repoDirectoryName call.modelName) store.disk (cache.call store call).2.disk := by
  obtain ⟨host, name, command⟩ := call
  unfold HubCache.call
  cases command with
  | preload => exact hlayout.preload_touched hne hconfined
  | updateMetadata metadata => exact hlayout.updateMetadata_touched metadata
  | delete => exact hlayout.delete_touched hne

end Layout

/-! ## The other models -/

namespace Layout

variable {store : CacheStore}

/-- A file in the state directory of a model: it is located where it is, if it is there. -/
theorem state_file (other : String) {file : String} (hlayout : Layout cache modelName c h hub disk)
    (hfile : IsName file) :
    (disk.tree.kind (stateRoot c ++ [repoDirectoryName other, file]) ≠ none →
        disk.tree.locate true ((cache.stateDirectory other).child file) =
          .ok (stateRoot c ++ [repoDirectoryName other, file])) ∧
      (disk.tree.kind (stateRoot c ++ [repoDirectoryName other, file]) = none →
        ∃ error, disk.tree.locate true ((cache.stateDirectory other).child file) = .error error) := by
  have hpath : (RawPath.parse cache.cacheRoot).under [".lmrs", repoDirectoryName other, file] =
      (cache.stateDirectory other).child file := by
    simp [RawPath.under, RawPath.child, HubCache.stateDirectory]
  have hunder := Tree.locate_under true hlayout.root hlayout.rootDir
    (List.cons_ne_nil ".lmrs" [repoDirectoryName other, file]) (by
      have hname : (".lmrs" : String) ≠ ".." := by decide
      simp [hname, (isName_repoDirectoryName other).2.2.1, hfile.2.2.1]) (by
      intro before hbefore target
      cases before with
      | nil => simp [hlayout.rootDir]
      | cons first rest =>
          obtain ⟨rfl, -⟩ := List.cons_prefix_cons.mp hbefore
          exact hlayout.plain _ target ⟨rest, by simp [stateRoot]⟩)
  rw [hpath] at hunder
  simpa [stateRoot] using hunder

/-- What is read of a file in the state directory of a model. -/
theorem readText_state (other file : String) (hlayout : Layout cache modelName c h hub disk)
    (hfile : IsName file) :
    (readText ((cache.stateDirectory other).child file) disk).1 =
      .ok (if disk.tree.kind (stateRoot c ++ [repoDirectoryName other, file]) = some .file then
        (disk.data (stateRoot c ++ [repoDirectoryName other, file])).text else none) := by
  obtain ⟨hthere, hnot⟩ := hlayout.state_file other hfile
  unfold readText
  rw [Reading.answer_bind (a := disk.tree.locate true ((cache.stateDirectory other).child file)) rfl]
  cases hkind : disk.tree.kind (stateRoot c ++ [repoDirectoryName other, file]) with
  | none =>
      obtain ⟨error, herror⟩ := hnot hkind
      rw [herror]
      rfl
  | some k =>
      rw [hthere (by simp [hkind])]
      dsimp only
      rw [Reading.answer_bind (a := some k) (congrArg Except.ok hkind)]
      cases k <;> rfl

/-- Whether a file in the state directory of a model is there. -/
theorem isFile_state (other file : String) (hlayout : Layout cache modelName c h hub disk)
    (hfile : IsName file) :
    (isFile ((cache.stateDirectory other).child file) disk).1 =
      .ok (decide (disk.tree.kind (stateRoot c ++ [repoDirectoryName other, file]) = some .file)) := by
  obtain ⟨hthere, hnot⟩ := hlayout.state_file other hfile
  have hkindOf : (kindOf ((cache.stateDirectory other).child file) disk).1 =
      .ok (disk.tree.kind (stateRoot c ++ [repoDirectoryName other, file])) := by
    unfold kindOf
    rw [Reading.answer_bind (a := disk.tree.locate true ((cache.stateDirectory other).child file)) rfl]
    cases hkind : disk.tree.kind (stateRoot c ++ [repoDirectoryName other, file]) with
    | none =>
        obtain ⟨error, herror⟩ := hnot hkind
        rw [herror]
        rfl
    | some k =>
        rw [hthere (by simp [hkind])]
        exact congrArg Except.ok hkind
  unfold isFile
  rw [Reading.answer_bind hkindOf]
  rfl

/-- **The state of a model is out of reach of a command on another.** -/
theorem state_same {owner : String} (file : String) (hlayout : Layout cache modelName c h hub disk)
    (hne : repoDirectoryName other ≠ repoDirectoryName modelName)
    (howner : repoDirectoryName other ≠ repoDirectoryName owner)
    (htouched : Touched c h (repoDirectoryName other) disk disk') :
    disk'.tree.kind (stateRoot c ++ [repoDirectoryName owner, file]) =
        disk.tree.kind (stateRoot c ++ [repoDirectoryName owner, file]) ∧
      disk'.data (stateRoot c ++ [repoDirectoryName owner, file]) =
        disk.data (stateRoot c ++ [repoDirectoryName owner, file]) := by
  have hin : stateRoot c <+: stateRoot c ++ [repoDirectoryName owner, file] :=
    List.prefix_append _ _
  have hout : ¬ Reach c h (repoDirectoryName other)
      (stateRoot c ++ [repoDirectoryName owner, file]) := by
    rintro ((hhub | hlocks) | hown)
    · exact hlayout.repo_apart hne hhub hin
    · exact hlayout.locks_apart hlocks hin
    · have hsame := (List.prefix_append_right_inj _).mp hown
      exact howner (List.cons_prefix_cons.mp hsame).1
  have hlong {l : Location} (hl : l.length ≤ (stateRoot c).length) :
      stateRoot c ++ [repoDirectoryName owner, file] ≠ l := by
    rintro rfl
    simp at hl
  refine ⟨htouched.kind _ hout (hlong le_rfl), htouched.data _ hout (hlong le_rfl) (hlong ?_) ?_⟩
  · simp [stateRoot]
  · rintro rfl
    exact hlayout.hubApart (Or.inr hin)

/-- The stored metadata and the marker of a model are out of reach of a command on another. -/
theorem stored_same (hlayout : Layout cache modelName c h hub disk)
    (hne : repoDirectoryName other ≠ repoDirectoryName modelName)
    (htouched : Touched c h (repoDirectoryName other) disk disk') :
    (cache.storedMetadata modelName disk').1 = (cache.storedMetadata modelName disk).1 ∧
      (cache.markerPath modelName disk').1 = (cache.markerPath modelName disk).1 := by
  have hleft := hlayout.touched hne htouched
  constructor
  · obtain ⟨hkind, hdata⟩ := hlayout.state_same "metadata.json" hne hne htouched
    have hread := hleft.readText_state modelName "metadata.json" (by decide)
    rw [hkind, hdata] at hread
    exact Reading.bind_same (hread.trans (hlayout.readText_state modelName _ (by decide)).symm) fun _ => rfl
  · obtain ⟨hkind, -⟩ := hlayout.state_same "ready.json" hne hne htouched
    have hfile := hleft.isFile_state modelName "ready.json" (by decide)
    rw [hkind] at hfile
    refine Reading.bind_same (hfile.trans (hlayout.isFile_state modelName _ (by decide)).symm) fun found => ?_
    split <;> rfl

/-- **The record of a model is out of reach of a command on another.** -/
theorem scanRecord_same (hlayout : Layout cache modelName c h hub disk)
    (hne : repoDirectoryName other ≠ repoDirectoryName modelName)
    (htouched : Touched c h (repoDirectoryName other) disk disk') :
    (cache.scanRecord modelName disk').1 = (cache.scanRecord modelName disk).1 := by
  obtain ⟨hstored, hmarker⟩ := hlayout.stored_same hne htouched
  refine Reading.bind_same (congrArg Prod.fst (hlayout.scanHub_same hne htouched)) fun found => ?_
  cases found with
  | none => rfl
  | some found =>
      exact Reading.bind_same hstored fun _ => Reading.bind_same hmarker fun _ => rfl

end Layout

namespace HubCache

/-- A preload and an update leave the records supplied. -/
theorem preload_records (host : CacheHost) (store : CacheStore) (modelName : String) :
    (cache.preload host store modelName).2.records = store.records := by
  unfold preload
  split
  · rfl
  · split
    · rfl
    · unfold preloadMissing
      split
      · rfl
      · rfl
      · dsimp only
        split
        · unfold afterDownload
          split
          · rfl
          · split <;> rfl
        · rfl

/-- The record supplied for a model, after a command on another. -/
theorem call_seeded (store : CacheStore) {call : CacheCall} (hname : call.modelName ≠ modelName) :
    seededRecord (cache.call store call).2.records modelName = seededRecord store.records modelName := by
  obtain ⟨host, name, command⟩ := call
  cases command with
  | preload => exact congrArg (seededRecord · modelName) (cache.preload_records host store name)
  | updateMetadata metadata =>
      unfold call updateMetadata
      dsimp only
      split <;> rfl
  | delete =>
      unfold call delete
      dsimp only
      split
      · rfl
      · rfl
      · rfl
      · split
        · rfl
        · unfold seededRecord
          rw [List.find?_filter]
          congr 1
          funext item
          by_cases hitem : item.modelName = modelName
          · simp [hitem, hname.symm]
          · simp [hitem]

/-- A model is reported and held in one store as in another. -/
structure Held (cache : HubCache) (modelName : String) (store store' : CacheStore) : Prop where
  status : cache.status store' modelName = cache.status store modelName
  record : cache.record store' modelName = cache.record store modelName
  metadata : (cache.storedMetadata modelName store'.disk).1 = (cache.storedMetadata modelName store.disk).1
  weights : (cache.weights modelName store'.disk).1 = (cache.weights modelName store.disk).1

theorem Held.refl (store : CacheStore) : cache.Held modelName store store := ⟨rfl, rfl, rfl, rfl⟩

theorem Held.trans {a b c : CacheStore} (hab : cache.Held modelName a b) (hbc : cache.Held modelName b c) :
    cache.Held modelName a c :=
  ⟨hbc.status.trans hab.status, hbc.record.trans hab.record, hbc.metadata.trans hab.metadata,
    hbc.weights.trans hab.weights⟩

/-- The commands of a run are on models with other directory names, and their downloads write where they
belong. -/
def OnOthers (cache : HubCache) (modelName : String) (h : Location) (hub : RawPath) :
    CacheStore → List CacheCall → Prop
  | _, [] => True
  | store, call :: calls =>
      repoDirectoryName call.modelName ≠ repoDirectoryName modelName ∧
        (∀ download, call.host.download = some download →
          download.Confined h call.modelName hub store.disk) ∧
        cache.OnOthers modelName h hub (cache.call store call).2 calls

/-- What a status tells of a record hangs on no store. -/
theorem statusOf_answering (cache : HubCache) (store store' : CacheStore) {hub : RawPath} :
    (cache.answering store hub).statusOf modelName = (cache.answering store' hub).statusOf modelName := by
  funext record
  cases record with
  | none => simp only [DiskModelCache.statusOf, answering]
  | some record => simp only [DiskModelCache.statusOf]

/-- **One command on another model**: the model is reported and held as before, and the layout stays. -/
theorem call_held {store : CacheStore} {call : CacheCall}
    (hlayout : Layout cache modelName c h hub store.disk)
    (hne : repoDirectoryName call.modelName ≠ repoDirectoryName modelName)
    (hconfined : ∀ download, call.host.download = some download →
      download.Confined h call.modelName hub store.disk) :
    cache.Held modelName store (cache.call store call).2 ∧
      Layout cache modelName c h hub (cache.call store call).2.disk := by
  have htouched := hlayout.call_touched call hne hconfined
  have hrecord : cache.record (cache.call store call).2 modelName = cache.record store modelName := by
    unfold record
    rw [hlayout.scanRecord_same hne htouched, call_seeded store fun heq => hne (congrArg _ heq)]
  have hleft := hlayout.touched hne htouched
  refine ⟨⟨?_, hrecord, (hlayout.stored_same hne htouched).1,
    congrArg Prod.fst (hlayout.weights_same hne htouched)⟩, hleft⟩
  rw [status_eq cache hleft.hubRoot, status_eq cache hlayout.hubRoot, hrecord,
    cache.statusOf_answering _ store]

end HubCache

/-- **Models with different directory names are apart.** For every cache on a disk with the layout of a
model, over every sequence of preloads, metadata updates and deletions of models with other directory names
whose downloads write where they belong: the status, the record, the stored metadata and the weights of the
model are as before. -/
theorem others_unchanged (cache : HubCache) (modelName : String) (store : CacheStore) {c h : Location}
    {hub : RawPath} (hlayout : Layout cache modelName c h hub store.disk) (calls : List CacheCall)
    (hothers : cache.OnOthers modelName h hub store calls) :
    cache.Held modelName store (cache.run store calls) := by
  induction calls generalizing store with
  | nil => exact .refl _
  | cons call calls ih =>
      obtain ⟨hne, hconfined, hrest⟩ := hothers
      obtain ⟨hheld, hleft⟩ := HubCache.call_held hlayout hne hconfined
      exact hheld.trans (ih _ hleft hrest)

/-! ## Disks with two models -/

/-- A disk with a cache root and two entries in it. -/
def twoModels (first second : String × Kind) (hfirst : IsName first.1 := by decide)
    (hsecond : IsName second.1 := by decide) (hne : first.1 ≠ second.1 := by decide) : Disk where
  tree :=
    { entries := [(["c"], .dir), (["c", first.1], first.2), (["c", second.1], second.2)]
      cwd := []
      distinct := by simp [hne]
      rooted := by simp [kindIn]
      named := by
        have hroot : IsName "c" := by decide
        simp [hroot, hfirst, hsecond] }
  data := fun _ => {}

/-- A cache over `/c`. -/
def smallCache : HubCache where
  cacheRoot := "/c"
  floats := wholeFloats

/-- A host that has no download. -/
def offline : CacheHost where
  now := 0

/-- In a cache whose root and hub are `/c`: what is neither the root, a `hub` in it, nor below the directory
of `org/m` may be foreign to that model, and nothing else is. -/
theorem small_not_foreign {l : Location}
    (hl : l.take 2 ∈ [["c"], ["c", "hub"], ["c", "models--org--m"]]) :
    ¬ Foreign ["c"] ["c"] "org/m" l := by
  have htake {x : String} (hx : ["c"] ++ [x] <+: l) : l.take 2 = ["c", x] := by
    obtain ⟨rest, rfl⟩ := hx
    rfl
  rintro ((⟨other, hne, hother⟩ | hlocks) | hstate)
  · rw [htake hother] at hl
    have hhub := repoDirectoryName_ne other (s := "hub") (by decide)
    have hown : repoDirectoryName other ≠ "models--org--m" := hne
    simp [hhub, hown] at hl
  · rw [htake hlocks] at hl
    simp at hl
  · rw [htake hstate] at hl
    simp at hl

/-- A look at the roots, or in the directory of `org/m`. -/
def Look.nearSmall : Look → Bool
  | .cwd => true
  | .kind l => l.take 2 = ["c"] ∨ l.take 2 = ["c", "hub"] ∨ l.take 2 = ["c", "models--org--m"]
  | .data l | .names l | .below l => l.take 2 = ["c", "models--org--m"]

/-- Such a look is at nothing that is foreign to `org/m`. -/
theorem Look.avoids_of_near {look : Look} (h : look.nearSmall = true) : look.Avoids ["c"] ["c"] "org/m" := by
  have hbelow {d l : Location} (hd : d.take 2 = ["c", "models--org--m"]) (hl : d <+: l) :
      ¬ Foreign ["c"] ["c"] "org/m" l := by
    obtain ⟨rest, rfl⟩ := hl
    have hlength : 2 ≤ d.length := by
      have := congrArg List.length hd
      simp at this
      omega
    apply small_not_foreign
    rw [List.take_append_of_le_length hlength, hd]
    decide
  cases look with
  | cwd => trivial
  | kind l => exact small_not_foreign (by simpa [Look.nearSmall] using h)
  | data l =>
      have hl := of_decide_eq_true h
      have hne : l ≠ ["c"] := by
        rintro rfl
        exact absurd hl (by decide)
      exact ⟨hbelow hl List.prefix_rfl, hne, hne⟩
  | names d => exact fun n => hbelow (of_decide_eq_true h) (List.prefix_append d [n])
  | below d => exact fun l hl => hbelow (of_decide_eq_true h) hl

/-- A disk with the model `org/m`, complete and with metadata stored, and a directory of `org/n`. -/
def heldDisk : Disk where
  tree :=
    { entries := [(["c"], .dir), (["c", "models--org--m"], .dir), (["c", "models--org--m", "snapshots"], .dir),
        (["c", "models--org--m", "snapshots", "r"], .dir),
        (["c", "models--org--m", "snapshots", "r", "model.safetensors"], .file), (["c", "models--org--n"], .dir),
        (["c", ".lmrs"], .dir), (["c", ".lmrs", "models--org--m"], .dir),
        (["c", ".lmrs", "models--org--m", "metadata.json"], .file)]
      cwd := []
      distinct := by decide
      rooted := by simp [kindIn]
      named := by simp [IsName] }
  data := fun l =>
    if l = ["c", ".lmrs", "models--org--m", "metadata.json"] then
      { text := (dumps wholeFloats (.dict [("note", .str "kept")])).toOption }
    else if l = ["c", "models--org--m", "snapshots", "r", "model.safetensors"] then { size := 4096 }
    else {}

/-- Its layout for `org/m`. -/
theorem heldDisk_layout : Layout smallCache "org/m" ["c"] ["c"] ⟨true, ["c"]⟩ heldDisk where
  root := by decide +kernel
  rootDir := by decide +kernel
  hubRoot := rfl
  hubAt := by decide +kernel
  hubDir := by decide +kernel
  state := Or.inr (by decide +kernel)
  plain l target _ hlink := by
    by_cases hnil : l = []
    · rw [hnil] at hlink
      cases hlink
    · have hmem := Tree.mem_of_kind hnil hlink
      simp [heldDisk] at hmem
  rootApart := small_not_foreign (by decide)
  hubApart := small_not_foreign (by decide)
  avoids look hlook := by
    have hnear : (smallCache.weights "org/m" heldDisk).2.all Look.nearSmall = true := by decide +kernel
    exact Look.avoids_of_near (List.all_eq_true.mp hnear look hlook)

/-- The statement where `org/n` gets metadata and is deleted beside `org/m`, which has weights and metadata. -/
theorem others_unchanged_small :
    ((smallCache.status ⟨heldDisk, []⟩ "org/m").toOption.map CacheCommandResult.status = some .cachedOnDisk ∧
        (smallCache.weights "org/m" heldDisk).1.toOption.map (List.map Prod.fst) = some ["model.safetensors"] ∧
        ((smallCache.storedMetadata "org/m" heldDisk).1.toOption.bind fun metadata =>
          (Value.item metadata "note").asStr?) = some "kept") ∧
      smallCache.Held "org/m" ⟨heldDisk, []⟩
        (smallCache.run ⟨heldDisk, []⟩
          [⟨offline, "org/n", .updateMetadata [("note", .str "lost")]⟩, ⟨offline, "org/n", .delete⟩]) := by
  have hoffline (download : Download) (h : offline.download = some download) : False := by
    cases h
  refine ⟨⟨by decide +kernel, by decide +kernel, by decide +kernel⟩, ?_⟩
  refine others_unchanged smallCache "org/m" ⟨heldDisk, []⟩ heldDisk_layout _ ?_
  exact ⟨by decide, fun download h => (hoffline download h).elim, by decide,
    fun download h => (hoffline download h).elim, trivial⟩

/-- The disk with the models `org/m` and `org/n`. -/
def orgDisk : Disk := twoModels ("models--org--m", .dir) ("models--org--n", .dir)

/-- **Two names of one directory, and a link from one model's directory to another's**: to delete
`org--m` deletes `org/m`, and to delete `org/a` deletes `org/b`, whose directory is a link to that of
`org/a`. -/
theorem deletes_another :
    ¬ (∀ (cache : HubCache) (store : CacheStore) (modelName : String) (call : CacheCall),
        modelName ≠ "" → call.modelName ≠ "" → call.modelName ≠ modelName →
          cache.Held modelName store (cache.call store call).2) ∧
      ¬ ∀ (cache : HubCache) (store : CacheStore) (modelName : String) (call : CacheCall),
        repoDirectoryName call.modelName ≠ repoDirectoryName modelName →
          cache.Held modelName store (cache.call store call).2 := by
  constructor
  · intro hclaim
    let store : CacheStore := ⟨orgDisk, []⟩
    have h := (hclaim smallCache store "org/m" ⟨offline, "org--m", .delete⟩ (by decide) (by decide)
      (by decide)).record
    have hbefore : ((smallCache.record store "org/m").toOption.map Option.isSome) = some true := by
      decide +kernel
    rw [← h] at hbefore
    revert hbefore
    decide +kernel
  · intro hclaim
    let store : CacheStore :=
      ⟨twoModels ("models--org--a", .dir) ("models--org--b", .symlink ⟨true, ["c", "models--org--a"]⟩), []⟩
    have h := (hclaim smallCache store "org/b" ⟨offline, "org/a", .delete⟩ (by decide)).record
    have hbefore : ((smallCache.record store "org/b").toOption.map Option.isSome) = some true := by
      decide +kernel
    rw [← h] at hbefore
    revert hbefore
    decide +kernel

end Lmrs
