import Lmrs.DiskCache

/-!
# What a scan hangs on

A scan of the disk cache is composed of a few looks and two exceptions, so it is in every class of readings
that has these and is closed under composition (`ScanClass`). One such class are the readings that are
local: on two disks that are the same where they look, they answer the same.

* `ScanClass.scanRecord`, `ScanClass.weights`: the record and the weights of a model.
* `localScans`: the local readings are such a class.
* `repo_looks`, `root_looks`: the places on the way to a repository are looked at.
-/

namespace Lmrs

open Python Json Posix Footprint

/-- A reading that hangs on what is where it looks. -/
abbrev IsLocal {α : Type} (m : DiskReading α) : Prop := Reading.Local Look.Same m

/-- Sorted lists of the same members are the same. -/
theorem insertionSort_perm {α : Type} [LinearOrder α] {xs ys : List α} (h : xs.Perm ys) :
    xs.insertionSort (· ≤ ·) = ys.insertionSort (· ≤ ·) := by
  have hperm : (xs.insertionSort (· ≤ ·)).Perm (ys.insertionSort (· ≤ ·)) :=
    (List.perm_insertionSort _ xs).trans (h.trans (List.perm_insertionSort _ ys).symm)
  exact hperm.eq_of_pairwise (fun a b _ _ hab hba => le_antisymm hab hba)
    (List.pairwise_insertionSort _ xs) (List.pairwise_insertionSort _ ys)

/-! ## Classes that have every scan -/

/-- The exception of a ref that is not text. -/
def undecodable : PyException := ⟨"UnicodeDecodeError", "'utf-8' codec can't decode bytes"⟩

/-- A class of readings, closed under composition, that has the looks of a scan and the two exceptions it
may raise. -/
structure ScanClass (C : (α : Type) → DiskReading α → Prop) : Prop extends Reading.Closed C where
  locate (follow : Bool) (p : RawPath) : C _ (DiskReading.locate follow p)
  kindAt (l : Location) : C _ (DiskReading.kindAt l)
  dataAt (l : Location) : C _ (DiskReading.dataAt l)
  namesIn (d : Location) : C _ (DiskReading.namesIn d)
  placesBelow (d : Location) : C _ (DiskReading.placesBelow d)
  loop {α : Type} : C α (Reading.raise (runtimeError "Symlink loop"))
  undecodable {α : Type} : C α (Reading.raise undecodable)

namespace ScanClass

open DiskReading

variable {C : (α : Type) → DiskReading α → Prop} (hC : ScanClass C)
include hC

theorem kindOf (p : RawPath) : C _ (kindOf p) := by
  refine hC.bind (hC.locate true p) fun found => ?_
  cases found with
  | ok l => exact hC.kindAt l
  | error e => exact hC.pure _

theorem isDir (p : RawPath) : C _ (isDir p) := hC.map (hC.kindOf p)

theorem isFile (p : RawPath) : C _ (isFile p) := hC.map (hC.kindOf p)

theorem isSymlink (p : RawPath) : C _ (isSymlink p) := by
  refine hC.bind (hC.locate false p) fun found => ?_
  cases found with
  | error e => exact hC.pure _
  | ok l =>
      refine hC.bind (hC.kindAt l) fun kind => ?_
      rcases kind with - | - | - | target
      all_goals exact hC.pure _

theorem iterdir (p : RawPath) : C _ (iterdir p) := by
  refine hC.bind (hC.locate true p) fun found => ?_
  cases found with
  | ok d => exact hC.namesIn d
  | error e => exact hC.pure _

theorem readText (p : RawPath) : C _ (readText p) := by
  refine hC.bind (hC.locate true p) fun found => ?_
  cases found with
  | error e => exact hC.pure _
  | ok l => exact hC.bind (hC.kindAt l) fun kind => hC.ite (hC.map (hC.dataAt l)) (hC.pure _)

theorem fileData (p : RawPath) : C _ (fileData p) := by
  refine hC.bind (hC.locate true p) fun found => ?_
  cases found with
  | ok l => exact hC.dataAt l
  | error e => exact hC.pure _

theorem resolve (p : RawPath) : C _ (resolve p) := by
  refine hC.bind (hC.locate true p) fun found => ?_
  cases found with
  | ok l => exact hC.pure _
  | error e => cases e <;> first | exact hC.pure _ | exact hC.loop

/-! ### Scans -/

theorem hubCacheRoot (cacheRoot : String) : C _ (hubCacheRoot cacheRoot) := by
  refine hC.ite (hC.pure _) (hC.bind (hC.isDir _) fun found => ?_)
  exact hC.ite (hC.pure _) (hC.pure _)

theorem readRef (ref : RawPath) : C _ (readRef ref) := by
  refine hC.bind (hC.isFile ref) fun found => hC.ite ?_ (hC.pure _)
  refine hC.bind (hC.readText ref) fun text => ?_
  cases text with
  | some text => exact hC.pure _
  | none => exact hC.undecodable

theorem refsRevision (refs : RawPath) : C _ (refsRevision refs) := by
  refine hC.bind (hC.isDir refs) fun found => hC.ite ?_ (hC.pure _)
  refine hC.bind (hC.first hC.readRef _) fun revision => ?_
  cases revision with
  | some revision => exact hC.pure _
  | none => exact hC.bind (hC.iterdir refs) fun names => hC.first (fun name => hC.readRef _) names

theorem resolveRevision (repo : RawPath) : C _ (resolveRevision repo) := by
  refine hC.bind (hC.refsRevision _) fun revision => ?_
  cases revision with
  | some revision => exact hC.pure _
  | none =>
      refine hC.bind (hC.isDir _) fun found => hC.ite ?_ (hC.pure _)
      refine hC.bind (hC.iterdir _) fun names => ?_
      refine hC.bind (hC.select (fun name => hC.isDir _) names) fun directories => ?_
      rcases directories with - | ⟨only, - | ⟨next, rest⟩⟩
      all_goals exact hC.pure _

theorem snapshotDirectory (repo : RawPath) (revision : String) :
    C _ (snapshotDirectory repo revision) :=
  hC.ite (hC.pure _) (hC.bind (hC.isDir _) fun _ => hC.ite (hC.pure _) (hC.pure _))

theorem snapshotFiles (snapshot : RawPath) : C _ (snapshotFiles snapshot) := by
  refine hC.bind (hC.locate true snapshot) fun found => ?_
  cases found with
  | error e => exact hC.pure _
  | ok d =>
      refine hC.bind (hC.placesBelow d) fun places => hC.select (fun rel => ?_) _
      exact hC.bind (hC.isFile _) fun found => hC.ite (hC.pure _) (hC.isSymlink _)

theorem resolvedSize (p : RawPath) : C _ (resolvedSize p) := by
  refine hC.bind (hC.resolve p) fun found => ?_
  cases found with
  | some l => exact hC.map (hC.dataAt l)
  | none => exact hC.pure _

theorem snapshotSizeBytes (snapshot : RawPath) : C _ (snapshotSizeBytes snapshot) :=
  hC.bind (hC.snapshotFiles snapshot) fun files =>
    hC.map (hC.collect (fun _ => hC.resolvedSize _) files)

theorem incompleteDownloads (repo : RawPath) : C _ (incompleteDownloads repo) :=
  hC.bind (hC.isDir _) fun _ => hC.ite (hC.map (hC.iterdir _)) (hC.pure _)

theorem isBroken (p : RawPath) : C _ (isBroken p) := by
  refine hC.bind (hC.resolve p) fun found => ?_
  cases found with
  | some l => exact hC.map (hC.kindAt l)
  | none => exact hC.pure _

theorem brokenEntries (snapshot : RawPath) : C _ (brokenEntries snapshot) :=
  hC.bind (hC.snapshotFiles snapshot) fun files =>
    hC.map (hC.select (fun _ => hC.isBroken _) files)

theorem missingShardsOf (F : FloatText) (snapshot : RawPath) (index : String) :
    C _ (missingShardsOf F snapshot index) := by
  refine hC.bind (hC.isFile _) fun found => hC.ite ?_ (hC.pure _)
  refine hC.bind (hC.readText _) fun text => ?_
  cases Value.item (readJson F text) "weight_map" with
  | dict weightMap => exact hC.select (fun shard => hC.map (hC.isFile _)) _
  | none => exact hC.pure _
  | bool b => exact hC.pure _
  | int n => exact hC.pure _
  | float q => exact hC.pure _
  | str text => exact hC.pure _
  | list values => exact hC.pure _

theorem missingShards (F : FloatText) (snapshot : RawPath) : C _ (missingShards F snapshot) :=
  hC.map (hC.collect (fun _ => hC.missingShardsOf F snapshot _) _)

theorem weightFiles (snapshot : RawPath) : C _ (weightFiles snapshot) :=
  hC.map (hC.snapshotFiles snapshot)

theorem tokenizerProfile (snapshot : RawPath) : C _ (tokenizerProfile snapshot) :=
  hC.map (hC.first (fun _ => hC.bind (hC.isFile _) fun _ => hC.ite (hC.pure _) (hC.pure _)) _)

theorem downloadedAt (snapshot : RawPath) : C _ (downloadedAt snapshot) := by
  refine hC.bind (hC.locate true snapshot) fun found => ?_
  cases found with
  | ok l => exact hC.map (hC.dataAt l)
  | error e => exact hC.pure _

variable (cache : HubCache) (modelName : String)

theorem storedMetadata : C _ (cache.storedMetadata modelName) := hC.map (hC.readText _)

theorem markerPath : C _ (cache.markerPath modelName) :=
  hC.bind (hC.isFile _) fun _ => hC.ite (hC.pure _) (hC.pure _)

theorem repoDirectory : C _ (cache.repoDirectory modelName) := hC.map (hC.hubCacheRoot _)

theorem scanSnapshot (snapshot : RawPath) : C _ (cache.scanSnapshot snapshot) :=
  hC.bind (hC.readText _) fun _ => hC.bind (hC.weightFiles _) fun _ =>
    hC.bind (hC.brokenEntries _) fun _ => hC.bind (hC.missingShards _ _) fun _ =>
      hC.bind (hC.tokenizerProfile _) fun _ => hC.bind (hC.snapshotSizeBytes _) fun _ =>
        hC.map (hC.downloadedAt _)

/-- **The scan of the hub** is in the class. -/
theorem scanHub : C _ (cache.scanHub modelName) := by
  refine hC.bind (hC.repoDirectory cache modelName) fun repo => ?_
  refine hC.bind (hC.isDir repo) fun found => hC.ite ?_ (hC.pure _)
  refine hC.bind (hC.resolveRevision repo) fun revision => ?_
  refine hC.bind (hC.incompleteDownloads repo) fun incomplete => ?_
  refine hC.bind (hC.snapshotDirectory repo revision) fun snapshot => ?_
  cases snapshot with
  | none => exact hC.pure _
  | some snapshot => exact hC.map (hC.scanSnapshot cache snapshot)

/-- **The record of a model** is in the class. -/
theorem scanRecord : C _ (cache.scanRecord modelName) := by
  refine hC.bind (hC.scanHub cache modelName) fun found => ?_
  cases found with
  | none => exact hC.pure _
  | some found =>
      exact hC.bind (hC.storedMetadata cache modelName) fun _ =>
        hC.map (hC.markerPath cache modelName)

/-- **The weights of a model** are in the class. -/
theorem weights : C _ (cache.weights modelName) := by
  refine hC.bind (hC.scanHub cache modelName) fun found => ?_
  cases found with
  | none => exact hC.pure _
  | some found =>
      obtain ⟨repo, revision, incomplete, snapshot⟩ := found
      rcases snapshot with - | ⟨snapshot, scan⟩
      · exact hC.pure _
      · exact hC.collect (fun name => hC.map (hC.fileData _)) _

end ScanClass

/-! ## Scans are local -/

namespace DiskReading

open Reading

theorem locate_local (follow : Bool) (p : RawPath) : IsLocal (locate follow p) := by
  refine Local.look fun disk disk' hsame => ?_
  have hcwd : p.absolute = false → disk'.tree.cwd = disk.tree.cwd := by
    intro habs
    apply hsame .cwd
    simp [habs]
  have hkind : ∀ l ∈ disk.tree.visits follow p, disk'.tree.kind l = disk.tree.kind l := by
    intro l hl
    apply hsame (.kind l)
    simp [hl]
  obtain ⟨hlocate, hvisits⟩ := Tree.locate_congr hcwd hkind
  exact ⟨hlocate, by rw [hvisits]⟩

/-- **The local readings have every scan.** -/
theorem localScans : ScanClass fun _ m => IsLocal m where
  toClosed := Local.closed
  locate := locate_local
  kindAt l := Local.look fun _ _ hsame => ⟨hsame (.kind l) (List.mem_singleton_self _), rfl⟩
  dataAt l := Local.look fun _ _ hsame => ⟨hsame (.data l) (List.mem_singleton_self _), rfl⟩
  namesIn d := Local.look fun _ _ hsame =>
    ⟨insertionSort_perm (Tree.children_perm (hsame (.names d) (List.mem_singleton_self _))), rfl⟩
  placesBelow d := Local.look fun _ _ hsame =>
    ⟨insertionSort_perm (Tree.below_perm (hsame (.below d) (List.mem_singleton_self _))), rfl⟩
  loop := Local.raise _
  undecodable := Local.raise _

end DiskReading

/-! ## Looks of the parts of a scan -/

open DiskReading Reading

namespace HubCache

variable {cache : HubCache} {modelName : String} {disk : Disk} {look : Look} {hub : RawPath} {l : Location}

theorem scanHub_looks (h : look ∈ (cache.scanHub modelName disk).2) :
    look ∈ (cache.weights modelName disk).2 := looks_bind _ _ _ h

/-- The hub is the cache root or a directory in it. -/
theorem hubCacheRoot_cases {cacheRoot : String} (h : (hubCacheRoot cacheRoot disk).1 = .ok hub) :
    hub = RawPath.parse cacheRoot ∨ hub = (RawPath.parse cacheRoot).child "hub" := by
  unfold hubCacheRoot at h
  dsimp only at h
  split at h
  · cases h
    exact Or.inl rfl
  · cases hdir : (isDir ((RawPath.parse cacheRoot).child "hub") disk).1 with
    | error exc =>
        rw [raise_bind hdir] at h
        cases h
    | ok found =>
        rw [answer_bind hdir] at h
        split at h
        · cases h
          exact Or.inr rfl
        · cases h
          exact Or.inl rfl

theorem hubCacheRoot_looks (h : look ∈ (hubCacheRoot cache.cacheRoot disk).2) :
    look ∈ (cache.weights modelName disk).2 :=
  scanHub_looks (looks_bind _ _ _ (looks_bind _ _ _ h))

/-- The path of the repository is looked at. -/
theorem repo_looks (hhub : (hubCacheRoot cache.cacheRoot disk).1 = .ok hub)
    (h : l ∈ disk.tree.visits true (hub.child (repoDirectoryName modelName))) :
    .kind l ∈ (cache.weights modelName disk).2 := by
  have hrepo : (cache.repoDirectory modelName disk).1 = .ok (hub.child (repoDirectoryName modelName)) :=
    answer_bind hhub
  refine scanHub_looks (looks_next hrepo (looks_bind _ _ _ ?_))
  refine looks_bind _ _ _ (looks_bind _ _ _ ?_)
  exact List.mem_append_right _ (List.mem_map_of_mem h)

/-- The cache root is on the way to the repository. -/
theorem root_looks (hhub : (hubCacheRoot cache.cacheRoot disk).1 = .ok hub)
    (h : l ∈ disk.tree.visits true (RawPath.parse cache.cacheRoot)) :
    .kind l ∈ (cache.weights modelName disk).2 := by
  apply repo_looks hhub
  apply Tree.visits_child
  rcases hubCacheRoot_cases hhub with rfl | rfl
  · exact h
  · exact Tree.visits_child true "hub" h

end HubCache

end Lmrs
