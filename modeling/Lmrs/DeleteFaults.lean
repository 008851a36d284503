import Lmrs.Integrity
import Lmrs.Lib.Posix.Removal

/-!
# Deletions that fail

Source: `lmrs/model_cache.py`, `DiskModelCache.delete`.

A deletion removes two directories one after the other. Each removal may fail, with anything inside the
directory gone by then.

* `deleteWith`: a deletion with the faults its removals meet. `deleteWith_none`: without any it is `delete`.
* `removalWith_stopped`: where a deletion that fails stops, and what is kept then.
* `scanHub_readable_iff`: when the scan of a repository raises nothing.
* `recovers_iff`: when a failed deletion tells the state it leaves, and another one gets to an end.
-/

namespace Lmrs

open Python Posix Footprint Reading DiskReading

/-! ## Removals -/

namespace Disk

/-- What the removal of directories leaves, those it removed, and the text of the `OSError` it met. -/
structure Removing where
  disk : Disk
  paths : List String
  error : Option String

/-- `if p.is_dir(): shutil.rmtree(p)`, over some paths, each with the fault its removal meets. -/
def removeDirsWith (now : Int) (disk : Disk) : List (RawPath × Option Fault) → Removing
  | [] => ⟨disk, [], none⟩
  | (p, some fault) :: rest =>
      if disk.tree.isDir p then ⟨disk.retree (disk.tree.rmtreeFault p fault) now, [], some fault.message⟩
      else removeDirsWith now disk rest
  | (p, none) :: rest =>
      if disk.tree.isDir p then
        let out := disk.tree.rmtree p
        let left := disk.retree out.tree now
        match out.refusal with
        | some refusal => ⟨left, [], some (refusalError refusal).message⟩
        | none =>
            let others := removeDirsWith now left rest
            ⟨others.disk, p.text :: others.paths, others.error⟩
      else removeDirsWith now disk rest

/-- Removals that meet no faults. -/
theorem removeDirsWith_none (now : Int) (disk : Disk) (paths : List RawPath) :
    disk.removeDirsWith now (paths.map fun p => (p, none)) =
      ⟨(disk.removeDirs now paths).disk, (disk.removeDirs now paths).paths,
        (disk.removeDirs now paths).refusal.map fun refusal => (refusalError refusal).message⟩ := by
  induction paths generalizing disk with
  | nil => rfl
  | cons p paths ih =>
      rw [List.map_cons, removeDirsWith, removeDirs]
      split_ifs
      · dsimp only
        cases (disk.tree.rmtree p).refusal with
        | some refusal => rfl
        | none => simp only [ih]
      · exact ih disk

/-- Removals only take entries away. -/
theorem removeDirsWith_leftOf (now : Int) (disk : Disk) (paths : List (RawPath × Option Fault)) :
    Tree.LeftOf (disk.removeDirsWith now paths).disk.tree disk.tree := by
  induction paths generalizing disk with
  | nil => exact .refl _
  | cons entry paths ih =>
      obtain ⟨p, fault⟩ := entry
      cases fault with
      | some fault =>
          rw [removeDirsWith]
          split_ifs
          · exact disk.tree.rmtreeFault_leftOf p fault
          · exact ih disk
      | none =>
          rw [removeDirsWith]
          split_ifs
          · dsimp only
            cases (disk.tree.rmtree p).refusal with
            | some refusal => exact disk.tree.rmtree_leftOf p
            | none => exact (ih (disk.retree (disk.tree.rmtree p).tree now)).trans (disk.tree.rmtree_leftOf p)
          · exact ih disk

theorem removeDirs_leftOf (now : Int) (disk : Disk) (paths : List RawPath) :
    Tree.LeftOf (disk.removeDirs now paths).disk.tree disk.tree := by
  have hleft := disk.removeDirsWith_leftOf now (paths.map fun p => (p, none))
  rwa [removeDirsWith_none] at hleft

/-- **Directories are not there after removals none of which is refused.** -/
theorem removeDirs_gone {now : Int} {disk : Disk} {paths : List RawPath}
    (h : (disk.removeDirs now paths).refusal = none) :
    ∀ p ∈ paths, (disk.removeDirs now paths).disk.tree.isDir p = false := by
  induction paths generalizing disk with
  | nil => simp
  | cons p paths ih =>
      have hstays {left : Disk} (hleft : left.tree.isDir p = false) :
          (left.removeDirs now paths).disk.tree.isDir p = false := by
        rw [Bool.eq_false_iff]
        intro hisDir
        rw [Tree.isDir_mono (left.removeDirs_leftOf now paths) hisDir] at hleft
        cases hleft
      rw [removeDirs] at h ⊢
      split_ifs at h ⊢ with hdir
      · dsimp only at h ⊢
        cases hrefusal : (disk.tree.rmtree p).refusal with
        | some refusal =>
            rw [hrefusal] at h
            cases h
        | none =>
            rw [hrefusal] at h
            exact List.forall_mem_cons.mpr ⟨hstays (Tree.isDir_rmtree hrefusal), ih h⟩
      · exact List.forall_mem_cons.mpr ⟨hstays (by simpa using hdir), ih h⟩

/-- The removal of a directory stops: it meets a fault, or the directory cannot be removed by its path. -/
def StopsAt (disk : Disk) (p : RawPath) (fault : Option Fault) : Prop :=
  disk.tree.isDir p = true ∧ (fault ≠ none ∨ ¬ disk.tree.Removable p)

/-- What the removal of a directory keeps of a disk, with the fault it meets. -/
def kept (disk : Disk) (now : Int) (p : RawPath) (fault : Option Fault) : Disk :=
  if disk.tree.isDir p then disk.retree (disk.tree.rmtreeLeft p fault) now else disk

/-- **A removal that stops is the last**, with an error. -/
theorem removeDirsWith_stops {now : Int} {disk : Disk} {p : RawPath} {fault : Option Fault}
    (rest : List (RawPath × Option Fault)) (h : disk.StopsAt p fault) :
    (disk.removeDirsWith now ((p, fault) :: rest)).disk = disk.kept now p fault ∧
      (disk.removeDirsWith now ((p, fault) :: rest)).error ≠ none := by
  obtain ⟨hdir, hstop⟩ := h
  unfold kept
  rw [if_pos hdir]
  cases fault with
  | some fault =>
      rw [removeDirsWith, if_pos hdir]
      exact ⟨rfl, by simp⟩
  | none =>
      have hrefused : (disk.tree.rmtree p).refusal ≠ none := by
        rw [ne_eq, Tree.rmtree_refusal_iff]
        exact hstop.resolve_left fun h => h rfl
      obtain ⟨refusal, hrefusal⟩ := Option.ne_none_iff_exists'.mp hrefused
      rw [removeDirsWith, if_pos hdir]
      simp only [hrefusal]
      exact ⟨rfl, by simp⟩

/-- **A removal that does not stop goes on with the directories after it**, on what it keeps. -/
theorem removeDirsWith_goes {now : Int} {disk : Disk} {p : RawPath} {fault : Option Fault}
    (rest : List (RawPath × Option Fault)) (h : ¬ disk.StopsAt p fault) :
    (disk.removeDirsWith now ((p, fault) :: rest)).disk = ((disk.kept now p none).removeDirsWith now rest).disk ∧
      (disk.removeDirsWith now ((p, fault) :: rest)).error =
        ((disk.kept now p none).removeDirsWith now rest).error := by
  unfold kept
  by_cases hdir : disk.tree.isDir p = true
  · obtain ⟨hfault, hremovable⟩ : fault = none ∧ disk.tree.Removable p := by
      simpa [StopsAt, hdir] using h
    subst hfault
    rw [if_pos hdir, removeDirsWith, if_pos hdir]
    simp only [Tree.rmtree_refusal_iff.mpr hremovable]
    exact ⟨rfl, rfl⟩
  · rw [if_neg hdir]
    cases fault with
    | some fault =>
        rw [removeDirsWith, if_neg hdir]
        exact ⟨rfl, rfl⟩
    | none =>
        rw [removeDirsWith, if_neg hdir]
        exact ⟨rfl, rfl⟩

/-- What a removal keeps is left of the disk. -/
theorem kept_leftOf (disk : Disk) (now : Int) (p : RawPath) (fault : Option Fault) :
    Tree.LeftOf (disk.kept now p fault).tree disk.tree := by
  unfold kept
  split_ifs
  · exact disk.tree.rmtreeLeft_leftOf p fault
  · exact .refl _

/-- What a removal that does not stop keeps has not the directory. -/
theorem kept_gone {disk : Disk} {p : RawPath} (now : Int) {fault : Option Fault} (h : ¬ disk.StopsAt p fault) :
    (disk.kept now p none).tree.isDir p = false := by
  unfold kept
  by_cases hdir : disk.tree.isDir p = true
  · have hremovable : disk.tree.Removable p := by
      by_contra hnot
      exact h ⟨hdir, Or.inr hnot⟩
    rw [if_pos hdir]
    exact Tree.isDir_rmtree (Tree.rmtree_refusal_iff.mpr hremovable)
  · rw [if_neg hdir]
    simpa using hdir

end Disk

namespace HubCache

/-! ## Deletions -/

/-- The removal of what a model has on disk, with the faults met in its repository directory and in its state
directory. -/
def removalWith (cache : HubCache) (host : CacheHost) (faults : Option Fault × Option Fault) (store : CacheStore)
    (modelName : String) (hub : RawPath) : Disk.Removing :=
  store.disk.removeDirsWith host.now
    [(hub.child (repoDirectoryName modelName), faults.1), (cache.stateDirectory modelName, faults.2)]

/-- **Where a removal with an error stopped**: in the repository directory, or in the state directory once the
repository directory is gone. -/
theorem removalWith_stopped (cache : HubCache) (host : CacheHost) (faults : Option Fault × Option Fault)
    (store : CacheStore) (modelName : String) (hub : RawPath) :
    let repo := hub.child (repoDirectoryName modelName)
    let removal := cache.removalWith host faults store modelName hub
    (store.disk.StopsAt repo faults.1 ∧ removal.disk = store.disk.kept host.now repo faults.1) ∨
      (¬ store.disk.StopsAt repo faults.1 ∧ (removal.error ≠ none →
        removal.disk = (store.disk.kept host.now repo none).kept host.now (cache.stateDirectory modelName) faults.2)) := by
  intro repo removal
  by_cases hstops : store.disk.StopsAt repo faults.1
  · exact Or.inl ⟨hstops, (Disk.removeDirsWith_stops _ hstops).1⟩
  · refine Or.inr ⟨hstops, fun herror => ?_⟩
    obtain ⟨hdisk, hsame⟩ :=
      @Disk.removeDirsWith_goes host.now _ _ _ [(cache.stateDirectory modelName, faults.2)] hstops
    by_cases hstops' : (store.disk.kept host.now repo none).StopsAt (cache.stateDirectory modelName) faults.2
    · exact hdisk.trans (Disk.removeDirsWith_stops [] hstops').1
    · exact absurd (hsame.trans (Disk.removeDirsWith_goes [] hstops').2) herror

/-- Source: `model_cache.py`, `DiskModelCache.delete`, with the faults its removals meet. -/
def deleteWith (cache : HubCache) (host : CacheHost) (faults : Option Fault × Option Fault) (store : CacheStore)
    (modelName : String) : Except PyException CacheCommandResult × CacheStore :=
  match cache.record store modelName, (hubCacheRoot cache.cacheRoot store.disk).1 with
  | .error exc, _ => (.error exc, store)
  | .ok none, _ =>
      (.ok { command := "delete", modelName, status := .notCached, success := false
             reasonCode := some .modelNotCached }, store)
  | .ok (some _), .error exc => (.error exc, store)
  | .ok (some record), .ok hub =>
      let removal := cache.removalWith host faults store modelName hub
      match removal.error with
      | some message =>
          (.ok
            { command := "delete", modelName, status := record.cacheStatus, success := false
              reasonCode := some .modelCacheDeleteFailed, record := some record
              metadata := [("error", .str message), ("removed_paths", namesValue removal.paths)] },
           { store with disk := removal.disk })
      | none =>
          (.ok
            { command := "delete", modelName, status := .notCached, success := true
              record := some record
              metadata := [("removed_paths", namesValue removal.paths),
                           ("freed_bytes", .int record.sizeBytes)] },
           { disk := removal.disk
             records := store.records.filter fun item => item.modelName ≠ modelName })

/-- **Without faults that is a deletion.** -/
theorem deleteWith_none (cache : HubCache) (host : CacheHost) (store : CacheStore) (modelName : String) :
    cache.deleteWith host (none, none) store modelName = cache.delete host store modelName := by
  unfold deleteWith delete
  cases cache.record store modelName with
  | error exc => rfl
  | ok found =>
      cases found with
      | none => rfl
      | some record =>
          cases (hubCacheRoot cache.cacheRoot store.disk).1 with
          | error exc => rfl
          | ok hub =>
              have hremoval : cache.removalWith host (none, none) store modelName hub =
                  ⟨(cache.removal host store modelName hub).disk, (cache.removal host store modelName hub).paths,
                    (cache.removal host store modelName hub).refusal.map fun refusal =>
                      (refusalError refusal).message⟩ :=
                Disk.removeDirsWith_none host.now store.disk
                  [hub.child (repoDirectoryName modelName), cache.stateDirectory modelName]
              dsimp only
              rw [hremoval]
              dsimp only
              cases (cache.removal host store modelName hub).refusal with
              | none => rfl
              | some refusal => rfl

end HubCache

/-! ## The state of what is left -/

/-- The scan of a repository raises nothing: its revision can be read, and no entry of the snapshot it resolves
to leads round in links. -/
structure Disk.Readable (disk : Disk) (repo : RawPath) : Prop where
  revision : ∃ revision, (resolveRevision repo disk).1 = .ok revision
  loopless : ∀ snapshot, disk.Resolved snapshot repo → ∀ rel, disk.IsEntry snapshot rel →
    disk.tree.locate true (snapshot.under rel) ≠ .error .tooManyLinks

/-- A repository directory shows a state: a blob is being downloaded; or none is, and its snapshot is complete, or
not. -/
def Disk.Shows (F : Json.FloatText) (disk : Disk) (repo : RawPath) : CacheState → Prop
  | .caching => ¬ disk.NoDownload repo
  | .cachedOnDisk => ∃ snapshot, disk.Resolved snapshot repo ∧ disk.Complete F snapshot repo
  | .failed => disk.NoDownload repo ∧ ¬ ∃ snapshot, disk.Resolved snapshot repo ∧ disk.Complete F snapshot repo
  | _ => False

/-- A disk has a repository directory in a state: the directory is there, can be read and shows the state. -/
structure Disk.Has (F : Json.FloatText) (disk : Disk) (repo : RawPath) (state : CacheState) : Prop where
  dir : disk.tree.isDir repo = true
  readable : disk.Readable repo
  shows : disk.Shows F repo state

/-- A record the caller supplied for a model has a state. -/
def CacheStore.Supplies (store : CacheStore) (modelName : String) (state : CacheState) : Prop :=
  ∃ item, HubCache.seededRecord store.records modelName = some item ∧ item.cacheStatus = state

namespace HubCache

variable {cache : HubCache} {modelName : String} {disk : Disk} {repo : RawPath} {found : HubScan}

/-- The state of a record of what is found: a download in flight, a complete snapshot, or neither. -/
theorem recordOf_state (cache : HubCache) (modelName : String) (found : HubScan) (stored : Dict Value)
    (marker : Option String) :
    ((cache.recordOf modelName found stored marker).cacheStatus = .caching ↔ found.incomplete ≠ []) ∧
      ((cache.recordOf modelName found stored marker).cacheStatus = .caching ∨
        (cache.recordOf modelName found stored marker).cacheStatus = .cachedOnDisk ∨
          (cache.recordOf modelName found stored marker).cacheStatus = .failed) := by
  obtain ⟨repo, revision, incomplete, snapshot⟩ := found
  cases snapshot with
  | none =>
      have hstate : (cache.recordOf modelName ⟨repo, revision, incomplete, none⟩ stored marker).cacheStatus =
          if incomplete.isEmpty then .failed else .caching := rfl
      rw [hstate]
      cases incomplete <;> simp
  | some pair =>
      have hstate : (cache.recordOf modelName ⟨repo, revision, incomplete, some pair⟩ stored marker).cacheStatus =
          snapshotStatus pair.2 incomplete := rfl
      rw [hstate]
      unfold snapshotStatus
      cases incomplete with
      | cons name names => simp
      | nil =>
          simp only [List.isEmpty_nil, Bool.not_true, Bool.false_eq_true, if_false]
          split_ifs <;> simp

/-- What is found incomplete in the hub is what is being downloaded. -/
theorem scanHub_incomplete (hrepo : (cache.repoDirectory modelName disk).1 = .ok repo)
    (hscan : (cache.scanHub modelName disk).1 = .ok (some found)) :
    found.incomplete = [] ↔ disk.NoDownload repo := by
  obtain ⟨incomplete, hincomplete, hiff⟩ := incompleteDownloads_answers disk repo
  unfold scanHub at hscan
  simp only [bind_answers_iff, hrepo, isDir_answers, Except.ok.injEq, exists_eq_left'] at hscan
  split_ifs at hscan
  · simp only [bind_answers_iff, hincomplete, Except.ok.injEq, exists_eq_left'] at hscan
    obtain ⟨revision, -, snapshot, -, hfound⟩ := hscan
    rw [← hiff]
    cases snapshot with
    | none =>
        cases hfound
        rfl
    | some snapshot =>
        obtain ⟨scan, -, hfound⟩ := bind_answers hfound
        cases hfound
        rfl
  · cases hscan

/-- **The record of what is found has the state the repository directory shows.** -/
theorem recordOf_shows (hrepo : (cache.repoDirectory modelName disk).1 = .ok repo)
    (hdir : disk.tree.isDir repo = true) (hscan : (cache.scanHub modelName disk).1 = .ok (some found))
    (stored : Dict Value) (marker : Option String) (state : CacheState) :
    (cache.recordOf modelName found stored marker).cacheStatus = state ↔ disk.Shows cache.floats repo state := by
  have hdownload := scanHub_incomplete hrepo hscan
  obtain ⟨hcaching, hstates⟩ := cache.recordOf_state modelName found stored marker
  have hcached : (cache.recordOf modelName found stored marker).cacheStatus = .cachedOnDisk ↔
      ∃ snapshot, disk.Resolved snapshot repo ∧ disk.Complete cache.floats snapshot repo := by
    rw [recordOf_cached_iff, ← cache.scanHub_complete_iff hrepo hdir]
    constructor
    · exact fun hcomplete => ⟨found, hscan, hcomplete⟩
    · rintro ⟨found', hscan', hcomplete⟩
      rw [hscan] at hscan'
      cases hscan'
      exact hcomplete
  rw [ne_eq, hdownload] at hcaching
  cases state with
  | caching => exact hcaching
  | cachedOnDisk => exact hcached
  | failed =>
      show _ ↔ disk.NoDownload repo ∧ ¬ _
      rw [← hcached, ← not_not (a := disk.NoDownload repo), ← hcaching]
      rcases hstates with h | h | h <;> simp [h]
  | notCached => rcases hstates with h | h | h <;> simp [h, Disk.Shows]
  | loadingToMemory => rcases hstates with h | h | h <;> simp [h, Disk.Shows]
  | loadedInMemory => rcases hstates with h | h | h <;> simp [h, Disk.Shows]
  | unloading => rcases hstates with h | h | h <;> simp [h, Disk.Shows]

/-- An entry is resolved unless it leads round in links. -/
theorem resolve_answers_iff {p : RawPath} :
    (∃ found, (resolve p disk).1 = .ok found) ↔ disk.tree.locate true p ≠ .error .tooManyLinks := by
  unfold resolve
  simp only [bind_answers_iff]
  cases hl : disk.tree.locate true p with
  | ok l => exact iff_of_true ⟨some l, .ok l, congrArg Except.ok hl, rfl⟩ (by simp)
  | error e =>
      by_cases hloop : e = .tooManyLinks
      · subst hloop
        refine iff_of_false ?_ (by simp)
        rintro ⟨found, answer, hanswer, hfound⟩
        obtain rfl : disk.tree.locate true p = answer := Except.ok.inj hanswer
        rw [hl] at hfound
        cases hfound
      · refine iff_of_true ⟨none, .error e, congrArg Except.ok hl, ?_⟩ (by simpa using hloop)
        cases e <;> first | rfl | exact absurd rfl hloop

/-- **A snapshot is scanned unless one of its entries leads round in links.** -/
theorem scanSnapshot_answers_iff (cache : HubCache) {snapshot : RawPath} {d : Location}
    (hd : disk.tree.locate true snapshot = .ok d) :
    (∃ scan, (cache.scanSnapshot snapshot disk).1 = .ok scan) ↔
      ∀ rel, disk.IsEntry snapshot rel → disk.tree.locate true (snapshot.under rel) ≠ .error .tooManyLinks := by
  obtain ⟨files, hfiles, hmem⟩ := snapshotFiles_answers hd
  obtain ⟨weights, hweights, -⟩ := weightFiles_answers hd
  obtain ⟨missing, hmissing, -⟩ := missingShards_answers disk cache.floats snapshot
  obtain ⟨tokenizer, htokenizer⟩ := tokenizerProfile_answers disk snapshot
  obtain ⟨instant, hinstant⟩ := downloadedAt_answers disk snapshot
  have hbroken : (∃ broken, (brokenEntries snapshot disk).1 = .ok broken) ↔
      ∀ rel ∈ files, ∃ found, (resolve (snapshot.under rel) disk).1 = .ok found := by
    unfold brokenEntries
    simp only [bind_answers_iff, hfiles, Except.ok.injEq, exists_eq_left', pure_answers_iff]
    have heach (rel : List String) : (∃ broken, (isBroken (snapshot.under rel) disk).1 = .ok broken) ↔
        ∃ found, (resolve (snapshot.under rel) disk).1 = .ok found := by
      unfold isBroken
      simp only [bind_answers_iff]
      constructor
      · rintro ⟨-, found, hfound, -⟩
        exact ⟨found, hfound⟩
      · rintro ⟨found, hfound⟩
        cases found with
        | none => exact ⟨true, none, hfound, rfl⟩
        | some l => exact ⟨_, some l, hfound, rfl⟩
    constructor
    · rintro ⟨-, broken, hselected, -⟩ rel hrel
      exact (heach rel).mp (select_answers_iff.mp ⟨broken, hselected⟩ rel hrel)
    · intro hall
      obtain ⟨broken, hselected⟩ := select_answers_iff.mpr fun rel hrel => (heach rel).mpr (hall rel hrel)
      exact ⟨_, broken, hselected, rfl⟩
  have hsize (hall : ∀ rel ∈ files, ∃ found, (resolve (snapshot.under rel) disk).1 = .ok found) :
      ∃ size, (snapshotSizeBytes snapshot disk).1 = .ok size := by
    have heach : ∀ rel ∈ files, ∃ size, (resolvedSize (snapshot.under rel) disk).1 = .ok size := by
      intro rel hrel
      obtain ⟨found, hfound⟩ := hall rel hrel
      cases found with
      | none => exact ⟨none, bind_answers_iff.mpr ⟨none, hfound, rfl⟩⟩
      | some l => exact ⟨_, bind_answers_iff.mpr ⟨some l, hfound, rfl⟩⟩
    obtain ⟨resolved, hresolved⟩ := collect_answers heach
    exact ⟨_, bind_answers_iff.mpr ⟨files, hfiles, bind_answers_iff.mpr ⟨resolved, hresolved, rfl⟩⟩⟩
  have hall : (∀ rel, disk.IsEntry snapshot rel → disk.tree.locate true (snapshot.under rel) ≠ .error .tooManyLinks) ↔
      ∀ rel ∈ files, ∃ found, (resolve (snapshot.under rel) disk).1 = .ok found := by
    simp only [hmem, resolve_answers_iff]
  rw [hall, ← hbroken]
  unfold scanSnapshot
  simp only [bind_answers_iff, readText_answers, hweights, hmissing, htokenizer, hinstant, Except.ok.injEq,
    exists_eq_left', pure_answers_iff]
  constructor
  · rintro ⟨-, broken, hanswered, -⟩
    exact ⟨broken, hanswered⟩
  · intro hanswered
    obtain ⟨broken, hone⟩ := hanswered
    obtain ⟨size, htwo⟩ := hsize (hbroken.mp ⟨broken, hone⟩)
    exact ⟨_, broken, hone, size, htwo, rfl⟩

/-- **A repository that is there is scanned exactly when it is readable.** -/
theorem scanHub_readable_iff (hrepo : (cache.repoDirectory modelName disk).1 = .ok repo)
    (hdir : disk.tree.isDir repo = true) :
    (∃ found, (cache.scanHub modelName disk).1 = .ok found) ↔ disk.Readable repo := by
  obtain ⟨incomplete, hincomplete, -⟩ := incompleteDownloads_answers disk repo
  have hsnapshots (revision : String) : ∃ found, (snapshotDirectory repo revision disk).1 = .ok found := by
    unfold snapshotDirectory
    split_ifs
    · exact ⟨none, rfl⟩
    · rw [answer_bind isDir_answers]
      split_ifs
      · exact ⟨_, rfl⟩
      · exact ⟨none, rfl⟩
  unfold scanHub
  simp only [bind_answers_iff, hrepo, isDir_answers, hdir, hincomplete, Except.ok.injEq, exists_eq_left', if_true]
  constructor
  · rintro ⟨found, revision, hrevision, snapshot, hsnapshot, hscan⟩
    refine ⟨⟨revision, hrevision⟩, fun other hother => ?_⟩
    obtain ⟨revision', hrevision', hother⟩ := hother
    cases hrevision.symm.trans hrevision'
    cases hsnapshot.symm.trans hother
    obtain ⟨d, hd⟩ := snapshotDirectory_located hsnapshot
    obtain ⟨scan, hscan, -⟩ := bind_answers hscan
    exact (cache.scanSnapshot_answers_iff hd).mp ⟨scan, hscan⟩
  · rintro ⟨⟨revision, hrevision⟩, hloopless⟩
    obtain ⟨snapshot, hsnapshot⟩ := hsnapshots revision
    cases snapshot with
    | none => exact ⟨_, revision, hrevision, none, hsnapshot, rfl⟩
    | some snapshot =>
        obtain ⟨d, hd⟩ := snapshotDirectory_located hsnapshot
        obtain ⟨scan, hscan⟩ := (cache.scanSnapshot_answers_iff hd).mpr
          (hloopless snapshot ⟨revision, hrevision, hsnapshot⟩)
        exact ⟨_, revision, hrevision, some snapshot, hsnapshot, bind_answers_iff.mpr ⟨scan, hscan, rfl⟩⟩

/-- Where a state is found: in the repository directory; or that is not there, and a supplied record of the
model has it. -/
def StateFound (cache : HubCache) (store : CacheStore) (modelName : String) (state : CacheState) : Prop :=
  ∃ repo, (cache.repoDirectory modelName store.disk).1 = .ok repo ∧
    (store.disk.Has cache.floats repo state ∨
      (store.disk.tree.isDir repo = false ∧ store.Supplies modelName state))

/-- The hub is always told. -/
theorem hubCacheRoot_answers (cache : HubCache) (disk : Disk) :
    ∃ hub, (hubCacheRoot cache.cacheRoot disk).1 = .ok hub := by
  unfold hubCacheRoot
  dsimp only
  split_ifs
  · exact ⟨_, rfl⟩
  · rw [answer_bind isDir_answers]
    split_ifs
    · exact ⟨_, rfl⟩
    · exact ⟨_, rfl⟩

/-- **A model has a record of a state exactly where the state is found.** -/
theorem record_state_iff (cache : HubCache) (store : CacheStore) (modelName : String) (state : CacheState) :
    (∃ record, cache.record store modelName = .ok (some record) ∧ record.cacheStatus = state) ↔
      cache.StateFound store modelName state := by
  obtain ⟨hub, hhub⟩ := cache.hubCacheRoot_answers store.disk
  have hrepo : (cache.repoDirectory modelName store.disk).1 = .ok (hub.child (repoDirectoryName modelName)) :=
    (repoDirectory_iff cache).mpr ⟨hub, hhub, rfl⟩
  unfold StateFound
  simp only [hrepo, Except.ok.injEq, exists_eq_left']
  cases hdir : store.disk.tree.isDir (hub.child (repoDirectoryName modelName)) with
  | true =>
      obtain ⟨stored, marker, hiff⟩ := cache.scanRecord_iff hrepo hdir
      constructor
      · rintro ⟨record, hrecord, rfl⟩
        obtain ⟨scanned, hscanned, hor⟩ := map_eq_ok.mp hrecord
        obtain ⟨found, hfound, rfl⟩ := (hiff scanned).mp hscanned
        cases hor
        exact Or.inl ⟨hdir, (scanHub_readable_iff hrepo hdir).mp ⟨_, hfound⟩,
          (recordOf_shows hrepo hdir hfound stored marker _).mp rfl⟩
      · rintro (⟨-, hreadable, hshows⟩ | ⟨hfalse, -⟩)
        · obtain ⟨found, hfound⟩ := (scanHub_readable_iff hrepo hdir).mpr hreadable
          cases found with
          | none => exact absurd hfound (cache.scanHub_ne_none hrepo hdir)
          | some found =>
              have hscanned := (hiff _).mpr ⟨found, hfound, rfl⟩
              exact ⟨_, map_eq_ok.mpr ⟨_, hscanned, rfl⟩,
                (recordOf_shows hrepo hdir hfound stored marker state).mpr hshows⟩
        · cases hfalse
  | false =>
      have hnone : (cache.scanHub modelName store.disk).1 = .ok none := by
        unfold scanHub
        simp only [bind_answers_iff, hrepo, isDir_answers, hdir, Except.ok.injEq, exists_eq_left',
          Bool.false_eq_true, if_false, pure_answers_iff]
      have hscanned : (cache.scanRecord modelName store.disk).1 = .ok none := by
        unfold scanRecord
        rw [answer_bind hnone]
        rfl
      have hrecord : cache.record store modelName = .ok (seededRecord store.records modelName) :=
        map_eq_ok.mpr ⟨none, hscanned, rfl⟩
      have hnot : ¬ store.disk.Has cache.floats (hub.child (repoDirectoryName modelName)) state := by
        intro hhas
        rw [hhas.dir] at hdir
        cases hdir
      simp [hrecord, hnot, CacheStore.Supplies]

/-! ## What a failed deletion leaves -/

/-- A failed deletion tells the state that the status tells of what it left, and one more, that does not fail,
removes both directories. -/
structure Recovers (cache : HubCache) (modelName : String) (hub : RawPath) (result : CacheCommandResult)
    (left : CacheStore) : Prop where
  told : ∃ status, cache.status left modelName = .ok status ∧ result.status = status.status
  retried : ∀ host, (∀ retry, (cache.delete host left modelName).1 = .ok retry →
      retry.reasonCode ≠ some .modelCacheDeleteFailed) →
    (cache.delete host left modelName).2.disk.tree.isDir (hub.child (repoDirectoryName modelName)) = false ∧
      (cache.delete host left modelName).2.disk.tree.isDir (cache.stateDirectory modelName) = false

variable {store left : CacheStore} {hub : RawPath} {record : CachedModelRecord} {result : CacheCommandResult}

/-- The hub of what is left is the one before, or the cache root once that is no directory any more. -/
theorem hub_left {disk' : Disk} (hhub : (hubCacheRoot cache.cacheRoot disk).1 = .ok hub)
    (hleft : Tree.LeftOf disk'.tree disk.tree) :
    (hubCacheRoot cache.cacheRoot disk').1 =
      .ok (if disk'.tree.isDir hub then hub else RawPath.parse cache.cacheRoot) := by
  unfold hubCacheRoot at hhub ⊢
  dsimp only at hhub ⊢
  by_cases hnamed : (RawPath.parse cache.cacheRoot).parts.getLast? = some "hub"
  · rw [if_pos hnamed] at hhub ⊢
    cases hhub
    rw [ite_self]
    rfl
  · rw [if_neg hnamed] at hhub ⊢
    rw [answer_bind isDir_answers] at hhub ⊢
    by_cases hdir : disk.tree.isDir ((RawPath.parse cache.cacheRoot).child "hub") = true
    · rw [if_pos hdir] at hhub
      cases hhub
      split_ifs <;> rfl
    · have hdir' : ¬ disk'.tree.isDir ((RawPath.parse cache.cacheRoot).child "hub") = true :=
        fun h => hdir (Tree.isDir_mono hleft h)
      rw [if_neg hdir] at hhub
      cases hhub
      rw [if_neg hdir', ite_self]
      rfl

/-- **A deletion of a model with a record that is not refused removes both directories.** -/
theorem delete_gone (host : CacheHost) (hrecord : cache.record left modelName = .ok (some record))
    (hhub : (hubCacheRoot cache.cacheRoot left.disk).1 = .ok hub)
    (hfine : ∀ retry, (cache.delete host left modelName).1 = .ok retry →
      retry.reasonCode ≠ some .modelCacheDeleteFailed) :
    Tree.LeftOf (cache.delete host left modelName).2.disk.tree left.disk.tree ∧
      (cache.delete host left modelName).2.disk.tree.isDir (hub.child (repoDirectoryName modelName)) = false ∧
      (cache.delete host left modelName).2.disk.tree.isDir (cache.stateDirectory modelName) = false := by
  unfold delete at hfine ⊢
  rw [hrecord, hhub] at hfine ⊢
  dsimp only at hfine ⊢
  cases hrefusal : (cache.removal host left modelName hub).refusal with
  | some refusal =>
      rw [hrefusal] at hfine
      exact absurd rfl (hfine _ rfl)
  | none =>
      have hgone := Disk.removeDirs_gone hrefusal
      exact ⟨left.disk.removeDirs_leftOf host.now _, hgone _ (List.mem_cons_self ..), hgone _ (by simp)⟩

/-- What a disk tells of a model once the hub is no directory on it: the model's directory directly in the cache
root has a state, or is not there and a supplied record has it. -/
def Rerouted (cache : HubCache) (store : CacheStore) (modelName : String) (disk : Disk) (state : CacheState) : Prop :=
  disk.Has cache.floats ((RawPath.parse cache.cacheRoot).child (repoDirectoryName modelName)) state ∨
    (disk.tree.isDir ((RawPath.parse cache.cacheRoot).child (repoDirectoryName modelName)) = false ∧
      store.Supplies modelName state)

/-- What faults and a store make a failed deletion recoverable. Where it stops in the repository directory, what is
kept of that can be read and shows the state; where it stops in the state directory, a supplied record has the
state. Where the path of the hub leads through what goes, what the cache tells without its hub is the state. -/
inductive Recoverable (cache : HubCache) (host : CacheHost) (faults : Option Fault × Option Fault)
    (store : CacheStore) (modelName : String) (hub : RawPath) (state : CacheState) : Prop
  | repository (hstops : store.disk.StopsAt (hub.child (repoDirectoryName modelName)) faults.1)
      (hhub : (store.disk.kept host.now (hub.child (repoDirectoryName modelName)) faults.1).tree.isDir hub = true)
      (hreadable : (store.disk.kept host.now (hub.child (repoDirectoryName modelName)) faults.1).Readable
        (hub.child (repoDirectoryName modelName)))
      (hshows : (store.disk.kept host.now (hub.child (repoDirectoryName modelName)) faults.1).Shows cache.floats
        (hub.child (repoDirectoryName modelName)) state)
  | stateDirectory (hgoes : ¬ store.disk.StopsAt (hub.child (repoDirectoryName modelName)) faults.1)
      (hhub : ((store.disk.kept host.now (hub.child (repoDirectoryName modelName)) none).kept host.now
        (cache.stateDirectory modelName) faults.2).tree.isDir hub = true)
      (hsupplied : store.Supplies modelName state)
  | repositoryRerouted (hstops : store.disk.StopsAt (hub.child (repoDirectoryName modelName)) faults.1)
      (hhub : (store.disk.kept host.now (hub.child (repoDirectoryName modelName)) faults.1).tree.isDir hub = false)
      (hrerouted : cache.Rerouted store modelName
        (store.disk.kept host.now (hub.child (repoDirectoryName modelName)) faults.1) state)
  | stateDirectoryRerouted (hgoes : ¬ store.disk.StopsAt (hub.child (repoDirectoryName modelName)) faults.1)
      (hhub : ((store.disk.kept host.now (hub.child (repoDirectoryName modelName)) none).kept host.now
        (cache.stateDirectory modelName) faults.2).tree.isDir hub = false)
      (hrerouted : cache.Rerouted store modelName ((store.disk.kept host.now
        (hub.child (repoDirectoryName modelName)) none).kept host.now (cache.stateDirectory modelName) faults.2) state)

/-- What a failed deletion tells, and leaves: the state of the record, and what the removals keep. -/
theorem deleteWith_failed {host : CacheHost} {faults : Option Fault × Option Fault}
    (hrecord : cache.record store modelName = .ok (some record))
    (hhub : (hubCacheRoot cache.cacheRoot store.disk).1 = .ok hub)
    (hdelete : cache.deleteWith host faults store modelName = (.ok result, left)) (hfailed : result.success = false) :
    result.status = record.cacheStatus ∧ left.records = store.records ∧
      left.disk = (cache.removalWith host faults store modelName hub).disk ∧
      (cache.removalWith host faults store modelName hub).error ≠ none := by
  unfold deleteWith at hdelete
  rw [hrecord, hhub] at hdelete
  dsimp only at hdelete
  cases herror : (cache.removalWith host faults store modelName hub).error with
  | none =>
      rw [herror] at hdelete
      cases hdelete
      cases hfailed
  | some message =>
      rw [herror] at hdelete
      cases hdelete
      exact ⟨rfl, rfl, rfl, by simp⟩

/-- **A failed deletion tells what it leaves, and can be tried again to an end, exactly when the state it tells is
found in what it leaves.** -/
theorem recovers_found_iff {host : CacheHost} {faults : Option Fault × Option Fault}
    (hrecord : cache.record store modelName = .ok (some record))
    (hhub : (hubCacheRoot cache.cacheRoot store.disk).1 = .ok hub)
    (hdelete : cache.deleteWith host faults store modelName = (.ok result, left)) (hfailed : result.success = false) :
    cache.Recovers modelName hub result left ↔ cache.StateFound left modelName record.cacheStatus := by
  obtain ⟨hresult, hrecords, hremoved, -⟩ := deleteWith_failed hrecord hhub hdelete hfailed
  have hdisk : Tree.LeftOf left.disk.tree store.disk.tree := by
    rw [hremoved]
    exact store.disk.removeDirsWith_leftOf host.now _
  have hhub' := hub_left hhub hdisk
  rw [← cache.record_state_iff]
  constructor
  · rintro ⟨⟨status, hstatus, hsame⟩, -⟩
    rw [cache.status_eq hhub'] at hstatus
    obtain ⟨found, hfound, rfl⟩ := map_eq_ok.mp hstatus
    rw [hresult] at hsame
    cases found with
    | some found => exact ⟨found, hfound, hsame.symm⟩
    | none =>
        -- without a record the state is that of none, which only a supplied record has
        exfalso
        obtain ⟨repo, -, hfoundBefore⟩ := (cache.record_state_iff store modelName .notCached).mp
          ⟨record, hrecord, hsame⟩
        obtain ⟨scanned, -, hnone⟩ := map_eq_ok.mp hfound
        rcases hfoundBefore with hhas | ⟨-, item, hitem, -⟩
        · exact hhas.shows
        · rw [hrecords, hitem] at hnone
          cases scanned <;> cases hnone
  · rintro ⟨found, hfound, hstate⟩
    constructor
    · refine ⟨_, (cache.status_eq hhub').trans (map_eq_ok.mpr ⟨_, hfound, rfl⟩), ?_⟩
      rw [hresult, ← hstate]
      rfl
    · intro host' hfine
      obtain ⟨hleft, hrepo, hstate'⟩ := delete_gone host' hfound hhub' hfine
      refine ⟨?_, hstate'⟩
      cases hgone : left.disk.tree.isDir hub with
      | true =>
          rw [hgone] at hrepo
          exact hrepo
      | false =>
          rw [Bool.eq_false_iff]
          intro hisDir
          obtain ⟨l, hl, -⟩ := Tree.isDir_iff.mp (Tree.isDir_mono hleft hisDir)
          obtain ⟨d, hd, hdir⟩ := Tree.locate_before (isName_repoDirectoryName modelName).2.2.1 hl
          rw [Tree.isDir_iff.mpr ⟨d, hd, hdir⟩] at hgone
          cases hgone

end HubCache

/-! ## A state directory that stays -/

/-- A repository without a config, and the metadata stored beside it. -/
def storedRepository : Disk where
  tree :=
    { entries := [(["c"], .dir), (["c", "models--m"], .dir), (["c", "models--m", "snapshots"], .dir),
        (["c", "models--m", "snapshots", "r"], .dir),
        (["c", "models--m", "snapshots", "r", "model.safetensors"], .file), (["c", ".lmrs"], .dir),
        (["c", ".lmrs", "models--m"], .dir), (["c", ".lmrs", "models--m", "metadata.json"], .file)]
      cwd := []
      distinct := by decide
      rooted := by simp [kindIn]
      named := by simp [IsName] }
  data := fun _ => {}

/-- A removal that fails before anything goes. -/
def deniedFault : Fault where
  keeps := fun _ => true
  closed := fun _ _ _ => rfl
  message := "[Errno 13] Permission denied"

/-- A host without downloads. -/
def deletingHost : CacheHost where
  now := 0

/-- A record the caller supplied for the model stored. -/
def suppliedRecord : CachedModelRecord where
  modelName := "m"
  runtimeBackend := ""
  modelPath := ""
  quantizationProfile := ""
  declaredContextWindow := 0
  tokenizerProfile := ""
  checksumOrRevision := ""
  sizeBytes := 0
  downloadedAt := ""
  cacheStatus := .cachedOnDisk

end Lmrs
