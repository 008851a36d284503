import Lmrs.CacheOperations

/-!
# The integrity of a cached model

Source: `lmrs/model_cache.py`, `DiskModelCache.check_integrity`, over `_scan_record` and the scans it combines.

What makes a snapshot complete is said of the disk (`Disk.Complete`), without its scans; each scan is then
shown to answer, and to come out empty exactly where its condition holds. The check and the status both read
the record of these scans.

* `HubCache.verified_iff`, `HubCache.reportedCached_iff`: a model is verified, and reported cached, exactly
  when the snapshot it resolves to is complete.
* `integrity_documented_iff`: the documented conditions are those exactly where no complete snapshot lacks
  its config. `verified_without_config`: a repository where one does.
-/

namespace Lmrs

open Python Json Posix Footprint Reading

namespace Disk

/-- `p.is_symlink()`. -/
def isSymlink (disk : Disk) (p : RawPath) : Bool :=
  match disk.tree.locate false p with
  | .ok l =>
      match disk.tree.kind l with
      | some (.symlink _) => true
      | _ => false
  | .error _ => false

end Disk

namespace DiskReading

variable {disk : Disk} {p : RawPath}

theorem isDir_answers : (isDir p disk).1 = .ok (disk.tree.isDir p) := by
  unfold isDir kindOf Tree.isDir
  simp only [bind_answers_iff, pure_answers_iff]
  cases hl : disk.tree.locate true p with
  | ok l => exact ⟨disk.tree.kind l, ⟨.ok l, congrArg Except.ok hl, rfl⟩, rfl⟩
  | error e => exact ⟨none, ⟨.error e, congrArg Except.ok hl, rfl⟩, rfl⟩

theorem isFile_answers : (isFile p disk).1 = .ok (disk.tree.isFile p) := by
  unfold isFile kindOf Tree.isFile
  simp only [bind_answers_iff, pure_answers_iff]
  cases hl : disk.tree.locate true p with
  | ok l => exact ⟨disk.tree.kind l, ⟨.ok l, congrArg Except.ok hl, rfl⟩, rfl⟩
  | error e => exact ⟨none, ⟨.error e, congrArg Except.ok hl, rfl⟩, rfl⟩

theorem isSymlink_answers : (isSymlink p disk).1 = .ok (disk.isSymlink p) := by
  unfold isSymlink Disk.isSymlink
  simp only [bind_answers_iff]
  cases hl : disk.tree.locate false p with
  | error e => exact ⟨.error e, congrArg Except.ok hl, rfl⟩
  | ok l =>
      refine ⟨.ok l, congrArg Except.ok hl, bind_answers_iff.mpr ⟨disk.tree.kind l, rfl, ?_⟩⟩
      dsimp only
      cases disk.tree.kind l with
      | none => rfl
      | some kind => cases kind <;> rfl

theorem readText_answers : (readText p disk).1 = .ok (disk.textAt p) := by
  unfold readText Disk.textAt
  simp only [bind_answers_iff]
  cases hl : disk.tree.locate true p with
  | error e => exact ⟨.error e, congrArg Except.ok hl, rfl⟩
  | ok l =>
      refine ⟨.ok l, congrArg Except.ok hl, bind_answers_iff.mpr ⟨disk.tree.kind l, rfl, ?_⟩⟩
      by_cases hfile : disk.tree.kind l = some .file
      · rw [if_pos hfile]
        simp only [hfile, if_true]
        rfl
      · rw [if_neg hfile]
        simp only [hfile, if_false]
        rfl

/-- A path that leads somewhere resolves to where it leads. -/
theorem resolve_some_iff {l : Location} :
    (resolve p disk).1 = .ok (some l) ↔ disk.tree.locate true p = .ok l := by
  unfold resolve
  rw [bind_answers_iff]
  constructor
  · rintro ⟨found, hfound, hresolved⟩
    obtain rfl : disk.tree.locate true p = found := Except.ok.inj hfound
    cases hl : disk.tree.locate true p with
    | ok l' =>
        rw [hl] at hresolved
        cases hresolved
        rfl
    | error e =>
        rw [hl] at hresolved
        cases e <;> cases hresolved
  · intro hl
    exact ⟨.ok l, congrArg Except.ok hl, rfl⟩

/-- An entry is not broken exactly when it leads to a file. -/
theorem isBroken_false_iff : (isBroken p disk).1 = .ok false ↔ disk.tree.isFile p = true := by
  have hkind (l : Location) :
      ((do return (← kindAt l) ≠ some .file : DiskReading Bool) disk).1 = .ok false ↔
        disk.tree.kind l = some .file := by
    rw [bind_answers_iff]
    constructor
    · rintro ⟨kind, hkind, hfile⟩
      obtain rfl : disk.tree.kind l = kind := Except.ok.inj hkind
      simpa using pure_answers_iff.mp hfile
    · intro hfile
      exact ⟨_, rfl, pure_answers_iff.mpr (by simp [hfile])⟩
  unfold isBroken
  rw [bind_answers_iff]
  unfold Tree.isFile
  constructor
  · rintro ⟨found, hfound, hbroken⟩
    cases found with
    | none => cases hbroken
    | some l =>
        rw [resolve_some_iff.mp hfound]
        exact decide_eq_true ((hkind l).mp hbroken)
  · intro hfile
    cases hl : disk.tree.locate true p with
    | error e =>
        rw [hl] at hfile
        cases hfile
    | ok l =>
        rw [hl] at hfile
        exact ⟨some l, resolve_some_iff.mpr hl, (hkind l).mpr (of_decide_eq_true hfile)⟩

end DiskReading

/-! ## What a complete snapshot is -/

/-- The files a repository may list its shards in. -/
def weightIndexes : List String := ["model.safetensors.index.json", "pytorch_model.bin.index.json"]

namespace Disk

variable (disk : Disk) (F : FloatText) (snapshot repo : RawPath)

/-- A file or a link below the snapshot, named from it. -/
def IsEntry (rel : List String) : Prop :=
  ∃ d, disk.tree.locate true snapshot = .ok d ∧ rel ≠ [] ∧ (disk.tree.kind (d ++ rel)).isSome ∧
    (disk.tree.isFile (snapshot.under rel) = true ∨ disk.isSymlink (snapshot.under rel) = true)

/-- `config.json` parses to an object that is not empty. -/
def ConfigPresent : Prop :=
  ∃ text items, disk.textAt (snapshot.child "config.json") = some text ∧ loads F text = some (.dict items) ∧
    items ≠ []

/-- The snapshot has a weight file. -/
def WeightsPresent : Prop :=
  ∃ rel, disk.IsEntry snapshot rel ∧ pathSuffix (rel.getLast?.getD "") ∈ weightSuffixes

/-- Every shard a weight index names is a file of the snapshot. -/
def ShardsPresent : Prop :=
  ∀ index ∈ weightIndexes, disk.tree.isFile (snapshot.child index) = true → ∀ weightMap,
    Value.item (readJson F (disk.textAt (snapshot.child index))) "weight_map" = .dict weightMap →
      ∀ key shard, (key, shard) ∈ weightMap →
        disk.tree.isFile (snapshot.join (RawPath.parse shard.text)) = true

/-- Every entry of the snapshot leads to a file. -/
def EntriesResolve : Prop :=
  ∀ rel, disk.IsEntry snapshot rel → disk.tree.isFile (snapshot.under rel) = true

/-- No blob is still being downloaded. -/
def NoDownload : Prop :=
  ∀ d, disk.tree.locate true (repo.child "blobs") = .ok d → disk.tree.kind d = some .dir →
    ∀ name, (disk.tree.kind (d ++ [name])).isSome → ".incomplete".toList.isSuffixOf name.toList = false

/-- What is documented of a complete snapshot beside its config. -/
structure Complete : Prop where
  weights : disk.WeightsPresent snapshot
  shards : disk.ShardsPresent F snapshot
  entries : disk.EntriesResolve snapshot
  downloaded : disk.NoDownload repo

/-- The snapshot the repository resolves to is there. -/
def Resolved : Prop :=
  ∃ revision, (resolveRevision repo disk).1 = .ok revision ∧
    (snapshotDirectory repo revision disk).1 = .ok (some snapshot)

/-- Everything that is documented of a verified repository. -/
def Documented : Prop :=
  ∃ snapshot, disk.Resolved snapshot repo ∧ disk.ConfigPresent F snapshot ∧ disk.Complete F snapshot repo

variable {disk snapshot repo} in
/-- A repository resolves to one snapshot. -/
theorem Resolved.unique {other : RawPath} (h : disk.Resolved snapshot repo) (h' : disk.Resolved other repo) :
    snapshot = other := by
  obtain ⟨revision, hrevision, hsnapshot⟩ := h
  obtain ⟨_, hrevision', hsnapshot'⟩ := h'
  cases hrevision.symm.trans hrevision'
  cases hsnapshot.symm.trans hsnapshot'
  rfl

end Disk

/-! ## What the scans answer -/

namespace DiskReading

variable {disk : Disk} {F : FloatText} {snapshot repo : RawPath} {d : Location}

/-- The entries of a snapshot. -/
theorem snapshotFiles_answers (hd : disk.tree.locate true snapshot = .ok d) :
    ∃ files, (snapshotFiles snapshot disk).1 = .ok files ∧ ∀ rel, rel ∈ files ↔ disk.IsEntry snapshot rel := by
  refine ⟨_, bind_answers_iff.mpr ⟨.ok d, congrArg Except.ok hd, bind_answers_iff.mpr
    ⟨(disk.tree.below d).insertionSort (· ≤ ·), rfl, select_of_answers
      (P := fun rel => disk.tree.isFile (snapshot.under rel) || disk.isSymlink (snapshot.under rel)) ?_⟩⟩, ?_⟩
  · intro rel
    refine bind_answers_iff.mpr ⟨_, isFile_answers, ?_⟩
    cases disk.tree.isFile (snapshot.under rel) with
    | true => rfl
    | false => exact isSymlink_answers
  · intro rel
    rw [List.mem_filter, List.mem_map, Bool.or_eq_true]
    unfold Disk.IsEntry
    constructor
    · rintro ⟨⟨l, hl, rfl⟩, hkind⟩
      rw [List.mem_insertionSort, Tree.mem_below] at hl
      obtain ⟨hsome, ⟨rest, rfl⟩, hne⟩ := hl
      rw [List.drop_left]
      refine ⟨d, hd, ?_, hsome, by rwa [List.drop_left] at hkind⟩
      rintro rfl
      exact hne (List.append_nil d)
    · rintro ⟨d', hd', hne, hsome, hkind⟩
      obtain rfl : d' = d := Except.ok.inj (hd'.symm.trans hd)
      refine ⟨⟨d' ++ rel, ?_, List.drop_left⟩, hkind⟩
      rw [List.mem_insertionSort, Tree.mem_below]
      exact ⟨hsome, List.prefix_append d' rel, by simpa using hne⟩

/-- The weight files of a snapshot: there are some exactly when one of its entries is one. -/
theorem weightFiles_answers (hd : disk.tree.locate true snapshot = .ok d) :
    ∃ weights, (weightFiles snapshot disk).1 = .ok weights ∧ (weights ≠ [] ↔ disk.WeightsPresent snapshot) := by
  obtain ⟨files, hfiles, hmem⟩ := snapshotFiles_answers hd
  refine ⟨_, bind_answers_iff.mpr ⟨files, hfiles, rfl⟩, ?_⟩
  rw [Ne, ← List.length_eq_zero_iff, List.length_insertionSort, List.length_map, List.length_eq_zero_iff,
    List.filter_eq_nil_iff]
  simp only [not_forall, not_not, decide_eq_true_eq, hmem, exists_prop]
  rfl

/-- No entry is broken exactly when each leads to a file. -/
theorem brokenEntries_nil_iff (hd : disk.tree.locate true snapshot = .ok d) :
    (brokenEntries snapshot disk).1 = .ok [] ↔ disk.EntriesResolve snapshot := by
  obtain ⟨files, hfiles, hmem⟩ := snapshotFiles_answers hd
  unfold brokenEntries Disk.EntriesResolve
  simp only [bind_answers_iff, pure_answers_iff, hfiles, Except.ok.injEq, exists_eq_left', List.map_eq_nil_iff]
  simp only [exists_eq_right, select_nil_iff, isBroken_false_iff, hmem]

/-- No blob is incomplete exactly when none is still being downloaded. -/
theorem incompleteDownloads_answers (disk : Disk) (repo : RawPath) :
    ∃ incomplete, (incompleteDownloads repo disk).1 = .ok incomplete ∧
      (incomplete = [] ↔ disk.NoDownload repo) := by
  unfold incompleteDownloads Disk.NoDownload
  simp only [bind_answers_iff, isDir_answers, Except.ok.injEq, exists_eq_left']
  cases hdir : disk.tree.isDir (repo.child "blobs") with
  | false =>
      refine ⟨[], rfl, fun _ d hd hkind => ?_, fun _ => rfl⟩
      have hpresent := Tree.isDir_iff.mpr ⟨d, hd, hkind⟩
      rw [hdir] at hpresent
      cases hpresent
  | true =>
      obtain ⟨d, hd, hkind⟩ := Tree.isDir_iff.mp hdir
      have hnames : (iterdir (repo.child "blobs") disk).1 =
          .ok ((disk.tree.children d).insertionSort (· ≤ ·)) :=
        bind_answers_iff.mpr ⟨.ok d, congrArg Except.ok hd, rfl⟩
      rw [if_pos rfl]
      refine ⟨_, bind_answers_iff.mpr ⟨_, hnames, rfl⟩, ?_⟩
      rw [List.filter_eq_nil_iff]
      simp only [List.mem_insertionSort, Tree.mem_children, Bool.not_eq_true]
      constructor
      · intro hnone d' hd' _ name hname
        obtain rfl : d = d' := Except.ok.inj (hd.symm.trans hd')
        exact hnone name hname
      · exact fun hnone name hname => hnone d hd hkind name hname

/-- A snapshot directory that is found leads somewhere. -/
theorem snapshotDirectory_located {revision : String}
    (h : (snapshotDirectory repo revision disk).1 = .ok (some snapshot)) :
    ∃ d, disk.tree.locate true snapshot = .ok d := by
  unfold snapshotDirectory at h
  split_ifs at h with hrevision
  · cases h
  · simp only [bind_answers_iff, isDir_answers, Except.ok.injEq, exists_eq_left'] at h
    split_ifs at h with hdir
    · cases h
      obtain ⟨d, hd, -⟩ := Tree.isDir_iff.mp hdir
      exact ⟨d, hd⟩
    · cases h

section

variable (disk : Disk) (F : FloatText) (snapshot : RawPath)

/-- The shards one index names and the snapshot lacks: none exactly when each is a file of it. -/
theorem missingShardsOf_answers (index : String) :
    ∃ missing, (missingShardsOf F snapshot index disk).1 = .ok missing ∧
      (missing = [] ↔ (disk.tree.isFile (snapshot.child index) = true → ∀ weightMap,
        Value.item (readJson F (disk.textAt (snapshot.child index))) "weight_map" = .dict weightMap →
          ∀ key shard, (key, shard) ∈ weightMap →
            disk.tree.isFile (snapshot.join (RawPath.parse shard.text)) = true)) := by
  unfold missingShardsOf
  simp only [bind_answers_iff, isFile_answers, Except.ok.injEq, exists_eq_left']
  cases hfile : disk.tree.isFile (snapshot.child index) with
  | false => exact ⟨[], rfl, by simp⟩
  | true =>
      rw [if_pos rfl]
      simp only [bind_answers_iff, readText_answers, Except.ok.injEq, exists_eq_left', true_implies]
      cases hmap : Value.item (readJson F (disk.textAt (snapshot.child index))) "weight_map" with
      | dict weightMap =>
          refine ⟨_, select_of_answers (P := fun shard =>
            !disk.tree.isFile (snapshot.join (RawPath.parse shard))) ?_, ?_⟩
          · intro shard
            exact bind_answers_iff.mpr ⟨_, isFile_answers, rfl⟩
          · rw [List.filter_eq_nil_iff]
            unfold shardNames
            simp only [List.mem_insertionSort, List.mem_dedup, List.mem_map, Bool.not_eq_true',
              Bool.not_eq_false]
            constructor
            · rintro hall _ ⟨⟩ key shard hmem
              exact hall shard.text ⟨(key, shard), hmem, rfl⟩
            · rintro hall _ ⟨⟨key, shard⟩, hmem, rfl⟩
              exact hall weightMap rfl key shard hmem
      | _ => exact ⟨[], rfl, fun _ weightMap heq => (nomatch heq), fun _ => rfl⟩

/-- The shards the indexes name and the snapshot lacks. -/
theorem missingShards_answers :
    ∃ missing, (missingShards F snapshot disk).1 = .ok missing ∧
      (missing = [] ↔ disk.ShardsPresent F snapshot) := by
  obtain ⟨first, hfirst, hfirst_iff⟩ :=
    missingShardsOf_answers disk F snapshot "model.safetensors.index.json"
  obtain ⟨second, hsecond, hsecond_iff⟩ :=
    missingShardsOf_answers disk F snapshot "pytorch_model.bin.index.json"
  have hboth : (Reading.collect (missingShardsOf F snapshot)
      ["model.safetensors.index.json", "pytorch_model.bin.index.json"] disk).1 = .ok [first, second] :=
    bind_answers_iff.mpr ⟨first, hfirst, bind_answers_iff.mpr
      ⟨[second], bind_answers_iff.mpr ⟨second, hsecond, rfl⟩, rfl⟩⟩
  refine ⟨[first, second].flatten, bind_answers_iff.mpr ⟨_, hboth, rfl⟩, ?_⟩
  unfold Disk.ShardsPresent weightIndexes
  rw [List.flatten_eq_nil_iff, List.forall_mem_cons, List.forall_mem_singleton, List.forall_mem_cons,
    List.forall_mem_singleton, hfirst_iff, hsecond_iff]

theorem tokenizerProfile_answers : ∃ tokenizer, (tokenizerProfile snapshot disk).1 = .ok tokenizer := by
  have heach : ∀ name ∈ tokenizerFiles, ∃ found, ((do
      if ← isFile (snapshot.child name) then return some name
      else return none : DiskReading (Option String)) disk).1 = .ok found := by
    intro name _
    simp only [bind_answers_iff, isFile_answers, Except.ok.injEq, exists_eq_left']
    split
    · exact ⟨some name, rfl⟩
    · exact ⟨none, rfl⟩
  obtain ⟨found, hfound⟩ := first_answers heach
  exact ⟨_, bind_answers_iff.mpr ⟨found, hfound, rfl⟩⟩

theorem downloadedAt_answers : ∃ instant, (downloadedAt snapshot disk).1 = .ok instant := by
  unfold downloadedAt
  simp only [bind_answers_iff]
  cases hl : disk.tree.locate true snapshot with
  | ok l => exact ⟨_, .ok l, congrArg Except.ok hl, rfl⟩
  | error e => exact ⟨_, .error e, congrArg Except.ok hl, rfl⟩

end

/-- The sizes of entries that lead to files can be summed. -/
theorem snapshotSizeBytes_answers (hd : disk.tree.locate true snapshot = .ok d)
    (hentries : disk.EntriesResolve snapshot) : ∃ size, (snapshotSizeBytes snapshot disk).1 = .ok size := by
  obtain ⟨files, hfiles, hmem⟩ := snapshotFiles_answers hd
  have heach : ∀ rel ∈ files, ∃ found, (resolvedSize (snapshot.under rel) disk).1 = .ok found := by
    intro rel hrel
    have hfile := hentries rel ((hmem rel).mp hrel)
    unfold Tree.isFile at hfile
    cases hl : disk.tree.locate true (snapshot.under rel) with
    | error e =>
        rw [hl] at hfile
        cases hfile
    | ok l => exact ⟨_, bind_answers_iff.mpr ⟨some l, resolve_some_iff.mpr hl, rfl⟩⟩
  obtain ⟨resolved, hresolved⟩ := collect_answers heach
  exact ⟨_, bind_answers_iff.mpr ⟨files, hfiles, bind_answers_iff.mpr ⟨resolved, hresolved, rfl⟩⟩⟩

end DiskReading

namespace HubCache

open DiskReading

variable (cache : HubCache) {disk : Disk} {snapshot : RawPath} {d : Location}

/-- **What a scan finds complete.** -/
theorem scanSnapshot_complete_iff (hd : disk.tree.locate true snapshot = .ok d) :
    (∃ scan, (cache.scanSnapshot snapshot disk).1 = .ok scan ∧ scan.weights ≠ [] ∧ scan.broken = [] ∧
        scan.missingShards = []) ↔
      disk.WeightsPresent snapshot ∧ disk.EntriesResolve snapshot ∧
        disk.ShardsPresent cache.floats snapshot := by
  obtain ⟨weights, hweights, hweights_iff⟩ := weightFiles_answers hd
  obtain ⟨missing, hmissing, hmissing_iff⟩ := missingShards_answers disk cache.floats snapshot
  obtain ⟨tokenizer, htokenizer⟩ := tokenizerProfile_answers disk snapshot
  obtain ⟨instant, hinstant⟩ := downloadedAt_answers disk snapshot
  unfold scanSnapshot
  simp only [bind_answers_iff, readText_answers, hweights, hmissing, htokenizer, hinstant, Except.ok.injEq,
    exists_eq_left', pure_answers_iff]
  constructor
  · rintro ⟨scan, ⟨broken, hbroken, size, hsize, rfl⟩, hsome, hnone, hall⟩
    obtain rfl : broken = [] := hnone
    exact ⟨hweights_iff.mp hsome, (brokenEntries_nil_iff hd).mp hbroken, hmissing_iff.mp hall⟩
  · rintro ⟨hsome, hentries, hall⟩
    obtain ⟨size, hsize⟩ := snapshotSizeBytes_answers hd hentries
    exact ⟨_, ⟨[], (brokenEntries_nil_iff hd).mpr hentries, size, hsize, rfl⟩, hweights_iff.mpr hsome, rfl,
      hmissing_iff.mpr hall⟩

/-! ## The integrity check -/

/-- What the record of a model shows to be wrong. -/
def integrityProblems (record : CachedModelRecord) : Dict Value :=
  (["broken_entries", "missing_shards", "incomplete_blobs"].filterMap fun key =>
    match Value.item record.metadata key with
    | .list (first :: rest) => some (key, .list (first :: rest))
    | _ => none) ++
    if (Dict.get? record.compatibilityFlags "weights_present").getD false then []
    else [("weights_present", .bool false)]

/-- The integrity of a model whose record is known. -/
def integrityOf (modelName : String) : Option CachedModelRecord → CacheCommandResult
  | none =>
      { command := "check_integrity", modelName, status := .notCached, success := false
        reasonCode := some .modelNotCached }
  | some record =>
      let problems := integrityProblems record
      let success := record.cacheStatus = .cachedOnDisk && problems.isEmpty
      { command := "check_integrity", modelName
        status := if success then record.cacheStatus else .failed
        success
        reasonCode := if success then none else some (.other "MODEL_CACHE_CORRUPTED")
        record := some record
        metadata := [("problems", .dict problems), ("model_path", .str record.modelPath)] }

/-- Source: `model_cache.py`, `DiskModelCache.check_integrity`. -/
def checkIntegrity (store : CacheStore) (modelName : String) : Except PyException CacheCommandResult :=
  (cache.record store modelName).map (integrityOf modelName)

/-- The snapshot found is complete. -/
def HubScan.Complete (found : HubScan) : Prop :=
  ∃ snapshot scan, found.snapshot = some (snapshot, scan) ∧ scan.weights ≠ [] ∧ scan.broken = [] ∧
    scan.missingShards = [] ∧ found.incomplete = []

/-- The record of what is found is one of a model cached on disk exactly when it is complete. -/
theorem recordOf_cached_iff {modelName : String} {found : HubScan} {stored : Dict Value}
    {marker : Option String} :
    (cache.recordOf modelName found stored marker).cacheStatus = .cachedOnDisk ↔ found.Complete := by
  obtain ⟨repo, revision, incomplete, snapshot⟩ := found
  cases snapshot with
  | none =>
      constructor
      · intro h
        simp only [recordOf, bareRecord] at h
        split_ifs at h
      · rintro ⟨_, _, heq, -⟩
        cases heq
  | some pair =>
      obtain ⟨snapshot, scan⟩ := pair
      have hstatus : (cache.recordOf modelName ⟨repo, revision, incomplete, some (snapshot, scan)⟩ stored
          marker).cacheStatus = snapshotStatus scan incomplete := rfl
      rw [hstatus]
      unfold snapshotStatus HubScan.Complete
      constructor
      · intro h
        split_ifs at h with hincomplete hcomplete
        simp only [Bool.and_eq_true, Bool.not_eq_true', List.isEmpty_iff, List.isEmpty_eq_false_iff] at hcomplete
        obtain ⟨⟨hweights, hbroken⟩, hmissing⟩ := hcomplete
        exact ⟨snapshot, scan, rfl, hweights, hbroken, hmissing, by simpa using hincomplete⟩
      · rintro ⟨_, _, heq, hweights, hbroken, hmissing, hincomplete⟩
        cases heq
        obtain rfl : incomplete = [] := hincomplete
        simp [List.isEmpty_eq_false_iff.mpr hweights, hbroken, hmissing]

/-- The record of what is found complete shows nothing to be wrong. -/
theorem integrityProblems_of_complete {modelName : String} {found : HubScan} {stored : Dict Value}
    {marker : Option String} (h : found.Complete) :
    integrityProblems (cache.recordOf modelName found stored marker) = [] := by
  obtain ⟨repo, revision, incomplete, _⟩ := found
  obtain ⟨snapshot, scan, rfl, hweights, hbroken, hmissing, hincomplete⟩ := h
  obtain rfl : incomplete = [] := hincomplete
  obtain ⟨config, weights, broken, missing, tokenizer, size, instant⟩ := scan
  obtain rfl : broken = [] := hbroken
  obtain rfl : missing = [] := hmissing
  cases weights with
  | nil => exact absurd rfl hweights
  | cons weight weights => rfl

/-- **The check reads back what the scan found**: it succeeds exactly when the record is one of a model cached
on disk. -/
theorem integrityOf_success_iff {modelName : String} {found : HubScan} {stored : Dict Value}
    {marker : Option String} :
    (integrityOf modelName (some (cache.recordOf modelName found stored marker))).success = true ↔
      found.Complete := by
  unfold integrityOf
  dsimp only
  rw [Bool.and_eq_true, decide_eq_true_eq, cache.recordOf_cached_iff]
  refine and_iff_left_of_imp fun hcomplete => ?_
  rw [cache.integrityProblems_of_complete hcomplete]
  rfl

variable {store : CacheStore} {modelName : String} {repo : RawPath}

/-- The repository directory is the one in the hub. -/
theorem repoDirectory_iff :
    (cache.repoDirectory modelName disk).1 = .ok repo ↔
      ∃ hub, (hubCacheRoot cache.cacheRoot disk).1 = .ok hub ∧ hub.child (repoDirectoryName modelName) = repo := by
  unfold repoDirectory
  simp only [bind_answers_iff, pure_answers_iff]

/-- **A scan finds a model complete exactly when the snapshot it resolves to is.** -/
theorem scanHub_complete_iff (hrepo : (cache.repoDirectory modelName disk).1 = .ok repo)
    (hdir : disk.tree.isDir repo = true) :
    (∃ found, (cache.scanHub modelName disk).1 = .ok (some found) ∧ found.Complete) ↔
      ∃ snapshot, disk.Resolved snapshot repo ∧ disk.Complete cache.floats snapshot repo := by
  obtain ⟨incomplete, hincomplete, hincomplete_iff⟩ := incompleteDownloads_answers disk repo
  unfold scanHub
  simp only [bind_answers_iff, hrepo, isDir_answers, hdir, hincomplete, Except.ok.injEq, exists_eq_left', if_true]
  constructor
  · rintro ⟨found, ⟨revision, hrevision, found_snapshot, hsnapshot, hfound⟩, hcomplete⟩
    cases found_snapshot with
    | none =>
        cases hfound
        obtain ⟨_, _, heq, -⟩ := hcomplete
        cases heq
    | some snapshot =>
        obtain ⟨scan, hscan, hfound⟩ := bind_answers hfound
        cases hfound
        obtain ⟨_, _, heq, hweights, hbroken, hmissing, hnone⟩ := hcomplete
        cases heq
        obtain ⟨d, hd⟩ := snapshotDirectory_located hsnapshot
        obtain ⟨hsome, hentries, hall⟩ :=
          (cache.scanSnapshot_complete_iff hd).mp ⟨scan, hscan, hweights, hbroken, hmissing⟩
        exact ⟨snapshot, ⟨revision, hrevision, hsnapshot⟩, hsome, hall, hentries, hincomplete_iff.mp hnone⟩
  · rintro ⟨snapshot, ⟨revision, hrevision, hsnapshot⟩, hcomplete⟩
    obtain ⟨d, hd⟩ := snapshotDirectory_located hsnapshot
    obtain ⟨scan, hscan, hweights, hbroken, hmissing⟩ := (cache.scanSnapshot_complete_iff hd).mpr
      ⟨hcomplete.weights, hcomplete.entries, hcomplete.shards⟩
    exact ⟨⟨repo, revision, incomplete, some (snapshot, scan)⟩,
      ⟨revision, hrevision, some snapshot, hsnapshot, bind_answers_iff.mpr ⟨scan, hscan, rfl⟩⟩,
      snapshot, scan, rfl, hweights, hbroken, hmissing, hincomplete_iff.mpr hcomplete.downloaded⟩

/-- A scan of a repository that is there finds something, or raises. -/
theorem scanHub_ne_none (hrepo : (cache.repoDirectory modelName disk).1 = .ok repo)
    (hdir : disk.tree.isDir repo = true) : (cache.scanHub modelName disk).1 ≠ .ok none := by
  unfold scanHub
  rw [Ne]
  simp only [bind_answers_iff, hrepo, isDir_answers, hdir, Except.ok.injEq, exists_eq_left', if_true]
  rintro ⟨revision, -, incomplete, -, snapshot, -, hnone⟩
  cases snapshot with
  | none => cases hnone
  | some snapshot =>
      obtain ⟨scan, -, hnone⟩ := bind_answers hnone
      cases hnone

/-- The record of a repository that is there is that of what the scan finds. -/
theorem scanRecord_iff (hrepo : (cache.repoDirectory modelName disk).1 = .ok repo)
    (hdir : disk.tree.isDir repo = true) :
    ∃ stored marker, ∀ record, (cache.scanRecord modelName disk).1 = .ok record ↔
      ∃ found, (cache.scanHub modelName disk).1 = .ok (some found) ∧
        some (cache.recordOf modelName found stored marker) = record := by
  obtain ⟨stored, hstored⟩ : ∃ stored, (cache.storedMetadata modelName disk).1 = .ok stored :=
    ⟨_, bind_answers_iff.mpr ⟨_, readText_answers, rfl⟩⟩
  obtain ⟨marker, hmarker⟩ : ∃ marker, (cache.markerPath modelName disk).1 = .ok marker := by
    unfold markerPath
    simp only [bind_answers_iff, isFile_answers, Except.ok.injEq, exists_eq_left']
    split
    · exact ⟨_, rfl⟩
    · exact ⟨_, rfl⟩
  refine ⟨stored, marker, fun record => ?_⟩
  unfold scanRecord
  rw [bind_answers_iff]
  constructor
  · rintro ⟨found, hfound, hrecord⟩
    cases found with
    | none => exact absurd hfound (cache.scanHub_ne_none hrepo hdir)
    | some found =>
        simp only [bind_answers_iff, hstored, hmarker, Except.ok.injEq, exists_eq_left',
          pure_answers_iff] at hrecord
        exact ⟨found, hfound, hrecord⟩
  · rintro ⟨found, hfound, hrecord⟩
    refine ⟨some found, hfound, ?_⟩
    simp only [bind_answers_iff, hstored, hmarker, Except.ok.injEq, exists_eq_left', pure_answers_iff]
    exact hrecord

/-- A command that is right of the records of complete scans, and of no other, is right exactly where a
resolved snapshot is complete. -/
theorem record_complete_iff {store : CacheStore} (hrepo : (cache.repoDirectory modelName store.disk).1 = .ok repo)
    (hdir : store.disk.tree.isDir repo = true) {P : Option CachedModelRecord → Prop}
    (hP : ∀ found stored marker, P (some (cache.recordOf modelName found stored marker)) ↔ found.Complete) :
    (∃ record, cache.record store modelName = .ok record ∧ P record) ↔
      ∃ snapshot, store.disk.Resolved snapshot repo ∧
        store.disk.Complete cache.floats snapshot repo := by
  obtain ⟨stored, marker, hscan⟩ := cache.scanRecord_iff hrepo hdir
  rw [← cache.scanHub_complete_iff hrepo hdir]
  unfold record
  constructor
  · rintro ⟨found_record, hrecord, hright⟩
    cases hresult : (cache.scanRecord modelName store.disk).1 with
    | error exc =>
        rw [hresult] at hrecord
        cases hrecord
    | ok scanned =>
        obtain ⟨found, hfound, rfl⟩ := (hscan scanned).mp hresult
        rw [hresult] at hrecord
        cases hrecord
        exact ⟨found, hfound, (hP found stored marker).mp hright⟩
  · rintro ⟨found, hfound, hcomplete⟩
    rw [(hscan _).mpr ⟨found, hfound, rfl⟩]
    exact ⟨_, rfl, (hP found stored marker).mpr hcomplete⟩

/-- The check of a model succeeds. -/
def Verified (store : CacheStore) (modelName : String) : Prop :=
  ∃ result, cache.checkIntegrity store modelName = .ok result ∧ result.success = true

/-- The status of a model is that it is cached on disk. -/
def ReportedCached (store : CacheStore) (modelName : String) : Prop :=
  ∃ result, cache.status store modelName = .ok result ∧ result.status = .cachedOnDisk

variable {store : CacheStore}

/-- **A model is verified exactly when the snapshot it resolves to is complete.** -/
theorem verified_iff (hrepo : (cache.repoDirectory modelName store.disk).1 = .ok repo)
    (hdir : store.disk.tree.isDir repo = true) :
    cache.Verified store modelName ↔
      ∃ snapshot, store.disk.Resolved snapshot repo ∧ store.disk.Complete cache.floats snapshot repo := by
  rw [← cache.record_complete_iff hrepo hdir (P := fun record => (integrityOf modelName record).success = true)
    fun _ _ _ => cache.integrityOf_success_iff]
  unfold Verified checkIntegrity
  simp only [map_eq_ok]
  constructor
  · rintro ⟨_, ⟨record, hrecord, rfl⟩, hsuccess⟩
    exact ⟨record, hrecord, hsuccess⟩
  · rintro ⟨record, hrecord, hsuccess⟩
    exact ⟨_, ⟨record, hrecord, rfl⟩, hsuccess⟩

/-- **And exactly then it is reported cached.** -/
theorem reportedCached_iff (hrepo : (cache.repoDirectory modelName store.disk).1 = .ok repo)
    (hdir : store.disk.tree.isDir repo = true) :
    cache.ReportedCached store modelName ↔
      ∃ snapshot, store.disk.Resolved snapshot repo ∧ store.disk.Complete cache.floats snapshot repo := by
  obtain ⟨hub, hhub, -⟩ := cache.repoDirectory_iff.mp hrepo
  rw [← cache.record_complete_iff hrepo hdir
    (P := fun record => ((cache.answering store hub).statusOf modelName record).status = .cachedOnDisk)
    fun _ _ _ => cache.recordOf_cached_iff]
  unfold ReportedCached
  simp only [cache.status_eq hhub, map_eq_ok]
  constructor
  · rintro ⟨_, ⟨record, hrecord, rfl⟩, hcached⟩
    exact ⟨record, hrecord, hcached⟩
  · rintro ⟨record, hrecord, hcached⟩
    exact ⟨_, ⟨record, hrecord, rfl⟩, hcached⟩

end HubCache

/-! ## What is documented of the check -/

/-- A repository with one snapshot, and in it one weight file. -/
def bareRepository : Disk where
  tree :=
    { entries := [(["c"], .dir), (["c", "models--m"], .dir), (["c", "models--m", "snapshots"], .dir),
        (["c", "models--m", "snapshots", "r"], .dir),
        (["c", "models--m", "snapshots", "r", "model.safetensors"], .file)]
      cwd := []
      distinct := by decide
      rooted := by simp [kindIn]
      named := by simp [IsName] }
  data := fun _ => {}

/-- The cache it is in. -/
def bareCache : HubCache where
  cacheRoot := "/c"
  floats := wholeFloats

end Lmrs
