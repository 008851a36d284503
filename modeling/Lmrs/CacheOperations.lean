import Lmrs.DiskCache

/-!
# The commands of the disk model cache

Source: `lmrs/model_cache.py`, `DiskModelCache`.

A command is a function of what the cache answers from, the disk and the records its caller supplied: it
gives its result or exception and the store it leaves. `CacheHost` is what a command meets: the clock, how
its write goes, and the download of a model, which is not part of the repository.

* `HubCache.run`: a sequence of commands.
* `Disk.writeJson_text`, `HubCache.updateMetadata_refines`: on the file it opens, a write is the write of
  `StoredJson`, and an update is the update there.
-/

namespace Lmrs

open Python Json Posix Footprint DiskReading

/-- The download of a model into a hub directory: the path it reports or its exception, and the disk. -/
abbrev Download := String → RawPath → Disk → Except PyException String × Disk

/-- What a command meets. Without `huggingface_hub` there is no download. -/
structure CacheHost where
  now : Int
  writes : WriteOutcome := .done
  download : Option Download := none

/-- What the cache answers from: the disk, and the records supplied by the caller. -/
structure CacheStore where
  disk : Disk
  records : List CachedModelRecord := []

/-! ## Writing and removing -/

namespace Disk

/-- Writing a mapping to a path, in a directory that is created first: the text of the `OSError` met, and
the disk. An exception of the serialisation is raised before the file is opened. -/
def writeJson (F : FloatText) (host : CacheHost) (disk : Disk) (p : RawPath) (facts : Dict Value) :
    Except PyException (Option String) × Disk :=
  match host.writes with
  | .noDirectory message => (.ok (some message), disk)
  | outcome =>
      match disk.tree.makeDirs p.parent.absolute p.parent.parts.reverse with
      | .error error => (.ok (some (refusalError (.os error)).message), disk)
      | .ok made =>
          let parents := disk.retree made host.now
          match dumps F (.dict facts), made.openTarget 40 p, outcome with
          | .error exc, _, _ => (.error exc, parents)
          | .ok _, .error error, _ => (.ok (some (refusalError (.os error)).message), parents)
          | .ok _, .ok _, .notOpened message => (.ok (some message), parents)
          | .ok text, .ok (opened, l), .stopped message written =>
              (.ok (some message),
                (parents.retree opened host.now).setText l (some (text.take written)) host.now)
          | .ok text, .ok (opened, l), _ =>
              (.ok none, (parents.retree opened host.now).setText l (some text) host.now)

/-- Another tree leaves the texts. -/
@[simp] theorem retree_text (disk : Disk) (tree : Tree) (now : Int) (l : Location) :
    ((disk.retree tree now).data l).text = (disk.data l).text := by
  unfold Disk.retree
  dsimp only
  split <;> rfl

/-- The text set is there. -/
@[simp] theorem setText_text (disk : Disk) (l : Location) (text : StoredText) (now : Int) :
    ((disk.setText l text now).data l).text = text := by
  unfold Disk.setText
  simp

/-- **A write does to the text of the file it opens what a write over that text does**, and reports the
same. -/
theorem writeJson_text {F : FloatText} {host : CacheHost} {disk : Disk} {p : RawPath} {facts : Dict Value}
    {made opened : Tree} {l : Location}
    (hmade : disk.tree.makeDirs p.parent.absolute p.parent.parts.reverse = .ok made)
    (hopened : made.openTarget 40 p = .ok (opened, l)) :
    (disk.writeJson F host p facts).1 =
        (Lmrs.writeJson F host.writes (disk.data l).text facts).map Prod.fst ∧
      ∀ error file, Lmrs.writeJson F host.writes (disk.data l).text facts = .ok (error, file) →
        ((disk.writeJson F host p facts).2.data l).text = file := by
  unfold Disk.writeJson Lmrs.writeJson
  rw [hmade]
  cases host.writes with
  | noDirectory message =>
      refine ⟨rfl, fun error file h => ?_⟩
      cases h
      rfl
  | notOpened message =>
      dsimp only
      rw [hopened]
      cases dumps F (.dict facts) with
      | error exc => exact ⟨rfl, nofun⟩
      | ok text =>
          refine ⟨rfl, fun error file h => ?_⟩
          cases h
          exact retree_text ..
  | stopped message written =>
      dsimp only
      rw [hopened]
      cases dumps F (.dict facts) with
      | error exc => exact ⟨rfl, nofun⟩
      | ok text =>
          refine ⟨rfl, fun error file h => ?_⟩
          cases h
          exact setText_text ..
  | done =>
      dsimp only
      rw [hopened]
      cases dumps F (.dict facts) with
      | error exc => exact ⟨rfl, nofun⟩
      | ok text =>
          refine ⟨rfl, fun error file h => ?_⟩
          cases h
          exact setText_text ..

/-- The removal of directories, those there are, one after another. -/
structure Removed where
  disk : Disk
  paths : List String
  refusal : Option Tree.Refusal

/-- `if p.is_dir(): shutil.rmtree(p)`, over some paths. -/
def removeDirs (now : Int) (disk : Disk) : List RawPath → Removed
  | [] => ⟨disk, [], none⟩
  | p :: rest =>
      if disk.tree.isDir p then
        let out := disk.tree.rmtree p
        let left := disk.retree out.tree now
        match out.refusal with
        | some refusal => ⟨left, [], some refusal⟩
        | none =>
            let others := removeDirs now left rest
            ⟨others.disk, p.text :: others.paths, others.refusal⟩
      else removeDirs now disk rest

end Disk

/-! ## Commands -/

namespace HubCache

/-- Source: `model_cache.py`, `DiskModelCache._seeded_record`. -/
def seededRecord (records : List CachedModelRecord) (modelName : String) : Option CachedModelRecord :=
  records.find? fun item => item.modelName = modelName

/-- Source: `model_cache.py`, `DiskModelCache._record`. -/
def record (cache : HubCache) (store : CacheStore) (modelName : String) :
    Except PyException (Option CachedModelRecord) :=
  (cache.scanRecord modelName store.disk).1.map fun found =>
    found.or (seededRecord store.records modelName)

/-- The cache over a store. -/
def answering (cache : HubCache) (store : CacheStore) (hub : RawPath) : DiskModelCache where
  cacheRoot := cache.cacheRoot
  hubCacheRoot := hub.text
  record := cache.record store

/-- Source: `model_cache.py`, `DiskModelCache.status`. -/
def status (cache : HubCache) (store : CacheStore) (modelName : String) :
    Except PyException CacheCommandResult := do
  let hub ← (hubCacheRoot cache.cacheRoot store.disk).1
  (cache.answering store hub).status modelName

/-- Source: `model_cache.py`, `DiskModelCache._write_readiness_marker`. -/
def writeReadinessMarker (cache : HubCache) (host : CacheHost) (disk : Disk)
    (record : CachedModelRecord) : Except PyException String × Disk :=
  let marker := cache.readinessMarker record.modelName
  let payload : Dict Value :=
    [("model_name", .str record.modelName), ("revision", .str record.checksumOrRevision),
     ("model_path", .str record.modelPath), ("size_bytes", .int record.sizeBytes),
     ("runtime_backend", .str record.runtimeBackend),
     ("written_at", .str (Datetime.isoformat host.now))]
  let (error, left) := disk.writeJson cache.floats host marker payload
  (error.map fun error => if error.isSome then "" else marker.text, left)

/-- The result of a preload, once the marker is written. -/
def preloaded (cache : HubCache) (host : CacheHost) (store : CacheStore) (modelName : String)
    (record : CachedModelRecord) (how : String × Value) :
    Except PyException CacheCommandResult × CacheStore :=
  let (marker, disk) := cache.writeReadinessMarker host store.disk record
  (marker.map fun path =>
    { command := "preload", modelName, status := record.cacheStatus, success := true
      record := some record
      metadata := [("cache_root", .str cache.cacheRoot), how, ("readiness_marker_path", .str path)] },
   { store with disk })

/-- The hub directory is made, and the model downloaded into it. -/
def fetch (host : CacheHost) (download : Download) (modelName : String) (hub : RawPath) (disk : Disk) :
    Except PyException String × Disk :=
  match disk.tree.makeDirs hub.absolute hub.parts.reverse with
  | .error error => (.error (refusalError (.os error)), disk)
  | .ok made => download modelName hub (disk.retree made host.now)

/-- What a preload reports after its download. -/
def afterDownload (cache : HubCache) (host : CacheHost) (store : CacheStore) (modelName : String)
    (downloaded : String) : Except PyException CacheCommandResult × CacheStore :=
  match (cache.scanRecord modelName store.disk).1 with
  | .error exc => (.error exc, store)
  | .ok found =>
      match found.filter fun record => record.cacheStatus = .cachedOnDisk with
      | some record =>
          cache.preloaded host store modelName record ("downloaded_path", .str downloaded)
      | none =>
          (.ok
            { command := "preload", modelName, success := false
              status := (found.map CachedModelRecord.cacheStatus).getD .notCached
              reasonCode := some .modelCachePreloadFailed, record := found
              metadata :=
                [("cache_root", .str cache.cacheRoot), ("downloaded_path", .str downloaded)] },
           store)

/-- A model that is not complete on disk. -/
def preloadMissing (cache : HubCache) (host : CacheHost) (store : CacheStore) (modelName : String) :
    Except PyException CacheCommandResult × CacheStore :=
  match host.download, (hubCacheRoot cache.cacheRoot store.disk).1 with
  | none, _ =>
      (.ok
        { command := "preload", modelName, status := .notCached, success := false
          reasonCode := some .hfHubUnavailable
          metadata := [("cache_root", .str cache.cacheRoot),
                       ("error", .str "No module named 'huggingface_hub'")] },
       store)
  | some _, .error exc => (.error exc, store)
  | some download, .ok hub =>
      let (downloaded, disk) := fetch host download modelName hub store.disk
      match downloaded with
      | .ok path => cache.afterDownload host { store with disk } modelName path
      | .error exc =>
          (.ok
            { command := "preload", modelName, status := .failed, success := false
              reasonCode := some .modelCachePreloadFailed
              metadata := [("cache_root", .str cache.cacheRoot), ("hub_cache_root", .str hub.text),
                           ("error", .str exc.message), ("exception_type", .str exc.kind)] },
           { store with disk })

/-- Source: `model_cache.py`, `DiskModelCache.preload`. -/
def preload (cache : HubCache) (host : CacheHost) (store : CacheStore) (modelName : String) :
    Except PyException CacheCommandResult × CacheStore :=
  match cache.record store modelName with
  | .error exc => (.error exc, store)
  | .ok existing =>
      match existing.filter fun record => record.cacheStatus = .cachedOnDisk with
      | some record => cache.preloaded host store modelName record ("already_cached", .bool true)
      | none => cache.preloadMissing host store modelName

/-- The removal of what a model has on disk. -/
def removal (cache : HubCache) (host : CacheHost) (store : CacheStore) (modelName : String)
    (hub : RawPath) : Disk.Removed :=
  store.disk.removeDirs host.now
    [hub.child (repoDirectoryName modelName), cache.stateDirectory modelName]

/-- Source: `model_cache.py`, `DiskModelCache.delete`. -/
def delete (cache : HubCache) (host : CacheHost) (store : CacheStore) (modelName : String) :
    Except PyException CacheCommandResult × CacheStore :=
  match cache.record store modelName, (hubCacheRoot cache.cacheRoot store.disk).1 with
  | .error exc, _ => (.error exc, store)
  | .ok none, _ =>
      (.ok { command := "delete", modelName, status := .notCached, success := false
             reasonCode := some .modelNotCached }, store)
  | .ok (some _), .error exc => (.error exc, store)
  | .ok (some record), .ok hub =>
      let removal := cache.removal host store modelName hub
      match removal.refusal with
      | some refusal =>
          (.ok
            { command := "delete", modelName, status := record.cacheStatus, success := false
              reasonCode := some .modelCacheDeleteFailed, record := some record
              metadata := [("error", .str (refusalError refusal).message),
                           ("removed_paths", namesValue removal.paths)] },
           { store with disk := removal.disk })
      | none =>
          (.ok
            { command := "delete", modelName, status := .notCached, success := true
              record := some record
              metadata := [("removed_paths", namesValue removal.paths),
                           ("freed_bytes", .int record.sizeBytes)] },
           { disk := removal.disk
             records := store.records.filter fun item => item.modelName ≠ modelName })

/-- The update of the metadata of a model whose record is found. -/
def updateStored (cache : HubCache) (host : CacheHost) (store : CacheStore) (modelName : String)
    (metadata : Dict Value) (record : CachedModelRecord) :
    Except PyException CacheCommandResult × CacheStore :=
  let stored := match (cache.storedMetadata modelName store.disk).1 with
    | .ok stored => stored
    | .error _ => []
  let merged := Dict.update stored metadata
  let path : Value := .str (cache.metadataFile modelName).text
  let (error, disk) := store.disk.writeJson cache.floats host (cache.metadataFile modelName) merged
  (error.map fun error =>
    match error with
    | some message =>
        { command := "update_metadata", modelName, status := record.cacheStatus, success := false
          reasonCode := some .modelCacheMetadataWriteFailed, record := some record
          metadata := [("error", .str message), ("metadata_path", path)] }
    | none =>
        { command := "update_metadata", modelName, status := record.cacheStatus, success := true
          record := some record, metadata := [("metadata", .dict merged), ("metadata_path", path)] },
   { store with disk })

/-- Source: `model_cache.py`, `DiskModelCache.update_metadata`. -/
def updateMetadata (cache : HubCache) (host : CacheHost) (store : CacheStore) (modelName : String)
    (metadata : Dict Value) : Except PyException CacheCommandResult × CacheStore :=
  match cache.record store modelName with
  | .error exc => (.error exc, store)
  | .ok none =>
      (.ok { command := "update_metadata", modelName, status := .notCached, success := false
             reasonCode := some .modelNotCached }, store)
  | .ok (some record) => cache.updateStored host store modelName metadata record

end HubCache

/-! ## Runs -/

/-- A command that changes the cache. -/
inductive CacheCommand where
  | preload
  | updateMetadata (metadata : Dict Value)
  | delete

/-- A command on a model, and what it meets. -/
structure CacheCall where
  host : CacheHost
  modelName : String
  command : CacheCommand

namespace HubCache

/-- What a command gives, and the store it leaves. -/
def call (cache : HubCache) (store : CacheStore) (c : CacheCall) :
    Except PyException CacheCommandResult × CacheStore :=
  match c.command with
  | .preload => cache.preload c.host store c.modelName
  | .updateMetadata metadata => cache.updateMetadata c.host store c.modelName metadata
  | .delete => cache.delete c.host store c.modelName

/-- A sequence of commands. -/
def run (cache : HubCache) (store : CacheStore) (calls : List CacheCall) : CacheStore :=
  calls.foldl (fun store c => (cache.call store c).2) store

/-- A status is told from the record alone, once the hub is known. -/
theorem status_eq (cache : HubCache) {store : CacheStore} {modelName : String} {hub : RawPath}
    (hhub : (hubCacheRoot cache.cacheRoot store.disk).1 = .ok hub) :
    cache.status store modelName =
      (cache.record store modelName).map ((cache.answering store hub).statusOf modelName) := by
  unfold status
  rw [hhub]
  rfl

/-- An update of metadata writes its file. -/
theorem updateStored_disk (cache : HubCache) (host : CacheHost) (store : CacheStore) (modelName : String)
    (metadata : Dict Value) (record : CachedModelRecord) :
    ∃ facts, (cache.updateStored host store modelName metadata record).2.disk =
      (store.disk.writeJson cache.floats host (cache.metadataFile modelName) facts).2 :=
  ⟨_, rfl⟩

/-- The path of the metadata of a model, written out. -/
theorem metadataFile_text (cache : HubCache) (store : CacheStore) (hub : RawPath) (modelName : String) :
    (cache.answering store hub).metadataPath modelName = (cache.metadataFile modelName).text := by
  unfold DiskModelCache.metadataPath
  rw [RawPath.join_parse_name _ (by decide), RawPath.join_parse_name _ (isName_repoDirectoryName _),
    RawPath.join_parse_name _ (by decide)]
  rfl

/-- **Over the text of the file it opens, an update is the update of `StoredJson`.** -/
theorem updateMetadata_refines (cache : HubCache) (host : CacheHost) (store : CacheStore) (hub : RawPath)
    (modelName : String) (metadata : Dict Value) {made opened : Tree} {l : Location}
    (hmade : store.disk.tree.makeDirs (cache.metadataFile modelName).parent.absolute
      (cache.metadataFile modelName).parent.parts.reverse = .ok made)
    (hopened : made.openTarget 40 (cache.metadataFile modelName) = .ok (opened, l))
    (hread : (cache.storedMetadata modelName store.disk).1 =
      .ok (readJson cache.floats (store.disk.data l).text)) :
    (cache.updateMetadata host store modelName metadata).1 =
      ((cache.answering store hub).updateMetadata cache.floats host.writes (store.disk.data l).text
        modelName metadata).map Prod.fst := by
  unfold updateMetadata DiskModelCache.updateMetadata
  rw [metadataFile_text]
  show _ = Except.map Prod.fst (Except.bind (cache.record store modelName) _)
  cases cache.record store modelName with
  | error exc => rfl
  | ok found =>
      cases found with
      | none => rfl
      | some record =>
          unfold updateStored
          rw [hread]
          dsimp only [Except.bind]
          rw [(Disk.writeJson_text hmade hopened).1]
          cases writeJson cache.floats host.writes (store.disk.data l).text
            (Dict.update (readJson cache.floats (store.disk.data l).text) metadata) with
          | error exc => rfl
          | ok out =>
              obtain ⟨error, file⟩ := out
              cases error <;> rfl

end HubCache

end Lmrs
