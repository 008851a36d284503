import Lmrs.Lib.Datetime
import Lmrs.Lib.Footprint
import Lmrs.Lib.Posix.Create
import Lmrs.Lib.Posix.Visits
import Lmrs.Lmcache
import Lmrs.StoredJson

/-!
# The disk model cache over a filesystem

Source: `lmrs/model_cache.py`.

A `Disk` is a tree with what its files hold. What a scan finds is a `DiskReading`: it says where it looked.
The operations give their result or exception and the disk they leave; the download of a model is a
parameter, and a write may fail the way the filesystem says.

* `Look.Same`: when two disks are the same where a scan looks.
* `HubCache.scanHub`, `HubCache.recordOf`: what is found in the hub, and the record of it.
-/

namespace Lmrs

open Python Json Posix Footprint

/-! ## Directory names -/

/-- A slash becomes two dashes. -/
theorem slash_not_mem (cs : List Char) :
    '/' ∉ (cs.map fun c => if c = '/' then ['-', '-'] else [c]).flatten := by
  intro hmem
  obtain ⟨piece, hpiece, hslash⟩ := List.mem_flatten.mp hmem
  obtain ⟨c, -, rfl⟩ := List.mem_map.mp hpiece
  by_cases hc : c = '/'
  · rw [if_pos hc] at hslash
    revert hslash
    decide
  · rw [if_neg hc] at hslash
    exact hc (List.mem_singleton.mp hslash).symm

/-- The characters of a directory name. -/
theorem toList_repoDirectoryName (modelName : String) : ∃ name : List Char,
    (repoDirectoryName modelName).toList = ['m', 'o', 'd', 'e', 'l', 's', '-', '-'] ++ name ∧
      '/' ∉ name := by
  obtain ⟨cs, hcs⟩ : ∃ cs : List Char, repoDirectoryName modelName =
      "models--" ++ String.ofList (cs.map fun c => if c = '/' then ['-', '-'] else [c]).flatten :=
    ⟨_, rfl⟩
  refine ⟨_, ?_, slash_not_mem cs⟩
  rw [hcs, String.toList_append, String.toList_ofList, String.toList_ofList]

/-- A directory name starts with an `m`. -/
theorem repoDirectoryName_ne (modelName : String) {s : String} (hs : s.toList.head? ≠ some 'm') :
    repoDirectoryName modelName ≠ s := by
  obtain ⟨name, hname, -⟩ := toList_repoDirectoryName modelName
  rintro rfl
  rw [hname] at hs
  exact hs rfl

/-- The directory name of a model is the name of an entry. -/
theorem isName_repoDirectoryName (modelName : String) : IsName (repoDirectoryName modelName) := by
  refine ⟨repoDirectoryName_ne _ (by decide), repoDirectoryName_ne _ (by decide),
    repoDirectoryName_ne _ (by decide), ?_⟩
  obtain ⟨name, hname, hslash⟩ := toList_repoDirectoryName modelName
  rw [hname]
  simp [hslash]

/-! ## Disks -/

/-- What the filesystem keeps of a place beside its kind: the text `read_text` gives (none where the bytes
are no UTF-8), the size, and the instant of the last change. -/
structure FileData where
  text : StoredText := none
  size : Nat := 0
  modified : Int := 0

/-- A filesystem. -/
structure Disk where
  tree : Tree
  data : Location → FileData

namespace Disk

/-- Another tree, as an operation leaves it: a place that appears or goes, and the directory it is in, get
the time. -/
def retree (disk : Disk) (tree : Tree) (now : Int) : Disk :=
  let changed := ((disk.tree.entries ++ tree.entries).map Prod.fst).filter fun l =>
    tree.kind l ≠ disk.tree.kind l
  { tree
    data := fun l =>
      if l ∈ changed ∨ l ∈ changed.map List.dropLast then { disk.data l with modified := now }
      else disk.data l }

/-- A text over what a file held. -/
def setText (disk : Disk) (l : Location) (text : StoredText) (now : Int) : Disk where
  tree := disk.tree
  data := fun m =>
    if m = l then
      { text, size := ((text.map String.ofList).getD "").utf8ByteSize, modified := now }
    else disk.data m

/-- The text of the file at a path. -/
def textAt (disk : Disk) (p : RawPath) : StoredText :=
  match disk.tree.locate true p with
  | .ok l => if disk.tree.kind l = some .file then (disk.data l).text else none
  | .error _ => none

end Disk

/-! ## Looking at a disk -/

/-- What a scan looks at: the working directory, what is at a place, what a place holds, the names in a
directory, or everything below it. -/
inductive Look where
  | cwd
  | kind (l : Location)
  | data (l : Location)
  | names (d : Location)
  | below (d : Location)
  deriving DecidableEq

/-- Two disks are the same where one looks. -/
def Look.Same : Look → Disk → Disk → Prop
  | .cwd, disk, disk' => disk'.tree.cwd = disk.tree.cwd
  | .kind l, disk, disk' => disk'.tree.kind l = disk.tree.kind l
  | .data l, disk, disk' => disk'.data l = disk.data l
  | .names d, disk, disk' => ∀ n, disk'.tree.kind (d ++ [n]) = disk.tree.kind (d ++ [n])
  | .below d, disk, disk' => ∀ l, d <+: l → disk'.tree.kind l = disk.tree.kind l

/-- A reading of a disk. -/
abbrev DiskReading := Reading Disk Look PyException

namespace DiskReading

/-- Where a path leads. -/
def locate (follow : Bool) (p : RawPath) : DiskReading (Except Errno Location) :=
  Reading.look (fun disk => disk.tree.locate follow p) fun disk =>
    (if p.absolute then [] else [.cwd]) ++ (disk.tree.visits follow p).map .kind

/-- What is at a place. -/
def kindAt (l : Location) : DiskReading (Option Kind) :=
  Reading.look (fun disk => disk.tree.kind l) fun _ => [.kind l]

/-- What a place holds. -/
def dataAt (l : Location) : DiskReading FileData :=
  Reading.look (fun disk => disk.data l) fun _ => [.data l]

/-- The names in a directory, sorted. -/
def namesIn (d : Location) : DiskReading (List String) :=
  Reading.look (fun disk => (disk.tree.children d).insertionSort (· ≤ ·)) fun _ => [.names d]

/-- The places below a directory, sorted. -/
def placesBelow (d : Location) : DiskReading (List Location) :=
  Reading.look (fun disk => (disk.tree.below d).insertionSort (· ≤ ·)) fun _ => [.below d]

/-- What a path leads to, links followed. -/
def kindOf (p : RawPath) : DiskReading (Option Kind) := do
  match ← locate true p with
  | .ok l => kindAt l
  | .error _ => return none

/-- `p.is_dir()`. -/
def isDir (p : RawPath) : DiskReading Bool := do
  return (← kindOf p) = some .dir

/-- `p.is_file()`. -/
def isFile (p : RawPath) : DiskReading Bool := do
  return (← kindOf p) = some .file

/-- `p.is_symlink()`. -/
def isSymlink (p : RawPath) : DiskReading Bool := do
  match ← locate false p with
  | .ok l =>
      match ← kindAt l with
      | some (.symlink _) => return true
      | _ => return false
  | .error _ => return false

/-- `sorted(p.iterdir())`, by name. -/
def iterdir (p : RawPath) : DiskReading (List String) := do
  match ← locate true p with
  | .ok d => namesIn d
  | .error _ => return []

/-- `p.read_text()`; nothing where no file is found. -/
def readText (p : RawPath) : DiskReading StoredText := do
  match ← locate true p with
  | .ok l =>
      if (← kindAt l) = some .file then return (← dataAt l).text
      else return none
  | .error _ => return none

/-- What the file at a path holds. -/
def fileData (p : RawPath) : DiskReading FileData := do
  match ← locate true p with
  | .ok l => dataAt l
  | .error _ => return {}

/-- `p.resolve(strict=True)`; nothing for an `OSError`. -/
def resolve (p : RawPath) : DiskReading (Option Location) := do
  match ← locate true p with
  | .ok l => return some l
  | .error .tooManyLinks => Reading.raise (runtimeError "Symlink loop")
  | .error _ => return none

end DiskReading

/-! ## Scanning a repository -/

open DiskReading

/-- Source: `model_cache.py`, `hub_cache_root`. -/
def hubCacheRoot (cacheRoot : String) : DiskReading RawPath := do
  let root := RawPath.parse cacheRoot
  if root.parts.getLast? = some "hub" then return root
  else
    let hub := root.child "hub"
    if ← isDir hub then return hub
    else return root

/-- The revision a ref names, when the path is a file. -/
def readRef (ref : RawPath) : DiskReading (Option String) := do
  if ← isFile ref then
    match ← readText ref with
    | some text => return some (String.ofList (strip text))
    | none => Reading.raise ⟨"UnicodeDecodeError", "'utf-8' codec can't decode bytes"⟩
  else return none

/-- The revision the refs of a repository name: that of `main`, of `master`, or the first there is. -/
def refsRevision (refs : RawPath) : DiskReading (Option String) := do
  if ← isDir refs then
    match ← Reading.first readRef [refs.child "main", refs.child "master"] with
    | some revision => return some revision
    | none =>
        let names ← iterdir refs
        Reading.first (fun name => readRef (refs.child name)) names
  else return none

/-- Source: `model_cache.py`, `_resolve_revision`. -/
def resolveRevision (repo : RawPath) : DiskReading String := do
  match ← refsRevision (repo.child "refs") with
  | some revision => return revision
  | none =>
      let snapshots := repo.child "snapshots"
      if ← isDir snapshots then
        let names ← iterdir snapshots
        match ← Reading.select (fun name => isDir (snapshots.child name)) names with
        | [only] => return only
        | _ => return ""
      else return ""

/-- Source: `model_cache.py`, `_snapshot_directory`. -/
def snapshotDirectory (repo : RawPath) (revision : String) : DiskReading (Option RawPath) := do
  if revision = "" then return none
  else
    let snapshot := (repo.child "snapshots").join (RawPath.parse revision)
    if ← isDir snapshot then return some snapshot
    else return none

/-- `str(path.relative_to(snapshot))`. -/
def relativeText (rel : List String) : String := String.intercalate "/" rel

/-- The files and links below a snapshot, relative to it. Source: `model_cache.py`, `_snapshot_files`. -/
def snapshotFiles (snapshot : RawPath) : DiskReading (List (List String)) := do
  match ← locate true snapshot with
  | .error _ => return []
  | .ok d =>
      let places ← placesBelow d
      Reading.select (fun rel => do
        if ← isFile (snapshot.under rel) then return true
        else isSymlink (snapshot.under rel)) (places.map fun l => l.drop d.length)

/-- The place an entry resolves to, with its size. -/
def resolvedSize (p : RawPath) : DiskReading (Option (Location × Nat)) := do
  match ← resolve p with
  | some l => return some (l, (← dataAt l).size)
  | none => return none

/-- Source: `model_cache.py`, `_snapshot_size_bytes`. -/
def snapshotSizeBytes (snapshot : RawPath) : DiskReading Int := do
  let files ← snapshotFiles snapshot
  let resolved ← Reading.collect (fun rel => resolvedSize (snapshot.under rel)) files
  return ((resolved.reduceOption.dedup.map fun entry => (entry.2 : Int)).sum)

/-- Source: `model_cache.py`, `_incomplete_downloads`. -/
def incompleteDownloads (repo : RawPath) : DiskReading (List String) := do
  let blobs := repo.child "blobs"
  if ← isDir blobs then
    let names ← iterdir blobs
    return names.filter fun name => ".incomplete".toList.isSuffixOf name.toList
  else return []

/-- An entry that resolves to no file. -/
def isBroken (p : RawPath) : DiskReading Bool := do
  match ← resolve p with
  | some l => return (← kindAt l) ≠ some .file
  | none => return true

/-- Source: `model_cache.py`, `_broken_entries`. -/
def brokenEntries (snapshot : RawPath) : DiskReading (List String) := do
  let files ← snapshotFiles snapshot
  let broken ← Reading.select (fun rel => isBroken (snapshot.under rel)) files
  return broken.map relativeText

/-- The shards a weight map names, sorted. -/
def shardNames (weightMap : Dict Value) : List String :=
  (weightMap.map fun entry => entry.2.text).dedup.insertionSort (· ≤ ·)

/-- The shards one weight index names and the snapshot lacks. -/
def missingShardsOf (F : FloatText) (snapshot : RawPath) (index : String) : DiskReading (List String) := do
  if ← isFile (snapshot.child index) then
    let text ← readText (snapshot.child index)
    match Value.item (readJson F text) "weight_map" with
    | .dict weightMap =>
        Reading.select (fun shard => do
          return !(← isFile (snapshot.join (RawPath.parse shard)))) (shardNames weightMap)
    | _ => return []
  else return []

/-- Source: `model_cache.py`, `_missing_shards`. -/
def missingShards (F : FloatText) (snapshot : RawPath) : DiskReading (List String) := do
  let missing ← Reading.collect (missingShardsOf F snapshot)
    ["model.safetensors.index.json", "pytorch_model.bin.index.json"]
  return missing.flatten

/-- `path.suffix`, of a file name: from its last dot on, when that is neither the first character nor the
last. -/
def pathSuffix (name : String) : String :=
  let tail := (name.toList.reverse.takeWhile fun c => c ≠ '.').reverse
  if tail ≠ [] ∧ tail.length + 1 < name.toList.length then String.ofList ('.' :: tail) else ""

/-- Source: `model_cache.py`, `_WEIGHT_SUFFIXES`. -/
def weightSuffixes : List String := [".safetensors", ".bin", ".gguf", ".pt", ".pth"]

/-- Source: `model_cache.py`, `_weight_files`. -/
def weightFiles (snapshot : RawPath) : DiskReading (List String) := do
  let files ← snapshotFiles snapshot
  let weights := files.filter fun rel => pathSuffix (rel.getLast?.getD "") ∈ weightSuffixes
  return (weights.map relativeText).insertionSort (· ≤ ·)

/-- Source: `model_cache.py`, `_declared_context_window`. -/
def declaredContextWindow (modelConfig : Dict Value) : Int :=
  let declared := ["max_position_embeddings", "max_sequence_length", "n_positions",
    "model_max_length"].filterMap fun key => (Value.item modelConfig key).asInt?
  (declared.find? fun n => 0 < n).getD 0

/-- The text a value is, when it is one that is not empty. -/
def nonEmptyText (value : Value) : Option String := value.asStr?.filter fun text => text ≠ ""

/-- Source: `model_cache.py`, `_quantization_profile`. -/
def quantizationProfile (modelConfig : Dict Value) : String :=
  let quantization := ((Value.item modelConfig "quantization_config").asDict?).getD []
  let method := nonEmptyText
    ((Value.item quantization "quant_method").or (Value.item quantization "quant_type"))
  let dtype := nonEmptyText ((Value.item modelConfig "torch_dtype").or (Value.item modelConfig "dtype"))
  (method.or dtype).getD "unknown"

/-- Source: `model_cache.py`, `_TOKENIZER_FILES`. -/
def tokenizerFiles : List String :=
  ["tokenizer.json", "tokenizer.model", "tokenizer_config.json", "vocab.json"]

/-- Source: `model_cache.py`, `_tokenizer_profile`. -/
def tokenizerProfile (snapshot : RawPath) : DiskReading String := do
  let found ← Reading.first (fun name => do
    if ← isFile (snapshot.child name) then return some name
    else return none) tokenizerFiles
  return found.getD "unknown"

/-- Source: `model_cache.py`, `_downloaded_at`. -/
def downloadedAt (snapshot : RawPath) : DiskReading String := do
  match ← locate true snapshot with
  | .ok l => return Datetime.isoformat (← dataAt l).modified
  | .error _ => return ""

/-! ## Records -/

/-- Source: `model_cache.py`, `DiskModelCache`: its configuration, with the text of floats in its JSON
files. -/
structure HubCache where
  cacheRoot : String
  runtimeBackend : String := "vllm"
  floats : FloatText

/-- A list of names as a value. -/
def namesValue (names : List String) : Value := .list (names.map .str)

namespace HubCache

/-- Source: `model_cache.py`, `DiskModelCache._state_directory`. -/
def stateDirectory (cache : HubCache) (modelName : String) : RawPath :=
  ((RawPath.parse cache.cacheRoot).child ".lmrs").child (repoDirectoryName modelName)

/-- The file of the stored metadata. -/
def metadataFile (cache : HubCache) (modelName : String) : RawPath :=
  (cache.stateDirectory modelName).child "metadata.json"

/-- Source: `model_cache.py`, `DiskModelCache._readiness_marker`. -/
def readinessMarker (cache : HubCache) (modelName : String) : RawPath :=
  (cache.stateDirectory modelName).child "ready.json"

/-- Source: `model_cache.py`, `DiskModelCache._stored_metadata`. -/
def storedMetadata (cache : HubCache) (modelName : String) : DiskReading (Dict Value) := do
  return readJson cache.floats (← readText (cache.metadataFile modelName))

/-- The path of the readiness marker, when it is a file. -/
def markerPath (cache : HubCache) (modelName : String) : DiskReading (Option String) := do
  if ← isFile (cache.readinessMarker modelName) then
    return some (cache.readinessMarker modelName).text
  else return none

/-- The repository directory of a model. -/
def repoDirectory (cache : HubCache) (modelName : String) : DiskReading RawPath := do
  return (← hubCacheRoot cache.cacheRoot).child (repoDirectoryName modelName)

/-- The record of a repository whose snapshot is not there. -/
def bareRecord (cache : HubCache) (modelName : String) (repo : RawPath) (revision : String)
    (incomplete : List String) (storedMetadata : Dict Value) (marker : Option String) :
    CachedModelRecord where
  modelName := modelName
  runtimeBackend := cache.runtimeBackend
  modelPath := repo.text
  quantizationProfile := "unknown"
  declaredContextWindow := 0
  tokenizerProfile := "unknown"
  checksumOrRevision := revision
  sizeBytes := 0
  downloadedAt := ""
  compatibilityFlags := [("snapshot_present", false), ("download_in_progress", !incomplete.isEmpty)]
  cacheStatus := if incomplete.isEmpty then .failed else .caching
  readinessMarkerPath := marker
  metadata := [("repo_directory", .str repo.text), ("incomplete_blobs", namesValue incomplete),
    ("stored_metadata", .dict storedMetadata)]

/-- What a scan finds in a snapshot. -/
structure SnapshotScan where
  modelConfig : Dict Value
  weights : List String
  broken : List String
  missingShards : List String
  tokenizer : String
  sizeBytes : Int
  downloadedAt : String

/-- The scan of a snapshot. -/
def scanSnapshot (cache : HubCache) (snapshot : RawPath) : DiskReading SnapshotScan := do
  let modelConfig := readJson cache.floats (← readText (snapshot.child "config.json"))
  let weights ← weightFiles snapshot
  let broken ← brokenEntries snapshot
  let missingShards ← missingShards cache.floats snapshot
  let tokenizer ← tokenizerProfile snapshot
  let sizeBytes ← snapshotSizeBytes snapshot
  let downloadedAt ← downloadedAt snapshot
  return { modelConfig, weights, broken, missingShards, tokenizer, sizeBytes, downloadedAt }

/-- The status of a repository with a snapshot. -/
def snapshotStatus (scan : SnapshotScan) (incomplete : List String) : CacheState :=
  if !incomplete.isEmpty then .caching
  else if !scan.weights.isEmpty && scan.broken.isEmpty && scan.missingShards.isEmpty then .cachedOnDisk
  else .failed

/-- The record of a repository with a snapshot. -/
def snapshotRecord (cache : HubCache) (modelName : String) (repo snapshot : RawPath) (revision : String)
    (incomplete : List String) (storedMetadata : Dict Value) (scan : SnapshotScan)
    (marker : Option String) : CachedModelRecord where
  modelName := modelName
  runtimeBackend := cache.runtimeBackend
  modelPath := snapshot.text
  quantizationProfile := quantizationProfile scan.modelConfig
  declaredContextWindow := declaredContextWindow scan.modelConfig
  tokenizerProfile := scan.tokenizer
  checksumOrRevision := revision
  sizeBytes := scan.sizeBytes
  downloadedAt := scan.downloadedAt
  compatibilityFlags :=
    [("config_present", !scan.modelConfig.isEmpty), ("weights_present", !scan.weights.isEmpty),
     ("tokenizer_present", scan.tokenizer ≠ "unknown"), ("download_complete", incomplete.isEmpty),
     ("entries_resolvable", scan.broken.isEmpty)]
  cacheStatus := snapshotStatus scan incomplete
  readinessMarkerPath := marker
  metadata :=
    [("repo_directory", .str repo.text), ("weight_files", namesValue scan.weights),
     ("broken_entries", namesValue scan.broken), ("missing_shards", namesValue scan.missingShards),
     ("incomplete_blobs", namesValue incomplete), ("stored_metadata", .dict storedMetadata)]

/-- What a scan finds in the hub. -/
structure HubScan where
  repo : RawPath
  revision : String
  incomplete : List String
  snapshot : Option (RawPath × SnapshotScan)

/-- The part of a scan that reads the hub. Nothing is there without a repository directory. -/
def scanHub (cache : HubCache) (modelName : String) : DiskReading (Option HubScan) := do
  let repo ← cache.repoDirectory modelName
  if ← isDir repo then
    let revision ← resolveRevision repo
    let incomplete ← incompleteDownloads repo
    match ← snapshotDirectory repo revision with
    | none => return some { repo, revision, incomplete, snapshot := none }
    | some snapshot =>
        let scan ← cache.scanSnapshot snapshot
        return some { repo, revision, incomplete, snapshot := some (snapshot, scan) }
  else return none

/-- The record of what is found. -/
def recordOf (cache : HubCache) (modelName : String) (found : HubScan) (storedMetadata : Dict Value)
    (marker : Option String) : CachedModelRecord :=
  match found.snapshot with
  | none =>
      cache.bareRecord modelName found.repo found.revision found.incomplete storedMetadata marker
  | some (snapshot, scan) =>
      cache.snapshotRecord modelName found.repo snapshot found.revision found.incomplete storedMetadata
        scan marker

/-- Source: `model_cache.py`, `DiskModelCache._scan_record`. The hub is read before the state directory
here; nothing is written in between. -/
def scanRecord (cache : HubCache) (modelName : String) : DiskReading (Option CachedModelRecord) := do
  match ← cache.scanHub modelName with
  | none => return none
  | some found =>
      let stored ← cache.storedMetadata modelName
      let marker ← cache.markerPath modelName
      return some (cache.recordOf modelName found stored marker)

/-- The weight files of a model, with what they hold. -/
def weights (cache : HubCache) (modelName : String) : DiskReading (List (String × FileData)) := do
  match ← cache.scanHub modelName with
  | none => return []
  | some found =>
      match found.snapshot with
      | none => return []
      | some (snapshot, scan) =>
          Reading.collect (fun name => do
            return (name, ← fileData (snapshot.join (RawPath.parse name)))) scan.weights

end HubCache

end Lmrs
