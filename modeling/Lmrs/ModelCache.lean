import Lmrs.Codes
import Lmrs.Lib.Python

/-!
# Disk model cache: records and status

Source: `lmrs/model_cache.py`.

The record of a model is what a scan of the hub directory finds; the scan is a field of
`DiskModelCache` here. `DiskModelCache.status` reports on the record found.
-/

namespace Lmrs

open Python

/-- Source: `model_cache.py`, `CacheState`. -/
inductive CacheState where
  | notCached | caching | cachedOnDisk | loadingToMemory | loadedInMemory | unloading | failed
  deriving DecidableEq, Repr

/-- The string a cache state is reported as. -/
def CacheState.text : CacheState → String
  | .notCached => "not_cached"
  | .caching => "caching"
  | .cachedOnDisk => "cached_on_disk"
  | .loadingToMemory => "loading_to_memory"
  | .loadedInMemory => "loaded_in_memory"
  | .unloading => "unloading"
  | .failed => "failed"

/-- Source: `model_cache.py`, `CachedModelRecord`. -/
structure CachedModelRecord where
  modelName : String
  runtimeBackend : String
  modelPath : String
  quantizationProfile : String
  declaredContextWindow : Int
  tokenizerProfile : String
  checksumOrRevision : String
  sizeBytes : Int
  downloadedAt : String
  compatibilityFlags : Dict Bool := []
  cacheStatus : CacheState := .notCached
  readinessMarkerPath : Option String := none
  metadata : Dict Value := []

/-- Source: `model_cache.py`, `CacheCommandResult`. -/
structure CacheCommandResult where
  command : String
  modelName : String
  status : CacheState
  success : Bool
  reasonCode : Option ReasonCode := none
  record : Option CachedModelRecord := none
  metadata : Dict Value := []

/-- Source: `model_cache.py`, `DiskModelCache`, with the record a scan of the disk finds. The scan
may raise. -/
structure DiskModelCache where
  cacheRoot : String := "/var/lmrs/hf-cache"
  hubCacheRoot : String := "/var/lmrs/hf-cache"
  record : String → Except PyException (Option CachedModelRecord)

namespace DiskModelCache

/-- The status of a model whose record is known. -/
def statusOf (cache : DiskModelCache) (modelName : String) :
    Option CachedModelRecord → CacheCommandResult
  | none =>
      { command := "status", modelName, status := .notCached, success := false
        reasonCode := some .modelNotCached
        metadata := [("cache_root", .str cache.cacheRoot),
                     ("hub_cache_root", .str cache.hubCacheRoot)] }
  | some record =>
      { command := "status", modelName, status := record.cacheStatus
        success := record.cacheStatus = .cachedOnDisk
        reasonCode := if record.cacheStatus = .cachedOnDisk then none else some .modelCacheIncomplete
        record := some record }

/-- Source: `model_cache.py`, `DiskModelCache.status`. -/
def status (cache : DiskModelCache) (modelName : String) : Except PyException CacheCommandResult :=
  (cache.record modelName).map (cache.statusOf modelName)

/-- A status succeeds exactly for a model fully cached on disk, and carries no reason code then. -/
theorem statusOf_success {cache : DiskModelCache} {modelName : String}
    (record : Option CachedModelRecord) :
    ((cache.statusOf modelName record).success = true ↔
        (cache.statusOf modelName record).status = .cachedOnDisk) ∧
      ((cache.statusOf modelName record).success = true ↔
        (cache.statusOf modelName record).reasonCode = none) := by
  cases record with
  | none => simp [statusOf]
  | some record => simp [statusOf]

end DiskModelCache

end Lmrs
