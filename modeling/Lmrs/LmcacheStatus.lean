import Lmrs.Configuration
import Lmrs.DiskCache

/-!
# The status of the LMCache tiers

Source: `lmrs/lmcache.py`, `build_lmcache_telemetry`, `observations_from_vllm_metrics`,
`get_lmcache_status`; `lmrs/adapter/registration.py`, `_lmcache_observations`.

What the runtime publishes arrives as the sums of its metric families, when its endpoint answers.
-/

namespace Lmrs

open Python Posix

/-- The policy with the facts a status reports. Source: `lmcache.py`, `LMCacheStoragePolicy`. -/
structure LMCachePolicy extends LMCacheStoragePolicy where
  enabled : Bool := false
  cpuCacheLimitBytes : Option Int := none
  diskCacheLimitBytes : Option Int := none

/-- Source: `lmcache.py`, `LMCacheTelemetry`. -/
structure LMCacheTelemetry where
  hitTokens : Int := 0
  missTokens : Int := 0
  hitQuality : Value := .none
  cpuCacheUsage : Int := 0
  cpuCacheLimit : Option Int := none
  diskCacheUsage : Int := 0
  diskCacheLimit : Option Int := none
  evictions : Int := 0
  metadata : Value := .dict []

/-- `int(observations.get(name, 0))`. -/
def observedInt (observations : Dict Value) (name : String) : Except PyException Int :=
  toInt ((Dict.get? observations name).getD (.int 0))

/-- Source: `lmcache.py`, `build_lmcache_telemetry`. -/
def buildLmcacheTelemetry (policy : LMCachePolicy) (observations : Dict Value) :
    Except PyException LMCacheTelemetry := do
  let hitTokens ← observedInt observations "hit_tokens"
  let missTokens ← observedInt observations "miss_tokens"
  let cpuCacheUsage ← observedInt observations "cpu_cache_usage"
  let diskCacheUsage ← observedInt observations "disk_cache_usage"
  let evictions ← observedInt observations "evictions"
  return { hitTokens, missTokens, cpuCacheUsage, diskCacheUsage, evictions
           hitQuality := Value.item observations "hit_quality"
           cpuCacheLimit := policy.cpuCacheLimitBytes, diskCacheLimit := policy.diskCacheLimitBytes
           metadata := (Dict.get? observations "metadata").getD (.dict []) }

/-- An optional figure as a value. -/
def figureValue : Option Int → Value
  | some n => .int n
  | none => .none

/-- Source: `lmcache.py`, `get_lmcache_status`, once its source has answered. -/
def getLmcacheStatus (policy : LMCachePolicy) (observations : Dict Value) :
    Except PyException (Dict Value) := do
  let telemetry ← buildLmcacheTelemetry policy observations
  match telemetry.metadata with
  | .dict metadata =>
      return [("enabled", .bool policy.enabled),
        ("cpu_cache_usage_bytes", .int telemetry.cpuCacheUsage),
        ("cpu_cache_limit_bytes", figureValue (telemetry.cpuCacheLimit.or policy.cpuCacheLimitBytes)),
        ("disk_cache_usage_bytes", .int telemetry.diskCacheUsage),
        ("disk_cache_limit_bytes", figureValue (telemetry.diskCacheLimit.or policy.diskCacheLimitBytes)),
        ("hit_tokens", .int telemetry.hitTokens), ("miss_tokens", .int telemetry.missTokens),
        ("hit_quality", telemetry.hitQuality), ("evictions", .int telemetry.evictions),
        ("metadata", .dict metadata)]
  | metadata => throw (typeError ("'" ++ metadata.typeName ++ "' object is not iterable"))

/-! ## What is observed -/

/-- Source: `lmcache.py`, `_EXTERNAL_QUERIES_FAMILY`. -/
def externalQueriesFamily : String := "vllm:external_prefix_cache_queries_total"

/-- Source: `lmcache.py`, `_EXTERNAL_HITS_FAMILY`. -/
def externalHitsFamily : String := "vllm:external_prefix_cache_hits_total"

/-- Source: `lmcache.py`, `_CONTEXT_FAMILIES`. -/
def contextFamilies : List String :=
  ["vllm:prefix_cache_queries_total", "vllm:prefix_cache_hits_total", "vllm:kv_cache_usage_perc"]

/-- The sums of some families, as a value. -/
def familiesValue (totals : Dict PyFloat) : Value := .dict (totals.map fun kv => (kv.1, .float kv.2))

/-- The two external counters, when both families are present. -/
def externalCounters (totals : Dict PyFloat) : Except PyException (Option (Int × Int)) :=
  match Dict.get? totals externalQueriesFamily, Dict.get? totals externalHitsFamily with
  | some queries, some hits => do
      let queries ← toInt (.float queries)
      let hits ← toInt (.float hits)
      return some (hits, max 0 (queries - hits))
  | _, _ => .ok none

/-- Source: `lmcache.py`, `observations_from_vllm_metrics`, given the sums of the families: the hit and
miss tokens, and the metadata. -/
def observationsFromVllmMetrics (totals : Dict PyFloat) :
    Except PyException (Option (Int × Int) × Dict Value) := do
  let counters ← externalCounters totals
  return (counters,
    [("counter_source", .str "vllm_metrics"),
     ("external_cache_families_present", .bool counters.isSome),
     ("lmcache_families",
      familiesValue (totals.filter fun kv => contains "lmcache" (String.ofList (lower kv.1.toList)))),
     ("gpu_internal_context",
      familiesValue (contextFamilies.filterMap fun name => (Dict.get? totals name).map (name, ·)))])

/-- The sizes of the regular files below a directory, links to files included. -/
def fileSizes (disk : Disk) (root : RawPath) : List Nat :=
  match disk.tree.locate true root with
  | .error _ => []
  | .ok d =>
      (disk.tree.below d).filterMap fun l =>
        match disk.tree.locate true ⟨root.absolute, root.parts ++ l.drop d.length⟩ with
        | .ok target =>
            if disk.tree.kind target = some .file then some (disk.data target).size else none
        | .error _ => none

/-- The disk tier of the observations: what is observed of it, and the metadata. -/
def diskTierObservations (policy : LMCachePolicy) (disk : Disk) : Dict Value × Dict Value :=
  match policy.cacheStoragePath with
  | none | some "" => ([], [("storage_path", .none), ("disk_tier_observed", .bool false)])
  | some path =>
      let root := RawPath.parse path
      if disk.tree.presentDir root then
        let sizes := fileSizes disk root
        ([("disk_cache_usage", .int (sizes.map Int.ofNat).sum)],
         [("storage_path", .str root.text), ("disk_tier_observed", .bool true),
          ("entry_count", .int sizes.length), ("disk_tier_source", .str "filesystem")])
      else
        ([], [("storage_path", .str root.text), ("disk_tier_observed", .bool false),
              ("reason", .str "storage path does not exist")])

/-- Source: `registration.py`, `_lmcache_observations`. Without sums the metrics endpoint did not
answer. -/
def lmcacheObservations (policy : LMCachePolicy) (disk : Disk) (totals : Option (Dict PyFloat)) :
    Except PyException (Dict Value) :=
  let (observed, metadata) := diskTierObservations policy disk
  match totals with
  | none =>
      .ok (observed ++ [("metadata", .dict (metadata ++
        [("runtime_counters_available", .bool false),
         ("runtime_counters_reason", .str "the runtime metrics endpoint did not answer")]))])
  | some totals => do
      let (counters, runtimeMetadata) ← observationsFromVllmMetrics totals
      let counted : Dict Value := match counters with
        | some (hits, misses) => [("hit_tokens", .int hits), ("miss_tokens", .int misses)]
        | none => []
      return observed ++ counted ++ [("metadata", .dict (Dict.update
        (metadata ++ [("runtime_counters_available", .bool counters.isSome)]) runtimeMetadata))]

end Lmrs
