import Lmrs.Client.Acceptance
import Lmrs.PurgeScope

/-!
# The accounts of the LMCache storage

Source: `lmrs/adapter/registration.py`, `LocalLmcacheStatusCommand`, `LocalLmcachePurgeCommand`,
`_lmcache_observations`; `lmrs/lmcache.py`, `purge_lmcache`.

A status counts the files of the storage and their bytes; a purge counts the files it removes. The two commands
count by different walks of the tree.

* `purgeLmcache_files`: the files before a purge are those it removed and those after it.
* `purge_accounts`: the counts a client is given add up.
-/

namespace Lmrs

open Python Posix

/-! ## What the client is given -/

/-- The disk tier in the payload of a status, where it was observed: its entries and its bytes. -/
def observedTier (payload : Dict Value) : Option (Int × Int) :=
  match Value.item payload "disk_cache_usage_bytes", Value.item payload "metadata" with
  | .int bytes, .dict metadata =>
      match Value.item metadata "entry_count" with
      | .int entries => some (entries, bytes)
      | _ => none
  | _, _ => none

/-- The count in the payload of a purge. -/
def removedCount (payload : Dict Value) : Option Int :=
  match Value.item payload "removed_count" with
  | .int count => some count
  | _ => none

/-- The payload a client reads in the answer to a request. -/
def PublicState.payloadOf (s : PublicState) (x : Exchange) : Dict Value :=
  commandPayload (s.serve x.readings x.framework x.request).response

/-! ## The files of a storage -/

/-- The regular files inside a directory. -/
def storedFiles (t : Tree) (d : Location) : List Location := (t.below d).filter fun l => t.kind l = some .file

section files

variable {t t' : Tree} {root : RawPath} {d l : Location} {names : List String}

theorem mem_storedFiles : l ∈ storedFiles t d ↔ t.kind l = some .file ∧ Inside d l := by
  unfold storedFiles
  rw [List.mem_filter, Tree.mem_below, decide_eq_true_eq]
  constructor
  · rintro ⟨⟨-, hin⟩, hfile⟩
    exact ⟨hfile, hin⟩
  · rintro ⟨hfile, hin⟩
    exact ⟨⟨by rw [hfile]; rfl, hin⟩, hfile⟩

theorem nodup_storedFiles (t : Tree) (d : Location) : (storedFiles t d).Nodup :=
  (t.distinct.filter _).filter _

/-- Without links, a status sizes the files of the storage. -/
theorem fileSizes_eq {disk : Disk} (hs : Storage disk.tree root d) (hd : disk.tree.locate true root = .ok d) :
    fileSizes disk root = (storedFiles disk.tree d).map fun l => (disk.data l).size := by
  unfold fileSizes storedFiles
  rw [hd]
  dsimp only
  rw [← List.filterMap_eq_filter, List.map_filterMap]
  apply List.filterMap_congr
  intro l hl
  obtain ⟨hsome, hin⟩ := Tree.mem_below.mp hl
  obtain ⟨rest, rfl⟩ := hin.1
  have hne : rest ≠ [] := by
    rintro rfl
    exact hin.2 (List.append_nil d)
  have hplace : disk.tree.locate true (root.under rest) = .ok (d ++ rest) :=
    Tree.locate_below true hd hs.dir hs.plain hne hsome
  have hpath : (⟨root.absolute, root.parts ++ rest⟩ : RawPath) = root.under rest := rfl
  rw [List.drop_left, hpath, hplace]
  by_cases hfile : disk.tree.kind (d ++ rest) = some .file
  · simp [Option.guard, hfile]
  · simp [Option.guard, hfile]

/-- **The files before a removal are those it took and those it left.** -/
theorem Removes.files {P : Location → Prop} {out : Purge Nat} (h : Removes t P out) (hP : ∀ l, P l → Inside d l) :
    (storedFiles t d).Perm
      (out.removed.filter (fun l => t.kind l = some .file) ++ storedFiles out.tree d) := by
  refine (List.perm_ext_iff_of_nodup (nodup_storedFiles t d) ?_).mpr fun l => ?_
  · rw [List.nodup_append]
    refine ⟨h.nodup.filter _, nodup_storedFiles .., ?_⟩
    rintro l hl _ hm rfl
    obtain ⟨hmem, -⟩ := List.mem_filter.mp hl
    have hgone := h.gone l ((h.removed l).mp hmem).2
    rw [(mem_storedFiles.mp hm).1] at hgone
    cases hgone
  · rw [List.mem_append, List.mem_filter, mem_storedFiles, mem_storedFiles, h.removed, decide_eq_true_eq]
    by_cases hl : P l
    · have hgone := h.gone l hl
      constructor
      · rintro ⟨hfile, -⟩
        exact Or.inl ⟨⟨by rw [hfile]; rfl, hl⟩, hfile⟩
      · rintro (⟨-, hfile⟩ | ⟨hleft, -⟩)
        · exact ⟨hfile, hP l hl⟩
        · rw [hgone] at hleft
          cases hleft
    · rw [h.kept l hl]
      constructor
      · exact Or.inr
      · rintro (⟨⟨-, hin⟩, -⟩ | hleft)
        · exact absurd hin hl
        · exact hleft

end files

/-- What is left is no larger. -/
theorem bytes_le {files gone left : List Location} (hperm : files.Perm (gone ++ left)) (size : Location → Nat) :
    ((left.map size).map Int.ofNat).sum ≤ ((files.map size).map Int.ofNat).sum := by
  rw [((hperm.map size).map Int.ofNat).sum_eq, List.map_append, List.map_append, List.sum_append]
  apply Int.le_add_of_nonneg_left
  apply List.sum_nonneg
  intro n hn
  obtain ⟨m, -, rfl⟩ := List.mem_map.mp hn
  exact Int.natCast_nonneg m

/-- Nothing is found below a path that leads nowhere. -/
theorem fileSizes_of_nowhere {disk : Disk} {root : RawPath} {error : Errno}
    (h : disk.tree.locate true root = .error error) : fileSizes disk root = [] := by
  unfold fileSizes
  rw [h]

/-- Another tree leaves the sizes. -/
theorem retree_size (disk : Disk) (tree : Tree) (now : Int) (l : Location) :
    ((disk.retree tree now).data l).size = (disk.data l).size := by
  unfold Disk.retree
  dsimp only
  split <;> rfl

/-! ## One purge -/

/-- The storage of a policy has no links inside, wherever its path leads. -/
def PlainStorage (t : Tree) (policy : LMCacheStoragePolicy) : Prop :=
  ∀ root d, storageRoot t policy = some root → t.locate true root = .ok d →
    ∀ l, d <+: l → ∀ target, t.kind l ≠ some (.symlink target)

section purge

variable {t : Tree} {policy : LMCacheStoragePolicy} {root : RawPath} {d : Location}
  {namespace_ session : Option String}

/-- The storage root of a policy is the same path in every tree that has it. -/
theorem storageRoot_unique {t' : Tree} {root' : RawPath} (h : storageRoot t policy = some root)
    (h' : storageRoot t' policy = some root') : root = root' := by
  obtain ⟨path, hpath, -, rfl, -⟩ := storageRoot_iff.mp h
  obtain ⟨path', hpath', -, rfl, -⟩ := storageRoot_iff.mp h'
  rw [hpath] at hpath'
  cases hpath'
  rfl

/-- A storage without links is one a purge can go through. -/
theorem PlainStorage.storage (h : PlainStorage t policy) (hroot : storageRoot t policy = some root)
    (hd : t.locate true root = .ok d) : Storage t root d := by
  refine ⟨dir_of_storageRoot hroot hd, fun l hl => ?_, h root d hroot hd⟩
  rw [hd] at hl
  cases hl
  rfl

/-- **The files before a purge that reports a count are those it removed and those after it**; after a purge of
everything there are none. -/
theorem purgeLmcache_files (hroot : storageRoot t policy = some root) (hd : t.locate true root = .ok d)
    (hplain : PlainStorage t policy) (hnamespace : ∀ n, namespace_ = some n → IsName n)
    (hsession : ∀ s, session = some s → IsName s) {summary : Dict Value}
    (hok : (purgeLmcache t policy namespace_ session).result = .ok summary) :
    ∃ gone : List Location, removedCount summary = some (gone.length : Int) ∧
      (storedFiles t d).Perm (gone ++ storedFiles (purgeLmcache t policy namespace_ session).tree d) ∧
      Tree.LeftOf (purgeLmcache t policy namespace_ session).tree t ∧
      (purgeLmcache t policy namespace_ session).tree.kind d = some .dir ∧
      (namespace_ = none → session = none → storedFiles (purgeLmcache t policy namespace_ session).tree d = []) := by
  have hs := hplain.storage hroot hd
  obtain ⟨targets, hperm, -, htargets⟩ := purgeTargets_under hs hd hnamespace hsession
  obtain ⟨hthere, hapart⟩ := scopeNames_targets t d namespace_ session
  have hthere' : ∀ names ∈ targets, names ≠ [] ∧ (t.kind (d ++ names)).isSome :=
    fun names hmem => hthere names (hperm.mem_iff.mp hmem)
  have hapart' : targets.Pairwise Apart := (hperm.pairwise_iff fun h => ⟨h.2, h.1⟩).mpr hapart
  rw [purgeLmcache_of_root hroot, htargets] at hok ⊢
  -- a purge that is refused reports an exception
  have hkept : RootKept root d t targets := by
    by_contra hlost
    obtain ⟨exc, hexc⟩ := removeArtifacts_refused hs hthere' hapart' hlost
    rw [hexc] at hok
    cases hok
  have hremoves := removeArtifacts_removes hs hthere' hapart' hkept
  rw [hremoves.result] at hok
  cases hok
  refine ⟨_, ?_, hremoves.files ?_, hremoves.leftOf, ?_, ?_⟩
  · rw [← List.countP_eq_length_filter]
    rfl
  · rintro l ⟨names, hmem, hpre⟩
    exact (inside_append d (hthere' names hmem).1).below hpre
  · refine (hremoves.kept d ?_).trans hs.dir
    rintro ⟨names, hmem, hpre⟩
    exact (inside_append d (hthere' names hmem).1).not_above hpre
  · rintro rfl rfl
    rw [List.eq_nil_iff_forall_not_mem]
    intro l hl
    obtain ⟨hfile, hin⟩ := mem_storedFiles.mp hl
    have hbefore := hremoves.leftOf.kind l _ hfile
    have hscope := (targets_scope hperm (fun names hmem => (hthere' names hmem).1) (l := l)
      (by rw [hbefore]; rfl) fun heq => hin.2 heq).mpr
    obtain ⟨rest, rfl⟩ := hin.1
    rw [hremoves.gone _ (hscope ⟨rest, rfl, nofun, nofun⟩)] at hfile
    cases hfile

end purge

/-! ## One status -/

section status

variable {policy : LMCachePolicy} {disk : Disk} {payload observations : Dict Value}

/-- The figures of a status come from the observations. -/
theorem getLmcacheStatus_tier (h : getLmcacheStatus policy observations = .ok payload) :
    ∃ bytes metadata, observedInt observations "disk_cache_usage" = .ok bytes ∧
      (Dict.get? observations "metadata").getD (.dict []) = .dict metadata ∧
      Value.item payload "disk_cache_usage_bytes" = .int bytes ∧ Value.item payload "metadata" = .dict metadata := by
  obtain ⟨telemetry, htelemetry, h⟩ := bind_eq_ok.mp h
  obtain ⟨_, -, htelemetry⟩ := bind_eq_ok.mp htelemetry
  obtain ⟨_, -, htelemetry⟩ := bind_eq_ok.mp htelemetry
  obtain ⟨_, -, htelemetry⟩ := bind_eq_ok.mp htelemetry
  obtain ⟨bytes, hbytes, htelemetry⟩ := bind_eq_ok.mp htelemetry
  obtain ⟨_, -, htelemetry⟩ := bind_eq_ok.mp htelemetry
  cases htelemetry
  dsimp only at h
  split at h
  · next metadata hmetadata =>
      cases h
      exact ⟨bytes, metadata, hbytes, hmetadata, rfl, rfl⟩
  · cases h

/-- What is observed of the disk tier: nothing without a storage, and else its files and their bytes. -/
theorem diskTierObservations_cases (policy : LMCachePolicy) (disk : Disk) :
    ((diskTierObservations policy disk).1 = [] ∧
        Value.item (diskTierObservations policy disk).2 "entry_count" = .none) ∨
      ∃ root, storageRoot disk.tree policy.toLMCacheStoragePolicy = some root ∧
        (diskTierObservations policy disk).1 =
          [("disk_cache_usage", .int ((fileSizes disk root).map Int.ofNat).sum)] ∧
        Value.item (diskTierObservations policy disk).2 "entry_count" = .int (fileSizes disk root).length := by
  unfold diskTierObservations
  split
  · exact Or.inl ⟨rfl, rfl⟩
  · exact Or.inl ⟨rfl, rfl⟩
  · next path hne hpath =>
      dsimp only
      by_cases hdir : disk.tree.presentDir (.parse path) = true
      · rw [if_pos hdir]
        exact Or.inr ⟨_, storageRoot_iff.mpr ⟨path, hpath, hne, rfl, hdir⟩, rfl, rfl⟩
      · rw [if_neg hdir]
        exact Or.inl ⟨rfl, rfl⟩

/-- What is counted beside the disk tier does not hide it. -/
theorem observed_beside {observed : Dict Value} (counted metadata : Dict Value)
    (hkey : Dict.get? observed "metadata" = none) (husage : Dict.get? counted "disk_cache_usage" = none)
    (hcounted : Dict.get? counted "metadata" = none) :
    observedInt (observed ++ counted ++ [("metadata", .dict metadata)]) "disk_cache_usage" =
        observedInt observed "disk_cache_usage" ∧
      Dict.get? (observed ++ counted ++ [("metadata", .dict metadata)]) "metadata" = some (.dict metadata) := by
  unfold observedInt
  rw [Dict.get?_append, Dict.get?_append, Dict.get?_append, Dict.get?_append, hkey, husage, hcounted]
  refine ⟨?_, rfl⟩
  rw [Option.or_none]
  exact congrArg (fun value => toInt (value.getD (.int 0))) (Option.or_none ..)

/-- What is said of the runtime does not hide the count of the entries. -/
theorem entryCount_beside {metadata rest : Dict Value} (hrest : Dict.get? rest "entry_count" = none) :
    Value.item (metadata ++ rest) "entry_count" = Value.item metadata "entry_count" := by
  unfold Value.item
  rw [Dict.get?_append, hrest, Option.or_none]

/-- The observations carry the disk tier as it was observed, whatever the runtime counts. -/
theorem lmcacheObservations_tier {totals : Option (Dict PyFloat)}
    (h : lmcacheObservations policy disk totals = .ok observations) :
    observedInt observations "disk_cache_usage" =
        observedInt (diskTierObservations policy disk).1 "disk_cache_usage" ∧
      ∃ metadata, Dict.get? observations "metadata" = some (.dict metadata) ∧
        Value.item metadata "entry_count" = Value.item (diskTierObservations policy disk).2 "entry_count" := by
  have hkey : Dict.get? (diskTierObservations policy disk).1 "metadata" = none := by
    rcases diskTierObservations_cases policy disk with ⟨htier, -⟩ | ⟨root, -, htier, -⟩
    · rw [htier]
      rfl
    · rw [htier]
      rfl
  unfold lmcacheObservations at h
  rcases totals with _ | totals
  · cases h
    have hobserved := observed_beside [] ((diskTierObservations policy disk).2 ++
      [("runtime_counters_available", .bool false),
        ("runtime_counters_reason", .str "the runtime metrics endpoint did not answer")]) hkey rfl rfl
    rw [List.append_nil] at hobserved
    exact ⟨hobserved.1, _, hobserved.2, entryCount_beside rfl⟩
  · obtain ⟨⟨counters, runtime⟩, hcounters, h⟩ := bind_eq_ok.mp h
    obtain ⟨_, -, hcounters⟩ := bind_eq_ok.mp hcounters
    cases hcounters
    have hentries (metadata : Dict Value) {rest runtime : Dict Value}
        (hrest : Dict.get? rest "entry_count" = none) (hruntime : "entry_count" ∉ runtime.map Prod.fst) :
        Value.item (Dict.update (metadata ++ rest) runtime) "entry_count" = Value.item metadata "entry_count" := by
      refine Eq.trans ?_ (entryCount_beside hrest)
      unfold Value.item
      rw [Dict.get?_update_of_not_mem _ _ hruntime]
    rcases counters with _ | ⟨hits, misses⟩
    · cases h
      exact ⟨(observed_beside _ _ hkey rfl rfl).1, _, (observed_beside _ _ hkey rfl rfl).2, hentries _ rfl (by simp)⟩
    · cases h
      exact ⟨(observed_beside _ _ hkey rfl rfl).1, _, (observed_beside _ _ hkey rfl rfl).2, hentries _ rfl (by simp)⟩

/-- **What a status observes of the disk tier**: the files of the storage and their bytes. -/
theorem observedTier_status {p : PublicReadings} {entries bytes : Int}
    (hstatus : LocalLmcacheStatusCommand.delegate p disk = .ok payload)
    (htier : observedTier payload = some (entries, bytes)) :
    ∃ root, storageRoot disk.tree p.lmcache.toLMCacheStoragePolicy = some root ∧
      entries = (fileSizes disk root).length ∧ bytes = ((fileSizes disk root).map Int.ofNat).sum := by
  obtain ⟨observations, hobserved, hstatus⟩ := bind_eq_ok.mp hstatus
  obtain ⟨usage, metadata, husage, hmetadata, hbytes, hcarried⟩ := getLmcacheStatus_tier hstatus
  obtain ⟨hsame, metadata', hmetadata', hcount⟩ := lmcacheObservations_tier hobserved
  rw [hmetadata'] at hmetadata
  cases hmetadata
  unfold observedTier at htier
  rw [hbytes, hcarried] at htier
  dsimp only at htier
  rw [hcount] at htier
  rw [hsame] at husage
  rcases diskTierObservations_cases p.lmcache disk with ⟨-, hnone⟩ | ⟨root, hroot, hone, hentries⟩
  · rw [hnone] at htier
    cases htier
  · rw [hentries] at htier
    rw [hone] at husage
    cases htier
    cases husage
    exact ⟨root, hroot, rfl, rfl⟩

end status

/-! ## A session -/

/-- A request that reaches the storage of a policy, and what it asks. -/
structure Exchange.On (x : Exchange) (policy : LMCacheStoragePolicy) (command : CommandName) : Prop where
  policy : x.readings.lmcache.toLMCacheStoragePolicy = policy
  command : x.request.command = command

section session

variable {s : PublicState} {policy : LMCacheStoragePolicy} {x : Exchange}

/-- What a client sees of the disk tier is what is on the disk. -/
theorem payloadOf_status (hx : x.On policy .localLmcacheStatus) {entries bytes : Int}
    (hseen : observedTier (s.payloadOf x) = some (entries, bytes)) :
    ∃ root, storageRoot s.store.disk.tree policy = some root ∧
      entries = (fileSizes s.store.disk root).length ∧
      bytes = ((fileSizes s.store.disk root).map Int.ofNat).sum := by
  obtain ⟨p, f, command, params⟩ := x
  obtain ⟨rfl, rfl⟩ := hx
  unfold PublicState.payloadOf PublicState.serve at hseen
  rw [commandPayload_wrap] at hseen
  change observedTier (payloadOf ((LocalLmcacheStatusCommand.delegate p s.store.disk).map .mapping)) = _ at hseen
  rcases hstatus : LocalLmcacheStatusCommand.delegate p s.store.disk with exc | payload
  · rw [hstatus] at hseen
    cases hseen
  · rw [hstatus] at hseen
    exact observedTier_status hstatus hseen

/-- A binding arrives as it was sent. -/
theorem Framework.bindingParam_deliver (f : Framework) (params : Dict Value) {key : String}
    (h : key ∈ schemaProperties) : bindingParam (f.deliver params) key = bindingParam params key := by
  unfold bindingParam
  rw [f.item_deliver params h]

/-- A client that reads a count from a purge reads that of the purge, which left the disk so. -/
theorem payloadOf_purge (hx : x.On policy .localLmcachePurge) {count : Int}
    (hcount : removedCount (s.payloadOf x) = some count) :
    ∃ summary, removedCount summary = some count ∧
      (purgeLmcache s.store.disk.tree policy (bindingParam x.request.params "namespace")
        (bindingParam x.request.params "session")).result = .ok summary ∧
      (s.exchange x).store.disk = s.store.disk.retree (purgeLmcache s.store.disk.tree policy
        (bindingParam x.request.params "namespace") (bindingParam x.request.params "session")).tree
          x.readings.host.now := by
  obtain ⟨p, f, command, params⟩ := x
  obtain ⟨rfl, rfl⟩ := hx
  dsimp only
  rw [← f.bindingParam_deliver params (by simp [schemaProperties] : "namespace" ∈ schemaProperties),
    ← f.bindingParam_deliver params (by simp [schemaProperties] : "session" ∈ schemaProperties)]
  unfold PublicState.payloadOf PublicState.serve at hcount
  rw [commandPayload_wrap] at hcount
  change removedCount (payloadOf ((LocalLmcachePurgeCommand.delegate s.store.disk.tree
    p.lmcache.toLMCacheStoragePolicy (f.deliver params)).result.map .mapping)) = _ at hcount
  unfold LocalLmcachePurgeCommand.delegate at hcount
  rcases hresult : (purgeLmcache s.store.disk.tree p.lmcache.toLMCacheStoragePolicy
      (bindingParam (f.deliver params) "namespace") (bindingParam (f.deliver params) "session")).result
    with exc | summary
  · rw [hresult] at hcount
    cases hcount
  · rw [hresult] at hcount
    exact ⟨summary, hcount, rfl, rfl⟩

/-- What does not write the disk leaves it. -/
theorem disk_of_unwritten (s : PublicState) {session : List Exchange}
    (h : ∀ x ∈ session, Part.disk ∉ x.request.command.writes) :
    (Transition.runAll PublicState.exchange s session).store.disk = s.store.disk := by
  apply Transition.runAll_guarded (J := fun t : PublicState => t.store.disk = s.store.disk)
    (G := fun _ x => Part.disk ∉ x.request.command.writes)
  · rfl
  · intro t x ht hx
    have hsame : Part.disk.Same t (t.exchange x) := delegate_same x.readings t x.request.command _ hx
    exact Eq.trans hsame ht
  · intro before x hbegins
    exact h x (hbegins.subset (by simp))

end session

/-- **The accounts of the storage add up.** A client looks at the status, purges a scope and looks again, and
other clients send anything in between that does not write the disk. -/
theorem purge_accounts (s : PublicState) {policy : LMCacheStoragePolicy} {first purge last : Exchange}
    {before after : List Exchange} {entries entries' bytes bytes' count : Int}
    (hfirst : first.On policy .localLmcacheStatus) (hpurge : purge.On policy .localLmcachePurge)
    (hlast : last.On policy .localLmcacheStatus)
    (hbefore : ∀ x ∈ before, Part.disk ∉ x.request.command.writes)
    (hafter : ∀ x ∈ after, Part.disk ∉ x.request.command.writes)
    (hplain : PlainStorage s.store.disk.tree policy)
    (hnamespace : ∀ n, bindingParam purge.request.params "namespace" = some n → IsName n)
    (hsession : ∀ n, bindingParam purge.request.params "session" = some n → IsName n)
    (hseen : observedTier (s.payloadOf first) = some (entries, bytes))
    (hcount : removedCount ((Transition.runAll PublicState.exchange s (first :: before)).payloadOf purge) =
      some count)
    (hseen' : observedTier ((Transition.runAll PublicState.exchange s
      (first :: before ++ purge :: after)).payloadOf last) = some (entries', bytes')) :
    entries = count + entries' ∧ bytes' ≤ bytes ∧
      (bindingParam purge.request.params "namespace" = none →
        bindingParam purge.request.params "session" = none → entries' = 0 ∧ bytes' = 0) := by
  let t := Transition.runAll PublicState.exchange s (first :: before)
  have hdisk : t.store.disk = s.store.disk := by
    apply disk_of_unwritten
    rintro x (_ | ⟨_, hx⟩)
    · rw [hfirst.command]
      exact List.not_mem_nil
    · exact hbefore x hx
  have hrun : Transition.runAll PublicState.exchange s (first :: before ++ purge :: after) =
      Transition.runAll PublicState.exchange (t.exchange purge) after := Transition.runAll_append
  obtain ⟨summary, hsummary, hok, hpurged⟩ := payloadOf_purge hpurge hcount
  obtain ⟨root, hroot, rfl, rfl⟩ := payloadOf_status hfirst hseen
  obtain ⟨root', hroot', rfl, rfl⟩ := payloadOf_status hlast hseen'
  rw [hrun, disk_of_unwritten _ hafter, hpurged, hdisk] at hroot' ⊢
  rw [hdisk] at hok
  obtain rfl := storageRoot_unique hroot hroot'
  rcases hroot_at : s.store.disk.tree.locate true root with error | d
  · -- a root that is gone holds nothing, before and after
    have hpurge := purgeLmcache_of_root hroot (bindingParam purge.request.params "namespace")
      (bindingParam purge.request.params "session")
    rw [purgeTargets_of_nowhere hroot_at hnamespace hsession] at hpurge
    have hafter : fileSizes (s.store.disk.retree (purgeLmcache s.store.disk.tree policy
        (bindingParam purge.request.params "namespace") (bindingParam purge.request.params "session")).tree
          purge.readings.host.now) root = [] := by
      apply fileSizes_of_nowhere
      rw [hpurge]
      exact hroot_at
    rw [hpurge] at hok
    cases hok
    cases hsummary
    rw [fileSizes_of_nowhere hroot_at, hafter]
    simp
  · obtain ⟨gone, hgone, hperm, hleft, hdir, hall⟩ :=
      purgeLmcache_files hroot hroot_at hplain hnamespace hsession hok
    have hs := hplain.storage hroot hroot_at
    have hroot_at' : (purgeLmcache s.store.disk.tree policy (bindingParam purge.request.params "namespace")
        (bindingParam purge.request.params "session")).tree.locate true root = .ok d :=
      Tree.locate_of_presentDir hleft hroot_at (by rw [hdir]; rfl) (storageRoot_open hroot')
    rw [hgone] at hsummary
    cases hsummary
    rw [fileSizes_eq hs hroot_at, fileSizes_eq (hs.mono hleft hdir) hroot_at']
    simp only [retree_size, List.length_map]
    refine ⟨?_, bytes_le hperm _, fun hn hs => ?_⟩
    · rw [hperm.length_eq, List.length_append]
      push_cast
      rfl
    · have hnone : storedFiles (s.store.disk.retree _ purge.readings.host.now).tree d = [] := hall hn hs
      rw [hnone]
      exact ⟨rfl, rfl⟩

/-- A server with a storage of two namespaces. -/
def storingState : PublicState where
  adapter := {}
  store := { disk := { tree := storageTree, data := fun _ => { size := 100 } } }

/-- A request of a server with that storage. -/
def storingExchange (command : CommandName) (params : Dict Value) : Exchange :=
  { bareExchange command params with
    readings := { bareReadings with lmcache := { cacheStoragePath := some "/srv/lmcache" } } }

/-- One of three files goes with its namespace, while another client looks at the queue. -/
theorem purge_accounts_alpha : (3 : Int) = 1 + 2 ∧ (200 : Int) ≤ 300 ∧
    (bindingParam [("namespace", .str "alpha")] "namespace" = none →
      bindingParam [("namespace", .str "alpha")] "session" = none → (2 : Int) = 0 ∧ (200 : Int) = 0) := by
  refine @purge_accounts storingState { cacheStoragePath := some "/srv/lmcache" }
    (storingExchange .localLmcacheStatus []) (storingExchange .localLmcachePurge [("namespace", .str "alpha")])
    (storingExchange .localLmcacheStatus []) [storingExchange .queueStatus []] [] 3 2 300 200 1
    ⟨rfl, rfl⟩ ⟨rfl, rfl⟩ ⟨rfl, rfl⟩ ?_ ?_ ?_ ?_ ?_ rfl rfl rfl
  · intro x hx
    rw [List.mem_singleton.mp hx]
    exact List.not_mem_nil
  · intro x hx
    cases hx
  · exact fun _ _ _ _ l _ => storageTree_plain l
  · rintro n ⟨⟩
    decide
  · nofun

end Lmrs
