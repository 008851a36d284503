import Lmrs.Adapter.Chat
import Lmrs.Integrity
import Lmrs.Lib.Posix.Text

/-!
# The context window of a cached model

Source: `lmrs/model_cache.py`, `_declared_context_window`, `_scan_record`; `lmrs/configuration.py`,
`derive_kv_cache_profile`; `lmrs/adapter/registration.py`, `model_kv_profile`.

The record of a cached model and the KV profile it is admitted with take its context window from one
`config.json`: the record from its top level, the profile from the top level with the entries of
`text_config` laid over it.

* `contextWindow_eq_iff`: what the first stated window of a mapping is.
* `keepsWindow_iff`: which window keys a text section may set without changing it.
* `recordedWindow_eq_profile_iff`: when the two windows of a model are the same.
-/

namespace Lmrs

open Python Json Posix Footprint DiskReading

/-! ## The first stated window -/

/-- The first of the keys under which a positive integer is found holds `n`. -/
def FirstStated (entry : String → Option Value) (keys : List String) (n : Int) : Prop :=
  ∃ before key after, keys = before ++ key :: after ∧
    (entry key).bind Value.asInt? = some n ∧ 0 < n ∧
    ∀ k ∈ before, ∀ m, (entry k).bind Value.asInt? = some m → m ≤ 0

/-- The integer an entry of a mapping is. -/
theorem asInt?_item (d : Dict Value) (k : String) :
    (Value.item d k).asInt? = (Dict.get? d k).bind Value.asInt? := by
  unfold Value.item
  cases Dict.get? d k <;> rfl

/-- Of no keys, none is stated first. -/
theorem not_firstStated_nil (entry : String → Option Value) (n : Int) : ¬ FirstStated entry [] n := by
  rintro ⟨before, key, after, heq, -⟩
  simp at heq

/-- The first key states the window, or it states none and a later one does. -/
theorem firstStated_cons {entry : String → Option Value} {key : String} {keys : List String} {n : Int} :
    FirstStated entry (key :: keys) n ↔
      ((entry key).bind Value.asInt? = some n ∧ 0 < n) ∨
        ((∀ m, (entry key).bind Value.asInt? = some m → m ≤ 0) ∧ FirstStated entry keys n) := by
  constructor
  · rintro ⟨before, key', after, heq, hentry, hpos, hbefore⟩
    cases before with
    | nil =>
        obtain ⟨rfl, -⟩ := List.cons.inj heq
        exact Or.inl ⟨hentry, hpos⟩
    | cons first before =>
        obtain ⟨rfl, rfl⟩ := List.cons.inj heq
        refine Or.inr ⟨hbefore key (by simp), before, key', after, rfl, hentry, hpos, ?_⟩
        exact fun k hk => hbefore k (List.mem_cons_of_mem _ hk)
  · rintro (⟨hentry, hpos⟩ | ⟨hnone, before, key', after, rfl, hentry, hpos, hbefore⟩)
    · exact ⟨[], key, keys, rfl, hentry, hpos, by simp⟩
    · refine ⟨key :: before, key', after, rfl, hentry, hpos, ?_⟩
      intro k hk
      rcases List.mem_cons.mp hk with rfl | hmem
      · exact hnone
      · exact hbefore k hmem

/-- What a search through the keys finds is what is stated first. -/
theorem find?_eq_some_iff {entry : String → Option Value} {keys : List String} {n : Int} :
    (keys.filterMap fun key => (entry key).bind Value.asInt?).find? (fun m => decide (0 < m)) = some n ↔
      FirstStated entry keys n := by
  induction keys with
  | nil => simp [not_firstStated_nil]
  | cons key keys ih =>
      rw [firstStated_cons, ← ih, List.filterMap_cons]
      cases hentry : (entry key).bind Value.asInt? with
      | none => simp
      | some m =>
          by_cases hpos : 0 < m
          · rw [List.find?_cons_of_pos (by simpa using hpos)]
            simp only [Option.some.injEq, forall_eq']
            omega
          · rw [List.find?_cons_of_neg (by simpa using hpos)]
            simp only [Option.some.injEq, forall_eq']
            constructor
            · exact fun hlater => Or.inr ⟨by omega, hlater⟩
            · rintro (⟨rfl, hm⟩ | ⟨-, hlater⟩)
              · exact absurd hm hpos
              · exact hlater

/-- **A positive window is the first one stated.** -/
theorem contextWindow_eq_iff {config : Dict Value} {n : Int} (hn : 0 < n) :
    contextWindow config = n ↔ FirstStated (Dict.get? config) contextWindowKeys n := by
  rw [← find?_eq_some_iff]
  unfold contextWindow
  simp only [asInt?_item]
  cases (contextWindowKeys.filterMap fun key => (Dict.get? config key).bind Value.asInt?).find?
      fun m => decide (0 < m) with
  | none =>
      simp
      omega
  | some m => simp

/-- The window of a record is read as that of a profile, from other entries. -/
theorem declaredContextWindow_eq (config : Dict Value) :
    declaredContextWindow config = contextWindow config := rfl

/-! ## The entries of the text section -/

/-- The entry of a config with its text section laid over it: that of the section where it has one. A
mapping read from a file has a key once; the last entry is the one an update leaves. -/
def overlaid (config : Dict Value) (key : String) : Option Value :=
  match (Dict.get? config "text_config").bind Value.asDict? with
  | some textConfig => (Dict.get? textConfig.reverse key).or (Dict.get? config key)
  | none => Dict.get? config key

/-- What a profile is derived from. -/
theorem get?_mergedConfig (config : Dict Value) (key : String) :
    Dict.get? (mergedConfig config) key = overlaid config key := by
  have hsection : (Value.item config "text_config").asDict? =
      (Dict.get? config "text_config").bind Value.asDict? := by
    unfold Value.item
    cases Dict.get? config "text_config" <;> rfl
  unfold mergedConfig overlaid
  rw [hsection]
  cases (Dict.get? config "text_config").bind Value.asDict? with
  | none => rfl
  | some textConfig => exact Dict.get?_update config textConfig key

/-! ## What a text section may set -/

/-- An entry states the window `n`: it is that positive integer. -/
def States (entry : Option Value) (n : Int) : Prop := entry.bind Value.asInt? = some n ∧ 0 < n

/-- An entry states no window: there is none, or it is no positive integer. -/
def Silent (entry : Option Value) : Prop := ∀ m, entry.bind Value.asInt? = some m → m ≤ 0

/-- **What a text section may set** under the keys of a window. `key` is the first key under which the top
level states a window, and `n` that window. -/
inductive KeepsWindow (top text : String → Option Value) (keys : List String) : Prop
  /-- The section states no window before `key`, and does not set `key`. -/
  | untouched (before : List String) (key : String) (after : List String) (n : Int)
      (hkeys : keys = before ++ key :: after) (htop : States (top key) n)
      (hbefore : ∀ k ∈ before, Silent (top k) ∧ Silent (text k)) (hkey : text key = none)
  /-- The first window the section states, at `key` or before it, is `n` again. -/
  | restated (before : List String) (key : String) (after : List String) (n : Int)
      (hkeys : keys = before ++ key :: after) (htop : States (top key) n)
      (hbefore : ∀ k ∈ before, Silent (top k)) (hkey : FirstStated text (before ++ [key]) n)
  /-- The section sets `key` to what is no window, and at a later key `n` is stated again: by the section,
  or by the top level where the section does not set that key. Between the two it leaves no window. -/
  | moved (before : List String) (key : String) (between : List String) (later : String)
      (after : List String) (n : Int) (hkeys : keys = before ++ key :: (between ++ later :: after))
      (htop : States (top key) n) (hbefore : ∀ k ∈ before, Silent (top k) ∧ Silent (text k))
      (hkey : text key ≠ none ∧ Silent (text key))
      (hbetween : ∀ k ∈ between, Silent (text k) ∧ (text k = none → Silent (top k)))
      (hlater : States (text later) n ∨ text later = none ∧ States (top later) n)

/-- **The text section of a config, if it has one, keeps its window.** -/
def WindowKept (config : Dict Value) : Prop :=
  ∀ textConfig, (Dict.get? config "text_config").bind Value.asDict? = some textConfig →
    KeepsWindow (Dict.get? config) (Dict.get? textConfig.reverse) contextWindowKeys

section overlay

variable {top text : String → Option Value} {keys : List String} {n : Int} {a b : Option Value}

/-- No entry states no window. -/
theorem silent_none : Silent none := by
  intro m h
  cases h

/-- A window is stated or it is not. -/
theorem not_silent_of_states (h : States a n) : ¬ Silent a := by
  intro hsilent
  exact absurd h.2 (not_lt.mpr (hsilent n h.1))

/-- What one entry laid over another states. -/
theorem states_or : States (a.or b) n ↔ States a n ∨ a = none ∧ States b n := by
  cases a with
  | none => simp [States]
  | some v => simp [States]

/-- When one entry laid over another states nothing. -/
theorem silent_or : Silent (a.or b) ↔ Silent a ∧ (a = none → Silent b) := by
  cases a with
  | none => simp [silent_none]
  | some v => simp

/-- Where the section keeps the window, it is the first one stated, with the section laid over it or not. -/
theorem KeepsWindow.firstStated (h : KeepsWindow top text keys) :
    ∃ n, FirstStated top keys n ∧ FirstStated (fun k => (text k).or (top k)) keys n := by
  cases h with
  | untouched before key after n hkeys htop hbefore hkey =>
      have hover : States ((text key).or (top key)) n := states_or.mpr (Or.inr ⟨hkey, htop⟩)
      refine ⟨n, ⟨before, key, after, hkeys, htop.1, htop.2, fun k hk => (hbefore k hk).1⟩,
        before, key, after, hkeys, hover.1, hover.2, fun k hk => ?_⟩
      exact silent_or.mpr ⟨(hbefore k hk).2, fun _ => (hbefore k hk).1⟩
  | restated before key after n hkeys htop hbefore hkey =>
      obtain ⟨earlier, found, rest, hsplit, hentry, hpos, hearlier⟩ := hkey
      have hover : States ((text found).or (top found)) n := states_or.mpr (Or.inl ⟨hentry, hpos⟩)
      have hmem : ∀ k ∈ earlier, k ∈ before := by
        intro k hk
        have hdrop := congrArg List.dropLast hsplit
        rw [List.dropLast_concat, List.dropLast_append_of_ne_nil (List.cons_ne_nil _ _)] at hdrop
        rw [hdrop]
        exact List.mem_append_left _ hk
      have hall : keys = earlier ++ found :: (rest ++ after) := by
        rw [hkeys, List.append_cons before key after, hsplit, List.append_assoc, List.cons_append]
      refine ⟨n, ⟨before, key, after, hkeys, htop.1, htop.2, hbefore⟩,
        earlier, found, rest ++ after, hall, hover.1, hover.2, fun k hk => ?_⟩
      exact silent_or.mpr ⟨hearlier k hk, fun _ => hbefore k (hmem k hk)⟩
  | moved before key between later after n hkeys htop hbefore hkey hbetween hlater =>
      have hover : States ((text later).or (top later)) n := states_or.mpr hlater
      have hall : keys = (before ++ key :: between) ++ later :: after := by
        rw [hkeys, List.append_assoc, List.cons_append]
      refine ⟨n, ⟨before, key, _, hkeys, htop.1, htop.2, fun k hk => (hbefore k hk).1⟩,
        before ++ key :: between, later, after, hall, hover.1, hover.2, fun k hk => silent_or.mpr ?_⟩
      rcases List.mem_append.mp hk with hk | hk
      · exact ⟨(hbefore k hk).2, fun _ => (hbefore k hk).1⟩
      · rcases List.mem_cons.mp hk with rfl | hk
        · exact ⟨hkey.2, fun hnone => absurd hnone hkey.1⟩
        · exact hbetween k hk

/-- A key under which neither states a window does not matter. -/
theorem KeepsWindow.cons {key : String} (htop : Silent (top key)) (htext : Silent (text key))
    (h : KeepsWindow top text keys) : KeepsWindow top text (key :: keys) := by
  cases h with
  | untouched before found after n hkeys hn hbefore hkey =>
      exact .untouched (key :: before) found after n (congrArg (key :: ·) hkeys) hn
        (List.forall_mem_cons.mpr ⟨⟨htop, htext⟩, hbefore⟩) hkey
  | restated before found after n hkeys hn hbefore hkey =>
      exact .restated (key :: before) found after n (congrArg (key :: ·) hkeys) hn
        (List.forall_mem_cons.mpr ⟨htop, hbefore⟩) (firstStated_cons.mpr (Or.inr ⟨htext, hkey⟩))
  | moved before found between later after n hkeys hn hbefore hkey hbetween hlater =>
      exact .moved (key :: before) found between later after n (congrArg (key :: ·) hkeys) hn
        (List.forall_mem_cons.mpr ⟨⟨htop, htext⟩, hbefore⟩) hkey hbetween hlater

/-- **When the first window stated is the same with the section laid over it.** -/
theorem keepsWindow_iff : KeepsWindow top text keys ↔
    ∃ n, FirstStated top keys n ∧ FirstStated (fun k => (text k).or (top k)) keys n := by
  refine ⟨KeepsWindow.firstStated, ?_⟩
  induction keys with
  | nil =>
      rintro ⟨n, h, -⟩
      exact absurd h (not_firstStated_nil top n)
  | cons key keys ih =>
      rintro ⟨n, htop, hover⟩
      rcases firstStated_cons.mp htop with hn | ⟨hsilent, hlater⟩
      · cases htext : text key with
        | none => exact .untouched [] key keys n rfl hn (by simp) htext
        | some v =>
            rcases firstStated_cons.mp hover with hsame | ⟨hnone, between, later, after, hkeys, hm, hpos, hall⟩
            · rcases states_or.mp hsame with hstates | ⟨hnone, -⟩
              · exact .restated [] key keys n rfl hn (by simp) (firstStated_cons.mpr (Or.inl hstates))
              · rw [htext] at hnone
                cases hnone
            · refine .moved [] key between later after n (congrArg (key :: ·) hkeys) hn (by simp) ?_ ?_
                (states_or.mp ⟨hm, hpos⟩)
              · exact ⟨by simp [htext], (silent_or.mp hnone).1⟩
              · exact fun k hk => silent_or.mp (hall k hk)
      · rcases firstStated_cons.mp hover with hsame | ⟨hnone, hrest⟩
        · rcases states_or.mp hsame with hstates | ⟨-, hstates⟩
          · obtain ⟨before, found, after, hkeys, hentry, hpos, hbefore⟩ := hlater
            exact .restated (key :: before) found after n (congrArg (key :: ·) hkeys) ⟨hentry, hpos⟩
              (List.forall_mem_cons.mpr ⟨hsilent, hbefore⟩) (firstStated_cons.mpr (Or.inl hstates))
          · exact absurd hsilent (not_silent_of_states hstates)
        · exact .cons hsilent (silent_or.mp hnone).1 (ih ⟨n, hlater, hrest⟩)

end overlay

/-- The window of a profile is that of the config it is derived from, with its text section laid over it. -/
theorem deriveKvCacheProfile_window {config : Dict Value} {dtype : Option String}
    {profile : {p : KVCacheProfile // p.Positive}} (h : deriveKvCacheProfile config dtype = some profile) :
    profile.1.declaredContextWindow = contextWindow (mergedConfig config) := by
  unfold deriveKvCacheProfile at h
  dsimp only at h
  split at h
  · split_ifs at h
    cases h
    rfl
  · cases h

/-- **The two windows of one config are the same exactly when its text section keeps the window.** -/
theorem declaredContextWindow_eq_profile_iff {config : Dict Value} {dtype : Option String}
    {profile : {p : KVCacheProfile // p.Positive}} (h : deriveKvCacheProfile config dtype = some profile) :
    declaredContextWindow config = profile.1.declaredContextWindow ↔ WindowKept config := by
  have hpos := profile.2.declaredContextWindow
  have hprofile : FirstStated (overlaid config) contextWindowKeys profile.1.declaredContextWindow := by
    have hmerged := (contextWindow_eq_iff hpos).mp (deriveKvCacheProfile_window h).symm
    rwa [funext (get?_mergedConfig config)] at hmerged
  rw [declaredContextWindow_eq, contextWindow_eq_iff hpos]
  unfold WindowKept
  unfold overlaid at hprofile
  cases htext : (Dict.get? config "text_config").bind Value.asDict? with
  | none =>
      simp only [htext] at hprofile
      simpa using hprofile
  | some textConfig =>
      simp only [htext] at hprofile
      simp only [Option.some.injEq, forall_eq']
      rw [keepsWindow_iff]
      constructor
      · exact fun hrecord => ⟨_, hrecord, hprofile⟩
      · rintro ⟨n, hrecord, hover⟩
        have hsame : n = profile.1.declaredContextWindow :=
          Option.some.inj ((find?_eq_some_iff.mpr hover).symm.trans (find?_eq_some_iff.mpr hprofile))
        rwa [hsame] at hrecord

/-! ## The windows of a cached model -/

/-- What a command reads of a model is what a disk cache answers and a disk holds. -/
structure Readings.OfDisk (r : Readings) (cache : HubCache) (store : CacheStore) (hub : RawPath) : Prop where
  answers : r.cache = cache.answering store hub
  configJson : ∀ path, r.configJson path =
    (store.disk.textAt ((RawPath.parse path).child "config.json")).bind (loads cache.floats)

/-- The status a command reads is that of the disk. -/
theorem Readings.OfDisk.status {r : Readings} {cache : HubCache} {store : CacheStore} {hub : RawPath}
    (hreads : r.OfDisk cache store hub) (hhub : (hubCacheRoot cache.cacheRoot store.disk).1 = .ok hub)
    (modelName : String) : r.cache.status modelName = cache.status store modelName := by
  unfold HubCache.status
  rw [hhub, hreads.answers]
  rfl

namespace HubCache

variable {cache : HubCache} {store : CacheStore} {modelName : String} {hub repo snapshot : RawPath}
  {disk : Disk} {found : HubScan} {scan : SnapshotScan}

/-- The config of a scan is the one the snapshot holds. -/
theorem scanSnapshot_config (h : (cache.scanSnapshot snapshot disk).1 = .ok scan) :
    scan.modelConfig = readJson cache.floats (disk.textAt (snapshot.child "config.json")) := by
  obtain ⟨text, htext, h⟩ := Reading.bind_answers h
  cases readText_answers.symm.trans htext
  obtain ⟨weights, -, h⟩ := Reading.bind_answers h
  obtain ⟨broken, -, h⟩ := Reading.bind_answers h
  obtain ⟨missing, -, h⟩ := Reading.bind_answers h
  obtain ⟨tokenizer, -, h⟩ := Reading.bind_answers h
  obtain ⟨size, -, h⟩ := Reading.bind_answers h
  obtain ⟨instant, -, h⟩ := Reading.bind_answers h
  cases h
  rfl

/-- The hub directory is a clean path. -/
theorem hubCacheRoot_clean {cacheRoot : String} (h : (hubCacheRoot cacheRoot disk).1 = .ok hub) :
    hub.Clean := by
  have hroot := RawPath.clean_parse cacheRoot
  unfold hubCacheRoot at h
  dsimp only at h
  split_ifs at h with hname
  · cases h
    exact hroot
  · obtain ⟨isHub, -, h⟩ := Reading.bind_answers h
    split_ifs at h
    · cases h
      exact hroot.child (by decide)
    · cases h
      exact hroot

/-- The snapshot of a repository at a clean path is at one. -/
theorem snapshotDirectory_clean {revision : String} (hrepo : repo.Clean)
    (h : (snapshotDirectory repo revision disk).1 = .ok (some snapshot)) : snapshot.Clean := by
  unfold snapshotDirectory at h
  split_ifs at h
  · cases h
  · obtain ⟨present, -, h⟩ := Reading.bind_answers h
    split_ifs at h
    · cases h
      exact (hrepo.child (by decide)).join (RawPath.clean_parse revision)
    · cases h

/-- The snapshot a scan finds. -/
theorem scanHub_snapshot (h : (cache.scanHub modelName disk).1 = .ok (some found))
    (hsnapshot : found.snapshot = some (snapshot, scan)) :
    snapshot.Clean ∧
      scan.modelConfig = readJson cache.floats (disk.textAt (snapshot.child "config.json")) := by
  obtain ⟨repo, hrepo, h⟩ := Reading.bind_answers h
  obtain ⟨present, -, h⟩ := Reading.bind_answers h
  split_ifs at h
  · obtain ⟨revision, -, h⟩ := Reading.bind_answers h
    obtain ⟨incomplete, -, h⟩ := Reading.bind_answers h
    obtain ⟨directory, hdirectory, h⟩ := Reading.bind_answers h
    cases directory with
    | none =>
        cases h
        cases hsnapshot
    | some directory =>
        obtain ⟨found_scan, hscan, h⟩ := Reading.bind_answers h
        cases h
        cases hsnapshot
        obtain ⟨hub, hhub, hchild⟩ := cache.repoDirectory_iff.mp hrepo
        have hclean : repo.Clean := by
          rw [← hchild]
          exact (hubCacheRoot_clean hhub).child (isName_repoDirectoryName modelName)
        exact ⟨snapshotDirectory_clean hclean hdirectory, scanSnapshot_config hscan⟩
  · cases h

/-- The window and the path in the record of a complete repository. -/
theorem cachedRecord_window {result : CacheCommandResult} {record : CachedModelRecord}
    (hhub : (hubCacheRoot cache.cacheRoot store.disk).1 = .ok hub)
    (hdir : store.disk.tree.isDir (hub.child (repoDirectoryName modelName)) = true)
    (hstatus : cache.status store modelName = .ok result) (hrecord : result.record = some record)
    (hcached : record.cacheStatus = .cachedOnDisk) :
    record.declaredContextWindow = declaredContextWindow (readJson cache.floats
      (store.disk.textAt ((RawPath.parse record.modelPath).child "config.json"))) := by
  obtain ⟨stored, marker, hscan⟩ := cache.scanRecord_iff (cache.repoDirectory_iff.mpr ⟨hub, hhub, rfl⟩) hdir
  rw [cache.status_eq hhub, map_eq_ok] at hstatus
  obtain ⟨answered, hanswered, rfl⟩ := hstatus
  obtain ⟨scanned, hscanned, rfl⟩ := map_eq_ok.mp hanswered
  obtain ⟨found, hfound, rfl⟩ := (hscan scanned).mp hscanned
  cases hrecord
  obtain ⟨snapshot, scan, hsnapshot, -⟩ := cache.recordOf_cached_iff.mp hcached
  obtain ⟨hclean, hconfig⟩ := scanHub_snapshot hfound hsnapshot
  have hrecorded : cache.recordOf modelName found stored marker =
      cache.snapshotRecord modelName found.repo snapshot found.revision found.incomplete stored scan
        marker := by
    unfold recordOf
    rw [hsnapshot]
  have hpath : RawPath.parse (cache.recordOf modelName found stored marker).modelPath = snapshot := by
    rw [hrecorded]
    exact RawPath.parse_text hclean
  rw [hpath, hrecorded, ← hconfig]
  rfl

end HubCache

/-- A profile that is found is derived from the config at the path in the record. -/
theorem modelKvProfile_derived {r : Readings} {modelName : String} {result : CacheCommandResult}
    {record : CachedModelRecord} {profile : {p : KVCacheProfile // p.Positive}}
    (hstatus : r.cache.status modelName = .ok result) (hrecord : result.record = some record)
    (hprofile : modelKvProfile r modelName = .ok (some profile)) :
    ∃ config, r.configJson record.modelPath = some (.dict config) ∧
      deriveKvCacheProfile config (r.environ "LMRS_KV_CACHE_DTYPE") = some profile := by
  unfold modelKvProfile at hprofile
  obtain ⟨_, hanswer, hprofile⟩ := bind_eq_ok.mp hprofile
  cases hstatus.symm.trans hanswer
  rw [hrecord] at hprofile
  dsimp only at hprofile
  split_ifs at hprofile
  · cases hprofile
  · split at hprofile
    · next config hconfig => exact ⟨config, hconfig, Except.ok.inj hprofile⟩
    · cases hprofile

/-- **The recorded window is the enforced one exactly when the text section keeps it.** For every cache,
store and model whose repository directory is there and complete, and every derivation of its profile from
what the disk holds: the record that the status reports states the window of the profile if and only if its
`config.json` has no `text_config`, or one that, of the four window keys, sets only what `KeepsWindow` allows. -/
theorem recordedWindow_eq_profile_iff (cache : HubCache) (store : CacheStore) (r : Readings)
    (modelName : String) {hub : RawPath} {result : CacheCommandResult} {record : CachedModelRecord}
    {config : Dict Value} {profile : {p : KVCacheProfile // p.Positive}}
    (hhub : (hubCacheRoot cache.cacheRoot store.disk).1 = .ok hub)
    (hdir : store.disk.tree.isDir (hub.child (repoDirectoryName modelName)) = true)
    (hreads : r.OfDisk cache store hub) (hstatus : cache.status store modelName = .ok result)
    (hrecord : result.record = some record) (hcached : record.cacheStatus = .cachedOnDisk)
    (hconfig : r.configJson record.modelPath = some (.dict config))
    (hprofile : modelKvProfile r modelName = .ok (some profile)) :
    record.declaredContextWindow = profile.1.declaredContextWindow ↔ WindowKept config := by
  obtain ⟨loaded, hloaded, hderived⟩ :=
    modelKvProfile_derived ((hreads.status hhub modelName).trans hstatus) hrecord hprofile
  cases hconfig.symm.trans hloaded
  have hread : readJson cache.floats
      (store.disk.textAt ((RawPath.parse record.modelPath).child "config.json")) = config := by
    unfold readJson
    rw [← hreads.configJson, hconfig]
  rw [HubCache.cachedRecord_window hhub hdir hstatus hrecord hcached, hread]
  exact declaredContextWindow_eq_profile_iff hderived

/-! ## A config with a text section -/

/-- A config that states everything in its text section. -/
def sectionConfig : Dict Value :=
  [("text_config", .dict [("num_hidden_layers", .int 2), ("num_attention_heads", .int 4),
    ("hidden_size", .int 64), ("max_position_embeddings", .int 32)])]

/-- A complete repository with that config. -/
def sectionRepository : Disk where
  tree :=
    { entries := [(["c"], .dir), (["c", "models--m"], .dir), (["c", "models--m", "snapshots"], .dir),
        (["c", "models--m", "snapshots", "r"], .dir),
        (["c", "models--m", "snapshots", "r", "model.safetensors"], .file),
        (["c", "models--m", "snapshots", "r", "config.json"], .file)]
      cwd := []
      distinct := by decide
      rooted := by simp [kindIn]
      named := by simp [IsName] }
  data := fun l =>
    if l = ["c", "models--m", "snapshots", "r", "config.json"] then
      { text := (dumps wholeFloats (.dict sectionConfig)).toOption }
    else {}

/-- What commands read of it. -/
def sectionReadings : Readings where
  cache := bareCache.answering ⟨sectionRepository, []⟩ (RawPath.parse "/c")
  configJson := fun path =>
    (sectionRepository.textAt ((RawPath.parse path).child "config.json")).bind (loads wholeFloats)

theorem sectionReadings_ofDisk :
    sectionReadings.OfDisk bareCache ⟨sectionRepository, []⟩ (RawPath.parse "/c") := ⟨rfl, fun _ => rfl⟩

/-- The status of the model in it, and its profile. -/
theorem sectionRepository_reads : ∃ result record profile,
    bareCache.status ⟨sectionRepository, []⟩ "m" = .ok result ∧ result.record = some record ∧
      record.cacheStatus = .cachedOnDisk ∧ record.declaredContextWindow = 0 ∧
      modelKvProfile sectionReadings "m" = .ok (some profile) ∧
      profile.1.declaredContextWindow = 32 := by
  have hread : ((bareCache.status ⟨sectionRepository, []⟩ "m").toOption.bind
      CacheCommandResult.record).map (fun record =>
        (record.cacheStatus, record.declaredContextWindow)) =
      some (.cachedOnDisk, 0) := by decide +kernel
  have hderived : ((modelKvProfile sectionReadings "m").toOption.bind id).map
      (fun profile => profile.1.declaredContextWindow) = some 32 := by decide +kernel
  cases hstatus : bareCache.status ⟨sectionRepository, []⟩ "m" with
  | error exc => simp [hstatus, Except.toOption] at hread
  | ok result =>
      cases hprofile : modelKvProfile sectionReadings "m" with
      | error exc => simp [hprofile, Except.toOption] at hderived
      | ok found =>
          obtain ⟨record, hrecord, hfields⟩ := Option.map_eq_some_iff.mp hread
          obtain ⟨profile, hfound, hwindow⟩ := Option.map_eq_some_iff.mp hderived
          simp only [hstatus, Except.toOption, Option.bind_some] at hrecord
          simp only [hprofile, Except.toOption, Option.bind_some, id] at hfound
          obtain ⟨hcached, hrecorded⟩ := Prod.mk.inj hfields
          exact ⟨result, record, profile, rfl, hrecord, hcached, hrecorded, congrArg Except.ok hfound,
            hwindow⟩

/-- The statement of that repository. -/
theorem recordedWindow_eq_profile_section : ∃ (record : CachedModelRecord)
    (profile : {p : KVCacheProfile // p.Positive}) (config : Dict Value),
    sectionReadings.configJson record.modelPath = some (.dict config) ∧
      modelKvProfile sectionReadings "m" = .ok (some profile) ∧
      (record.declaredContextWindow = profile.1.declaredContextWindow ↔ WindowKept config) := by
  obtain ⟨result, record, profile, hstatus, hrecord, hcached, -, hprofile, -⟩ := sectionRepository_reads
  obtain ⟨config, hconfig, -⟩ :=
    modelKvProfile_derived ((sectionReadings_ofDisk.status rfl "m").trans hstatus) hrecord hprofile
  exact ⟨record, profile, config, hconfig, hprofile, recordedWindow_eq_profile_iff bareCache
    ⟨sectionRepository, []⟩ sectionReadings "m" (by rfl) (by decide +kernel) sectionReadings_ofDisk hstatus
    hrecord hcached hconfig hprofile⟩

/-- **A window stated in the text section alone is enforced and not recorded.** -/
theorem recordedWindow_ne_profile :
    ¬ ∀ (cache : HubCache) (store : CacheStore) (r : Readings) (modelName : String) (hub : RawPath)
        (result : CacheCommandResult) (record : CachedModelRecord)
        (profile : {p : KVCacheProfile // p.Positive}),
        (hubCacheRoot cache.cacheRoot store.disk).1 = .ok hub →
          store.disk.tree.isDir (hub.child (repoDirectoryName modelName)) = true →
          r.OfDisk cache store hub → cache.status store modelName = .ok result →
          result.record = some record → record.cacheStatus = .cachedOnDisk →
          modelKvProfile r modelName = .ok (some profile) →
          record.declaredContextWindow = profile.1.declaredContextWindow := by
  intro hclaim
  obtain ⟨result, record, profile, hstatus, hrecord, hcached, hrecorded, hprofile, hwindow⟩ :=
    sectionRepository_reads
  have hsame := hclaim bareCache ⟨sectionRepository, []⟩ sectionReadings "m" (RawPath.parse "/c") result record
    profile (by rfl) (by decide +kernel) sectionReadings_ofDisk hstatus hrecord hcached hprofile
  rw [hrecorded, hwindow] at hsame
  exact absurd hsame (by decide)

end Lmrs
