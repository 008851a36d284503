import Lmrs.Integrity
import Lmrs.Lib.Posix.Removal
import Lmrs.Lib.Text

/-!
# The names of cached models

Source: `lmrs/model_cache.py`, `repo_directory_name`, `model_name_from_repo_directory`,
`DiskModelCache._cached_model_names`, `DiskModelCache.list_models`.

The name of a directory has two dashes for each slash of the model's. It is read back from the left, so that a
dash before a slash comes out after it.

* `replaceDashes_iff`: which names are read back.
* `replaceSlashes_replaceDashes`: what is read is written back.
* `listed_once`: what a listing shows of a directory.
-/

namespace Lmrs

open Python Posix Footprint Reading DiskReading

/-! ## Names and directory names -/

/-- `text.replace("--", "/")`. -/
def replaceDashes : List Char → List Char
  | '-' :: '-' :: cs => '/' :: replaceDashes cs
  | c :: cs => c :: replaceDashes cs
  | [] => []

/-- `text.replace("/", "--")`. -/
def replaceSlashes (cs : List Char) : List Char := (cs.map fun c => if c = '/' then ['-', '-'] else [c]).flatten

/-- Source: `model_cache.py`, `_HUB_REPO_PREFIX`. -/
def hubRepoPrefix : List Char := "models--".toList

/-- Source: `model_cache.py`, `model_name_from_repo_directory`. -/
def modelNameFromRepoDirectory (directoryName : String) : String :=
  if hubRepoPrefix.isPrefixOf directoryName.toList then
    String.ofList (replaceDashes (directoryName.toList.drop hubRepoPrefix.length))
  else ""

/-- What is read from a text without slashes has no dash before a slash. -/
theorem replaceDashes_spec {cs : List Char} (h : '/' ∉ cs) : ¬ ['-', '/'] <:+: replaceDashes cs := by
  induction cs using replaceDashes.induct with
  | case1 cs ih =>
      rw [replaceDashes, List.infix_cons_iff, not_or]
      refine ⟨?_, ih fun hmem => h (by simp [hmem])⟩
      simp
  | case2 c cs hdashes ih =>
      rw [List.mem_cons, not_or] at h
      rw [replaceDashes.eq_2 _ _ hdashes, List.infix_cons_iff, not_or]
      refine ⟨fun hpre => ?_, ih h.2⟩
      obtain ⟨rfl, hnext⟩ := List.cons_prefix_cons.mp hpre
      -- the slash after it would come from two dashes, of which the first goes with this one
      cases cs with
      | nil => simp [replaceDashes] at hnext
      | cons c' cs' =>
          have hc' : c' ≠ '-' := by
            rintro rfl
            exact hdashes cs' rfl rfl
          rw [replaceDashes.eq_2 _ _ fun _ hc _ => hc' hc] at hnext
          obtain rfl := (List.cons_prefix_cons.mp hnext).1
          exact h.2 (List.mem_cons_self ..)
  | case3 => simp [replaceDashes]

/-- Nothing written so has a slash. -/
theorem slash_not_mem_replaceSlashes (cs : List Char) : '/' ∉ replaceSlashes cs := slash_not_mem cs

/-- **A text without slashes is written back** from what it is read as. -/
theorem replaceSlashes_replaceDashes {cs : List Char} (h : '/' ∉ cs) : replaceSlashes (replaceDashes cs) = cs := by
  induction cs using replaceDashes.induct with
  | case1 cs ih =>
      have hrest := ih fun hmem => h (by simp [hmem])
      unfold replaceSlashes at hrest ⊢
      simp [replaceDashes, hrest]
  | case2 c cs hdashes ih =>
      rw [List.mem_cons, not_or] at h
      have hrest := ih h.2
      unfold replaceSlashes at hrest ⊢
      simp [replaceDashes.eq_2 _ _ hdashes, Ne.symm h.1, hrest]
  | case3 => rfl

/-- **A name without two dashes is read back exactly when it has no dash before a slash.** -/
theorem replaceDashes_iff {cs : List Char} (h : ¬ ['-', '-'] <:+: cs) :
    replaceDashes (replaceSlashes cs) = cs ↔ ¬ ['-', '/'] <:+: cs := by
  constructor
  · intro hback
    rw [← hback]
    exact replaceDashes_spec (slash_not_mem cs)
  · intro hslash
    induction cs with
    | nil => rfl
    | cons c cs ih =>
        rw [List.infix_cons_iff, not_or] at h hslash
        have hrest := ih h.2 hslash.2
        by_cases hc : c = '/'
        · have hwritten : replaceSlashes (c :: cs) = '-' :: '-' :: replaceSlashes cs := by
            simp [replaceSlashes, hc]
          rw [hwritten, replaceDashes, hrest, hc]
        · have hwritten : replaceSlashes (c :: cs) = c :: replaceSlashes cs := by
            simp [replaceSlashes, hc]
          rw [hwritten, replaceDashes.eq_2, hrest]
          rintro rest rfl hnext
          -- what is after a dash starts with neither a dash nor a slash
          cases cs with
          | nil => cases hnext
          | cons c' cs' =>
              have hdash : c' ≠ '-' := by
                rintro rfl
                exact h.1 (by simp)
              have hslash' : c' ≠ '/' := by
                rintro rfl
                exact hslash.1 (by simp)
              have hhead : replaceSlashes (c' :: cs') = c' :: replaceSlashes cs' := by
                simp [replaceSlashes, hslash']
              rw [hhead] at hnext
              exact hdash (List.cons.inj hnext).1

/-- A name without a slash at its ends. -/
structure NoSlashAtEnds (name : String) : Prop where
  first : name.toList.head? ≠ some '/'
  last : name.toList.getLast? ≠ some '/'

instance (name : String) : Decidable (NoSlashAtEnds name) :=
  decidable_of_iff (name.toList.head? ≠ some '/' ∧ name.toList.getLast? ≠ some '/')
    ⟨fun h => ⟨h.1, h.2⟩, fun h => ⟨h.first, h.last⟩⟩

/-- A model name whose directory is told apart: no two dashes in it, no slash at its ends. -/
structure PlainName (name : String) : Prop extends NoSlashAtEnds name where
  dashes : contains "--" name = false

/-- The directory name of a name without a slash at its ends. -/
theorem toList_directory_of_ends {name : String} (h : NoSlashAtEnds name) :
    (repoDirectoryName name).toList = hubRepoPrefix ++ replaceSlashes name.toList := by
  have hstripped {cs : List Char} (hhead : cs.head? ≠ some '/') :
      cs.dropWhile (fun c => decide (c = '/')) = cs := by
    cases cs with
    | nil => rfl
    | cons c cs => exact List.dropWhile_cons_of_neg (by simpa using hhead)
  unfold repoDirectoryName
  dsimp only
  rw [hstripped h.first, hstripped (by simpa using h.last), List.reverse_reverse, String.toList_append,
    String.toList_ofList, String.toList_ofList]
  rfl

/-- What the directory name of such a name is read as. -/
theorem toList_decoded_of_ends {name : String} (h : NoSlashAtEnds name) :
    (modelNameFromRepoDirectory (repoDirectoryName name)).toList = replaceDashes (replaceSlashes name.toList) := by
  unfold modelNameFromRepoDirectory
  rw [toList_directory_of_ends h, if_pos (List.isPrefixOf_iff_prefix.mpr (List.prefix_append _ _)), List.drop_left,
    String.toList_ofList]

/-- What a name is read as has the directory of the name, if it has no slash at its ends either. -/
theorem repoDirectory_round_trip {name : String} (h : NoSlashAtEnds name)
    (hends : NoSlashAtEnds (modelNameFromRepoDirectory (repoDirectoryName name))) :
    repoDirectoryName (modelNameFromRepoDirectory (repoDirectoryName name)) = repoDirectoryName name := by
  apply String.toList_inj.mp
  rw [toList_directory_of_ends hends, toList_decoded_of_ends h,
    replaceSlashes_replaceDashes (slash_not_mem_replaceSlashes name.toList), toList_directory_of_ends h]

/-- A name that is not empty is read as one that is not empty. -/
theorem decoded_ne_empty {name : String} (h : NoSlashAtEnds name) (hne : name ≠ "") :
    modelNameFromRepoDirectory (repoDirectoryName name) ≠ "" := by
  intro hempty
  have hnil := (toList_decoded_of_ends h).symm.trans (congrArg String.toList hempty)
  have hback := replaceSlashes_replaceDashes (slash_not_mem_replaceSlashes name.toList)
  rw [hnil] at hback
  cases hname : name.toList with
  | nil => exact hne (String.toList_eq_nil_iff.mp hname)
  | cons c cs =>
      rw [hname] at hback
      by_cases hc : c = '/'
      · simp [replaceSlashes, hc] at hback
      · simp [replaceSlashes, hc] at hback

/-- **Which plain names come back from their directory names.** -/
theorem modelName_round_trip {name : String} (h : PlainName name) :
    modelNameFromRepoDirectory (repoDirectoryName name) = name ↔ contains "-/" name = false := by
  have hdashes : ¬ ['-', '-'] <:+: name.toList := by
    intro hinfix
    have hcontains : contains "--" name = true := contains_iff.mpr hinfix
    rw [h.dashes] at hcontains
    cases hcontains
  rw [Bool.eq_false_iff, ne_eq, contains_iff, ← String.toList_inj, toList_decoded_of_ends h.toNoSlashAtEnds]
  exact replaceDashes_iff hdashes

/-! ## Listing -/

namespace HubCache

/-- Source: `model_cache.py`, `DiskModelCache._cached_model_names`. -/
def cachedModelNames (cache : HubCache) : DiskReading (List String) := do
  let hub ← hubCacheRoot cache.cacheRoot
  if ← isDir hub then
    let children ← iterdir hub
    let repos ← Reading.select (fun name => do
      return (← isDir (hub.child name)) && hubRepoPrefix.isPrefixOf name.toList) children
    return ((repos.map modelNameFromRepoDirectory).dedup.filter fun name => name ≠ "").insertionSort (· ≤ ·)
  else return []

/-- The names of the supplied records that the cache directory does not hold. -/
def seededNames (records : List CachedModelRecord) (names : List String) : List String :=
  (records.map CachedModelRecord.modelName).filter fun name => name ∉ names

/-- The entry of a record in a listing. -/
def entryValue (record : CachedModelRecord) : Value :=
  .dict
    [("model_name", .str record.modelName), ("cache_status", .str record.cacheStatus.text),
     ("size_bytes", .int record.sizeBytes), ("revision", .str record.checksumOrRevision),
     ("model_path", .str record.modelPath)]

/-- The listing of some records. -/
def listing (cache : HubCache) (hub : RawPath) (present : List CachedModelRecord) : CacheCommandResult where
  command := "list_models"
  modelName := ""
  status := .cachedOnDisk
  success := true
  metadata :=
    [("models", namesValue (present.map CachedModelRecord.modelName)), ("count", .int present.length),
     ("cache_root", .str cache.cacheRoot), ("hub_cache_root", .str hub.text),
     ("entries", .list (present.map entryValue))]

/-- Source: `model_cache.py`, `DiskModelCache.list_models`. -/
def listModels (cache : HubCache) (store : CacheStore) : Except PyException CacheCommandResult := do
  let names ← (cache.cachedModelNames store.disk).1
  let records ← (names ++ seededNames store.records names).mapM (cache.record store)
  let hub ← (hubCacheRoot cache.cacheRoot store.disk).1
  return cache.listing hub records.reduceOption

/-! ## What a listing shows -/

section listing

variable {cache : HubCache} {store : CacheStore} {hub : RawPath} {name : String}

/-- A directory below a path is listed there. -/
theorem mem_children_of_isDir {t : Tree} {p : RawPath} {n : String} (hn : n ≠ "..") (h : t.isDir (p.child n) = true) :
    ∃ d, t.locate true p = .ok d ∧ t.kind d = some .dir ∧ n ∈ t.children d := by
  obtain ⟨l, hl, -⟩ := Tree.isDir_iff.mp h
  obtain ⟨d, hd, hdir⟩ := Tree.locate_before hn hl
  refine ⟨d, hd, hdir, ?_⟩
  rw [Tree.mem_children, Option.isSome_iff_ne_none]
  intro hnone
  rw [Tree.locate_child hd hdir hn (by simp [hnone]), if_pos hnone] at hl
  cases hl

/-- **The names of the directories of the hub.** -/
theorem cachedModelNames_iff (cache : HubCache) (hhub : (hubCacheRoot cache.cacheRoot store.disk).1 = .ok hub) :
    ∃ names, (cache.cachedModelNames store.disk).1 = .ok names ∧ names.Nodup ∧
      (∀ x ∈ names, x ≠ "" ∧ ∃ n, store.disk.tree.isDir (hub.child n) = true ∧ modelNameFromRepoDirectory n = x) ∧
      ∀ n, store.disk.tree.isDir (hub.child n) = true → n ≠ ".." → hubRepoPrefix <+: n.toList →
        modelNameFromRepoDirectory n ≠ "" → modelNameFromRepoDirectory n ∈ names := by
  unfold cachedModelNames
  simp only [bind_answers_iff, hhub, isDir_answers, Except.ok.injEq, exists_eq_left']
  by_cases hdir : store.disk.tree.isDir hub = true
  · obtain ⟨d, hd, hkind⟩ := Tree.isDir_iff.mp hdir
    have hchildren : (iterdir hub store.disk).1 = .ok ((store.disk.tree.children d).insertionSort (· ≤ ·)) := by
      unfold iterdir
      rw [bind_answers_iff]
      exact ⟨.ok d, congrArg Except.ok hd, rfl⟩
    have hselected := @select_of_answers _ _ _ _ store.disk
      (fun name => (do return (← isDir (hub.child name)) && hubRepoPrefix.isPrefixOf name.toList : DiskReading Bool))
      (fun name => store.disk.tree.isDir (hub.child name) && hubRepoPrefix.isPrefixOf name.toList)
      ((store.disk.tree.children d).insertionSort (· ≤ ·)) fun name => by
        rw [bind_answers_iff]
        exact ⟨_, isDir_answers, rfl⟩
    rw [hdir]
    simp only [if_true, bind_answers_iff, hchildren, Except.ok.injEq, exists_eq_left', hselected,
      pure_answers_iff]
    refine ⟨?_, fun x hx => ?_, fun n hn hdots hprefix hname => ?_⟩
    · rw [(List.perm_insertionSort _ _).nodup_iff]
      exact (List.nodup_dedup _).filter _
    · rw [List.mem_insertionSort, List.mem_filter, List.mem_dedup, decide_eq_true_eq] at hx
      obtain ⟨n, hn, rfl⟩ := List.mem_map.mp hx.1
      exact ⟨hx.2, n, (Bool.and_eq_true_iff.mp (List.mem_filter.mp hn).2).1, rfl⟩
    · rw [List.mem_insertionSort, List.mem_filter, List.mem_dedup, decide_eq_true_eq]
      refine ⟨List.mem_map_of_mem (List.mem_filter.mpr ⟨?_, ?_⟩), hname⟩
      · obtain ⟨d', hd', -, hmem⟩ := mem_children_of_isDir hdots hn
        rw [hd] at hd'
        cases hd'
        exact (List.mem_insertionSort _).mpr hmem
      · rw [hn, Bool.true_and]
        exact List.isPrefixOf_iff_prefix.mpr hprefix
  · rw [Bool.not_eq_true] at hdir
    rw [hdir]
    simp only [Bool.false_eq_true, if_false, pure_answers_iff]
    refine ⟨[], rfl, List.nodup_nil, by simp, fun n hn hdots => ?_⟩
    obtain ⟨d, hd, hkind, -⟩ := mem_children_of_isDir hdots hn
    rw [(Tree.isDir_iff).mpr ⟨d, hd, hkind⟩] at hdir
    cases hdir

/-- What is found in the hub is found in the directory of the model. -/
theorem scanHub_repo {disk : Disk} {found : HubScan} (hrepo : (cache.repoDirectory name disk).1 = .ok hub)
    (h : (cache.scanHub name disk).1 = .ok (some found)) : found.repo = hub := by
  unfold scanHub at h
  simp only [bind_answers_iff, hrepo, isDir_answers, Except.ok.injEq, exists_eq_left'] at h
  split_ifs at h
  · obtain ⟨revision, -, h⟩ := bind_answers h
    obtain ⟨incomplete, -, h⟩ := bind_answers h
    obtain ⟨snapshot, -, h⟩ := bind_answers h
    cases snapshot with
    | none =>
        cases h
        rfl
    | some snapshot =>
        obtain ⟨scan, -, h⟩ := bind_answers h
        cases h
        rfl
  · cases h

/-- A record of what is found has the name it was looked for, and its directory. -/
theorem recordOf_name (cache : HubCache) (name : String) (found : HubScan) (stored : Dict Value)
    (marker : Option String) :
    (cache.recordOf name found stored marker).modelName = name ∧
      Value.item (cache.recordOf name found stored marker).metadata "repo_directory" = .str found.repo.text := by
  unfold recordOf
  cases found.snapshot with
  | none => exact ⟨rfl, rfl⟩
  | some snapshot => exact ⟨rfl, rfl⟩

/-- A record that is found has the name it was looked for. -/
theorem record_name {record : CachedModelRecord} (h : cache.record store name = .ok (some record)) :
    record.modelName = name := by
  unfold HubCache.record at h
  cases hscan : (cache.scanRecord name store.disk).1 with
  | error exc =>
      rw [hscan] at h
      cases h
  | ok found =>
      rw [hscan] at h
      rcases Option.or_eq_some_iff.mp (Except.ok.inj h) with rfl | ⟨-, hseeded⟩
      · obtain ⟨scan, -, hscan⟩ := bind_answers hscan
        cases scan with
        | none => cases hscan
        | some scan =>
            obtain ⟨stored, -, hscan⟩ := bind_answers hscan
            obtain ⟨marker, -, hscan⟩ := bind_answers hscan
            cases hscan
            exact (cache.recordOf_name name scan stored marker).1
      · simpa using List.find?_some hseeded

/-- What is traversed comes from a member. -/
theorem exists_of_mem_mapM {α β : Type} {f : α → Except PyException β} {xs : List α} {ys : List β}
    (h : xs.mapM f = .ok ys) {y : β} (hy : y ∈ ys) : ∃ x ∈ xs, f x = .ok y := by
  induction xs generalizing ys with
  | nil =>
      cases h
      cases hy
  | cons x xs ih =>
      rw [List.mapM_cons] at h
      obtain ⟨first, hfirst, h⟩ := bind_eq_ok.mp h
      obtain ⟨rest, hrest, h⟩ := bind_eq_ok.mp h
      cases h
      rcases List.mem_cons.mp hy with rfl | hmem
      · exact ⟨x, List.mem_cons_self .., hfirst⟩
      · obtain ⟨x', hx', heq⟩ := ih hrest hmem
        exact ⟨x', List.mem_cons_of_mem _ hx', heq⟩

/-- A traversal that answers has an answer for each member. -/
theorem answers_of_mapM {α β : Type} {f : α → Except PyException β} {xs : List α} {ys : List β}
    (h : xs.mapM f = .ok ys) : ∀ x ∈ xs, ∃ y, f x = .ok y := by
  induction xs generalizing ys with
  | nil => simp
  | cons x xs ih =>
      rw [List.mapM_cons] at h
      obtain ⟨first, hfirst, h⟩ := bind_eq_ok.mp h
      obtain ⟨rest, hrest, -⟩ := bind_eq_ok.mp h
      exact List.forall_mem_cons.mpr ⟨⟨first, hfirst⟩, ih hrest⟩

/-- **What one of the names looked up gives is shown once**, when no other is of its kind. -/
theorem mapM_split {α β : Type} {f : α → Except PyException (Option β)} {xs ys : List α} {x : α}
    {found : List (Option β)} (h : (xs ++ x :: ys).mapM f = .ok found) {b : β} (hb : f x = .ok (some b)) :
    ∃ before after, found.reduceOption = before ++ b :: after ∧
      ∀ b' ∈ before ++ after, ∃ x' ∈ xs ++ ys, f x' = .ok (some b') := by
  rw [List.mapM_append] at h
  obtain ⟨before, hbefore, h⟩ := bind_eq_ok.mp h
  obtain ⟨rest, hrest, h⟩ := bind_eq_ok.mp h
  rw [List.mapM_cons] at hrest
  obtain ⟨first, hfirst, hrest⟩ := bind_eq_ok.mp hrest
  obtain ⟨after, hafter, hrest⟩ := bind_eq_ok.mp hrest
  cases hrest
  cases h
  rw [hb] at hfirst
  cases hfirst
  refine ⟨before.reduceOption, after.reduceOption, ?_, fun b' hb' => ?_⟩
  · rw [List.reduceOption_append, List.reduceOption_cons_of_some]
  · rcases List.mem_append.mp hb' with hmem | hmem
    · obtain ⟨x', hx', heq⟩ := exists_of_mem_mapM hbefore (List.reduceOption_mem_iff.mp hmem)
      exact ⟨x', List.mem_append_left _ hx', heq⟩
    · obtain ⟨x', hx', heq⟩ := exists_of_mem_mapM hafter (List.reduceOption_mem_iff.mp hmem)
      exact ⟨x', List.mem_append_right _ hx', heq⟩

end listing

/-- A listing shows the directory of a model once, under the name of the model, and its status reads that
directory. -/
def ShownOnce (cache : HubCache) (store : CacheStore) (hub : RawPath) (name : String)
    (result : CacheCommandResult) : Prop :=
  ∃ before record after, result = cache.listing hub (before ++ record :: after) ∧ record.modelName = name ∧
    (∀ other ∈ before ++ after, repoDirectoryName other.modelName ≠ repoDirectoryName name) ∧
    Value.item record.metadata "repo_directory" = .str (hub.child (repoDirectoryName name)).text ∧
    ∃ status, cache.status store name = .ok status ∧ status.record = some record

/-- No supplied record, and no other directory of the hub, goes by another spelling of a name. -/
structure SpelledOnce (store : CacheStore) (hub : RawPath) (name : String) : Prop where
  records : ∀ item ∈ store.records, repoDirectoryName item.modelName = repoDirectoryName name →
    item.modelName = name
  directories : ∀ n, store.disk.tree.isDir (hub.child n) = true →
    repoDirectoryName (modelNameFromRepoDirectory n) = repoDirectoryName name → n = repoDirectoryName name

/-- A directory is shown once under a name that comes back from it. -/
theorem shownOnce_of_back (cache : HubCache) {store : CacheStore} {hub : RawPath} {name : String}
    {result : CacheCommandResult} (hback : modelNameFromRepoDirectory (repoDirectoryName name) = name)
    (hne : name ≠ "") (hhub : (hubCacheRoot cache.cacheRoot store.disk).1 = .ok hub)
    (hdir : store.disk.tree.isDir (hub.child (repoDirectoryName name)) = true)
    (hspelled : SpelledOnce store hub name) (hlist : cache.listModels store = .ok result) :
    cache.ShownOnce store hub name result := by
  obtain ⟨names, hnames, hnodup, hfrom, hall⟩ := cachedModelNames_iff cache hhub
  have hmem : name ∈ names := by
    obtain ⟨cs, hcs, -⟩ := toList_repoDirectoryName name
    have hlisted := hall (repoDirectoryName name) hdir (isName_repoDirectoryName name).2.2.1
      ⟨cs, hcs.symm⟩ (by rwa [hback])
    rwa [hback] at hlisted
  -- no other name of the listing leads to the directory
  have hother : ∀ x ∈ names ++ seededNames store.records names, x ≠ name →
      repoDirectoryName x ≠ repoDirectoryName name := by
    intro x hx hxne heq
    rcases List.mem_append.mp hx with hx | hx
    · obtain ⟨-, n, hn, rfl⟩ := hfrom x hx
      rw [hspelled.directories n hn heq, hback] at hxne
      exact hxne rfl
    · obtain ⟨hx, -⟩ := List.mem_filter.mp hx
      obtain ⟨item, hitem, rfl⟩ := List.mem_map.mp hx
      exact hxne (hspelled.records item hitem heq)
  have hseeded : name ∉ seededNames store.records names := by
    intro hx
    simpa [hmem] using (List.mem_filter.mp hx).2
  obtain ⟨xs, ys, rfl⟩ := List.append_of_mem hmem
  unfold listModels at hlist
  rw [hnames, hhub] at hlist
  obtain ⟨_, heq, hlist⟩ := bind_eq_ok.mp hlist
  cases heq
  obtain ⟨found, hfound, hlist⟩ := bind_eq_ok.mp hlist
  cases hlist
  rw [List.append_assoc, List.cons_append] at hfound
  -- the directory is scanned, so the name has the record of what is found there
  obtain ⟨record, hrecord, hrecordName, hrepo⟩ : ∃ record, cache.record store name = .ok (some record) ∧
      record.modelName = name ∧
        Value.item record.metadata "repo_directory" = .str (hub.child (repoDirectoryName name)).text := by
    obtain ⟨answer, hanswer⟩ := answers_of_mapM hfound name (by simp)
    have hrepoDirectory : (cache.repoDirectory name store.disk).1 = .ok (hub.child (repoDirectoryName name)) :=
      (repoDirectory_iff cache).mpr ⟨hub, hhub, rfl⟩
    obtain ⟨stored, marker, hscan⟩ := cache.scanRecord_iff hrepoDirectory hdir
    have hrecord := hanswer
    unfold HubCache.record at hanswer
    cases hscanned : (cache.scanRecord name store.disk).1 with
    | error exc =>
        rw [hscanned] at hanswer
        cases hanswer
    | ok scanned =>
        obtain ⟨scan, hscan, rfl⟩ := (hscan scanned).mp hscanned
        rw [hscanned] at hanswer
        cases hanswer
        obtain ⟨hrecordName, hrepo⟩ := cache.recordOf_name name scan stored marker
        rw [scanHub_repo hrepoDirectory hscan] at hrepo
        exact ⟨_, hrecord, hrecordName, hrepo⟩
  obtain ⟨before, after, hsplit, hrest⟩ := mapM_split hfound hrecord
  refine ⟨before, record, after, by rw [hsplit], hrecordName, fun other hmem' => ?_, hrepo, ?_⟩
  · obtain ⟨x, hx, hxrecord⟩ := hrest other hmem'
    rw [record_name hxrecord]
    have honce := (List.nodup_middle.mp hnodup).notMem
    refine hother x ?_ ?_
    · rw [List.append_assoc, List.cons_append, List.mem_append, List.mem_cons]
      exact (List.mem_append.mp hx).imp id Or.inr
    · rintro rfl
      rcases List.mem_append.mp hx with hin | hin
      · exact honce (List.mem_append_left _ hin)
      · exact (List.mem_append.mp hin).elim (fun hin => honce (List.mem_append_right _ hin)) hseeded
  · rw [cache.status_eq hhub, hrecord]
    exact ⟨_, rfl, rfl⟩

/-- **What a listing shows the directory of a plain name as.** For every model name without two dashes and without a
slash at its ends: what its directory name is read as is the name if and only if it has no dash before a slash; and
where the name is not empty, and what it is read as has no slash at its ends either, in every cache, store and
listing of it, a directory of that name in the hub is shown once, under what it is read as, and the status of that
name is read from it, unless something else in the listing goes by another spelling of it. -/
theorem listed_once {name : String} (h : PlainName name) :
    (modelNameFromRepoDirectory (repoDirectoryName name) = name ↔ contains "-/" name = false) ∧
      (name ≠ "" → NoSlashAtEnds (modelNameFromRepoDirectory (repoDirectoryName name)) →
        ∀ (cache : HubCache) (store : CacheStore) (hub : RawPath) (result : CacheCommandResult),
          (hubCacheRoot cache.cacheRoot store.disk).1 = .ok hub →
          store.disk.tree.isDir (hub.child (repoDirectoryName name)) = true →
            SpelledOnce store hub (modelNameFromRepoDirectory (repoDirectoryName name)) →
              cache.listModels store = .ok result →
                cache.ShownOnce store hub (modelNameFromRepoDirectory (repoDirectoryName name)) result) := by
  refine ⟨modelName_round_trip h, fun hne hends cache store hub result hhub hdir hspelled hlist => ?_⟩
  have hsame := repoDirectory_round_trip h.toNoSlashAtEnds hends
  refine cache.shownOnce_of_back (by rw [hsame]) (decoded_ne_empty h.toNoSlashAtEnds hne) hhub ?_ hspelled hlist
  rwa [hsame]

/-- A hub with the directories of two models. -/
def listedStore : CacheStore where
  disk :=
    { tree :=
        { entries := [(["c"], .dir), (["c", "models--a---b"], .dir), (["c", "models--org--m"], .dir)]
          cwd := []
          distinct := by decide
          rooted := by decide
          named := by decide }
      data := fun _ => {} }

/-- In such a hub no directory but its own is read as a name. -/
theorem listedStore_spelled {name : String}
    (h : ∀ n ∈ ["models--a---b", "models--org--m"],
      repoDirectoryName (modelNameFromRepoDirectory n) = repoDirectoryName name → n = repoDirectoryName name)
    (hparent : repoDirectoryName "" ≠ repoDirectoryName name) :
    SpelledOnce listedStore (RawPath.parse "/c") name := by
  refine ⟨nofun, fun n hdir hread => ?_⟩
  obtain ⟨l, hl, hkind⟩ := Tree.isDir_iff.mp hdir
  by_cases hdots : n = ".."
  · rw [hdots] at hread
    exact absurd hread hparent
  · have hroot : listedStore.disk.tree.locate true (RawPath.parse "/c") = .ok ["c"] := by decide
    have hplain : ∀ target, listedStore.disk.tree.kind (["c"] ++ [n]) ≠ some (.symlink target) := by
      intro target hlink
      have hmem := Tree.mem_of_kind (by simp) hlink
      simp [listedStore] at hmem
    rw [Tree.locate_child hroot (by decide) hdots fun _ => hplain] at hl
    split_ifs at hl
    cases hl
    have hmem := Tree.mem_of_kind (by simp) hkind
    exact h n (by simpa [listedStore] using hmem) hread

/-- One of the two is listed under the name it was made for, the other under the name it is read as. -/
theorem listed_once_two : ∃ result, bareCache.listModels listedStore = .ok result ∧
    bareCache.ShownOnce listedStore (RawPath.parse "/c") "org/m" result ∧
      bareCache.ShownOnce listedStore (RawPath.parse "/c") "a/-b" result := by
  have hanswers : (bareCache.listModels listedStore).isOk = true := by rfl
  cases hlist : bareCache.listModels listedStore with
  | error exc =>
      rw [hlist] at hanswers
      cases hanswers
  | ok result =>
      refine ⟨result, rfl, ?_, ?_⟩
      · exact (@listed_once "org/m" ⟨by decide, by decide⟩).2 (by decide) (by decide) bareCache listedStore
          (RawPath.parse "/c") result (by rfl) (by decide) (listedStore_spelled (by decide) (by decide)) hlist
      · exact (@listed_once "a-/b" ⟨by decide, by decide⟩).2 (by decide) (by decide) bareCache listedStore
          (RawPath.parse "/c") result (by rfl) (by decide) (listedStore_spelled (by decide) (by decide)) hlist

/-- A hub with the directory of a model, and that of the empty name, beside a supplied record under another
spelling. -/
def spelledStore : CacheStore where
  disk :=
    { tree :=
        { entries := [(["c"], .dir), (["c", "models--"], .dir), (["c", "models--org--m"], .dir)]
          cwd := []
          distinct := by decide
          rooted := by decide
          named := by decide }
      data := fun _ => {} }
  records :=
    [{ modelName := "org--m", runtimeBackend := "vllm", modelPath := "", quantizationProfile := ""
       declaredContextWindow := 0, tokenizerProfile := "", checksumOrRevision := "", sizeBytes := 0
       downloadedAt := "" }]

/-- **A name with a dash before a slash comes back as another**, and a directory of the hub can be shown twice,
or not at all. -/
theorem names_not_told_apart :
    modelNameFromRepoDirectory (repoDirectoryName "a-/b") = "a/-b" ∧
      (bareCache.listModels spelledStore).map (fun result => Value.item result.metadata "models") =
        .ok (.list [.str "org/m", .str "org--m"]) ∧
      ¬ ∀ name, PlainName name → modelNameFromRepoDirectory (repoDirectoryName name) = name ∧
        ∀ (cache : HubCache) (store : CacheStore) (hub : RawPath) (result : CacheCommandResult),
          (hubCacheRoot cache.cacheRoot store.disk).1 = .ok hub →
          store.disk.tree.isDir (hub.child (repoDirectoryName name)) = true →
            cache.listModels store = .ok result → cache.ShownOnce store hub name result := by
  have hread : modelNameFromRepoDirectory (repoDirectoryName "a-/b") = "a/-b" := by decide
  refine ⟨hread, by rfl, fun hclaim => ?_⟩
  have hback := (hclaim "a-/b" ⟨by decide, by decide⟩).1
  rw [hread] at hback
  exact absurd hback (by decide)

end HubCache

end Lmrs
