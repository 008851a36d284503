import Lmrs.CacheGround
import Lmrs.DeleteFaults
import Lmrs.Lib.Json.Canonical

/-!
# The store of operator metadata

Source: `lmrs/model_cache.py`, `DiskModelCache.update_metadata`, `DiskModelCache._stored_metadata`,
`DiskModelCache.preload`, `DiskModelCache.delete`.

What operators note of a model is one file in its state directory. An update reads it, lays its entries over what
it reads, and writes it; a deletion removes the directory; a preload writes another file there.

* `Kept.preload_same`, `Kept.updateMetadata_leaves`, `Kept.delete_leaves`: what each command does to the files.
* `HubCache.told`: what the requests of a run say is noted of a model.
* `metadata_told`: over every run the metadata stored are those told, and no request that fails and no preload
  changes them.
-/

namespace Lmrs

open Python Json Posix Footprint DiskReading Reading

variable {cache : HubCache} {bystander modelName owner : String} {c h : Location} {hub : RawPath}
  {disk disk' : Disk} {host : CacheHost}

/-! ## Files of the state of LMRS -/

/-- What is at a place, and its text. -/
def Disk.entry (disk : Disk) (l : Location) : Option Kind × StoredText := (disk.tree.kind l, (disk.data l).text)

/-- A text set elsewhere leaves a text. -/
theorem Disk.setText_text_of_ne {l m : Location} (disk : Disk) (hne : l ≠ m) (text : StoredText) (now : Int) :
    ((disk.setText m text now).data l).text = (disk.data l).text := by
  unfold Disk.setText
  simp [hne]

/-- The stored metadata of a model are what its file holds. -/
theorem storedMetadata_answers (cache : HubCache) (modelName : String) (disk : Disk) :
    (cache.storedMetadata modelName disk).1 =
      .ok (readJson cache.floats (disk.textAt (cache.metadataFile modelName))) := by
  unfold HubCache.storedMetadata
  rw [answer_bind readText_answers]
  rfl

/-- What is removed by its path leaves the entries it does not lead to. -/
theorem Disk.rmtree_entry {p : RawPath} {l : Location} (now : Int)
    (hout : ∀ d, disk.tree.locate false p = .ok d → ¬ d <+: l) :
    (disk.retree (disk.tree.rmtree p).tree now).entry l = disk.entry l := by
  refine Prod.ext ?_ (disk.retree_text _ now l)
  rcases (disk.tree.rmtree_changes p).2 l with hsame | ⟨-, d, hd, hin⟩
  · exact hsame
  · exact absurd hin (hout d hd)

/-- What a write of a file in the state directory `n` did: the file has the text, if the write succeeded, and is as
it was else, and beside the directories on the way nothing is changed. -/
structure Wrote (F : FloatText) (c : Location) (n file : String) (facts : Dict Value) (disk : Disk)
    (out : Except PyException (Option String) × Disk) : Prop where
  others : ∀ l, l ≠ stateRoot c → l ≠ stateRoot c ++ [n] → l ≠ stateRoot c ++ [n, file] →
    out.2.entry l = disk.entry l
  written : out.1 = .ok none → ∃ text, dumps F (.dict facts) = .ok text ∧
    out.2.entry (stateRoot c ++ [n, file]) = (some .file, some text)
  failed : out.1 ≠ .ok none → out.2.entry (stateRoot c ++ [n, file]) = disk.entry (stateRoot c ++ [n, file])

namespace Layout

variable {file : String}

/-- The text of a file in the state directory of a model. -/
theorem textAt_state (owner : String) (hlayout : Layout cache bystander c h hub disk) (hfile : IsName file) :
    disk.textAt ((cache.stateDirectory owner).child file) =
      if (disk.entry (stateRoot c ++ [repoDirectoryName owner, file])).1 = some .file then
        (disk.entry (stateRoot c ++ [repoDirectoryName owner, file])).2 else none :=
  Except.ok.inj (readText_answers.symm.trans (hlayout.readText_state owner file hfile))

/-- The text of a file that is left as it is. -/
theorem textAt_same (hlayout : Layout cache bystander c h hub disk)
    (hleft : Layout cache bystander c h hub disk') (hfile : IsName file)
    (hentry : disk'.entry (stateRoot c ++ [repoDirectoryName owner, file]) =
      disk.entry (stateRoot c ++ [repoDirectoryName owner, file])) :
    disk'.textAt ((cache.stateDirectory owner).child file) =
      disk.textAt ((cache.stateDirectory owner).child file) := by
  rw [hleft.textAt_state owner hfile, hlayout.textAt_state owner hfile, hentry]

/-- A write of a file in the state directory of a model. -/
theorem writeJson_wrote (hlayout : Layout cache bystander c h hub disk) (hfile : IsName file)
    (hdone : host.writes = .done) (F : FloatText) (modelName : String) (facts : Dict Value) :
    Wrote F c (repoDirectoryName modelName) file facts disk
      (disk.writeJson F host ((cache.stateDirectory modelName).child file) facts) := by
  have hfails {out : Except PyException (Option String) × Disk} (hout : out.1 ≠ .ok none)
      (hsame : ∀ l, l ≠ stateRoot c → l ≠ stateRoot c ++ [repoDirectoryName modelName] →
        out.2.entry l = disk.entry l) : Wrote F c (repoDirectoryName modelName) file facts disk out :=
    ⟨fun l hs hn _ => hsame l hs hn, fun hok => absurd hok hout, fun _ => hsame _ (by simp) (by simp)⟩
  unfold Disk.writeJson
  rw [hdone, Tree.parent_child]
  dsimp only
  cases hmade : disk.tree.makeDirs (cache.stateDirectory modelName).absolute
      (cache.stateDirectory modelName).parts.reverse with
  | error error => exact hfails (by simp) fun _ _ _ => rfl
  | ok made =>
      obtain ⟨hleft, hroot, hdir, hkind⟩ := hlayout.makeDirs_state hmade
      have hparents (l : Location) (hs : l ≠ stateRoot c)
          (hn : l ≠ stateRoot c ++ [repoDirectoryName modelName]) :
          (disk.retree made host.now).entry l = disk.entry l :=
        Prod.ext (hkind l hs hn) (disk.retree_text made host.now l)
      cases htext : dumps F (.dict facts) with
      | error exc => exact hfails (by simp) hparents
      | ok text =>
          have hopened := hlayout.openTarget_state hfile hmade
          rw [List.append_assoc, List.singleton_append] at hopened
          -- the file is opened where it is or made, and has the text then
          have hwrites {opened : Tree}
              (hkind : opened.kind (stateRoot c ++ [repoDirectoryName modelName, file]) = some .file)
              (hsame : ∀ l, l ≠ stateRoot c ++ [repoDirectoryName modelName, file] → opened.kind l = made.kind l) :
              Wrote F c (repoDirectoryName modelName) file facts disk
                (.ok none, ((disk.retree made host.now).retree opened host.now).setText
                  (stateRoot c ++ [repoDirectoryName modelName, file]) (some text) host.now) := by
            refine ⟨fun l hs hn hl => ?_, fun _ => ⟨text, htext, ?_⟩, fun hfailed => absurd rfl hfailed⟩
            · rw [← hparents l hs hn]
              refine Prod.ext (hsame l hl) ?_
              show (Disk.setText _ _ _ _ |>.data l).text = _
              rw [Disk.setText_text_of_ne _ hl]
              exact Disk.retree_text ..
            · exact Prod.ext hkind (Disk.setText_text ..)
          dsimp only
          rw [hopened]
          split_ifs with hfree hthere
          · have hnew := Tree.kind_create (k := .file) ⟨hdir, hfile, by simpa using hfree⟩
            refine hwrites ?_ fun l hl => ?_
            · rw [hnew, if_pos (by simp)]
            · rw [hnew, if_neg (by simpa using hl)]
          · exact hwrites hthere fun _ _ => rfl
          · exact hfails (by simp) hparents

end Layout

/-- What a write of a file in the state directory of a model did to the texts there: the file has the text, if the
write succeeded, and every other is as it was. -/
structure Stored (cache : HubCache) (modelName file : String) (facts : Dict Value) (disk : Disk)
    (out : Except PyException (Option String) × Disk) : Prop where
  others : ∀ owner other, IsName other → repoDirectoryName owner ≠ repoDirectoryName modelName ∨ other ≠ file →
    out.2.textAt ((cache.stateDirectory owner).child other) = disk.textAt ((cache.stateDirectory owner).child other)
  written : out.1 = .ok none → ∃ text, dumps cache.floats (.dict facts) = .ok text ∧
    out.2.textAt ((cache.stateDirectory modelName).child file) = some text
  failed : out.1 ≠ .ok none → out.2.textAt ((cache.stateDirectory modelName).child file) =
    disk.textAt ((cache.stateDirectory modelName).child file)

/-- In a layout, texts are where they are read. -/
theorem Wrote.stored {file : String} {facts : Dict Value} {out : Except PyException (Option String) × Disk}
    (hwrote : Wrote cache.floats c (repoDirectoryName modelName) file facts disk out) (hfile : IsName file)
    (hlayout : Layout cache bystander c h hub disk) (hleft : Layout cache bystander c h hub out.2) :
    Stored cache modelName file facts disk out where
  others owner other hother hne := by
    refine hlayout.textAt_same hleft hother (hwrote.others _ (by simp) (by simp) ?_)
    intro heq
    rw [List.append_cancel_left_eq] at heq
    obtain ⟨howner, hfiles⟩ := List.cons.inj heq
    exact hne.elim (fun hne => hne howner) fun hne => hne (List.singleton_inj.mp hfiles)
  written hok := by
    obtain ⟨text, htext, hentry⟩ := hwrote.written hok
    refine ⟨text, htext, ?_⟩
    rw [hleft.textAt_state modelName hfile, hentry, if_pos rfl]
  failed hfailed := hlayout.textAt_same hleft hfile (hwrote.failed hfailed)

namespace Unmade

variable {made : Tree}

/-- As long as the root is not there, no text is. -/
theorem textAt_none (hunmade : Unmade cache c made disk) (owner file : String) :
    disk.textAt ((cache.stateDirectory owner).child file) = none := by
  have hgone : disk.tree.gone (cache.stateDirectory owner) = false :=
    Tree.gone_child _ (isName_repoDirectoryName owner).2.2.1
  unfold Disk.textAt
  rw [Tree.locate_child_error true (fun _ => hgone) (hunmade.state_nowhere owner)]

/-- Nor is one once it is made. -/
theorem textAt_eq (hunmade : Unmade cache c made disk) {grown : Disk} (hgrown : grown.tree = made)
    (hlayout : Layout cache bystander c h hub grown) (owner : String) {file : String} (hfile : IsName file) :
    grown.textAt ((cache.stateDirectory owner).child file) =
      disk.textAt ((cache.stateDirectory owner).child file) := by
  have hkind : (grown.entry (stateRoot c ++ [repoDirectoryName owner, file])).1 = none := by
    show grown.tree.kind _ = none
    rw [hgrown]
    exact Tree.kind_none_of_below (by simp [hunmade.free]) (List.cons_ne_nil _ _)
  rw [hunmade.textAt_none, hlayout.textAt_state owner hfile, hkind, if_neg (by simp)]

end Unmade

namespace Kept

/-- A disk whose root is there, in which a command writes and downloads as in a disk. -/
structure Grown (cache : HubCache) (bystander : String) (c h : Location) (hub : RawPath) (host : CacheHost)
    (disk grown : Disk) : Prop where
  layout : Layout cache bystander c h hub grown
  texts : ∀ owner file, IsName file →
    grown.textAt ((cache.stateDirectory owner).child file) = disk.textAt ((cache.stateDirectory owner).child file)
  writes : host.writes = .done → ∀ (F : FloatText) (modelName file : String) (facts : Dict Value),
    disk.writeJson F host ((cache.stateDirectory modelName).child file) facts =
      grown.writeJson F host ((cache.stateDirectory modelName).child file) facts
  hubRoot : (hubCacheRoot cache.cacheRoot disk).1 = .ok hub
  fetches : ∀ (download : Download) (modelName : String),
    HubCache.fetch host download modelName hub disk = HubCache.fetch host download modelName hub grown

/-- **A command finds the root there, or makes it.** -/
theorem grown (hkept : Kept cache bystander c h hub disk) (host : CacheHost) :
    ∃ grown, Grown cache bystander c h hub host disk grown := by
  cases hkept with
  | laid hlayout =>
      exact ⟨disk, hlayout, fun _ _ _ => rfl, fun _ _ _ _ _ => rfl, hlayout.hubRoot, fun _ _ => rfl⟩
  | @unmade made hunmade hat hhub hfree =>
      subst hat hhub
      have hlayout := (hunmade.placed_retree host.now).layout hfree
      exact ⟨disk.retree made host.now, hlayout, fun owner file hfile => hunmade.textAt_eq rfl hlayout owner hfile,
        fun hdone F => hunmade.writeJson_eq hdone F, hunmade.hubRoot, hunmade.fetch_eq host⟩

/-- **A file of a model is written.** -/
theorem writeJson_stored (file : String) (hkept : Kept cache bystander c h hub disk)
    (hne : repoDirectoryName modelName ≠ repoDirectoryName bystander) (hdone : host.writes = .done)
    (hfile : IsName file) (facts : Dict Value) :
    Kept cache bystander c h hub
        (disk.writeJson cache.floats host ((cache.stateDirectory modelName).child file) facts).2 ∧
      Stored cache modelName file facts disk
        (disk.writeJson cache.floats host ((cache.stateDirectory modelName).child file) facts) := by
  obtain ⟨grown, hgrown⟩ := hkept.grown host
  have hlayout := hgrown.layout
  have hleft := hlayout.touched hne (hlayout.writeJson_touched hfile cache.floats host facts)
  have hstored := (hlayout.writeJson_wrote hfile hdone cache.floats modelName facts).stored hfile hlayout hleft
  rw [hgrown.writes hdone]
  refine ⟨.laid hleft, ?_, hstored.written, ?_⟩
  · intro owner other hother hne
    rw [hstored.others owner other hother hne, hgrown.texts owner other hother]
  · intro hfailed
    rw [hstored.failed hfailed, hgrown.texts modelName file hfile]

end Kept

/-! ## Downloads -/

/-- Wherever the hub is, a download writes in the model's directory there and in the locks. -/
def Download.InPlace (download : Download) (modelName : String) : Prop :=
  ∀ (hub : RawPath) (h : Location) (disk : Disk), disk.tree.locate true hub = .ok h →
    download.Confined h modelName hub disk

/-- The stored metadata of every model are as before. -/
def MetadataSame (cache : HubCache) (disk disk' : Disk) : Prop :=
  ∀ owner, disk'.textAt (cache.metadataFile owner) = disk.textAt (cache.metadataFile owner)

theorem MetadataSame.refl (cache : HubCache) (disk : Disk) : MetadataSame cache disk disk := fun _ => rfl

theorem MetadataSame.trans {disk'' : Disk} (hfirst : MetadataSame cache disk disk')
    (hnext : MetadataSame cache disk' disk'') : MetadataSame cache disk disk'' :=
  fun owner => (hnext owner).trans (hfirst owner)

/-- What a download writes is apart from the state of LMRS. -/
theorem Layout.download_entry {download : Download} {l : Location} (hlayout : Layout cache bystander c h hub disk)
    (hne : repoDirectoryName modelName ≠ repoDirectoryName bystander)
    (hconfined : download.Confined h modelName hub disk) (hl : stateRoot c <+: l) :
    (download modelName hub disk).2.entry l = disk.entry l := by
  obtain ⟨-, hsame⟩ := hconfined
  obtain ⟨hkind, hdata⟩ := hsame l (fun hhub => hlayout.repo_apart hne hhub hl)
    fun hlocks => hlayout.locks_apart hlocks hl
  refine Prod.ext hkind (congrArg FileData.text (hdata ?_))
  rintro rfl
  exact hlayout.hubApart (Or.inr hl)

/-- **A download leaves the stored metadata.** -/
theorem Kept.fetch_same {download : Download} (host : CacheHost) (hkept : Kept cache bystander c h hub disk)
    (hne : repoDirectoryName modelName ≠ repoDirectoryName bystander) (hinPlace : download.InPlace modelName) :
    Kept cache bystander c h hub (HubCache.fetch host download modelName hub disk).2 ∧
      MetadataSame cache disk (HubCache.fetch host download modelName hub disk).2 := by
  obtain ⟨grown, hgrown⟩ := hkept.grown host
  have hlayout := hgrown.layout
  have hconfined := hinPlace hub h grown hlayout.hubAt
  have hleft := hlayout.touched hne (hlayout.fetch_touched host hne hconfined)
  have hfetch : HubCache.fetch host download modelName hub grown = download modelName hub grown := by
    have hpresent := Tree.makeDirs_present (Tree.isDir_iff.mpr ⟨h, hlayout.hubAt, hlayout.hubDir⟩)
    unfold HubCache.fetch
    rw [hpresent]
    dsimp only
    rw [Disk.retree_self]
  rw [hgrown.fetches]
  refine ⟨.laid hleft, fun owner => ?_⟩
  refine (hlayout.textAt_same hleft (by decide) ?_).trans (hgrown.texts owner "metadata.json" (by decide))
  rw [hfetch]
  exact hlayout.download_entry hne hconfined (List.prefix_append _ _)

/-! ## Preloads -/

namespace Kept

variable {store : CacheStore} {record : CachedModelRecord}

/-- The readiness marker is another file. -/
theorem preloaded_same (store : CacheStore) (hkept : Kept cache bystander c h hub store.disk)
    (hne : repoDirectoryName modelName ≠ repoDirectoryName bystander) (hdone : host.writes = .done)
    (hrecord : record.modelName = modelName) (how : String × Value) :
    Kept cache bystander c h hub (cache.preloaded host store modelName record how).2.disk ∧
      MetadataSame cache store.disk (cache.preloaded host store modelName record how).2.disk := by
  unfold HubCache.preloaded HubCache.writeReadinessMarker HubCache.readinessMarker
  rw [hrecord]
  obtain ⟨hleft, hstored⟩ := hkept.writeJson_stored "ready.json" hne hdone (by decide) _
  exact ⟨hleft, fun owner => hstored.others owner "metadata.json" (by decide) (Or.inr (by decide))⟩

/-- What follows a download writes no stored metadata. -/
theorem afterDownload_same (store : CacheStore) (hkept : Kept cache bystander c h hub store.disk)
    (hne : repoDirectoryName modelName ≠ repoDirectoryName bystander) (hdone : host.writes = .done)
    (downloaded : String) :
    Kept cache bystander c h hub (cache.afterDownload host store modelName downloaded).2.disk ∧
      MetadataSame cache store.disk (cache.afterDownload host store modelName downloaded).2.disk := by
  unfold HubCache.afterDownload
  split
  · exact ⟨hkept, .refl cache _⟩
  · next found hfound =>
      split
      · next record hrecord =>
          obtain ⟨rfl, -⟩ := Option.filter_eq_some_iff.mp hrecord
          exact preloaded_same store hkept hne hdone (HubCache.scanRecord_modelName hfound) _
      · exact ⟨hkept, .refl cache _⟩

/-- A model that is not complete on disk is downloaded, which writes no stored metadata. -/
theorem preloadMissing_same (store : CacheStore) (hkept : Kept cache bystander c h hub store.disk)
    (hne : repoDirectoryName modelName ≠ repoDirectoryName bystander) (hdone : host.writes = .done)
    (hinPlace : ∀ download, host.download = some download → download.InPlace modelName) :
    Kept cache bystander c h hub (cache.preloadMissing host store modelName).2.disk ∧
      MetadataSame cache store.disk (cache.preloadMissing host store modelName).2.disk := by
  unfold HubCache.preloadMissing
  split
  · exact ⟨hkept, .refl cache _⟩
  · exact ⟨hkept, .refl cache _⟩
  · next download hub' hdownload hhub =>
      obtain ⟨grown, hgrown⟩ := hkept.grown host
      obtain rfl := Except.ok.inj (hgrown.hubRoot.symm.trans hhub)
      obtain ⟨hfetched, hsame⟩ := hkept.fetch_same host hne (hinPlace download hdownload)
      dsimp only
      split
      · obtain ⟨hleft, hmarked⟩ := afterDownload_same ⟨_, store.records⟩ hfetched hne hdone _
        exact ⟨hleft, hsame.trans hmarked⟩
      · exact ⟨hfetched, hsame⟩

/-- **A preload leaves the stored metadata**, whatever it finds and downloads. -/
theorem preload_same (hkept : Kept cache bystander c h hub store.disk)
    (hne : repoDirectoryName modelName ≠ repoDirectoryName bystander) (hdone : host.writes = .done)
    (hinPlace : ∀ download, host.download = some download → download.InPlace modelName) :
    Kept cache bystander c h hub (cache.preload host store modelName).2.disk ∧
      MetadataSame cache store.disk (cache.preload host store modelName).2.disk := by
  unfold HubCache.preload
  split
  · exact ⟨hkept, .refl cache _⟩
  · next existing hexisting =>
      split
      · next record hrecord =>
          obtain ⟨rfl, -⟩ := Option.filter_eq_some_iff.mp hrecord
          exact preloaded_same store hkept hne hdone (HubCache.record_modelName hexisting) _
      · exact preloadMissing_same store hkept hne hdone hinPlace

end Kept

/-! ## Updates -/

/-- Whether a command has succeeded. -/
def succeeded : Except PyException CacheCommandResult → Bool
  | .ok result => result.success
  | .error _ => false

/-- What a command on a model leaves: its ground, the stored metadata of others, and of the model, if it fails; if
it succeeds, what it is to leave. -/
structure Leaves (cache : HubCache) (bystander : String) (c h : Location) (hub : RawPath) (modelName : String)
    (disk : Disk) (out : Except PyException CacheCommandResult × CacheStore) (done : StoredText → Prop) : Prop where
  kept : Kept cache bystander c h hub out.2.disk
  others : ∀ owner, repoDirectoryName owner ≠ repoDirectoryName modelName →
    out.2.disk.textAt (cache.metadataFile owner) = disk.textAt (cache.metadataFile owner)
  failed : succeeded out.1 = false →
    out.2.disk.textAt (cache.metadataFile modelName) = disk.textAt (cache.metadataFile modelName)
  done : succeeded out.1 = true → done (out.2.disk.textAt (cache.metadataFile modelName))

namespace Kept

variable {store : CacheStore}

/-- A command that fails and leaves the disk. -/
theorem leaves_same {done : StoredText → Prop} {outcome : Except PyException CacheCommandResult}
    (hkept : Kept cache bystander c h hub store.disk) (hfails : succeeded outcome = false) :
    Leaves cache bystander c h hub modelName store.disk (outcome, store) done where
  kept := hkept
  others _ _ := rfl
  failed _ := rfl
  done hok := by
    rw [hfails] at hok
    cases hok

/-- **An update lays its entries over what is read of the file, and writes that.** -/
theorem updateMetadata_leaves (hkept : Kept cache bystander c h hub store.disk)
    (hne : repoDirectoryName modelName ≠ repoDirectoryName bystander) (hdone : host.writes = .done)
    (metadata : Dict Value) :
    Leaves cache bystander c h hub modelName store.disk (cache.updateMetadata host store modelName metadata)
      fun left => ∃ text, dumps cache.floats (.dict (Dict.update
        (readJson cache.floats (store.disk.textAt (cache.metadataFile modelName))) metadata)) = .ok text ∧
          left = some text := by
  unfold HubCache.updateMetadata
  split
  · exact hkept.leaves_same rfl
  · exact hkept.leaves_same rfl
  · next record _ =>
      unfold HubCache.updateStored
      rw [storedMetadata_answers]
      dsimp only
      obtain ⟨hleft, hstored⟩ := hkept.writeJson_stored "metadata.json" hne hdone (by decide)
        (Dict.update (readJson cache.floats (store.disk.textAt (cache.metadataFile modelName))) metadata)
      change Stored cache modelName "metadata.json" _ store.disk
        (store.disk.writeJson cache.floats host (cache.metadataFile modelName) _) at hstored
      refine ⟨hleft, fun owner howner => hstored.others owner _ (by decide) (Or.inl howner), fun hfails => ?_,
        fun hok => ?_⟩
      · apply hstored.failed
        intro hnone
        rw [hnone] at hfails
        cases hfails
      · apply hstored.written
        cases hout : (store.disk.writeJson cache.floats host (cache.metadataFile modelName) (Dict.update
          (readJson cache.floats (store.disk.textAt (cache.metadataFile modelName))) metadata)).1 with
        | error exc =>
            rw [hout] at hok
            cases hok
        | ok error =>
            rw [hout] at hok
            cases error with
            | none => rfl
            | some message => cases hok

end Kept

/-! ## Deletions -/

namespace Layout

/-- The state directory of a model is where it is. -/
theorem stateDirectory_at (follow : Bool) (hlayout : Layout cache bystander c h hub disk)
    (hdir : disk.tree.kind (stateRoot c ++ [repoDirectoryName modelName]) = some .dir) :
    disk.tree.locate follow (cache.stateDirectory modelName) =
      .ok (stateRoot c ++ [repoDirectoryName modelName]) := by
  have hroot := (Tree.kind_parent hdir).1
  have hstate : disk.tree.locate true ((RawPath.parse cache.cacheRoot).child ".lmrs") = .ok (stateRoot c) :=
    locate_dir hlayout.root hlayout.rootDir (by decide) hroot
  rw [HubCache.stateDirectory, Tree.locate_name follow hstate hroot
    (isName_repoDirectoryName modelName).2.2.1 (by simp [hdir]), if_neg (by simp [hdir])]

/-- Whether the state directory of a model is there. -/
theorem isDir_stateDirectory (modelName : String) (hlayout : Layout cache bystander c h hub disk) :
    disk.tree.isDir (cache.stateDirectory modelName) = true ↔
      disk.tree.kind (stateRoot c ++ [repoDirectoryName modelName]) = some .dir := by
  constructor
  · intro hisDir
    obtain ⟨l, hl, hdir⟩ := Tree.isDir_iff.mp hisDir
    obtain ⟨d, hd, hparent⟩ := Tree.locate_before (isName_repoDirectoryName modelName).2.2.1 hl
    have hroot := Tree.locate_name true hlayout.root hlayout.rootDir (n := ".lmrs") (by decide)
      (hlayout.plain _ · List.prefix_rfl)
    rw [hroot] at hd
    split_ifs at hd
    cases hd
    have hstate : disk.tree.locate true ((RawPath.parse cache.cacheRoot).child ".lmrs") = .ok (stateRoot c) := by
      rw [hroot, if_neg ‹_›]
      rfl
    rw [HubCache.stateDirectory, Tree.locate_name true hstate hparent (isName_repoDirectoryName modelName).2.2.1
      (hlayout.plain _ · (List.prefix_append _ _))] at hl
    split_ifs at hl
    cases hl
    exact hdir
  · exact fun hdir => Tree.isDir_iff.mpr ⟨_, hlayout.stateDirectory_at true hdir, hdir⟩

/-- **A state directory is removed.** -/
theorem rmtree_state (hlayout : Layout cache bystander c h hub disk)
    (hne : repoDirectoryName modelName ≠ repoDirectoryName bystander)
    (hdir : disk.tree.kind (stateRoot c ++ [repoDirectoryName modelName]) = some .dir) :
    (disk.tree.rmtree (cache.stateDirectory modelName)).refusal = none := by
  -- the path leads to the directory once that is emptied
  have hcleared : Layout cache bystander c h hub
      (disk.retree (disk.tree.clear (stateRoot c ++ [repoDirectoryName modelName])) 0) := by
    refine hlayout.touched hne (.retree 0 rfl (fun l hl _ => ?_) (Or.inl ?_) fun l target _ hlink => ?_)
    · rw [Tree.kind_clear, if_neg]
      exact fun hin => hl (Or.inr hin.1)
    · rw [Tree.kind_clear, if_neg]
      intro hin
      have hlength := hin.1.length_le
      simp at hlength
    · exact (Tree.clear_leftOf _ _).kind _ _ hlink
  rcases Tree.rmtree_cases (hlayout.stateDirectory_at false hdir) hdir with ⟨-, hcase⟩ | ⟨hnames, -⟩
  · rw [hcase]
  · refine absurd ⟨by simp [HubCache.stateDirectory, RawPath.child], ?_, ?_⟩ hnames
    · have hname := (isName_repoDirectoryName modelName).2.2.1
      simpa [HubCache.stateDirectory, RawPath.child] using hname
    · exact hcleared.stateDirectory_at false ((Tree.kind_clear_self _ _).trans hdir)

/-- The state directory of a model is removed, if it is there, and nothing else is. -/
theorem removeDirs_state (now : Int) (hlayout : Layout cache bystander c h hub disk)
    (hne : repoDirectoryName modelName ≠ repoDirectoryName bystander) :
    (disk.removeDirs now [cache.stateDirectory modelName]).refusal = none ∧
      ∀ l, ¬ stateRoot c ++ [repoDirectoryName modelName] <+: l →
        (disk.removeDirs now [cache.stateDirectory modelName]).disk.entry l = disk.entry l := by
  rw [Disk.removeDirs]
  split_ifs with hdir
  · have hrefusal := hlayout.rmtree_state hne ((hlayout.isDir_stateDirectory modelName).mp hdir)
    dsimp only
    rw [hrefusal]
    refine ⟨rfl, fun l hl => Disk.rmtree_entry now fun d hd => ?_⟩
    rw [hlayout.state_located hd]
    exact hl
  · exact ⟨rfl, fun _ _ => rfl⟩

/-- **The removal of what a model has**: the state of other models stays; that of the model too, if the removal is
refused, and is gone else. -/
theorem removal_entry {now : Int} {removed : Disk.Removed} (hlayout : Layout cache bystander c h hub disk)
    (hne : repoDirectoryName modelName ≠ repoDirectoryName bystander)
    (hremoved : disk.removeDirs now [hub.child (repoDirectoryName modelName), cache.stateDirectory modelName] =
      removed) :
    (∀ l, stateRoot c <+: l →
        ¬ stateRoot c ++ [repoDirectoryName modelName] <+: l ∨ removed.refusal ≠ none →
          removed.disk.entry l = disk.entry l) ∧
      (removed.refusal = none →
        ∀ file, (removed.disk.entry (stateRoot c ++ [repoDirectoryName modelName, file])).1 = none) := by
  subst hremoved
  have hleft := hlayout.touched hne (hlayout.removeDirs_touched hne now
    [hub.child (repoDirectoryName modelName), cache.stateDirectory modelName] (by simp))
  constructor
  · intro l hl hor
    rw [Disk.removeDirs] at hor ⊢
    split_ifs at hor ⊢ with hdir
    · -- the repository directory goes first
      have hfirst : (disk.retree (disk.tree.rmtree (hub.child (repoDirectoryName modelName))).tree now).entry l =
          disk.entry l := by
        refine Disk.rmtree_entry now fun d hd hin => ?_
        obtain ⟨d', hd', -, rfl⟩ := Tree.locate_parent (isName_repoDirectoryName modelName).2.2.1 hd
        obtain rfl := Except.ok.inj (hlayout.hubAt.symm.trans hd')
        exact hlayout.repo_apart hne hin hl
      dsimp only at hor ⊢
      cases hrefusal : (disk.tree.rmtree (hub.child (repoDirectoryName modelName))).refusal with
      | some refusal => exact hfirst
      | none =>
          rw [hrefusal] at hor
          have hbetween : Layout cache bystander c h hub
              (disk.retree (disk.tree.rmtree (hub.child (repoDirectoryName modelName))).tree now) := by
            have htouched := hlayout.removeDirs_touched hne now [hub.child (repoDirectoryName modelName)] (by simp)
            rw [Disk.removeDirs, if_pos hdir] at htouched
            dsimp only at htouched
            rw [hrefusal] at htouched
            exact hlayout.touched hne htouched
          obtain ⟨hnone, hsame⟩ := hbetween.removeDirs_state now hne
          refine (hsame l (hor.resolve_right fun hrefused => hrefused hnone)).trans hfirst
    · obtain ⟨hnone, hsame⟩ := hlayout.removeDirs_state now hne
      exact hsame l (hor.resolve_right fun hrefused => hrefused hnone)
  · intro hnone file
    have hgone := Disk.removeDirs_gone hnone (cache.stateDirectory modelName) (by simp)
    have hdir : ¬ (disk.removeDirs now [hub.child (repoDirectoryName modelName),
        cache.stateDirectory modelName]).disk.tree.kind (stateRoot c ++ [repoDirectoryName modelName]) =
          some .dir := by
      rw [← hleft.isDir_stateDirectory modelName, hgone]
      exact Bool.false_ne_true
    have hfile := Tree.kind_none_of_below hdir (List.cons_ne_nil file [])
    rwa [List.append_assoc, List.singleton_append] at hfile

end Layout

/-- A root that is not there has nothing to remove. -/
theorem Unmade.removeDirs_eq {made : Tree} (hunmade : Unmade cache c made disk) (now : Int) (modelName : String) :
    disk.removeDirs now [(RawPath.parse cache.cacheRoot).child (repoDirectoryName modelName),
      cache.stateDirectory modelName] = ⟨disk, [], none⟩ := by
  have hstate : disk.tree.isDir (cache.stateDirectory modelName) = false := by
    rw [Bool.eq_false_iff]
    intro hisDir
    obtain ⟨l, hl, -⟩ := Tree.isDir_iff.mp hisDir
    rw [hunmade.state_nowhere] at hl
    cases hl
  simp [Disk.removeDirs, hunmade.isDir_child (isName_repoDirectoryName modelName).2.2.1, hstate]

namespace Kept

variable {store : CacheStore}

/-- **A deletion that succeeds takes the metadata, and one that fails leaves them.** -/
theorem delete_leaves (host : CacheHost) (hkept : Kept cache bystander c h hub store.disk)
    (hne : repoDirectoryName modelName ≠ repoDirectoryName bystander) :
    Leaves cache bystander c h hub modelName store.disk (cache.delete host store modelName)
      fun left => left = none := by
  obtain ⟨grown, hgrown⟩ := hkept.grown host
  unfold HubCache.delete
  split
  · exact hkept.leaves_same rfl
  · exact hkept.leaves_same rfl
  · exact hkept.leaves_same rfl
  · next record hub' _ hhub =>
      obtain rfl := Except.ok.inj (hgrown.hubRoot.symm.trans hhub)
      dsimp only
      cases hkept with
      | @unmade made hunmade hat hroot hfree =>
          have hremoved : cache.removal host store modelName hub = ⟨store.disk, [], none⟩ := by
            rw [hroot]
            exact hunmade.removeDirs_eq host.now modelName
          rw [hremoved]
          refine ⟨.unmade hunmade hat hroot hfree, fun _ _ => rfl, nofun, fun _ => ?_⟩
          exact hunmade.textAt_none modelName "metadata.json"
      | laid hlayout =>
          have hleft : Layout cache bystander c h hub (cache.removal host store modelName hub).disk :=
            hlayout.touched hne (hlayout.removeDirs_touched hne host.now _ (by simp))
          have hremoved : store.disk.removeDirs host.now [hub.child (repoDirectoryName modelName),
              cache.stateDirectory modelName] = cache.removal host store modelName hub := rfl
          obtain ⟨hsame, hgone⟩ := hlayout.removal_entry hne hremoved
          have hothers (owner : String) (howner : repoDirectoryName owner ≠ repoDirectoryName modelName) :
              (cache.removal host store modelName hub).disk.textAt (cache.metadataFile owner) =
                store.disk.textAt (cache.metadataFile owner) := by
            refine hlayout.textAt_same hleft (by decide) (hsame _ (List.prefix_append _ _) (Or.inl ?_))
            intro hin
            rw [List.prefix_append_right_inj] at hin
            exact howner (List.cons_prefix_cons.mp hin).1.symm
          cases hrefusal : (cache.removal host store modelName hub).refusal with
          | some refusal =>
              refine ⟨.laid hleft, hothers, fun _ => ?_, nofun⟩
              exact hlayout.textAt_same hleft (by decide) (hsame _ (List.prefix_append _ _)
                (Or.inr (by simp [hrefusal])))
          | none =>
              refine ⟨.laid hleft, hothers, nofun, fun _ => ?_⟩
              refine (hleft.textAt_state modelName (by decide)).trans (if_neg ?_)
              rw [hgone hrefusal]
              simp

end Kept

/-! ## Runs -/

/-- A command of the cache: one that reports, or one that changes it. -/
inductive CacheRequest where
  | status (modelName : String)
  | command (call : CacheCall)

/-- The model a request is on. -/
def CacheRequest.model : CacheRequest → String
  | .status name => name
  | .command call => call.modelName

namespace HubCache

/-- What a request gives, and the store it leaves. -/
def answer (cache : HubCache) (store : CacheStore) :
    CacheRequest → Except PyException CacheCommandResult × CacheStore
  | .status modelName => (cache.status store modelName, store)
  | .command call => cache.call store call

/-- A sequence of requests. -/
def serve (cache : HubCache) (store : CacheStore) (requests : List CacheRequest) : CacheStore :=
  requests.foldl (fun store request => (cache.answer store request).2) store

end HubCache

/-- What is noted of a model once a request has been answered: an update of the model that succeeds is laid over
what is noted, a deletion that succeeds takes it all, and nothing else counts. -/
def CacheRequest.notes (modelName : String) (outcome : Except PyException CacheCommandResult)
    (noted : Dict Value) : CacheRequest → Dict Value
  | .command ⟨_, name, .updateMetadata metadata⟩ =>
      if name = modelName ∧ succeeded outcome = true then Dict.update noted metadata else noted
  | .command ⟨_, name, .delete⟩ => if name = modelName ∧ succeeded outcome = true then [] else noted
  | _ => noted

/-- **What the requests of a run say is noted of a model.** -/
def HubCache.told (cache : HubCache) (modelName : String) :
    CacheStore → Dict Value → List CacheRequest → Dict Value
  | _, noted, [] => noted
  | store, noted, request :: requests =>
      cache.told modelName (cache.answer store request).2
        (request.notes modelName (cache.answer store request).1 noted) requests

/-- A request without faults, on the model or on one with another directory name: its write is done, and its
metadata are JSON values. -/
def CacheRequest.Faultless (F : FloatText) (modelName : String) : CacheRequest → Prop
  | .status _ => True
  | .command call =>
      (call.modelName = modelName ∨ repoDirectoryName call.modelName ≠ repoDirectoryName modelName) ∧
        call.host.writes = .done ∧ ∀ metadata, call.command = .updateMetadata metadata → IsJson F metadata

/-- The download of a request writes where it belongs. -/
def CacheRequest.InPlace : CacheRequest → Prop
  | .status _ => True
  | .command call => ∀ download, call.host.download = some download → download.InPlace call.modelName

/-- A request that is to leave the stored metadata: it does not succeed, or it is no update and no deletion. -/
def CacheRequest.Keeps (outcome : Except PyException CacheCommandResult) : CacheRequest → Prop
  | .status _ => True
  | .command ⟨_, _, .preload⟩ => True
  | .command _ => succeeded outcome = false

/-- The stored metadata of a model, with values that can be written, are those noted. -/
structure Noted (cache : HubCache) (modelName : String) (disk : Disk) (noted : Dict Value) : Prop where
  alike : Alike (readJson cache.floats (disk.textAt (cache.metadataFile modelName))) noted
  writable : Writable cache.floats (.dict (readJson cache.floats (disk.textAt (cache.metadataFile modelName))))

/-- What is noted is where the file is. -/
theorem Noted.of_text {noted : Dict Value} (hnoted : Noted cache modelName disk noted)
    (htext : disk'.textAt (cache.metadataFile modelName) = disk.textAt (cache.metadataFile modelName)) :
    Noted cache modelName disk' noted := by
  obtain ⟨halike, hwritable⟩ := hnoted
  rw [← htext] at halike hwritable
  exact ⟨halike, hwritable⟩

/-- What is read of the text of a mapping. -/
theorem readJson_written {F : FloatText} {facts : Dict Value} {text : List Char}
    (htext : dumps F (.dict facts) = .ok text) (hfacts : Writable F (.dict facts)) :
    Alike (readJson F (some text)) facts ∧ Writable F (.dict (readJson F (some text))) := by
  have hwritten : Lmrs.writeJson F .done none facts = .ok (none, some text) := by
    unfold Lmrs.writeJson
    rw [htext]
    rfl
  refine ⟨.of_read (read_completed hfacts hwritten), ?_⟩
  obtain ⟨text', htext', hloads⟩ := loads_dumps hfacts
  rw [htext] at htext'
  cases htext'
  have hread : Value.dict (readJson F (some text)) = canonical (.dict facts) := by
    unfold readJson
    rw [Option.bind_some, hloads, canonical]
  rw [hread]
  exact writable_canonical _ hfacts

/-- **An update that is written**: what is read then are the entries of the update, laid over what was noted. -/
theorem Noted.update {noted metadata : Dict Value} {text : List Char} (hnoted : Noted cache modelName disk noted)
    (hjson : IsJson cache.floats metadata)
    (htext : dumps cache.floats (.dict (Dict.update
      (readJson cache.floats (disk.textAt (cache.metadataFile modelName))) metadata)) = .ok text)
    (hleft : disk'.textAt (cache.metadataFile modelName) = some text) :
    Noted cache modelName disk' (Dict.update noted metadata) := by
  have hprintable : printable (.dict (Dict.update
      (readJson cache.floats (disk.textAt (cache.metadataFile modelName))) metadata)) = true := by
    unfold dumps at htext
    split_ifs at htext with hprintable
    exact hprintable
  obtain ⟨halike, hwritable⟩ := readJson_written htext (writable_update hnoted.writable hjson hprintable)
  rw [← hleft] at halike hwritable
  exact ⟨halike.trans (hnoted.alike.update hjson.distinct), hwritable⟩

/-- What a command on the model, or on one with another directory name, leaves noted. -/
theorem Leaves.noted {name : String} {out : Except PyException CacheCommandResult × CacheStore}
    {done : StoredText → Prop} {noted noted' : Dict Value}
    (hleaves : Leaves cache bystander c h hub name disk out done)
    (hnamed : name = modelName ∨ repoDirectoryName name ≠ repoDirectoryName modelName)
    (hnoted : Noted cache modelName disk noted)
    (hdone : done (out.2.disk.textAt (cache.metadataFile name)) → name = modelName →
      Noted cache modelName out.2.disk noted') :
    Noted cache modelName out.2.disk (if name = modelName ∧ succeeded out.1 = true then noted' else noted) ∧
      (succeeded out.1 = false →
        out.2.disk.textAt (cache.metadataFile modelName) = disk.textAt (cache.metadataFile modelName)) := by
  rcases hnamed with rfl | hother
  · cases hok : succeeded out.1 with
    | true =>
        rw [if_pos ⟨rfl, rfl⟩]
        exact ⟨hdone (hleaves.done hok) rfl, nofun⟩
    | false =>
        rw [if_neg (by simp)]
        exact ⟨hnoted.of_text (hleaves.failed hok), fun _ => hleaves.failed hok⟩
  · have hsame := hleaves.others modelName (Ne.symm hother)
    rw [if_neg fun h => hother (congrArg repoDirectoryName h.1)]
    exact ⟨hnoted.of_text hsame, fun _ => hsame⟩

/-- **One request**: the stored metadata of a model are those noted, and as they were unless it succeeds in an
update or a deletion. -/
theorem answer_noted {store : CacheStore} {request : CacheRequest} {noted : Dict Value}
    (hkept : Kept cache bystander c h hub store.disk)
    (hne : repoDirectoryName request.model ≠ repoDirectoryName bystander)
    (hfaultless : request.Faultless cache.floats modelName) (hinPlace : request.InPlace)
    (hnoted : Noted cache modelName store.disk noted) :
    Kept cache bystander c h hub (cache.answer store request).2.disk ∧
      Noted cache modelName (cache.answer store request).2.disk
        (request.notes modelName (cache.answer store request).1 noted) ∧
      (request.Keeps (cache.answer store request).1 →
        (cache.answer store request).2.disk.textAt (cache.metadataFile modelName) =
          store.disk.textAt (cache.metadataFile modelName)) := by
  cases request with
  | status name => exact ⟨hkept, hnoted, fun _ => rfl⟩
  | command call =>
      obtain ⟨host, name, command⟩ := call
      obtain ⟨hnamed, hdone, hjson⟩ := hfaultless
      have hapart : repoDirectoryName name ≠ repoDirectoryName bystander := hne
      cases command with
      | preload =>
          have hanswer : cache.answer store (.command ⟨host, name, .preload⟩) = cache.preload host store name := rfl
          obtain ⟨hleft, hsame⟩ := hkept.preload_same hapart hdone hinPlace
          rw [hanswer]
          exact ⟨hleft, hnoted.of_text (hsame modelName), fun _ => hsame modelName⟩
      | updateMetadata metadata =>
          have hanswer : cache.answer store (.command ⟨host, name, .updateMetadata metadata⟩) =
              cache.updateMetadata host store name metadata := rfl
          have hleaves := hkept.updateMetadata_leaves hapart hdone metadata
          rw [hanswer]
          refine ⟨hleaves.kept, hleaves.noted hnamed hnoted ?_⟩
          rintro ⟨text, htext, hleft⟩ rfl
          exact hnoted.update (hjson metadata rfl) htext hleft
      | delete =>
          have hanswer : cache.answer store (.command ⟨host, name, .delete⟩) = cache.delete host store name := rfl
          have hleaves := hkept.delete_leaves host hapart
          rw [hanswer]
          refine ⟨hleaves.kept, hleaves.noted hnamed hnoted ?_⟩
          rintro hleft rfl
          -- nothing is read where there is no file
          constructor
          · rw [hleft]
            exact .refl []
          · rw [hleft]
            exact ⟨List.nodup_nil, trivial⟩

/-- A run of requests none of which is on the bystander. -/
theorem serve_noted {store : CacheStore} {requests : List CacheRequest} {noted : Dict Value}
    (hkept : Kept cache bystander c h hub store.disk)
    (hne : ∀ request ∈ requests, repoDirectoryName request.model ≠ repoDirectoryName bystander)
    (hfaultless : ∀ request ∈ requests, request.Faultless cache.floats modelName)
    (hinPlace : ∀ request ∈ requests, request.InPlace)
    (hnoted : Noted cache modelName store.disk noted) :
    Kept cache bystander c h hub (cache.serve store requests).disk ∧
      Noted cache modelName (cache.serve store requests).disk (cache.told modelName store noted requests) := by
  induction requests generalizing store noted with
  | nil => exact ⟨hkept, hnoted⟩
  | cons request requests ih =>
      rw [List.forall_mem_cons] at hne hfaultless hinPlace
      obtain ⟨hleft, hnoted', -⟩ := answer_noted hkept hne.1 hfaultless.1 hinPlace.1 hnoted
      exact ih hleft hne.2 hfaultless.2 hinPlace.2 hnoted'

/-- **What is stored is what was noted.** For every cache on its ground, every model, and every sequence of
statuses, preloads, updates and deletions without faults, on the model and on models with other directory names,
whose downloads write where they belong: the metadata stored for the model are those its successful updates since
its last successful deletion have noted, each laid over those before (over what was stored at first, before there
is a deletion); and no request of the sequence that fails, or that is a status or a preload, changes them. -/
theorem metadata_told (cache : HubCache) (modelName : String) (store : CacheStore) {c h : Location} {hub : RawPath}
    (hground : Ground cache c h hub store.disk) (requests : List CacheRequest)
    (hfaultless : ∀ request ∈ requests, request.Faultless cache.floats modelName)
    (hinPlace : ∀ request ∈ requests, request.InPlace) {stored : Dict Value}
    (hstored : (cache.storedMetadata modelName store.disk).1 = .ok stored)
    (hwritable : Writable cache.floats (.dict stored)) :
    (∃ left, (cache.storedMetadata modelName (cache.serve store requests).disk).1 = .ok left ∧
        Alike left (cache.told modelName store stored requests)) ∧
      ∀ before request after, requests = before ++ request :: after →
        request.Keeps (cache.answer (cache.serve store before) request).1 →
          (cache.storedMetadata modelName (cache.answer (cache.serve store before) request).2.disk).1 =
            (cache.storedMetadata modelName (cache.serve store before).disk).1 := by
  obtain ⟨bystander, hnames, hkept⟩ := hground.kept (requests.map CacheRequest.model)
  rw [List.forall_mem_map] at hnames
  have hnoted : Noted cache modelName store.disk stored := by
    obtain rfl := Except.ok.inj ((storedMetadata_answers cache modelName store.disk).symm.trans hstored)
    exact ⟨.refl _, hwritable⟩
  constructor
  · obtain ⟨-, hleft⟩ := serve_noted hkept hnames hfaultless hinPlace hnoted
    exact ⟨_, storedMetadata_answers cache modelName _, hleft.alike⟩
  · rintro before request after rfl hkeeps
    rw [List.forall_mem_append, List.forall_mem_cons] at hnames hfaultless hinPlace
    obtain ⟨hbefore, hnoted'⟩ := serve_noted hkept hnames.1 hfaultless.1 hinPlace.1 hnoted
    obtain ⟨-, -, hsame⟩ := answer_noted hbefore hnames.2.1 hfaultless.2.1 hinPlace.2.1 hnoted'
    rw [storedMetadata_answers, storedMetadata_answers, hsame hkeeps]

/-! ## A cache with one model -/

/-- A repository directory in the cache root `/c`. -/
def oneModelDisk : Disk where
  tree :=
    { entries := [(["c"], .dir), (["c", "models--m"], .dir)]
      cwd := []
      distinct := by decide
      rooted := by simp [kindIn]
      named := by simp [IsName] }
  data := fun _ => {}

/-- Its ground. -/
theorem oneModelDisk_ground : Ground smallCache ["c"] ["c"] ⟨true, ["c"]⟩ oneModelDisk := by
  refine .placed ⟨by decide +kernel, by decide +kernel, rfl, by decide +kernel, by decide +kernel,
    Or.inl (by decide +kernel), ?_, ?_⟩
  · intro l target _ hlink
    by_cases hnil : l = []
    · rw [hnil] at hlink
      cases hlink
    · have hmem := Tree.mem_of_kind hnil hlink
      simp [oneModelDisk] at hmem
  · intro l hl
    obtain ⟨x, hx, rest, rfl⟩ : ∃ x, x ≠ "hub" ∧ ["c", x] <+: l := by
      rcases hl with (⟨name, hname⟩ | hlocks) | hstate
      · exact ⟨_, repoDirectoryName_ne name (by decide), hname⟩
      · exact ⟨_, by decide, hlocks⟩
      · exact ⟨_, by decide, hstate⟩
    have hway : oneModelDisk.tree.visits true ⟨true, ["c"]⟩ = [["c"]] := by decide +kernel
    have hlooks : (hubCacheRoot smallCache.cacheRoot oneModelDisk).2 = [.kind ["c"], .kind ["c", "hub"]] := by
      decide +kernel
    rw [hway, hlooks]
    simp [hx]

/-- A note of an operator. -/
def ownerNote : Dict Value := [("owner", .str "acceptance")]

theorem ownerNote_json (F : FloatText) : IsJson F ownerNote where
  distinct := List.nodup_singleton _
  faithful _ := ⟨List.nodup_singleton _, trivial, trivial⟩

/-- A run that notes an owner, asks, and deletes. -/
def ownerRun : List CacheRequest :=
  [.command ⟨offline, "m", .updateMetadata ownerNote⟩, .status "m", .command ⟨offline, "m", .delete⟩]

/-- The statement of that run. -/
theorem metadata_told_small :
    (∃ left, (smallCache.storedMetadata "m" (smallCache.serve ⟨oneModelDisk, []⟩ ownerRun).disk).1 = .ok left ∧
        Alike left (smallCache.told "m" ⟨oneModelDisk, []⟩ [] ownerRun)) ∧
      ∀ before request after, ownerRun = before ++ request :: after →
        request.Keeps (smallCache.answer (smallCache.serve ⟨oneModelDisk, []⟩ before) request).1 →
          (smallCache.storedMetadata "m"
              (smallCache.answer (smallCache.serve ⟨oneModelDisk, []⟩ before) request).2.disk).1 =
            (smallCache.storedMetadata "m" (smallCache.serve ⟨oneModelDisk, []⟩ before).disk).1 := by
  refine metadata_told smallCache "m" ⟨oneModelDisk, []⟩ oneModelDisk_ground ownerRun ?_ ?_ rfl
    ⟨List.nodup_nil, trivial⟩
  · intro request hrequest
    rcases List.mem_cons.mp hrequest with rfl | hrequest
    · refine ⟨Or.inl rfl, rfl, fun metadata hmetadata => ?_⟩
      cases hmetadata
      exact ownerNote_json smallCache.floats
    · rcases List.mem_cons.mp hrequest with rfl | hrequest
      · trivial
      · obtain rfl := List.mem_singleton.mp hrequest
        exact ⟨Or.inl rfl, rfl, fun _ hmetadata => by cases hmetadata⟩
  · intro request hrequest
    rcases List.mem_cons.mp hrequest with rfl | hrequest
    · exact fun download hdownload => by cases hdownload
    · rcases List.mem_cons.mp hrequest with rfl | hrequest
      · trivial
      · obtain rfl := List.mem_singleton.mp hrequest
        exact fun download hdownload => by cases hdownload

/-- A disk on which something else has written the metadata of a model. -/
def foreignDisk : Disk where
  tree :=
    { entries := [(["c"], .dir), (["c", ".lmrs"], .dir), (["c", ".lmrs", "models--m"], .dir),
        (["c", ".lmrs", "models--m", "metadata.json"], .file)]
      cwd := []
      distinct := by decide
      rooted := by simp [kindIn]
      named := by simp [IsName] }
  data := fun _ => { text := some "\x7b\"owner\": \"x\"\x7d".toList }

/-- Two models, the state directory of one a link to that of the other. -/
def linkedDisk : Disk where
  tree :=
    { entries := [(["c"], .dir), (["c", "models--a"], .dir), (["c", "models--b"], .dir), (["c", ".lmrs"], .dir),
        (["c", ".lmrs", "models--a"], .dir),
        (["c", ".lmrs", "models--b"], .symlink ⟨true, ["c", ".lmrs", "models--a"]⟩)]
      cwd := []
      distinct := by decide
      rooted := by simp [kindIn]
      named := by simp [IsName] }
  data := fun _ => {}

/-- A preload whose download writes the metadata itself. -/
def foreignPreload : CacheRequest :=
  .command ⟨{ now := 0, download := some fun _ _ _ => (.ok "/c/models--m", foreignDisk) }, "m", .preload⟩

/-- What has an owner is not alike what has none. -/
theorem not_alike_of_owner {found : Except PyException (Dict Value)} {left noted : Dict Value}
    (hleft : found = .ok left) (howner : (found.map fun stored => (Dict.get? stored "owner").isSome) = .ok true)
    (hnone : Dict.get? noted "owner" = none) : ¬ Alike left noted := by
  intro halike
  have hentry := halike "owner"
  rw [hnone, Option.map_none, Option.map_eq_none_iff] at hentry
  rw [hleft] at howner
  simp [Except.map, hentry] at howner

/-- **A download that writes elsewhere, and a link between state directories**: what is stored is not what was
noted. -/
theorem not_as_told :
    ¬ (∀ (cache : HubCache) (modelName : String) (store : CacheStore) (c h : Location) (hub : RawPath)
        (requests : List CacheRequest) (stored : Dict Value), Ground cache c h hub store.disk →
          (∀ request ∈ requests, request.Faultless cache.floats modelName) →
            (cache.storedMetadata modelName store.disk).1 = .ok stored → Writable cache.floats (.dict stored) →
              ∃ left, (cache.storedMetadata modelName (cache.serve store requests).disk).1 = .ok left ∧
                Alike left (cache.told modelName store stored requests)) ∧
      ¬ ∀ (cache : HubCache) (modelName : String) (store : CacheStore) (requests : List CacheRequest)
          (stored : Dict Value), (∀ request ∈ requests, request.Faultless cache.floats modelName) →
            (∀ request ∈ requests, request.InPlace) →
              (cache.storedMetadata modelName store.disk).1 = .ok stored → Writable cache.floats (.dict stored) →
                ∃ left, (cache.storedMetadata modelName (cache.serve store requests).disk).1 = .ok left ∧
                  Alike left (cache.told modelName store stored requests) := by
  constructor
  · intro hclaim
    obtain ⟨left, hleft, halike⟩ := hclaim smallCache "m" ⟨oneModelDisk, []⟩ ["c"] ["c"] ⟨true, ["c"]⟩
      [foreignPreload] [] oneModelDisk_ground
      (List.forall_mem_singleton.mpr ⟨Or.inl rfl, rfl, fun _ hcommand => by cases hcommand⟩) rfl
      ⟨List.nodup_nil, trivial⟩
    exact not_alike_of_owner hleft (by decide +kernel) rfl halike
  · intro hclaim
    obtain ⟨left, hleft, halike⟩ := hclaim smallCache "b" ⟨linkedDisk, []⟩
      [.command ⟨offline, "a", .updateMetadata ownerNote⟩] []
      (List.forall_mem_singleton.mpr ⟨Or.inr (by decide), rfl, fun metadata hmetadata => by
        cases hmetadata
        exact ownerNote_json smallCache.floats⟩)
      (List.forall_mem_singleton.mpr fun _ hdownload => by cases hdownload) rfl ⟨List.nodup_nil, trivial⟩
    exact not_alike_of_owner hleft (by decide +kernel) rfl halike

end Lmrs
