import Lmrs.PurgeScope

/-!
# What a purge can reach

Source: `lmrs/adapter/registration.py`, `LocalLmcachePurgeCommand`.

The command hands any non-empty namespace and session on to `purge_lmcache`, which joins them to
the storage root as they are: separators, `..` and absolute paths included.

* `removeArtifacts_inside_iff`: removing paths one after another stays inside the root exactly when each spares
  what is outside.
* `purge_inside_iff`: when everything a purge removes is inside the storage root, by its scope.
* `purge_global_inside`: without a namespace and a session it always is.
-/

namespace Lmrs

open Python Posix

/-- A binding of the command: a parameter that is a non-empty text. -/
def bindingParam (params : Dict Value) (name : String) : Option String :=
  ((Value.item params name).asStr?).filter fun value => value ≠ ""

/-- Source: `registration.py`, `LocalLmcachePurgeCommand.delegate`. -/
def LocalLmcachePurgeCommand.delegate (t : Tree) (policy : LMCacheStoragePolicy)
    (params : Dict Value) : Purge (Dict Value) :=
  purgeLmcache t policy (bindingParam params "namespace") (bindingParam params "session")

/-! ## One path -/

/-- A path spares what is outside a directory: it leads nowhere or strictly inside; or to a link to a directory,
which is not removed; or to the directory itself without naming it, so that it is emptied and stays. -/
def Spares (t : Tree) (d : Location) (p : RawPath) : Prop :=
  ∀ l, t.locate false p = .ok l →
    Inside d l ∨ ((∃ target, t.kind l = some (.symlink target)) ∧ t.isDir p = true) ∨
      (l = d ∧ ¬ t.NamesPlace p d)

/-- What a path leads to inside a directory can be removed: a directory it names, or what is none. -/
def Goes (t : Tree) (d : Location) (p : RawPath) (l : Location) : Prop :=
  t.locate false p = .ok l ∧ Inside d l ∧
    ((t.kind l = some .dir ∧ t.NamesPlace p l) ∨ t.isDir p = false)

/-- Paths spare what is outside a directory one after another, as long as each can be removed. -/
def AllSpare (d : Location) : Tree → List RawPath → Prop
  | _, [] => True
  | t, p :: paths => Spares t d p ∧ ∀ l, Goes t d p l → AllSpare d (t.prune l) paths

section target

variable {t : Tree} {root l : Location} {p : RawPath}

/-- A directory outside the root loses something outside when it is emptied, or can be removed. -/
theorem names_of_outside (hroot : t.kind root = some .dir)
    (hdots : p.absolute = false → (∀ n ∈ p.parts, n = "..") → l <+: root) (hloc : t.locate false p = .ok l)
    (hdir : t.kind l = some .dir) (hne : l ≠ root) (hbelow : ∀ m ∈ t.below l, Inside root m) :
    Inside root l ∨ t.NamesPlace p l := by
  by_cases habove : l <+: root
  · -- the root is one of the entries below
    have hmem : root ∈ t.below l :=
      Tree.mem_below.mpr ⟨by rw [hroot]; rfl, habove, fun heq => hne heq.symm⟩
    exact absurd rfl (hbelow root hmem).2
  · by_cases hinside : root <+: l
    · exact Or.inl ⟨hinside, hne⟩
    · right
      have hempty : t.below l = [] := by
        rw [List.eq_nil_iff_forall_not_mem]
        intro m hm
        have hm₁ := (Tree.mem_below.mp hm).2.1
        have hm₂ := (hbelow m hm).1
        rcases List.prefix_or_prefix_of_prefix hm₁ hm₂ with hpre | hpre
        · exact habove hpre
        · exact hinside hpre
      rw [← Tree.names_clear_iff hloc]
      refine Tree.names_clear_of_empty hloc ?_ ?_ hempty
      · intro hparts
        have hstart := Tree.locate_of_no_parts hparts hloc
        cases habs : p.absolute with
        | true =>
            rw [habs] at hstart
            exact habove (hstart ▸ List.nil_prefix)
        | false => exact habove (hdots habs (by simp [hparts]))
      · intro hlast
        rcases Tree.locate_dotdot hlast hloc with ⟨c, hc, rfl⟩ | ⟨habs, -, -, hups⟩
        · -- the directory that `..` was taken from is below
          rcases List.eq_nil_or_concat c with rfl | ⟨m, n, rfl⟩
          · exact habove List.nil_prefix
          · rw [List.concat_eq_append] at hc hempty
            rw [List.dropLast_concat] at hempty
            have hmem : m ++ [n] ∈ t.below m :=
              Tree.mem_below.mpr ⟨by rw [hc]; rfl, Inside.child m n⟩
            simp [hempty] at hmem
        · exact habove (hdots habs hups)

/-- **Removing one target stays inside the root exactly when its path spares what is outside.** -/
theorem removeArtifact_inside_iff (hroot : t.kind root = some .dir)
    (hdots : p.absolute = false → (∀ n ∈ p.parts, n = "..") → ∀ l, t.locate false p = .ok l → l <+: root) :
    (∀ m ∈ (removeArtifact t p).removed, Inside root m) ↔ Spares t root p := by
  rcases removeArtifact_cases t p with ⟨error, hloc, hremoved, -⟩ | ⟨l, hloc, hcase⟩
  · rw [hremoved]
    unfold Spares
    simp [hloc]
  · have hspares : Spares t root p ↔
        Inside root l ∨ ((∃ target, t.kind l = some (.symlink target)) ∧ t.isDir p = true) ∨
          (l = root ∧ ¬ t.NamesPlace p root) := by
      unfold Spares
      simp [hloc]
    rw [hspares]
    rcases hcase with ⟨hdir, hkind, hremoved, -⟩ | ⟨hdir, hlink, hremoved, -⟩ |
      ⟨hkind, ⟨hnames, hremoved, -⟩ | ⟨hnames, hremoved, -⟩⟩
    · rw [hremoved, List.forall_mem_singleton]
      constructor
      · exact Or.inl
      · rintro (hin | ⟨-, hdir'⟩ | ⟨rfl, -⟩)
        · exact hin
        · simp [hdir] at hdir'
        · exact absurd hroot hkind
    · rw [hremoved]
      simp [hlink, hdir]
    · rw [hremoved]
      rw [Tree.names_clear_iff hloc] at hnames
      constructor
      · intro hin
        exact Or.inl (hin l (List.mem_append_right _ (List.mem_singleton.mpr rfl)))
      · rintro (hin | ⟨⟨target, hlink⟩, -⟩ | ⟨rfl, hnot⟩)
        · intro m hm
          rcases List.mem_append.mp hm with hbelow | hone
          · exact hin.below (Tree.mem_below.mp hbelow).2.1
          · rwa [List.mem_singleton.mp hone]
        · simp [hkind] at hlink
        · exact absurd hnames hnot
    · rw [hremoved]
      rw [Tree.names_clear_iff hloc] at hnames
      constructor
      · intro hin
        by_cases heq : l = root
        · subst heq
          exact Or.inr (Or.inr ⟨rfl, hnames⟩)
        · rcases names_of_outside hroot (fun habs hups => hdots habs hups l hloc) hloc hkind heq hin with
            hinside | hnamed
          · exact Or.inl hinside
          · exact absurd hnamed hnames
      · rintro (hin | ⟨⟨target, hlink⟩, -⟩ | ⟨rfl, -⟩)
        · intro m hm
          exact hin.below (Tree.mem_below.mp hm).2.1
        · simp [hkind] at hlink
        · intro m hm
          exact (Tree.mem_below.mp hm).2

/-- **A target that spares what is outside goes, or its removal is refused.** -/
theorem removeArtifact_goes (hroot : t.kind root = some .dir) (hspares : Spares t root p) :
    (∃ l count, Goes t root p l ∧ (removeArtifact t p).tree = t.prune l ∧
        (removeArtifact t p).result = .ok count) ∨
      (∀ l, ¬ Goes t root p l) ∧ ∃ exc, (removeArtifact t p).result = .error exc := by
  have hnowhere (h : ∀ l, t.locate false p ≠ .ok l) (l : Location) : ¬ Goes t root p l := fun hgoes => h l hgoes.1
  have hone {l : Location} (hloc : t.locate false p = .ok l)
      (h : ¬ (Inside root l ∧ ((t.kind l = some .dir ∧ t.NamesPlace p l) ∨ t.isDir p = false))) (m : Location) :
      ¬ Goes t root p m := by
    rintro ⟨hm, hgoes⟩
    rw [hloc] at hm
    cases hm
    exact h hgoes
  cases hloc : t.locate false p with
  | error error =>
      obtain ⟨refusal, hcase⟩ := Tree.rmtree_error hloc
      refine Or.inr ⟨hnowhere (by simp [hloc]), ?_⟩
      unfold removeArtifact Tree.unlink
      rw [hcase, hloc]
      split_ifs
      · exact ⟨_, rfl⟩
      · exact ⟨_, rfl⟩
  | ok l =>
      have hopen := presentDir_of_located hloc
      by_cases hkind : t.kind l = some .dir
      · have hdir : t.isDir p = true := (Tree.isDir_iff_of_locate hloc (by simp [hkind])).mpr hkind
        rcases Tree.rmtree_cases hloc hkind with ⟨hnames, hcase⟩ | ⟨hnames, refusal, hcase⟩
        · rw [Tree.names_clear_iff hloc] at hnames
          rcases hspares l hloc with hin | ⟨⟨target, hlink⟩, -⟩ | ⟨rfl, hnot⟩
          · refine Or.inl ⟨l, filesBelow t p, ⟨hloc, hin, Or.inl ⟨hkind, hnames⟩⟩, ?_, ?_⟩
            · unfold removeArtifact
              rw [if_pos (hopen.trans hdir), hcase]
              exact Tree.prune_clear ..
            · unfold removeArtifact
              rw [if_pos (hopen.trans hdir), hcase]
          · simp [hkind] at hlink
          · exact absurd hnames hnot
        · rw [Tree.names_clear_iff hloc] at hnames
          refine Or.inr ⟨hone hloc (by simp [hnames, hdir]), ?_⟩
          unfold removeArtifact
          rw [if_pos (hopen.trans hdir), hcase]
          exact ⟨_, rfl⟩
      · cases hdir : t.isDir p with
        | true =>
            -- a link to a directory
            obtain ⟨k, hk, -⟩ := Tree.locate_alive hloc
            refine Or.inr ⟨hone hloc (by simp [hkind, hdir]), ?_⟩
            have hlink : ∃ target, t.kind l = some (.symlink target) := by
              by_contra hno
              exact hkind ((Tree.isDir_iff_of_locate hloc (not_exists.mp hno)).mp hdir)
            obtain ⟨target, hlink⟩ := hlink
            unfold removeArtifact
            rw [if_pos (hopen.trans hdir), Tree.rmtree_symlink hloc hlink]
            exact ⟨_, rfl⟩
        | false =>
            rcases hspares l hloc with hin | ⟨-, hdir'⟩ | ⟨rfl, -⟩
            · refine Or.inl ⟨l, 1, ⟨hloc, hin, Or.inr hdir⟩, ?_, ?_⟩
              · unfold removeArtifact Tree.unlink
                rw [if_neg (by simp [hopen, hdir]), hloc]
                dsimp only
                rw [if_neg hkind]
              · unfold removeArtifact Tree.unlink
                rw [if_neg (by simp [hopen, hdir]), hloc]
                dsimp only
                rw [if_neg hkind]
            · simp [hdir] at hdir'
            · exact absurd hroot hkind

/-- Removing what is inside the root leaves the root. -/
theorem kind_root_prune (hroot : t.kind root = some .dir) (hin : Inside root l) :
    (t.prune l).kind root = some .dir := by
  rw [Tree.kind_prune, if_neg]
  · exact hroot
  · exact fun h => hin.not_above h.2

end target

/-- **Removing targets one after another stays inside the root exactly when each spares what is outside**, as
long as those before it can be removed. -/
theorem removeArtifacts_inside_iff {t : Tree} {root : Location} {paths : List RawPath}
    (hroot : t.kind root = some .dir)
    (hdots : ∀ p ∈ paths, p.absolute = false → (∀ n ∈ p.parts, n = "..") →
      ∀ l, t.locate false p = .ok l → l <+: root) :
    (∀ l ∈ (removeArtifacts t paths).removed, Inside root l) ↔ AllSpare root t paths := by
  induction paths generalizing t with
  | nil => simp [removeArtifacts, AllSpare]
  | cons p paths ih =>
      have hfirst := removeArtifact_inside_iff hroot (hdots p (List.mem_cons_self ..))
      unfold AllSpare
      by_cases hspares : Spares t root p
      · rcases removeArtifact_goes hroot hspares with ⟨l, count, hgoes, htree, hresult⟩ | ⟨hstays, exc, hresult⟩
        · have hlater := ih (kind_root_prune hroot hgoes.2.1) fun q hq habs hups m hm =>
            hdots q (List.mem_cons_of_mem _ hq) habs hups m (Tree.locate_mono (t.prune_leftOf l) hm)
          rw [removeArtifacts_cons hresult, htree, List.forall_mem_append, hfirst, hlater]
          refine and_congr_right fun _ => ⟨fun hrest m hm => ?_, fun hrest => hrest l hgoes⟩
          obtain rfl : l = m := Except.ok.inj (hgoes.1.symm.trans hm.1)
          exact hrest
        · have hstop : (removeArtifacts t (p :: paths)).removed = (removeArtifact t p).removed := by
            rw [removeArtifacts]
            simp only [hresult]
          rw [hstop, hfirst]
          exact ⟨fun h => ⟨h, fun l hl => absurd hl (hstays l)⟩, fun h => h.1⟩
      · have hkeeps {l : Location} (hl : l ∈ (removeArtifact t p).removed) :
            l ∈ (removeArtifacts t (p :: paths)).removed := by
          rw [removeArtifacts]
          cases hresult : (removeArtifact t p).result with
          | error exc => exact hl
          | ok count => exact List.mem_append_left _ hl
        constructor
        · intro h
          exact absurd (hfirst.mp fun l hl => h l (hkeeps hl)) hspares
        · exact fun h => absurd h.1 hspares

/-- Paths that lead inside the root in the tree they start from spare what is outside. -/
theorem allSpare_of_inside {t : Tree} {d : Location} {paths : List RawPath}
    (h : ∀ p ∈ paths, ∀ l, t.locate false p = .ok l → Inside d l) : AllSpare d t paths := by
  induction paths generalizing t with
  | nil => trivial
  | cons p paths ih =>
      rw [List.forall_mem_cons] at h
      refine ⟨fun l hl => Or.inl (h.1 l hl), fun l _ => ih fun q hq m hm => ?_⟩
      exact h.2 q hq m (Tree.locate_mono (t.prune_leftOf l) hm)

/-! ## The scopes -/

/-- The path that a namespace, and a session in it, name under a root. -/
def boundPath (root : RawPath) (n : String) : Option String → RawPath
  | none => root.join (.parse n)
  | some s => (root.join (.parse n)).join (.parse s)

/-- The paths that a session names below the directories of a root, where there is something, in their order. -/
def sessionPaths (t : Tree) (root : RawPath) (d : Location) (s : String) : List RawPath :=
  (((t.children d).filter fun n => t.isDir (root.child n) && t.pathExists ((root.child n).join (.parse s))).insertionSort
    (· ≤ ·)).map fun n => (root.child n).join (.parse s)

/-- Nothing goes by a path: it leads nowhere; or to a link to a directory; or to an empty directory without
naming it. -/
def Harmless (t : Tree) (p : RawPath) : Prop :=
  ∀ l, t.locate false p = .ok l →
    ((∃ target, t.kind l = some (.symlink target)) ∧ t.isDir p = true) ∨
      (t.kind l = some .dir ∧ t.below l = [] ∧ (p.parts = [] ∨ p.parts.getLast? = some ".."))

/-- What a namespace and a session name is inside a root. Without both it always is. With a namespace, what its
path leads to, if there is something, spares what is outside the root; nothing goes where the root itself is gone
from under its path. With a session alone, its paths below the directories of the root spare what is outside, one
after another. -/
def NamesInside (t : Tree) (root : RawPath) : Option String → Option String → Prop
  | none, none => True
  | none, some s => ∀ d, t.locate true root = .ok d → AllSpare d t (sessionPaths t root d s)
  | some n, session =>
      t.pathExists (boundPath root n session) = true →
        (∀ d, t.locate true root = .ok d → Spares t d (boundPath root n session)) ∧
          ((∀ d, t.locate true root ≠ .ok d) → Harmless t (boundPath root n session))

/-- Everything the command removes is inside the storage root. -/
def PurgeInside (t : Tree) (policy : LMCacheStoragePolicy) (params : Dict Value) : Prop :=
  ∀ l ∈ (LocalLmcachePurgeCommand.delegate t policy params).removed,
    ∃ root d, storageRoot t policy = some root ∧ t.locate true root = .ok d ∧ Inside d l

section purge

variable {t : Tree} {policy : LMCacheStoragePolicy} {params : Dict Value} {root p : RawPath} {d l : Location}

/-- A relative join goes on from its start. -/
theorem join_relative {q : RawPath} (h : (p.join q).absolute = false) :
    p.join q = p.under q.parts ∧ p.absolute = false := by
  unfold RawPath.join at h ⊢
  by_cases hq : q.absolute = true
  · rw [if_pos hq, hq] at h
    cases h
  · rw [if_neg hq] at h ⊢
    exact ⟨rfl, h⟩

/-- A relative bound path goes on from the root. -/
theorem boundPath_relative {n : String} {session : Option String} (h : (boundPath root n session).absolute = false) :
    ∃ more, boundPath root n session = root.under more := by
  rcases session with _ | s
  · exact ⟨_, (join_relative h).1⟩
  · obtain ⟨hboth, hfirst⟩ := join_relative h
    refine ⟨(RawPath.parse n).parts ++ (RawPath.parse s).parts, ?_⟩
    rw [show boundPath root n (some s) = _ from hboth, (join_relative hfirst).1]
    unfold RawPath.under
    rw [List.append_assoc]

/-- A bound path of `..` alone leads above the root. -/
theorem boundPath_dots {n : String} {session : Option String} (hd : t.locate true root = .ok d)
    (habs : (boundPath root n session).absolute = false) (hups : ∀ m ∈ (boundPath root n session).parts, m = "..")
    (hl : t.locate false (boundPath root n session) = .ok l) : l <+: d := by
  obtain ⟨more, hmore⟩ := boundPath_relative habs
  rw [hmore] at hups hl
  exact Tree.locate_dots hups hd hl

/-- A path with a name in it ends at no directory that is gone, nor one from the top. -/
theorem gone_of_name {n : String} (h : p.absolute = true ∨ n ∈ p.parts) (hn : n ≠ "..") : t.gone p = false := by
  rcases h with habs | hmem
  · unfold Tree.gone Tree.origin
    rw [habs, if_pos rfl, Tree.setOut_dir _ (Tree.kind_nil t)]
    simp
  · rw [Bool.eq_false_iff]
    intro hgone
    exact hn ((of_decide_eq_true hgone).2 n hmem)

/-- A session below an entry of the root is named from the top, or has the entry in its path. -/
theorem child_join_name (root : RawPath) (n s : String) :
    ((root.child n).join (.parse s)).absolute = true ∨ n ∈ ((root.child n).join (.parse s)).parts := by
  unfold RawPath.join RawPath.child
  split_ifs with habs
  · exact Or.inl habs
  · exact Or.inr (by simp)

/-- The paths of a session are sorted as the entries are. -/
theorem sortPaths_sessions (root : RawPath) (s : String) (names : List String) :
    sortPaths (names.map fun n => (root.child n).join (.parse s)) =
      (names.insertionSort (· ≤ ·)).map fun n => (root.child n).join (.parse s) := by
  cases habs : (RawPath.parse s).absolute with
  | true =>
      -- all the same path
      have hsame : (fun n => (root.child n).join (.parse s)) = fun _ : String => RawPath.parse s := by
        funext n
        unfold RawPath.join
        rw [if_pos habs]
      rw [hsame, List.map_const', List.map_const', List.length_insertionSort]
      refine List.eq_replicate_iff.mpr ⟨?_, fun p hp => List.eq_of_mem_replicate (mem_sortPaths.mp hp)⟩
      unfold sortPaths
      rw [List.length_insertionSort, List.length_replicate]
  | false =>
      have hparts (n : String) : ((root.child n).join (.parse s)).parts =
          root.parts ++ (n :: (RawPath.parse s).parts) := by
        unfold RawPath.join RawPath.child
        simp [habs]
      refine (List.map_insertionSort (· ≤ ·) _ _ names fun a _ b _ => ?_).symm
      rw [hparts, hparts, append_le_append_iff]
      constructor
      · intro h
        rcases h.lt_or_eq with hlt | rfl
        · exact le_of_lt (List.cons_lt_cons_iff.mpr (Or.inl hlt))
        · exact le_refl _
      · intro h
        by_contra hlt
        exact absurd h (not_le.mpr (List.cons_lt_cons_iff.mpr (Or.inl (not_le.mp hlt))))

/-- **The targets of a session are its paths below the directories of the root.** -/
theorem purgeTargets_session (hd : t.locate true root = .ok d) (s : String) :
    purgeTargets t root none (some s) = sessionPaths t root d s := by
  have hiterdir : t.iterdir root = (t.children d).map root.child := by
    unfold Tree.iterdir
    rw [hd]
  have hopen : ∀ n ∈ t.children d, (t.presentDir (root.child n) && t.present ((root.child n).join (.parse s))) =
      (t.isDir (root.child n) && t.pathExists ((root.child n).join (.parse s))) := by
    intro n hn
    obtain ⟨k, hk⟩ := Option.isSome_iff_exists.mp (Tree.mem_children.mp hn)
    have hname := (Tree.kind_parent hk).2.2.2.1
    unfold Tree.presentDir Tree.present
    rw [Tree.gone_child root hname, gone_of_name (child_join_name root n s) hname, Bool.or_false, Bool.or_false]
  unfold purgeTargets sessionPaths
  dsimp only
  rw [← sortPaths_sessions, hiterdir, List.filter_map, List.map_map]
  congr 2
  exact List.filter_congr hopen

/-- **Nothing goes by a path exactly when it is harmless.** -/
theorem removeArtifact_harmless_iff (t : Tree) (p : RawPath) : (removeArtifact t p).removed = [] ↔ Harmless t p := by
  rcases removeArtifact_cases t p with ⟨error, hloc, hremoved, -⟩ | ⟨l, hloc, hcase⟩
  · rw [hremoved]
    unfold Harmless
    simp [hloc]
  · have hharmless : Harmless t p ↔
        ((∃ target, t.kind l = some (.symlink target)) ∧ t.isDir p = true) ∨
          (t.kind l = some .dir ∧ t.below l = [] ∧ (p.parts = [] ∨ p.parts.getLast? = some "..")) := by
      unfold Harmless
      simp [hloc]
    rw [hharmless]
    rcases hcase with ⟨hdir, hkind, hremoved, -⟩ | ⟨hdir, hlink, hremoved, -⟩ |
      ⟨hkind, ⟨hnames, hremoved, -⟩ | ⟨hnames, hremoved, -⟩⟩
    · rw [hremoved]
      simp [hdir, hkind]
    · rw [hremoved]
      simp [hlink, hdir]
    · rw [hremoved]
      simp [hkind, hnames.1, hnames.2.1]
    · rw [hremoved]
      simp only [hkind, Option.some.injEq, reduceCtorEq, exists_false, false_and, false_or, true_and]
      refine ⟨fun hempty => ⟨hempty, ?_⟩, fun h => h.1⟩
      by_contra hnamed
      obtain ⟨hparts, hlast⟩ := not_or.mp hnamed
      exact hnames (Tree.names_clear_of_empty hloc hparts hlast hempty)

/-- The purge of the command stays inside when the removal of its targets does. -/
theorem purgeInside_iff_of_root (h : storageRoot t policy = some root) :
    PurgeInside t policy params ↔
      ∀ l ∈ (removeArtifacts t (purgeTargets t root (bindingParam params "namespace")
        (bindingParam params "session"))).removed, ∃ d, t.locate true root = .ok d ∧ Inside d l := by
  unfold PurgeInside LocalLmcachePurgeCommand.delegate
  rw [purgeLmcache_of_root h]
  simp [h]

/-- One target. -/
theorem removed_singleton (t : Tree) (p : RawPath) : (removeArtifacts t [p]).removed = (removeArtifact t p).removed := by
  rw [removeArtifacts]
  cases (removeArtifact t p).result with
  | error exc => rfl
  | ok count => exact List.append_nil _

/-- The target of a namespace, with or without a session. -/
theorem purgeTargets_bound (t : Tree) (root : RawPath) (n : String) (session : Option String) :
    purgeTargets t root (some n) session =
      if t.present (boundPath root n session) then [boundPath root n session] else [] := by
  rcases session with _ | s
  · rfl
  · rfl

/-- A name in the root leads to its entry of that name. -/
theorem locate_name {n : String} (hd : t.locate true root = .ok d) (hn : IsName n)
    (h : t.locate false (root.child n) = .ok l) : l = d ++ [n] := by
  obtain ⟨d', hd', -, hl⟩ := Tree.locate_parent hn.2.2.1 h
  rw [hd] at hd'
  cases hd'
  exact hl

/-- What the root lists has a name. -/
theorem name_of_iterdir (hd : t.locate true root = .ok d) (hp : p ∈ t.iterdir root) :
    ∃ n, IsName n ∧ p = root.child n := by
  obtain ⟨n, hsome, rfl⟩ := (mem_iterdir hd).mp hp
  obtain ⟨k, hk⟩ := Option.isSome_iff_exists.mp hsome
  exact ⟨n, (Tree.kind_parent hk).2, rfl⟩

/-- What the root lists leads inside it. -/
theorem inside_of_iterdir (hd : t.locate true root = .ok d) (hp : p ∈ t.iterdir root)
    (h : t.locate false p = .ok l) : Inside d l := by
  obtain ⟨n, hname, rfl⟩ := name_of_iterdir hd hp
  rw [locate_name hd hname h]
  exact Inside.child d n

/-- **The removal of the targets stays inside a root that is there exactly when what the namespace and the session
name is.** -/
theorem inside_root_iff (hd : t.locate true root = .ok d) (hdir : t.kind d = some .dir)
    (namespace_ session : Option String) :
    (∀ l ∈ (removeArtifacts t (purgeTargets t root namespace_ session)).removed, Inside d l) ↔
      NamesInside t root namespace_ session := by
  rcases namespace_ with _ | n
  · rcases session with _ | s
    · have hmem {p : RawPath} (hp : p ∈ purgeTargets t root none none) : p ∈ t.iterdir root := mem_sortPaths.mp hp
      refine iff_of_true ((removeArtifacts_inside_iff hdir fun p hp _ hups => ?_).mpr ?_) trivial
      · obtain ⟨n, hname, rfl⟩ := name_of_iterdir hd (hmem hp)
        exact absurd (hups n (by simp [RawPath.child])) hname.2.2.1
      · exact allSpare_of_inside fun p hp l hl => inside_of_iterdir hd (hmem hp) hl
    · rw [purgeTargets_session hd, removeArtifacts_inside_iff hdir]
      · refine ⟨fun h d' hd' => ?_, fun h => h d hd⟩
        rw [hd] at hd'
        cases hd'
        exact h
      · intro p hp habs hups
        obtain ⟨c, hc, rfl⟩ := List.mem_map.mp hp
        have hmem := (List.mem_filter.mp ((List.mem_insertionSort _).mp hc)).1
        obtain ⟨k, hk⟩ := Option.isSome_iff_exists.mp (Tree.mem_children.mp hmem)
        rcases child_join_name root c s with habs' | hin
        · rw [habs] at habs'
          cases habs'
        · exact absurd (hups c hin) (Tree.kind_parent hk).2.2.2.1
  · rw [purgeTargets_bound]
    have hspares : (∀ l ∈ (removeArtifacts t [boundPath root n session]).removed, Inside d l) ↔
        Spares t d (boundPath root n session) := by
      rw [removed_singleton]
      exact removeArtifact_inside_iff hdir fun habs hups l hl => boundPath_dots hd habs hups hl
    by_cases hexists : t.pathExists (boundPath root n session) = true
    · have hopen : t.present (boundPath root n session) = true := by
        unfold Tree.present
        rw [hexists, Bool.true_or]
      rw [if_pos hopen, hspares]
      constructor
      · refine fun h _ => ⟨fun d' hd' => ?_, fun hnone => absurd hd (hnone d)⟩
        rw [hd] at hd'
        cases hd'
        exact h
      · exact fun h => (h hexists).1 d hd
    · refine iff_of_true ?_ fun h => absurd h hexists
      split_ifs with hopen
      · have hgone : t.gone (boundPath root n session) = true := by
          unfold Tree.present at hopen
          simpa [hexists] using hopen
        rw [removed_singleton, (removeArtifact_of_error (Tree.locate_of_gone false hgone)).1]
        simp
      · simp [removeArtifacts]

/-- **Nothing is removed from under a root that is gone exactly when what the namespace and the session name is
harmless.** -/
theorem inside_nowhere_iff (hnowhere : ∀ d, t.locate true root ≠ .ok d) (namespace_ session : Option String) :
    (removeArtifacts t (purgeTargets t root namespace_ session)).removed = [] ↔
      NamesInside t root namespace_ session := by
  have hlists : t.iterdir root = [] := by
    unfold Tree.iterdir
    cases hroot : t.locate true root with
    | error error => rfl
    | ok d => exact absurd hroot (hnowhere d)
  rcases namespace_ with _ | n
  · rcases session with _ | s
    · unfold purgeTargets
      rw [hlists]
      exact iff_of_true rfl trivial
    · unfold purgeTargets
      dsimp only
      rw [hlists]
      exact iff_of_true rfl fun d hd => absurd hd (hnowhere d)
  · rw [purgeTargets_bound]
    by_cases hexists : t.pathExists (boundPath root n session) = true
    · have hopen : t.present (boundPath root n session) = true := by
        unfold Tree.present
        rw [hexists, Bool.true_or]
      rw [if_pos hopen, removed_singleton, removeArtifact_harmless_iff]
      constructor
      · exact fun h _ => ⟨fun d hd => absurd hd (hnowhere d), fun _ => h⟩
      · exact fun h => (h hexists).2 hnowhere
    · refine iff_of_true ?_ fun h => absurd h hexists
      split_ifs with hopen
      · have hgone : t.gone (boundPath root n session) = true := by
          unfold Tree.present at hopen
          simpa [hexists] using hopen
        rw [removed_singleton]
        exact (removeArtifact_of_error (Tree.locate_of_gone false hgone)).1
      · rfl

end purge

/-- **Everything a purge removes is inside the storage root exactly when what its namespace and session name is**:
for every tree, every policy and every mapping of parameters. -/
theorem purge_inside_iff (t : Tree) (policy : LMCacheStoragePolicy) (params : Dict Value) :
    PurgeInside t policy params ↔
      ∀ root, storageRoot t policy = some root →
        NamesInside t root (bindingParam params "namespace") (bindingParam params "session") := by
  rcases hstorage : storageRoot t policy with _ | root
  · unfold PurgeInside LocalLmcachePurgeCommand.delegate purgeLmcache
    simp [hstorage]
  · simp only [Option.some.injEq, forall_eq']
    rw [purgeInside_iff_of_root hstorage]
    by_cases hplaced : ∃ d, t.locate true root = .ok d
    · obtain ⟨d, hd⟩ := hplaced
      rw [← inside_root_iff hd (dir_of_storageRoot hstorage hd)]
      simp [hd]
    · rw [not_exists] at hplaced
      rw [← inside_nowhere_iff hplaced, List.eq_nil_iff_forall_not_mem]
      simp [hplaced]

/-! ## Purges that stay inside -/

section inside

variable {t : Tree} {policy : LMCacheStoragePolicy} {params : Dict Value} {root : RawPath} {d l : Location}

/-- A name below an entry of the root that is no link leads inside the root. -/
theorem inside_of_grandchild {n m : String} (hd : t.locate true root = .ok d)
    (hdir : t.kind d = some .dir) (hlink : ∀ target, t.kind (d ++ [n]) ≠ some (.symlink target))
    (hn : IsName n) (hm : IsName m) (h : t.locate false ((root.child n).child m) = .ok l) :
    Inside d l := by
  obtain ⟨d', hd', -, rfl⟩ := Tree.locate_parent hm.2.2.1 h
  rw [Tree.locate_child hd hdir hn.2.2.1 fun _ => hlink] at hd'
  split_ifs at hd'
  cases hd'
  exact (Inside.child d n).below (List.prefix_append _ _)

end inside

/-- **Without a namespace and a session a purge stays inside the storage root**, whatever links the
tree has. -/
theorem purge_global_inside (t : Tree) (policy : LMCacheStoragePolicy) {params : Dict Value}
    (hn : bindingParam params "namespace" = none) (hs : bindingParam params "session" = none) :
    PurgeInside t policy params := by
  intro l hl
  unfold LocalLmcachePurgeCommand.delegate at hl
  rw [hn, hs] at hl
  rcases hstorage : storageRoot t policy with _ | root
  · unfold purgeLmcache at hl
    rw [hstorage] at hl
    cases hl
  · rw [purgeLmcache_of_root hstorage] at hl
    by_cases hplaced : ∃ d, t.locate true root = .ok d
    · obtain ⟨d, hd⟩ := hplaced
      exact ⟨root, d, rfl, hd, (inside_root_iff hd (dir_of_storageRoot hstorage hd) none none).mpr trivial l hl⟩
    · rw [(inside_nowhere_iff (not_exists.mp hplaced) none none).mpr trivial] at hl
      cases hl

/-- **With bindings that are plain names a purge stays inside the storage root**, in a tree without
links directly in that root. -/
theorem purge_named_inside (t : Tree) (policy : LMCacheStoragePolicy) {params : Dict Value}
    (hn : ∀ n, bindingParam params "namespace" = some n → IsName n)
    (hs : ∀ s, bindingParam params "session" = some s → IsName s)
    (hlinks : ∀ root d, storageRoot t policy = some root → t.locate true root = .ok d →
      ∀ n target, t.kind (d ++ [n]) ≠ some (.symlink target)) : PurgeInside t policy params := by
  intro l hl
  unfold LocalLmcachePurgeCommand.delegate at hl
  rcases hstorage : storageRoot t policy with _ | root
  · unfold purgeLmcache at hl
    rw [hstorage] at hl
    cases hl
  · rw [purgeLmcache_of_root hstorage] at hl
    cases hroot : t.locate true root with
    | error error =>
        rw [purgeTargets_of_nowhere hroot hn hs] at hl
        cases hl
    | ok d =>
        have hdir := dir_of_storageRoot hstorage hroot
        have hnolink := hlinks root d hstorage hroot
        refine ⟨root, d, rfl, hroot, ?_⟩
        have hinside : ∀ p ∈ purgeTargets t root (bindingParam params "namespace") (bindingParam params "session"),
            (∀ m, t.locate false p = .ok m → Inside d m) ∧ ∃ n ∈ p.parts, n ≠ ".." := by
          intro p hp
          rcases mem_purgeTargets hp with ⟨-, -, hmem⟩ | ⟨n, hname, rfl⟩ | ⟨n, s, hname, hsession, rfl⟩ |
            ⟨s, child, hsession, hmem, -, rfl⟩
          · obtain ⟨n, hname, rfl⟩ := name_of_iterdir hroot hmem
            exact ⟨fun m hm => inside_of_iterdir hroot hmem hm, n, by simp [RawPath.child], hname.2.2.1⟩
          · rw [root.join_parse_name (hn n hname)]
            refine ⟨fun m hm => ?_, n, by simp [RawPath.child], (hn n hname).2.2.1⟩
            rw [locate_name hroot (hn n hname) hm]
            exact Inside.child d n
          · rw [root.join_parse_name (hn n hname), RawPath.join_parse_name _ (hs s hsession)]
            exact ⟨fun m hm => inside_of_grandchild hroot hdir (hnolink n) (hn n hname) (hs s hsession) hm,
              s, by simp [RawPath.child], (hs s hsession).2.2.1⟩
          · obtain ⟨n, hname, rfl⟩ := name_of_iterdir hroot hmem
            rw [RawPath.join_parse_name _ (hs s hsession)]
            exact ⟨fun m hm => inside_of_grandchild hroot hdir (hnolink n) hname (hs s hsession) hm,
              s, by simp [RawPath.child], (hs s hsession).2.2.1⟩
        refine (removeArtifacts_inside_iff hdir fun p hp _ hups => ?_).mpr
          (allSpare_of_inside fun p hp => (hinside p hp).1) l hl
        obtain ⟨-, n, hmem, hne⟩ := hinside p hp
        exact absurd (hups n hmem) hne

/-! ## A purge that leaves the root -/

/-- A storage root beside a model cache. -/
def smallTree : Tree where
  entries :=
    [(["srv"], .dir), (["srv", "lmcache"], .dir), (["srv", "lmcache", "alpha"], .dir),
     (["srv", "lmcache", "alpha", "chunk"], .file), (["srv", "models"], .dir),
     (["srv", "models", "weights"], .file)]
  cwd := []
  distinct := by decide
  rooted := by decide
  named := by decide

/-- **A namespace can leave the storage root**: `../models` removes the model cache beside it. -/
theorem purge_removes_models :
    ¬ ∀ (t : Tree) (policy : LMCacheStoragePolicy) (params : Dict Value),
        PurgeInside t policy params := by
  intro h
  have hmem : ["srv", "models"] ∈ (LocalLmcachePurgeCommand.delegate smallTree
      { cacheStoragePath := some "/srv/lmcache" } [("namespace", .str "../models")]).removed := by
    decide
  obtain ⟨root, d, hstorage, hd, hin⟩ := h _ _ _ _ hmem
  have hroot : root = .parse "/srv/lmcache" := by
    have hsome : storageRoot smallTree { cacheStoragePath := some "/srv/lmcache" } =
        some (.parse "/srv/lmcache") := by decide
    rw [hsome] at hstorage
    cases hstorage
    rfl
  subst hroot
  have hplace : smallTree.locate true (.parse "/srv/lmcache") = .ok ["srv", "lmcache"] := by rfl
  rw [hplace] at hd
  cases hd
  exact absurd hin (by decide)

end Lmrs
