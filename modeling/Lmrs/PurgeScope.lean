import Lmrs.Lmcache
import Lmrs.Lib.Posix.Removal
import Lmrs.Lib.Posix.Visits

/-!
# The files of a scope

Source: `lmrs/lmcache.py`, `_purge_targets`, `_remove_artifact`, `purge_lmcache`.

A purge finds its targets before it removes the first, and removes each by a path through the configured root.

* `removeArtifacts_removes`, `removeArtifacts_refused`: the targets all go while the path of the root leads to
  it, and a removal is refused once it does not.
* `rootKept_iff`: the path of the root leads to it throughout exactly when it goes through no target but the
  last.
* `purgesScope_iff`: when a purge removes exactly the files of its scope.
-/

namespace Lmrs

open Python Posix

/-! ## One target -/

/-- A storage root: the directory its path leads to, without links inside. -/
structure Storage (t : Tree) (root : RawPath) (d : Location) : Prop where
  dir : t.kind d = some .dir
  leads : ∀ l, t.locate true root = .ok l → l = d
  plain : ∀ l, d <+: l → ∀ target, t.kind l ≠ some (.symlink target)

/-- A removal takes away some places and nothing else, each once, and counts the files among them. -/
structure Removes (t : Tree) (P : Location → Prop) (out : Purge Nat) : Prop where
  result : out.result = .ok (out.removed.countP fun l => t.kind l = some .file)
  nodup : out.removed.Nodup
  removed : ∀ l, l ∈ out.removed ↔ (t.kind l).isSome ∧ P l
  gone : ∀ l, P l → out.tree.kind l = none
  kept : ∀ l, ¬ P l → out.tree.kind l = t.kind l
  leftOf : Tree.LeftOf out.tree t

section target

variable {t : Tree} {root : RawPath} {d : Location} {names : List String}

/-- A storage root is one in what is left of a tree, as long as it is there. -/
theorem Storage.mono {t' : Tree} (hs : Storage t root d) (hleft : Tree.LeftOf t' t)
    (hdir : t'.kind d = some .dir) : Storage t' root d where
  dir := hdir
  leads := fun l hl => hs.leads l (Tree.locate_mono hleft hl)
  plain := fun l hl target hlink => hs.plain l hl target (hleft.kind _ _ hlink)

/-- What is below names is inside the root, and not the root. -/
theorem inside_append (d : Location) (hne : names ≠ []) : Inside d (d ++ names) :=
  ⟨List.prefix_append d names, by simpa using hne⟩

/-- The storage root stays when something inside goes. -/
theorem Storage.prune (hs : Storage t root d) (hne : names ≠ []) : Storage (t.prune (d ++ names)) root d := by
  refine hs.mono (t.prune_leftOf _) ?_
  rw [Tree.kind_prune, if_neg]
  · exact hs.dir
  · exact fun h => Inside.not_above (inside_append d hne) h.2

/-- What is pruned is gone, and the rest is as it was. -/
theorem Removes.of_prune {out : Purge Nat} (hne : names ≠ []) (htree : out.tree = t.prune (d ++ names))
    (hresult : out.result = .ok (out.removed.countP fun l => t.kind l = some .file)) (hnodup : out.removed.Nodup)
    (hremoved : ∀ l, l ∈ out.removed ↔ (t.kind l).isSome ∧ d ++ names <+: l) :
    Removes t (fun l => d ++ names <+: l) out := by
  have hnil {l : Location} (hpre : d ++ names <+: l) : l ≠ [] := (inside_append d hne).ne_nil ∘ fun h =>
    List.prefix_nil.mp (h ▸ hpre)
  refine ⟨hresult, hnodup, hremoved, fun l hl => ?_, fun l hl => ?_, ?_⟩
  · rw [htree, Tree.kind_prune, if_pos ⟨hnil hl, hl⟩]
  · rw [htree, Tree.kind_prune, if_neg fun h => hl h.2]
  · rw [htree]
    exact t.prune_leftOf _

/-- The path of a target names it, as long as the path of the root leads to it once the target is emptied. -/
theorem clear_names (hs : Storage t root d) (hne : names ≠ []) (hthere : (t.kind (d ++ names)).isSome)
    (hkept : (t.clear (d ++ names)).locate true root = .ok d) :
    (t.clear (d ++ names)).Names (root.under names) (d ++ names) := by
  refine ⟨?_, ?_, ?_⟩
  · unfold RawPath.under
    simp [hne]
  · obtain ⟨init, last, rfl⟩ := (List.eq_nil_or_concat names).resolve_left hne
    have hlast := (Tree.names_of_kind hthere last (by simp)).2.2.1
    unfold RawPath.under
    simp [hlast]
  · have hclear : Storage (t.clear (d ++ names)) root d := by
      refine hs.mono (t.clear_leftOf _) ?_
      rw [Tree.kind_clear, if_neg]
      · exact hs.dir
      · exact fun hin => Inside.not_above (inside_append d hne) hin.1
    refine Tree.locate_below false hkept hclear.dir hclear.plain hne ?_
    rwa [Tree.kind_clear_self]

/-- The files that are counted below a target are those below its place. -/
theorem filesBelow_eq (hs : Storage t root d) (hne : names ≠ []) (hthere : (t.kind (d ++ names)).isSome)
    (hroot : t.locate true root = .ok d) :
    filesBelow t (root.under names) = (t.below (d ++ names)).countP fun l => t.kind l = some .file := by
  have hloc := Tree.locate_below false hroot hs.dir hs.plain hne hthere
  have hnolink := hs.plain _ (List.prefix_append d names)
  unfold filesBelow
  rw [Tree.locate_followed hloc hnolink]
  apply List.countP_congr
  intro l hl
  obtain ⟨hsome, hin⟩ := Tree.mem_below.mp hl
  obtain ⟨rest, rfl⟩ := hin.1
  have hsplit : d ++ names ++ rest = d ++ (names ++ rest) := List.append_assoc ..
  rw [List.drop_left]
  have hplace : t.locate true (root.under (names ++ rest)) = .ok (d ++ (names ++ rest)) :=
    Tree.locate_below true hroot hs.dir hs.plain (by simp [hne]) (by rwa [hsplit] at hsome)
  have hpath : (⟨(root.under names).absolute, (root.under names).parts ++ rest⟩ : RawPath) =
      root.under (names ++ rest) := by
    unfold RawPath.under
    rw [List.append_assoc]
  unfold Tree.isFile
  rw [hpath, hplace, hsplit]

/-- A directory goes with what is below it. -/
theorem removeArtifact_dir (hs : Storage t root d) (hne : names ≠ []) (hdir : t.kind (d ++ names) = some .dir)
    (hkept : (t.clear (d ++ names)).locate true root = .ok d) :
    removeArtifact t (root.under names) =
      ⟨t.prune (d ++ names), t.below (d ++ names) ++ [d ++ names],
        .ok ((t.below (d ++ names)).countP fun l => t.kind l = some .file)⟩ := by
  have hthere : (t.kind (d ++ names)).isSome := by rw [hdir]; rfl
  have hroot := Tree.locate_mono (t.clear_leftOf _) hkept
  have hloc := Tree.locate_below false hroot hs.dir hs.plain hne hthere
  have hisDir : t.isDir (root.under names) = true :=
    (Tree.isDir_iff_of_locate hloc (hs.plain _ (List.prefix_append d names))).mpr hdir
  rcases Tree.rmtree_cases hloc hdir with ⟨-, hcase⟩ | ⟨hnot, -⟩
  · unfold removeArtifact
    rw [if_pos (Tree.presentDir_of_isDir hisDir), hcase, Tree.prune_clear, filesBelow_eq hs hne hthere hroot]
  · exact absurd (clear_names hs hne hthere hkept) hnot

/-- A file goes. -/
theorem removeArtifact_file (hs : Storage t root d) (hne : names ≠ []) (hfile : t.kind (d ++ names) = some .file)
    (hroot : t.locate true root = .ok d) :
    removeArtifact t (root.under names) = ⟨t.prune (d ++ names), [d ++ names], .ok 1⟩ := by
  have hdir : ¬ t.kind (d ++ names) = some .dir := by simp [hfile]
  have hloc := Tree.locate_below false hroot hs.dir hs.plain hne (by rw [hfile]; rfl)
  have hisDir : t.isDir (root.under names) = false := by
    rw [Bool.eq_false_iff, ne_eq, Tree.isDir_iff_of_locate hloc (hs.plain _ (List.prefix_append d names))]
    exact hdir
  unfold removeArtifact Tree.unlink
  rw [presentDir_of_located hloc, hisDir, hloc]
  dsimp only
  rw [if_neg Bool.false_ne_true, if_neg hdir]

/-- **A target goes with everything below it**, when the path of the root leads to it once the target is
emptied. -/
theorem removeArtifact_removes (hs : Storage t root d) (hne : names ≠ []) (hthere : (t.kind (d ++ names)).isSome)
    (hkept : (t.clear (d ++ names)).locate true root = .ok d) :
    Removes t (fun l => d ++ names <+: l) (removeArtifact t (root.under names)) ∧
      (removeArtifact t (root.under names)).tree = t.prune (d ++ names) := by
  obtain ⟨k, hk⟩ := Option.isSome_iff_exists.mp hthere
  cases k with
  | symlink target => exact absurd hk (hs.plain _ (List.prefix_append d names) target)
  | dir =>
      rw [removeArtifact_dir hs hne hk hkept]
      refine ⟨.of_prune hne rfl ?_ ?_ fun l => ?_, rfl⟩
      · rw [List.countP_append]
        simp [hk]
      · rw [List.nodup_append]
        refine ⟨t.below_nodup _, List.nodup_singleton _, fun l hl m hm => ?_⟩
        rw [List.mem_singleton.mp hm]
        exact (Tree.mem_below.mp hl).2.2
      · rw [List.mem_append, Tree.mem_below, List.mem_singleton]
        constructor
        · rintro (⟨hsome, hin⟩ | rfl)
          · exact ⟨hsome, hin.1⟩
          · exact ⟨hthere, List.prefix_refl _⟩
        · rintro ⟨hsome, hpre⟩
          by_cases heq : l = d ++ names
          · exact Or.inr heq
          · exact Or.inl ⟨hsome, hpre, heq⟩
  | file =>
      rw [removeArtifact_file hs hne hk (Tree.locate_mono (t.clear_leftOf _) hkept)]
      refine ⟨.of_prune hne rfl ?_ (List.nodup_singleton _) fun l => ?_, rfl⟩
      · simp [hk]
      · rw [List.mem_singleton]
        constructor
        · rintro rfl
          exact ⟨hthere, List.prefix_refl _⟩
        · rintro ⟨hsome, rest, rfl⟩
          -- nothing is below a file
          by_contra hne'
          have hrest : rest ≠ [] := by
            rintro rfl
            exact hne' (List.append_nil _)
          rw [Tree.kind_none_of_below (by simp [hk]) hrest] at hsome
          cases hsome

/-- **The removal of a target is refused** when the path of the root leads nowhere once the target is
emptied. -/
theorem removeArtifact_refused (hs : Storage t root d) (hne : names ≠ []) (hthere : (t.kind (d ++ names)).isSome)
    (hlost : (t.clear (d ++ names)).locate true root ≠ .ok d) :
    ∃ exc, (removeArtifact t (root.under names)).result = .error exc := by
  have hnames : ∀ n ∈ names, n ≠ ".." :=
    fun n hn => (Tree.names_of_kind hthere n (List.mem_append_right _ hn)).2.2.1
  have hnowhere {l : Location} : (t.clear (d ++ names)).locate false (root.under names) ≠ .ok l := by
    intro hl
    obtain ⟨d', hd'⟩ := Tree.locate_of_under hne hnames hl
    obtain rfl := hs.leads d' (Tree.locate_mono (t.clear_leftOf _) hd')
    exact hlost hd'
  unfold removeArtifact
  cases hloc : t.locate false (root.under names) with
  | error error =>
      obtain ⟨refusal, hcase⟩ := Tree.rmtree_error hloc
      unfold Tree.unlink
      rw [hcase, hloc]
      split_ifs
      · exact ⟨_, rfl⟩
      · exact ⟨_, rfl⟩
  | ok l =>
      obtain ⟨d', hd'⟩ := Tree.locate_of_under hne hnames hloc
      obtain rfl := hs.leads d' hd'
      rw [Tree.locate_below false hd' hs.dir hs.plain hne hthere] at hloc
      cases hloc
      have hplace := Tree.locate_below false hd' hs.dir hs.plain hne hthere
      by_cases hdir : t.kind (d' ++ names) = some .dir
      · have hisDir := (Tree.isDir_iff_of_locate hplace (hs.plain _ (List.prefix_append _ _))).mpr hdir
        rw [if_pos (Tree.presentDir_of_isDir hisDir)]
        rcases Tree.rmtree_cases hplace hdir with ⟨hnames, -⟩ | ⟨-, refusal, hcase⟩
        · exact absurd hnames.2.2 hnowhere
        · rw [hcase]
          exact ⟨_, rfl⟩
      · -- emptying what is no directory changes nothing
        have hsame : (t.clear (d' ++ names)).locate false (root.under names) = t.locate false (root.under names) :=
          (@Tree.locate_congr t (t.clear (d' ++ names)) false _ (fun _ => rfl)
            fun l _ => Tree.kind_clear_of_not_dir hdir l).1
        exact absurd (hsame.trans hplace) hnowhere

end target

/-! ## The targets of a purge -/

/-- The path of the root leads to it at each removal: also once the target is emptied, and in what is left when
the targets before it are gone. -/
def RootKept (root : RawPath) (d : Location) : Tree → List (List String) → Prop
  | _, [] => True
  | t, names :: rest => (t.clear (d ++ names)).locate true root = .ok d ∧ RootKept root d (t.prune (d ++ names)) rest

section targets

variable {t : Tree} {root : RawPath} {d : Location} {targets : List (List String)}

/-- Neither of two places is at or below the other. -/
def Apart (a b : List String) : Prop := ¬ a <+: b ∧ ¬ b <+: a

/-- What is apart from a target is still there when that is gone. -/
theorem kind_prune_of_apart {names names' : List String} (h : Apart names names') :
    (t.prune (d ++ names)).kind (d ++ names') = t.kind (d ++ names') := by
  rw [Tree.kind_prune, if_neg]
  rintro ⟨-, hpre⟩
  exact h.1 ((List.prefix_append_right_inj d).mp hpre)

/-- The path of the root leads to it once a place inside is emptied exactly when it looks nothing up in there. -/
theorem leads_clear_iff {names : List String} (hs : Storage t root d) (hd : t.locate true root = .ok d)
    (hne : names ≠ []) : (t.clear (d ++ names)).locate true root = .ok d ↔
      ∀ l ∈ t.lookups true root, ¬ Inside (d ++ names) l := by
  have hleft := t.clear_leftOf (d ++ names)
  have hkind (l : Location) : ((t.clear (d ++ names)).kind l).isSome ↔ ¬ Inside (d ++ names) l ∧ (t.kind l).isSome := by
    rw [Tree.kind_clear]
    split_ifs with hin
    · simp [hin]
    · simp [hin]
  have hthere : (t.kind d).isSome := by rw [hs.dir]; rfl
  rw [Tree.locate_left_iff hleft hd ((hkind d).mpr ⟨fun hin => (inside_append d hne).not_above hin.1, hthere⟩)]
  refine forall₂_congr fun l hl => (hkind l).trans (and_iff_left ?_)
  exact Tree.lookups_alive hd hl

/-- The path of the root leads to it once a place inside has gone exactly when it looks nothing up at it or in
there. -/
theorem leads_prune_iff {names : List String} (hs : Storage t root d) (hd : t.locate true root = .ok d)
    (hne : names ≠ []) : (t.prune (d ++ names)).locate true root = .ok d ↔
      ∀ l ∈ t.lookups true root, ¬ d ++ names <+: l := by
  have hleft := t.prune_leftOf (d ++ names)
  have hkind (l : Location) : ((t.prune (d ++ names)).kind l).isSome ↔ ¬ d ++ names <+: l ∧ (t.kind l).isSome := by
    rw [Tree.kind_prune]
    by_cases hpre : d ++ names <+: l
    · have hnil : l ≠ [] := ((inside_append d hne).below hpre).ne_nil
      simp [hpre, hnil]
    · simp [hpre]
  rw [Tree.locate_left_iff hleft hd (by rw [(hs.prune hne).dir]; rfl)]
  refine forall₂_congr fun l hl => (hkind l).trans (and_iff_left ?_)
  exact Tree.lookups_alive hd hl

/-- **The path of the root leads to it throughout exactly when it goes through no target but the last**, and
through nothing inside a target. -/
theorem rootKept_iff (hs : Storage t root d) (hd : t.locate true root = .ok d)
    (hthere : ∀ names ∈ targets, names ≠ [] ∧ (t.kind (d ++ names)).isSome) (hapart : targets.Pairwise Apart)
    (hsorted : targets.Pairwise (· ≤ ·)) :
    RootKept root d t targets ↔
      ∀ l ∈ t.lookups true root, ∀ names ∈ targets, d ++ names <+: l →
        l = d ++ names ∧ ∀ other ∈ targets, other ≤ names := by
  induction targets generalizing t with
  | nil => simp [RootKept]
  | cons names targets ih =>
      rw [List.forall_mem_cons] at hthere
      rw [List.pairwise_cons] at hapart hsorted
      obtain ⟨⟨hne, -⟩, hrest⟩ := hthere
      have hclear := leads_clear_iff hs hd hne
      have hprune := leads_prune_iff hs hd hne
      have hlater := fun hleads => ih (hs.prune hne) hleads (fun other hmem => ⟨(hrest other hmem).1, by
        rw [kind_prune_of_apart (hapart.1 other hmem)]
        exact (hrest other hmem).2⟩) hapart.2 hsorted.2
      -- once the first target is gone, what is left has to go by the same path
      have hleads {other : List String} {rest : List (List String)} (htargets : targets = other :: rest)
          (hkept : RootKept root d (t.prune (d ++ names)) targets) :
          (t.prune (d ++ names)).locate true root = .ok d := by
        rw [htargets] at hkept
        exact Tree.locate_mono (Tree.clear_leftOf _ _) hkept.1
      constructor
      · rintro ⟨hhere, hkept⟩ l hl other hmem hpre
        rcases List.mem_cons.mp hmem with rfl | hmem
        · refine ⟨by_contra fun hne' => hclear.mp hhere l hl ⟨hpre, hne'⟩, ?_⟩
          rcases htargets : targets with _ | ⟨m, rest⟩
          · simp
          · exact absurd hpre (hprune.mp (hleads htargets hkept) l hl)
        · obtain ⟨m, rest, htargets⟩ := List.exists_cons_of_ne_nil (List.ne_nil_of_mem hmem)
          have hplace := hleads htargets hkept
          have hsame := Tree.lookups_left (t.prune_leftOf _) hplace
          obtain ⟨heq, hlast⟩ := (hlater hplace).mp hkept l (hsame ▸ hl) other hmem hpre
          refine ⟨heq, List.forall_mem_cons.mpr ⟨hsorted.1 other hmem, hlast⟩⟩
      · intro h
        refine ⟨hclear.mpr fun l hl hin => hin.2 (h l hl names (List.mem_cons_self ..) hin.1).1, ?_⟩
        rcases htargets : targets with _ | ⟨m, rest⟩
        · trivial
        · have hm : m ∈ targets := htargets ▸ List.mem_cons_self ..
          have hplace : (t.prune (d ++ names)).locate true root = .ok d := by
            refine hprune.mpr fun l hl hpre => ?_
            have hlast := (h l hl names (List.mem_cons_self ..) hpre).2 m (List.mem_cons_of_mem _ hm)
            have heq := le_antisymm (hsorted.1 m hm) hlast
            exact (hapart.1 m hm).1 (heq ▸ List.prefix_refl _)
          have hsame := Tree.lookups_left (t.prune_leftOf _) hplace
          rw [← htargets]
          refine (hlater hplace).mpr fun l hl other hmem hpre => ?_
          obtain ⟨heq, hlast⟩ := h l (hsame ▸ hl) other (List.mem_cons_of_mem _ hmem) hpre
          exact ⟨heq, fun x hx => hlast x (List.mem_cons_of_mem _ hx)⟩

/-- A removal that is not refused goes on with the targets after it. -/
theorem removeArtifacts_cons {p : RawPath} {paths : List RawPath} {count : Nat}
    (h : (removeArtifact t p).result = .ok count) :
    removeArtifacts t (p :: paths) =
      ⟨(removeArtifacts (removeArtifact t p).tree paths).tree,
        (removeArtifact t p).removed ++ (removeArtifacts (removeArtifact t p).tree paths).removed,
        (removeArtifacts (removeArtifact t p).tree paths).result.map (count + ·)⟩ := by
  rw [removeArtifacts]
  simp only [h]

/-- **Targets that are apart all go**, as long as the path of the root leads to it. -/
theorem removeArtifacts_removes (hs : Storage t root d)
    (hthere : ∀ names ∈ targets, names ≠ [] ∧ (t.kind (d ++ names)).isSome) (hapart : targets.Pairwise Apart)
    (hkept : RootKept root d t targets) :
    Removes t (fun l => ∃ names ∈ targets, d ++ names <+: l) (removeArtifacts t (targets.map root.under)) := by
  induction targets generalizing t with
  | nil => exact ⟨rfl, List.nodup_nil, by simp [removeArtifacts], by simp, fun _ _ => rfl, .refl t⟩
  | cons names targets ih =>
      rw [List.forall_mem_cons] at hthere
      rw [List.pairwise_cons] at hapart
      obtain ⟨⟨hne, hsome⟩, hrest⟩ := hthere
      obtain ⟨hfirst, htree⟩ := removeArtifact_removes hs hne hsome hkept.1
      have hlater := ih (hs.prune hne) (fun names' hmem => ⟨(hrest names' hmem).1, by
        rw [kind_prune_of_apart (hapart.1 names' hmem)]
        exact (hrest names' hmem).2⟩) hapart.2 hkept.2
      rw [← htree] at hlater
      -- a later removal is in what the first one left
      have hfiles : ((removeArtifacts (removeArtifact t (root.under names)).tree (targets.map root.under)).removed.countP
            fun l => (removeArtifact t (root.under names)).tree.kind l = some .file) =
          (removeArtifacts (removeArtifact t (root.under names)).tree (targets.map root.under)).removed.countP
            fun l => t.kind l = some .file := by
        apply List.countP_congr
        intro l hl
        obtain ⟨hleft, -⟩ := (hlater.removed l).mp hl
        have hnot : ¬ d ++ names <+: l := by
          intro hpre
          rw [hfirst.gone l hpre] at hleft
          cases hleft
        rw [hfirst.kept l hnot]
      rw [List.map_cons, removeArtifacts_cons hfirst.result]
      refine ⟨?_, ?_, fun l => ?_, fun l => ?_, fun l => ?_, hlater.leftOf.trans hfirst.leftOf⟩
      · rw [hlater.result, hfiles, List.countP_append]
        rfl
      · rw [List.nodup_append]
        refine ⟨hfirst.nodup, hlater.nodup, ?_⟩
        rintro l hl _ hm rfl
        have hgone := hfirst.gone l ((hfirst.removed l).mp hl).2
        have hleft := ((hlater.removed l).mp hm).1
        rw [hgone] at hleft
        cases hleft
      · rw [List.mem_append, hfirst.removed, hlater.removed, List.exists_mem_cons_iff]
        by_cases hpre : d ++ names <+: l
        · simp [hpre, hfirst.gone l hpre]
        · simp [hpre, hfirst.kept l hpre]
      · rw [List.exists_mem_cons_iff]
        rintro (hpre | hmem)
        · by_contra hleft
          obtain ⟨k, hk⟩ := Option.ne_none_iff_exists'.mp hleft
          have hbefore := hlater.leftOf.kind l k hk
          rw [hfirst.gone l hpre] at hbefore
          cases hbefore
        · exact hlater.gone l hmem
      · rw [List.exists_mem_cons_iff, not_or]
        rintro ⟨hpre, hmem⟩
        rw [hlater.kept l hmem, hfirst.kept l hpre]

/-- **A removal is refused** once the path of the root leads to it no more. -/
theorem removeArtifacts_refused (hs : Storage t root d)
    (hthere : ∀ names ∈ targets, names ≠ [] ∧ (t.kind (d ++ names)).isSome) (hapart : targets.Pairwise Apart)
    (hlost : ¬ RootKept root d t targets) :
    ∃ exc, (removeArtifacts t (targets.map root.under)).result = .error exc := by
  induction targets generalizing t with
  | nil => exact absurd trivial hlost
  | cons names targets ih =>
      rw [List.forall_mem_cons] at hthere
      rw [List.pairwise_cons] at hapart
      obtain ⟨⟨hne, hsome⟩, hrest⟩ := hthere
      rw [List.map_cons]
      by_cases hhere : (t.clear (d ++ names)).locate true root = .ok d
      · obtain ⟨hfirst, htree⟩ := removeArtifact_removes hs hne hsome hhere
        obtain ⟨exc, hexc⟩ := ih (hs.prune hne) (fun names' hmem => ⟨(hrest names' hmem).1, by
          rw [kind_prune_of_apart (hapart.1 names' hmem)]
          exact (hrest names' hmem).2⟩) hapart.2 fun hkept => hlost ⟨hhere, hkept⟩
        rw [removeArtifacts_cons hfirst.result, htree, hexc]
        exact ⟨exc, rfl⟩
      · obtain ⟨exc, hexc⟩ := removeArtifact_refused hs hne hsome hhere
        refine ⟨exc, ?_⟩
        rw [removeArtifacts]
        simp only [hexc]

end targets

/-! ## Scopes -/

/-- A place under the root is in a scope: its first name is the namespace, where one is given, and its second
the session. -/
def InScope (namespace_ session : Option String) (names : List String) : Prop :=
  (∀ n, namespace_ = some n → names[0]? = some n) ∧ ∀ s, session = some s → names[1]? = some s

/-- What the targets of a scope are called. -/
def scopeNames (t : Tree) (d : Location) : Option String → Option String → List (List String)
  | none, none => (t.children d).map fun n => [n]
  | some n, some s => if (t.kind (d ++ [n, s])).isSome then [[n, s]] else []
  | some n, none => if (t.kind (d ++ [n])).isSome then [[n]] else []
  | none, some s => ((t.children d).filter fun n => (t.kind (d ++ [n, s])).isSome).map fun n => [n, s]

/-- A purge spares the path of its root: what the path goes through is inside no target, and a target it goes
through itself is the last to go. -/
def RootSpared (t : Tree) (root : RawPath) (d : Location) (namespace_ session : Option String) : Prop :=
  ∀ l ∈ t.lookups true root, ∀ names ∈ scopeNames t d namespace_ session, d ++ names <+: l →
    l = d ++ names ∧ ∀ other ∈ scopeNames t d namespace_ session, other ≤ names

section scope

variable {t : Tree} {root : RawPath} {d : Location} {namespace_ session : Option String} {names : List String}

/-- The paths under a root are sorted as their names are. -/
theorem sortPaths_under (root : RawPath) (targets : List (List String)) :
    ∃ sorted : List (List String), sorted.Perm targets ∧ sorted.Pairwise (· ≤ ·) ∧
      sortPaths (targets.map root.under) = sorted.map root.under := by
  refine ⟨targets.insertionSort (· ≤ ·), List.perm_insertionSort _ _, List.pairwise_insertionSort _ _, ?_⟩
  unfold sortPaths
  exact (List.map_insertionSort (· ≤ ·) _ root.under targets fun a _ b _ =>
    (append_le_append_iff root.parts a b).symm).symm

/-- A path that ends in names ends at no directory that is gone. -/
theorem gone_under (hne : names ≠ []) (hnames : ∀ n ∈ names, IsName n) : t.gone (root.under names) = false := by
  obtain ⟨init, last, rfl⟩ := (List.eq_nil_or_concat names).resolve_left hne
  rw [List.concat_eq_append, RawPath.under_concat]
  exact Tree.gone_child _ (hnames last (by simp)).2.2.1

/-- A place below the root exists by its path exactly when something is there. -/
theorem present_under (hs : Storage t root d) (hd : t.locate true root = .ok d) (hne : names ≠ [])
    (hnames : ∀ n ∈ names, IsName n) : t.present (root.under names) = (t.kind (d ++ names)).isSome := by
  have hplain : ∀ before, before <+: names → ∀ target, t.kind (d ++ before) ≠ some (.symlink target) :=
    fun before _ => hs.plain _ (List.prefix_append d before)
  obtain ⟨hthere, hgone⟩ := Tree.locate_under true hd hs.dir hne (fun n hn => (hnames n hn).2.2.1) hplain
  unfold Tree.present Tree.pathExists
  rw [gone_under hne hnames, Bool.or_false]
  cases hkind : t.kind (d ++ names) with
  | some k =>
      rw [hthere (by simp [hkind])]
      rfl
  | none =>
      obtain ⟨error, herror⟩ := hgone hkind
      rw [herror]
      rfl

/-- A name below an entry of the root. -/
theorem child_join_parse (root : RawPath) (n : String) {s : String} (hs : IsName s) :
    (root.child n).join (.parse s) = root.under [n, s] := by
  rw [RawPath.join_parse_name _ hs]
  exact (root.under_concat [n] s).symm

/-- An entry of the root is a directory that has a name, when the name is there. -/
theorem entry_has {n s : String} (hs : Storage t root d) (hd : t.locate true root = .ok d)
    (hthere : (t.kind (d ++ [n])).isSome) (hname : IsName s) :
    (t.presentDir (root.child n) && t.present ((root.child n).join (.parse s))) =
      (t.kind (d ++ [n, s])).isSome := by
  have hentry : IsName n := Tree.names_of_kind hthere n (by simp)
  have hexists := present_under hs hd (show [n, s] ≠ [] by simp) (by simp [hentry, hname])
  have hplace : t.locate false (root.child n) = .ok (d ++ [n]) :=
    Tree.locate_below false hd hs.dir hs.plain (show [n] ≠ [] by simp) hthere
  rw [child_join_parse root n hname, hexists, presentDir_of_located hplace]
  -- with something below it the entry is a directory
  cases hsome : (t.kind (d ++ [n, s])).isSome with
  | false => rw [Bool.and_false]
  | true =>
      have hsplit : d ++ [n, s] = (d ++ [n]) ++ [s] := by simp
      rw [hsplit] at hsome
      have hdir := Tree.kind_dir_of_below hsome (List.cons_ne_nil _ _)
      rw [Bool.and_true, Tree.isDir_iff_of_locate hplace (hs.plain _ (List.prefix_append d [n]))]
      exact hdir

/-- **The targets of a scope**, in the order of their paths. -/
theorem purgeTargets_under (hs : Storage t root d) (hd : t.locate true root = .ok d)
    (hnamespace : ∀ n, namespace_ = some n → IsName n) (hsession : ∀ s, session = some s → IsName s) :
    ∃ targets : List (List String), targets.Perm (scopeNames t d namespace_ session) ∧
      targets.Pairwise (· ≤ ·) ∧ purgeTargets t root namespace_ session = targets.map root.under := by
  have hiterdir : t.iterdir root = (t.children d).map root.child := by
    unfold Tree.iterdir
    rw [hd]
  cases namespace_ with
  | some n =>
      have hn := hnamespace n rfl
      cases session with
      | some s =>
          have hs' := hsession s rfl
          have hpath : (root.join (.parse n)).join (.parse s) = root.under [n, s] := by
            rw [root.join_parse_name hn, child_join_parse root n hs']
          unfold purgeTargets scopeNames
          dsimp only
          rw [hpath, present_under hs hd (by simp) (by simp [hn, hs'])]
          split_ifs
          · exact ⟨[[n, s]], List.Perm.refl _, List.pairwise_singleton _ _, rfl⟩
          · exact ⟨[], List.Perm.refl _, List.Pairwise.nil, rfl⟩
      | none =>
          have hpath : root.join (.parse n) = root.under [n] := root.join_parse_name hn
          unfold purgeTargets scopeNames
          dsimp only
          rw [hpath, present_under hs hd (by simp) (by simp [hn])]
          split_ifs
          · exact ⟨[[n]], List.Perm.refl _, List.pairwise_singleton _ _, rfl⟩
          · exact ⟨[], List.Perm.refl _, List.Pairwise.nil, rfl⟩
  | none =>
      cases session with
      | none =>
          have hchildren : (t.children d).map root.child = ((t.children d).map fun n => [n]).map root.under := by
            rw [List.map_map]
            rfl
          unfold purgeTargets
          rw [hiterdir, hchildren]
          exact sortPaths_under root _
      | some s =>
          have hs' := hsession s rfl
          have hfiltered : ((t.children d).map root.child).filter (fun child =>
              t.presentDir child && t.present (child.join (.parse s))) =
              ((t.children d).filter fun n => (t.kind (d ++ [n, s])).isSome).map root.child := by
            rw [List.filter_map]
            congr 1
            apply List.filter_congr
            intro n hn
            exact entry_has hs hd (Tree.mem_children.mp hn) hs'
          have hjoined : (((t.children d).filter fun n => (t.kind (d ++ [n, s])).isSome).map root.child).map
              (fun child => child.join (.parse s)) =
              (((t.children d).filter fun n => (t.kind (d ++ [n, s])).isSome).map fun n => [n, s]).map
                root.under := by
            rw [List.map_map, List.map_map]
            apply List.map_congr_left
            intro n _
            exact child_join_parse root n hs'
          unfold purgeTargets
          dsimp only
          rw [hiterdir, hfiltered, hjoined]
          exact sortPaths_under root _

/-- The targets of a scope are there, and apart from each other. -/
theorem scopeNames_targets (t : Tree) (d : Location) (namespace_ session : Option String) :
    (∀ names ∈ scopeNames t d namespace_ session, names ≠ [] ∧ (t.kind (d ++ names)).isSome) ∧
      (scopeNames t d namespace_ session).Pairwise Apart := by
  have hapart {n m : String} (h : n ≠ m) (rest rest' : List String) : Apart (n :: rest) (m :: rest') := by
    refine ⟨fun hpre => h ?_, fun hpre => h ?_⟩
    · exact (List.cons_prefix_cons.mp hpre).1
    · exact (List.cons_prefix_cons.mp hpre).1.symm
  cases namespace_ with
  | some n =>
      cases session with
      | some s =>
          simp only [scopeNames]
          split_ifs with hsome
          · simp [hsome]
          · simp
      | none =>
          simp only [scopeNames]
          split_ifs with hsome
          · simp [hsome]
          · simp
  | none =>
      cases session with
      | none =>
          refine ⟨?_, List.pairwise_map.mpr ((t.children_nodup d).imp fun h => hapart h _ _)⟩
          simp [scopeNames, Tree.mem_children]
      | some s =>
          refine ⟨fun names hmem => ?_,
            List.pairwise_map.mpr (((t.children_nodup d).filter _).imp fun h => hapart h _ _)⟩
          obtain ⟨n, hn, rfl⟩ := List.mem_map.mp hmem
          exact ⟨List.cons_ne_nil _ _, (List.mem_filter.mp hn).2⟩

/-- **What is at or below a target of a scope is what is in the scope.** -/
theorem scopeNames_scope (hsome : (t.kind (d ++ names)).isSome) (hne : names ≠ []) :
    (∃ target ∈ scopeNames t d namespace_ session, d ++ target <+: d ++ names) ↔
      InScope namespace_ session names := by
  have habove {before rest : List String} (h : before ++ rest = names) : (t.kind (d ++ before)).isSome := by
    rw [← h, ← List.append_assoc] at hsome
    by_cases hrest : rest = []
    · rwa [hrest, List.append_nil] at hsome
    · rw [Tree.kind_dir_of_below hsome hrest]
      rfl
  obtain ⟨first, rest, rfl⟩ := List.exists_cons_of_ne_nil hne
  have hfirst : (t.kind (d ++ [first])).isSome := habove (List.singleton_append ..)
  have hsecond {s : String} (h : rest[0]? = some s) : ∃ rest', rest = s :: rest' := by
    cases rest with
    | nil => cases h
    | cons s' rest' => exact ⟨rest', by rw [Option.some.inj h]⟩
  have htwo {n s : String} {rest' : List String} (h : first :: rest = n :: s :: rest') :
      (t.kind (d ++ [n, s])).isSome := @habove [n, s] rest' h.symm
  simp only [List.prefix_append_right_inj]
  cases namespace_ with
  | some n =>
      cases session with
      | some s =>
          simp only [scopeNames, InScope, Option.some.injEq, forall_eq', List.getElem?_cons_zero,
            List.getElem?_cons_succ]
          constructor
          · rintro ⟨target, hmem, hpre⟩
            split_ifs at hmem
            · rw [List.mem_singleton.mp hmem, List.cons_prefix_cons] at hpre
              obtain ⟨rfl, rest', rfl⟩ := hpre
              exact ⟨rfl, rfl⟩
            · cases hmem
          · rintro ⟨rfl, hs⟩
            obtain ⟨rest', rfl⟩ := hsecond hs
            rw [if_pos (htwo rfl)]
            exact ⟨[first, s], List.mem_singleton.mpr rfl, rest', rfl⟩
      | none =>
          simp only [scopeNames, InScope, Option.some.injEq, forall_eq', List.getElem?_cons_zero,
            reduceCtorEq, false_implies, implies_true, and_true]
          constructor
          · rintro ⟨target, hmem, hpre⟩
            split_ifs at hmem
            · rw [List.mem_singleton.mp hmem, List.cons_prefix_cons] at hpre
              exact hpre.1.symm
            · cases hmem
          · rintro rfl
            rw [if_pos hfirst]
            exact ⟨[first], List.mem_singleton.mpr rfl, rest, rfl⟩
  | none =>
      cases session with
      | none =>
          simp only [scopeNames, InScope, reduceCtorEq, false_implies, implies_true, and_true, iff_true]
          exact ⟨[first], List.mem_map_of_mem (Tree.mem_children.mpr hfirst), rest, rfl⟩
      | some s =>
          simp only [scopeNames, InScope, Option.some.injEq, forall_eq', List.getElem?_cons_succ,
            reduceCtorEq, false_implies, implies_true, true_and]
          constructor
          · rintro ⟨target, hmem, hpre⟩
            obtain ⟨n, -, rfl⟩ := List.mem_map.mp hmem
            rw [List.cons_prefix_cons] at hpre
            obtain ⟨rest', rfl⟩ := hpre.2
            rfl
          · intro hs
            obtain ⟨rest', rfl⟩ := hsecond hs
            refine ⟨[first, s], List.mem_map.mpr ⟨first, List.mem_filter.mpr ⟨?_, htwo rfl⟩, rfl⟩, rest', rfl⟩
            exact Tree.mem_children.mpr hfirst

end scope

/-! ## A purge -/

/-- What a purge of a scope is for: the files that go are those in the scope, each other file stays, it counts
those that go, and once more it removes nothing. -/
structure PurgesScope (t : Tree) (policy : LMCacheStoragePolicy) (d : Location)
    (namespace_ session : Option String) : Prop where
  gone : ∀ l, t.kind l = some .file → (∃ names, l = d ++ names ∧ InScope namespace_ session names) →
    l ∈ (purgeLmcache t policy namespace_ session).removed ∧
      (purgeLmcache t policy namespace_ session).tree.kind l = none
  kept : ∀ l, t.kind l = some .file → ¬ (∃ names, l = d ++ names ∧ InScope namespace_ session names) →
    l ∉ (purgeLmcache t policy namespace_ session).removed ∧
      (purgeLmcache t policy namespace_ session).tree.kind l = some .file
  counted : ∃ files : List Location, files.Nodup ∧
    (∀ l, l ∈ files ↔ t.kind l = some .file ∧ l ∈ (purgeLmcache t policy namespace_ session).removed) ∧
      (purgeLmcache t policy namespace_ session).result =
        .ok [("scope", .str (purgeScope namespace_ session)), ("removed_count", .int files.length)]
  again : purgeLmcache (purgeLmcache t policy namespace_ session).tree policy namespace_ session =
    ⟨(purgeLmcache t policy namespace_ session).tree, [],
      .ok [("scope", .str (purgeScope namespace_ session)), ("removed_count", .int 0)]⟩

section purge

variable {t : Tree} {policy : LMCacheStoragePolicy} {root : RawPath} {d : Location}
  {namespace_ session : Option String}

/-- The purge of a storage root. -/
theorem purgeLmcache_of_root (h : storageRoot t policy = some root) (namespace_ session : Option String) :
    purgeLmcache t policy namespace_ session =
      ⟨(removeArtifacts t (purgeTargets t root namespace_ session)).tree,
        (removeArtifacts t (purgeTargets t root namespace_ session)).removed,
        (removeArtifacts t (purgeTargets t root namespace_ session)).result.map fun count : Nat =>
          [("scope", .str (purgeScope namespace_ session)), ("removed_count", .int count)]⟩ := by
  unfold purgeLmcache
  rw [h]

/-- Below a path that leads nowhere a purge of names has no targets. -/
theorem purgeTargets_of_nowhere {error : Errno} (hnowhere : t.locate true root = .error error)
    (hnamespace : ∀ n, namespace_ = some n → IsName n) (hsession : ∀ s, session = some s → IsName s) :
    purgeTargets t root namespace_ session = [] := by
  have habsent {names : List String} (hne : names ≠ []) (hnames : ∀ n ∈ names, IsName n) :
      t.present (root.under names) = false := by
    unfold Tree.present Tree.pathExists
    rw [gone_under hne hnames, Bool.or_false]
    cases hloc : t.locate true (root.under names) with
    | error _ => rfl
    | ok l =>
        obtain ⟨d, hd⟩ := Tree.locate_of_under hne (fun n hn => (hnames n hn).2.2.1) hloc
        rw [hnowhere] at hd
        cases hd
  have hlists : t.iterdir root = [] := by
    unfold Tree.iterdir
    rw [hnowhere]
  rcases namespace_ with _ | n
  · rcases session with _ | s
    · unfold purgeTargets
      rw [hlists]
      rfl
    · unfold purgeTargets
      rw [hlists]
      rfl
  · have hn := hnamespace n rfl
    have hpath : root.join (.parse n) = root.under [n] := root.join_parse_name hn
    rcases session with _ | s
    · unfold purgeTargets
      dsimp only
      rw [hpath, habsent (by simp) (by simp [hn])]
      rfl
    · have hs := hsession s rfl
      have hboth : (root.under [n]).join (.parse s) = root.under [n, s] := child_join_parse root n hs
      unfold purgeTargets
      dsimp only
      rw [hpath, hboth, habsent (by simp) (by simp [hn, hs])]
      rfl

/-- Where nothing of the scope is left, a purge removes nothing. -/
theorem purge_again {t' : Tree} (hroot : storageRoot t policy = some root) (hs : Storage t root d)
    (hnamespace : ∀ n, namespace_ = some n → IsName n) (hsession : ∀ s, session = some s → IsName s)
    (hleft : Tree.LeftOf t' t)
    (hnone : ∀ names, names ≠ [] → (t'.kind (d ++ names)).isSome → ¬ InScope namespace_ session names) :
    purgeLmcache t' policy namespace_ session =
      ⟨t', [], .ok [("scope", .str (purgeScope namespace_ session)), ("removed_count", .int 0)]⟩ := by
  cases hroot' : storageRoot t' policy with
  | none =>
      unfold purgeLmcache
      rw [hroot']
      rfl
  | some root' =>
      obtain ⟨path, hpath, -, rfl, -⟩ := storageRoot_iff.mp hroot
      obtain ⟨path', hpath', -, rfl, -⟩ := storageRoot_iff.mp hroot'
      rw [hpath] at hpath'
      cases hpath'
      have hempty : purgeTargets t' (.parse path) namespace_ session = [] := by
        cases hloc : t'.locate true (.parse path) with
        | error error => exact purgeTargets_of_nowhere hloc hnamespace hsession
        | ok d' =>
            have hdir := dir_of_storageRoot hroot' hloc
            obtain rfl := hs.leads d' (Tree.locate_mono hleft hloc)
            obtain ⟨targets, hperm, -, htargets⟩ :=
              purgeTargets_under (hs.mono hleft hdir) hloc hnamespace hsession
            rw [htargets, List.map_eq_nil_iff, List.eq_nil_iff_forall_not_mem]
            intro names hmem
            rw [hperm.mem_iff] at hmem
            obtain ⟨hne, hsome⟩ := (scopeNames_targets t' d' namespace_ session).1 names hmem
            exact hnone names hne hsome ((scopeNames_scope hsome hne).mp ⟨names, hmem, List.prefix_refl _⟩)
      rw [purgeLmcache_of_root hroot', hempty]
      rfl

/-- What is at or below a target is what is in the scope, but for the root itself. -/
theorem targets_scope {targets : List (List String)} {l : Location}
    (hperm : targets.Perm (scopeNames t d namespace_ session)) (hnamed : ∀ names ∈ targets, names ≠ [])
    (hsome : (t.kind l).isSome) (hne : l ≠ d) :
    (∃ names ∈ targets, d ++ names <+: l) ↔ ∃ names, l = d ++ names ∧ InScope namespace_ session names := by
  constructor
  · rintro ⟨target, hmem, rest, rfl⟩
    rw [List.append_assoc] at hsome ⊢
    refine ⟨target ++ rest, rfl, (scopeNames_scope hsome ?_).mp ⟨target, hperm.mem_iff.mp hmem, rest, ?_⟩⟩
    · simp [hnamed target hmem]
    · rw [List.append_assoc]
  · rintro ⟨names, rfl, hin⟩
    obtain ⟨target, hmem, hpre⟩ := (scopeNames_scope hsome (by simpa using hne)).mpr hin
    exact ⟨target, hperm.mem_iff.mpr hmem, hpre⟩

/-- **A purge removes exactly the files of its scope, and is done then, exactly when it spares the path of its
root.** For every tree and every storage root in it without links inside, and every namespace and session that
are names or absent: the files that go are those under the root whose first name is the namespace and whose
second is the session, every other file stays, the count is theirs, and a second purge removes nothing, if and
only if the configured path goes through no target but the last, and through nothing inside a target. -/
theorem purgesScope_iff (hroot : storageRoot t policy = some root) (hd : t.locate true root = .ok d)
    (hplain : ∀ l, d <+: l → ∀ target, t.kind l ≠ some (.symlink target))
    (hnamespace : ∀ n, namespace_ = some n → IsName n) (hsession : ∀ s, session = some s → IsName s) :
    PurgesScope t policy d namespace_ session ↔ RootSpared t root d namespace_ session := by
  have hdir := dir_of_storageRoot hroot hd
  have hs : Storage t root d := by
    refine ⟨hdir, fun l hl => ?_, hplain⟩
    rw [hd] at hl
    cases hl
    rfl
  obtain ⟨targets, hperm, hsorted, htargets⟩ := purgeTargets_under hs hd hnamespace hsession
  obtain ⟨hthere, hapart⟩ := scopeNames_targets t d namespace_ session
  have hthere' : ∀ names ∈ targets, names ≠ [] ∧ (t.kind (d ++ names)).isSome :=
    fun names hmem => hthere names (hperm.mem_iff.mp hmem)
  have hapart' : targets.Pairwise Apart := by
    refine (hperm.pairwise_iff ?_).mpr hapart
    exact fun h => ⟨h.2, h.1⟩
  have hspared : RootSpared t root d namespace_ session ↔ RootKept root d t targets := by
    rw [rootKept_iff hs hd hthere' hapart' hsorted]
    unfold RootSpared
    simp only [hperm.mem_iff]
  have hpurge := purgeLmcache_of_root hroot namespace_ session
  rw [htargets] at hpurge
  rw [hspared]
  constructor
  · intro hpurges
    by_contra hlost
    obtain ⟨exc, hexc⟩ := removeArtifacts_refused hs hthere' hapart' hlost
    obtain ⟨files, -, -, hresult⟩ := hpurges.counted
    rw [hpurge, hexc] at hresult
    cases hresult
  · intro hkept
    have hremoves := removeArtifacts_removes hs hthere' hapart' hkept
    have hscope {l : Location} (hsome : (t.kind l).isSome) (hne : l ≠ d) :
        (∃ names ∈ targets, d ++ names <+: l) ↔ ∃ names, l = d ++ names ∧ InScope namespace_ session names :=
      targets_scope hperm (fun names hmem => (hthere' names hmem).1) hsome hne
    have hfile {l : Location} (hl : t.kind l = some .file) : (t.kind l).isSome ∧ l ≠ d := by
      refine ⟨by rw [hl]; rfl, ?_⟩
      rintro rfl
      rw [hdir] at hl
      cases hl
    have hagain := purge_again hroot hs hnamespace hsession hremoves.leftOf fun names hne hsome hin => by
      have hbefore : (t.kind (d ++ names)).isSome := by
        obtain ⟨k, hk⟩ := Option.isSome_iff_exists.mp hsome
        rw [hremoves.leftOf.kind _ _ hk]
        rfl
      rw [hremoves.gone _ ((hscope hbefore (by simpa using hne)).mpr ⟨names, rfl, hin⟩)] at hsome
      cases hsome
    refine ⟨fun l hl hin => ?_, fun l hl hout => ?_, ?_, ?_⟩
    · obtain ⟨hsome, hne⟩ := hfile hl
      have hgone := (hscope hsome hne).mpr hin
      rw [hpurge]
      exact ⟨(hremoves.removed l).mpr ⟨hsome, hgone⟩, hremoves.gone l hgone⟩
    · obtain ⟨hsome, hne⟩ := hfile hl
      have hkept' := fun h => hout ((hscope hsome hne).mp h)
      rw [hpurge]
      exact ⟨fun hmem => hkept' ((hremoves.removed l).mp hmem).2, (hremoves.kept l hkept').trans hl⟩
    · rw [hpurge]
      refine ⟨_, hremoves.nodup.filter fun l => t.kind l = some .file, fun l => ?_, ?_⟩
      · rw [List.mem_filter, decide_eq_true_eq]
        exact and_comm
      · rw [hremoves.result, List.countP_eq_length_filter]
        rfl
    · rw [hpurge]
      exact hagain

end purge

/-- A storage of two namespaces. -/
def storageTree : Tree where
  entries :=
    [(["srv"], .dir), (["srv", "lmcache"], .dir), (["srv", "lmcache", "loose"], .file),
     (["srv", "lmcache", "alpha"], .dir), (["srv", "lmcache", "alpha", "s1"], .dir),
     (["srv", "lmcache", "alpha", "s1", "chunk"], .file), (["srv", "lmcache", "beta"], .dir),
     (["srv", "lmcache", "beta", "s1"], .dir), (["srv", "lmcache", "beta", "s1", "chunk"], .file)]
  cwd := []
  distinct := by decide
  rooted := by decide
  named := by decide

theorem storageTree_plain (l : Location) (target : RawPath) : storageTree.kind l ≠ some (.symlink target) := by
  intro h
  by_cases hnil : l = []
  · rw [hnil] at h
    cases h
  · have hmem := Tree.mem_of_kind hnil h
    simp [storageTree] at hmem

/-- A purge of one session, by a path that goes through no target. -/
theorem purgesScope_alpha :
    PurgesScope storageTree { cacheStoragePath := some "/srv/lmcache" } ["srv", "lmcache"] (some "alpha")
      (some "s1") := by
  refine (purgesScope_iff (show storageRoot _ _ = some (.parse "/srv/lmcache") by decide) (by rfl)
    (fun l _ => storageTree_plain l)
    (fun n hn => by cases hn; decide) fun s hs => by cases hs; decide).mpr ?_
  unfold RootSpared
  decide

/-- From the directory of a namespace the root is `..`, also once that directory is gone. -/
example : (purgeLmcache { storageTree with cwd := ["srv", "lmcache", "alpha"] } { cacheStoragePath := some ".." }
    none none).result = .ok [("scope", .str "global"), ("removed_count", .int 3)] := by rfl

/-- **A root whose path leads through one of its namespaces is lost when that is removed**: the purge is refused
at the next target. -/
theorem purge_loses_root :
    (purgeLmcache storageTree { cacheStoragePath := some "/srv/lmcache/alpha/.." } none none).result =
        .error (osError "FileNotFoundError" "[Errno 2] No such file or directory") ∧
      ¬ ∀ (t : Tree) (policy : LMCacheStoragePolicy) (root : RawPath) (d : Location)
          (namespace_ session : Option String), storageRoot t policy = some root →
          t.locate true root = .ok d → (∀ l, d <+: l → ∀ target, t.kind l ≠ some (.symlink target)) →
            (∀ n, namespace_ = some n → IsName n) → (∀ s, session = some s → IsName s) →
              PurgesScope t policy d namespace_ session := by
  have hrefused : (purgeLmcache storageTree { cacheStoragePath := some "/srv/lmcache/alpha/.." } none none).result =
      .error (osError "FileNotFoundError" "[Errno 2] No such file or directory") := by
    rfl
  refine ⟨hrefused, fun hclaim => ?_⟩
  have hpurges := hclaim storageTree { cacheStoragePath := some "/srv/lmcache/alpha/.." } _ ["srv", "lmcache"]
    none none rfl rfl (fun l _ => storageTree_plain l) (fun _ h => by cases h) fun _ h => by cases h
  obtain ⟨files, -, -, hresult⟩ := hpurges.counted
  rw [hrefused] at hresult
  cases hresult

end Lmrs
