import Lmrs.Lib.Posix.Visits

/-!
# Removing what is below a directory

* `Tree.prune_clear`: a place that is emptied and then goes is gone.
* `Tree.locate_of_under`: a path leads somewhere when what is below it does.
* `Tree.locate_below`: what is below a directory without links is found under its path.
* `Fault`: where a removal fails, and what it has left by then. `Tree.isDir_rmtree`: what a removal that does not
  fail leaves.
-/

namespace Posix

namespace RawPath

@[simp] theorem under_nil (p : RawPath) : p.under [] = p := by
  unfold under
  rw [List.append_nil]

theorem under_concat (p : RawPath) (names : List String) (n : String) :
    p.under (names ++ [n]) = (p.under names).child n := by
  unfold under child
  rw [List.append_assoc]

end RawPath

namespace Tree

variable {t t' : Tree} {follow : Bool} {d l : Location} {p : RawPath} {names : List String}

/-- What is at a place has names on the way to it. -/
theorem names_of_kind (h : (t.kind l).isSome) : ∀ n ∈ l, IsName n := by
  obtain ⟨k, hk⟩ := Option.isSome_iff_exists.mp h
  intro n hn
  exact t.named _ (mem_of_kind (List.ne_nil_of_mem hn) hk) n hn

/-- **A place that is emptied and then goes is gone.** -/
theorem prune_clear (t : Tree) (l : Location) : (t.clear l).prune l = t.prune l := by
  have hentries : (t.entries.filter fun e => decide (¬ Inside l e.1)).filter (fun e => decide (¬ l <+: e.1)) =
      t.entries.filter fun e => decide (¬ l <+: e.1) := by
    rw [List.filter_filter]
    apply List.filter_congr
    intro e _
    by_cases hpre : l <+: e.1
    · simp [hpre]
    · have hout : ¬ Inside l e.1 := fun hin => hpre hin.1
      simp [hpre, hout]
  simp only [prune, clear, keep, Tree.mk.injEq, and_true]
  exact hentries

/-- Where there is nothing below, nothing goes when a place is emptied. -/
theorem kind_clear_of_not_dir (h : t.kind l ≠ some .dir) (m : Location) : (t.clear l).kind m = t.kind m := by
  rw [kind_clear]
  split_ifs with hin
  · obtain ⟨rest, rfl⟩ := hin.1
    have hrest : rest ≠ [] := by
      rintro rfl
      exact hin.2 (List.append_nil l)
    rw [kind_none_of_below h hrest]
  · rfl

/-- **A path leads somewhere when what is below it does.** -/
theorem locate_of_under (hne : names ≠ []) (hnames : ∀ n ∈ names, n ≠ "..")
    (h : t.locate follow (p.under names) = .ok l) : ∃ d, t.locate true p = .ok d := by
  induction names using List.reverseRecOn generalizing follow l with
  | nil => exact absurd rfl hne
  | append_singleton names n ih =>
      rw [RawPath.under_concat] at h
      obtain ⟨d, hd, -⟩ := locate_before (hnames n (by simp)) h
      by_cases hnil : names = []
      · rw [hnil, RawPath.under_nil] at hd
        exact ⟨d, hd⟩
      · exact ih hnil (fun n hn => hnames n (List.mem_append_left _ hn)) hd

/-- **What is below a directory without links is found under its path.** -/
theorem locate_below (follow : Bool) (hd : t.locate true p = .ok d) (hdir : t.kind d = some .dir)
    (hplain : ∀ m, d <+: m → ∀ target, t.kind m ≠ some (.symlink target)) (hne : names ≠ [])
    (hthere : (t.kind (d ++ names)).isSome) : t.locate follow (p.under names) = .ok (d ++ names) := by
  have hnames : ∀ n ∈ names, n ≠ ".." :=
    fun n hn => (names_of_kind hthere n (List.mem_append_right _ hn)).2.2.1
  have hbefore : ∀ before, before <+: names → ∀ target, t.kind (d ++ before) ≠ some (.symlink target) :=
    fun before _ => hplain _ (List.prefix_append d before)
  exact (locate_under follow hd hdir hne hnames hbefore).1 (Option.isSome_iff_ne_none.mp hthere)

/-! ### Removals that fail -/

/-- A path that leads to a directory in what is left of a tree leads to one in the tree. -/
theorem isDir_mono (hleft : LeftOf t' t) (h : t'.isDir p = true) : t.isDir p = true := by
  obtain ⟨l, hl, hdir⟩ := isDir_iff.mp h
  exact isDir_iff.mpr ⟨l, locate_mono hleft hl, hleft.kind _ _ hdir⟩

/-- What is kept of a tree is left of it. -/
theorem keep_leftOf (t : Tree) (P : Location → Bool) (hP) : LeftOf (t.keep P hP) t := by
  refine ⟨fun l k h => ?_, rfl⟩
  rw [kind_keep] at h
  split_ifs at h
  exact h

/-- What a removal leaves is left of the tree. -/
theorem rmtree_leftOf (t : Tree) (p : RawPath) : LeftOf (t.rmtree p).tree t := by
  obtain ⟨hcwd, hkinds⟩ := t.rmtree_changes p
  refine ⟨fun l k h => ?_, hcwd⟩
  rcases hkinds l with hsame | ⟨hnone, -⟩
  · rwa [hsame] at h
  · rw [hnone] at h
    cases h

/-- **A directory is not there after a removal that is not refused.** -/
theorem isDir_rmtree (h : (t.rmtree p).refusal = none) : (t.rmtree p).tree.isDir p = false := by
  rw [Bool.eq_false_iff]
  intro hisDir
  obtain ⟨m, hm, hkind⟩ := isDir_iff.mp hisDir
  have hbefore := locate_mono (t.rmtree_leftOf p) hm
  cases hloc : t.locate false p with
  | error error =>
      obtain ⟨refusal, hcase⟩ := rmtree_error hloc
      rw [hcase] at h
      cases h
  | ok l =>
      by_cases hdir : t.kind l = some .dir
      · rcases rmtree_cases hloc hdir with ⟨hnames, hcase⟩ | ⟨-, refusal, hcase⟩
        · -- the path leads to the place that is gone
          have hsame := locate_followed hloc (by simp [hdir])
          rw [hbefore] at hsame
          cases hsame
          rw [hcase, kind_prune] at hkind
          split_ifs at hkind with hgone
          have hnil : m = [] := by
            by_contra hne
            exact hgone ⟨hne, List.prefix_refl _⟩
          -- the top directory has no name
          obtain ⟨hparts, hlast, hplace⟩ := hnames
          obtain ⟨init, n, heq⟩ := (List.eq_nil_or_concat p.parts).resolve_left hparts
          have hp : p = RawPath.child ⟨p.absolute, init⟩ n := by
            unfold RawPath.child
            rw [← List.concat_eq_append, ← heq]
          have hn : n ≠ ".." := by
            rintro rfl
            exact hlast (by simp [heq])
          rw [hp] at hplace
          obtain ⟨d, -, -, hd⟩ := locate_parent hn hplace
          rw [hnil] at hd
          exact absurd hd (by simp)
        · rw [hcase] at h
          cases h
      · obtain ⟨refusal, hcase⟩ := rmtree_of_not_dir hloc hdir
        rw [hcase] at h
        cases h

end Tree

/-- Where a recursive removal fails: the entries it has left by then, with the directories they are in, and the
text of its error. -/
structure Fault where
  keeps : Location → Bool
  closed : ∀ l n, keeps (l ++ [n]) = true → keeps l = true
  message : String

/-- What a removal that fails leaves: the directory, and of what is inside what it had not come to. -/
def Tree.rmtreeFault (t : Tree) (p : RawPath) (fault : Fault) : Tree :=
  match t.locate false p with
  | .error _ => t
  | .ok d =>
      t.keep (fun l => !decide (Inside d l) || fault.keeps l) fun l n h => by
        by_cases hin : Inside d l
        · have hbelow : Inside d (l ++ [n]) := hin.below (List.prefix_append l [n])
          simp only [hbelow, decide_true, Bool.not_true, Bool.false_or] at h
          simp [fault.closed l n h]
        · simp [hin]

/-- What a removal leaves, with the fault it meets. -/
def Tree.rmtreeLeft (t : Tree) (p : RawPath) : Option Fault → Tree
  | none => (t.rmtree p).tree
  | some fault => t.rmtreeFault p fault

theorem Tree.rmtreeFault_leftOf (t : Tree) (p : RawPath) (fault : Fault) : LeftOf (t.rmtreeFault p fault) t := by
  unfold rmtreeFault
  split
  · exact .refl t
  · exact t.keep_leftOf _ _

namespace Tree

variable {t : Tree} {p : RawPath} {l : Location} {n : String} {fault : Option Fault}

theorem rmtreeLeft_leftOf (t : Tree) (p : RawPath) (fault : Option Fault) : LeftOf (t.rmtreeLeft p fault) t := by
  cases fault with
  | none => exact t.rmtree_leftOf p
  | some fault => exact t.rmtreeFault_leftOf p fault

/-- A directory can be removed by a path: it is no link, and the path names it. -/
def Removable (t : Tree) (p : RawPath) : Prop :=
  ∃ l, t.locate false p = .ok l ∧ t.kind l = some .dir ∧ t.NamesPlace p l

/-- **A removal is not refused exactly when the directory can be removed by its path.** -/
theorem rmtree_refusal_iff : (t.rmtree p).refusal = none ↔ t.Removable p := by
  unfold Removable
  cases hloc : t.locate false p with
  | error error =>
      obtain ⟨refusal, hcase⟩ := rmtree_error hloc
      simp [hcase]
  | ok l =>
      simp only [Except.ok.injEq, exists_eq_left']
      by_cases hdir : t.kind l = some .dir
      · rw [← names_clear_iff hloc]
        rcases rmtree_cases hloc hdir with ⟨hnames, hcase⟩ | ⟨hnames, refusal, hcase⟩
        · simp [hcase, hdir, hnames]
        · simp [hcase, hnames]
      · obtain ⟨refusal, hcase⟩ := rmtree_of_not_dir hloc hdir
        simp [hcase, hdir]

/-- **A removal that stops keeps the directory itself**, and all there is when it is a link. -/
theorem rmtreeLeft_stopped (hloc : t.locate false p = .ok l) (hstop : fault ≠ none ∨ ¬ t.Removable p) :
    (t.rmtreeLeft p fault).kind l = t.kind l ∧
      (t.kind l ≠ some .dir → ∀ m, (t.rmtreeLeft p fault).kind m = t.kind m) := by
  have hbelow (hdir : t.kind l ≠ some .dir) (m : Location) (hin : Inside l m) : t.kind m = none := by
    obtain ⟨⟨rest, rfl⟩, hne⟩ := hin
    exact kind_none_of_below hdir (by simpa using hne)
  cases fault with
  | some fault =>
      unfold rmtreeLeft rmtreeFault
      rw [hloc]
      dsimp only
      constructor
      · rw [kind_keep, if_pos]
        right
        simp [Inside]
      · intro hdir m
        rw [kind_keep]
        split_ifs with hkept
        · rfl
        · refine (hbelow hdir m ?_).symm
          by_contra hout
          exact hkept (Or.inr (by simp [hout]))
  | none =>
      have hrefused : ¬ t.Removable p := hstop.resolve_left fun h => h rfl
      by_cases hdir : t.kind l = some .dir
      · refine ⟨?_, fun h => absurd hdir h⟩
        rcases rmtree_cases hloc hdir with ⟨hnames, -⟩ | ⟨-, refusal, hcase⟩
        · exact absurd ⟨l, hloc, hdir, (names_clear_iff hloc).mp hnames⟩ hrefused
        · unfold rmtreeLeft
          rw [hcase]
          exact t.kind_clear_self l
      · obtain ⟨refusal, hcase⟩ := rmtree_of_not_dir hloc hdir
        unfold rmtreeLeft
        rw [hcase]
        exact ⟨rfl, fun _ _ => rfl⟩

/-- **A directory under a name is there after a removal that stops**, as long as the path before the name leads
there. -/
theorem isDir_stopped (hn : n ≠ "..") (hdir : t.isDir (p.child n) = true)
    (hstop : fault ≠ none ∨ ¬ t.Removable (p.child n))
    (hp : (t.rmtreeLeft (p.child n) fault).isDir p = true) :
    (t.rmtreeLeft (p.child n) fault).isDir (p.child n) = true := by
  have hleft := t.rmtreeLeft_leftOf (p.child n) fault
  obtain ⟨l, hl, hkind⟩ := isDir_iff.mp hdir
  obtain ⟨d, hd, hdirBefore⟩ := isDir_iff.mp hp
  have hd' := locate_mono hleft hd
  have hparent := hleft.kind _ _ hdirBefore
  have hthere : t.kind (d ++ [n]) ≠ none := by
    intro hnone
    rw [locate_child hd' hparent hn (by simp [hnone]), if_pos hnone] at hl
    cases hl
  have hplace : t.locate false (p.child n) = .ok (d ++ [n]) := by
    rw [locate_child hd' hparent hn (by simp), if_neg hthere]
  obtain ⟨hkept, hall⟩ := rmtreeLeft_stopped hplace hstop
  by_cases hown : t.kind (d ++ [n]) = some .dir
  · have hfollowed : (t.rmtreeLeft (p.child n) fault).locate true (p.child n) = .ok (d ++ [n]) := by
      rw [locate_child hd hdirBefore hn (by simp [hkept, hown]), if_neg (by simp [hkept, hown])]
    exact isDir_iff.mpr ⟨_, hfollowed, hkept.trans hown⟩
  · -- behind a link nothing goes
    have hsame : (t.rmtreeLeft (p.child n) fault).locate true (p.child n) = t.locate true (p.child n) :=
      (locate_congr (fun _ => hleft.cwd) fun m _ => hall hown m).1
    exact isDir_iff.mpr ⟨l, hsame.trans hl, (hall hown l).trans hkind⟩

end Tree

end Posix
