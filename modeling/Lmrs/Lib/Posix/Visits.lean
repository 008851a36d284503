import Lmrs.Lib.Posix

/-!
# What the resolution of a path looks at

`Tree.visits` are the places a resolution looks at: every name it comes to, in the directory it has reached.

* `Tree.locate_congr`: where two trees are the same at the places looked at, a path resolves to the same
  place in both, and the same places are looked at.
* `Tree.visits_child`, `Tree.mem_visits_child`: a path is looked at on the way to what is below it, and for a
  name in a directory nothing else but its place.
* `Tree.locate_left_iff`: a path leads where it led in what is left of a tree exactly when everything it looks
  up is left.
* `Tree.children_perm`, `Tree.below_perm`: what a directory lists hangs on what is there.
-/

namespace Posix

namespace Tree

variable {t t' : Tree} {follow : Bool} {cur d l : Location} {parts : List String} {links : Nat}
  {p : RawPath} {n : String}

/-! ## Places looked at -/

/-- The places looked at on the way to the next link. -/
def advanceVisits (t : Tree) : Location → List String → List Location
  | _, [] => []
  | cur, name :: rest =>
      if name = ".." then t.advanceVisits cur.dropLast rest
      else
        (cur ++ [name]) ::
          (if t.kind (cur ++ [name]) = some .dir then t.advanceVisits (cur ++ [name]) rest else [])

/-- The places looked at on a walk, through at most `links` links. -/
def walkVisits (t : Tree) (follow : Bool) : Nat → Location → List String → List Location
  | 0, cur, parts => t.advanceVisits cur parts
  | links + 1, cur, parts =>
      t.advanceVisits cur parts ++
        match t.advance follow cur parts with
        | .link c target rest => t.walkVisits follow links (start c target) (target.parts ++ rest)
        | _ => []

/-- The places a walk goes through before it sets out. -/
def setOutVisits (t : Tree) : Location → List String → List Location
  | cur, [] => [cur]
  | cur, name :: rest =>
      cur ::
        (if t.kind cur = some .dir then []
         else if name = ".." then t.setOutVisits cur.dropLast rest
         else [])

/-- The places the resolution of a path looks a name up at. -/
def lookups (t : Tree) (follow : Bool) (p : RawPath) : List Location :=
  match t.setOut (t.origin p) p.parts with
  | some (cur, parts) => t.walkVisits follow 40 cur parts
  | none => []

/-- The places the resolution of a path looks at. -/
def visits (t : Tree) (follow : Bool) (p : RawPath) : List Location :=
  if p.absolute then t.lookups follow p
  else t.setOutVisits t.cwd p.parts ++ t.lookups follow p

theorem advance_congr (follow : Bool) (h : ∀ l ∈ t.advanceVisits cur parts, t'.kind l = t.kind l) :
    t'.advance follow cur parts = t.advance follow cur parts ∧
      t'.advanceVisits cur parts = t.advanceVisits cur parts := by
  induction parts generalizing cur with
  | nil => exact ⟨rfl, rfl⟩
  | cons name rest ih =>
      unfold advanceVisits at h ⊢
      unfold advance
      by_cases hdot : name = ".."
      · rw [if_pos hdot] at h
        rw [if_pos hdot, if_pos hdot, if_pos hdot, if_pos hdot]
        exact ih h
      · rw [if_neg hdot] at h
        rw [if_neg hdot, if_neg hdot, if_neg hdot, if_neg hdot]
        have hhere := h _ (List.mem_cons_self ..)
        rw [hhere]
        by_cases hdir : t.kind (cur ++ [name]) = some .dir
        · rw [if_pos hdir] at h
          have hrest := ih fun l hl => h l (List.mem_cons_of_mem _ hl)
          rw [if_pos hdir, if_pos hdir, hdir, hrest.2]
          exact ⟨hrest.1, rfl⟩
        · rw [if_neg hdir, if_neg hdir]
          refine ⟨?_, rfl⟩
          cases hkind : t.kind (cur ++ [name]) with
          | none => rfl
          | some k =>
              cases k with
              | dir => exact absurd hkind hdir
              | file => rfl
              | symlink target => rfl

theorem walk_congr (h : ∀ l ∈ t.walkVisits follow links cur parts, t'.kind l = t.kind l) :
    t'.walk follow links cur parts = t.walk follow links cur parts ∧
      t'.walkVisits follow links cur parts = t.walkVisits follow links cur parts := by
  induction links generalizing cur parts with
  | zero =>
      obtain ⟨hadvance, hvisits⟩ := advance_congr follow h
      unfold walk walkVisits
      rw [hadvance]
      exact ⟨rfl, hvisits⟩
  | succ links ih =>
      unfold walkVisits at h ⊢
      obtain ⟨hadvance, hvisits⟩ := advance_congr follow fun l hl => h l (List.mem_append_left _ hl)
      unfold walk
      rw [hadvance, hvisits]
      cases hnext : t.advance follow cur parts with
      | arrived l => exact ⟨rfl, rfl⟩
      | failed error => exact ⟨rfl, rfl⟩
      | link c target rest =>
          rw [hnext] at h
          obtain ⟨hwalk, hrest⟩ := ih fun l hl => h l (List.mem_append_right _ hl)
          exact ⟨hwalk, congrArg _ hrest⟩

/-- A walk sets out the same where the same is found before. -/
theorem setOut_congr (h : ∀ l ∈ t.setOutVisits cur parts, t'.kind l = t.kind l) :
    t'.setOut cur parts = t.setOut cur parts ∧ t'.setOutVisits cur parts = t.setOutVisits cur parts := by
  induction parts generalizing cur with
  | nil =>
      unfold setOut
      rw [h cur (List.mem_cons_self ..)]
      exact ⟨rfl, rfl⟩
  | cons name rest ih =>
      have hhere := h cur (List.mem_cons_self ..)
      unfold setOutVisits at h ⊢
      unfold setOut
      rw [hhere]
      split_ifs at h ⊢
      · exact ⟨rfl, rfl⟩
      · obtain ⟨hout, hvisits⟩ := ih fun l hl => h l (List.mem_cons_of_mem _ hl)
        exact ⟨hout, congrArg _ hvisits⟩
      · exact ⟨rfl, rfl⟩

/-- A resolution looks the same names up where it sets out the same and the same is found. -/
theorem lookups_congr (follow : Bool) (hout : t'.setOut (t'.origin p) p.parts = t.setOut (t.origin p) p.parts)
    (h : ∀ l ∈ t.lookups follow p, t'.kind l = t.kind l) :
    t'.locate follow p = t.locate follow p ∧ t'.lookups follow p = t.lookups follow p := by
  unfold lookups at h ⊢
  unfold locate
  rw [hout]
  rcases hset : t.setOut (t.origin p) p.parts with _ | ⟨cur, parts⟩
  · exact ⟨rfl, rfl⟩
  · rw [hset] at h
    exact walk_congr h

/-- **A path resolves the same where the same is found.** -/
theorem locate_congr (hcwd : p.absolute = false → t'.cwd = t.cwd)
    (h : ∀ l ∈ t.visits follow p, t'.kind l = t.kind l) :
    t'.locate follow p = t.locate follow p ∧ t'.visits follow p = t.visits follow p := by
  unfold visits at h ⊢
  cases habs : p.absolute with
  | true =>
      rw [habs] at h
      refine lookups_congr follow ?_ h
      unfold origin
      rw [habs, if_pos rfl, if_pos rfl, setOut_dir _ (kind_nil t'), setOut_dir _ (kind_nil t)]
  | false =>
      rw [habs] at h
      have horigin : t'.origin p = t.cwd ∧ t.origin p = t.cwd := by
        unfold origin
        rw [habs]
        exact ⟨hcwd habs, rfl⟩
      obtain ⟨hout, hvisits⟩ := setOut_congr fun l hl => h l (List.mem_append_left _ hl)
      obtain ⟨hlocate, hlookups⟩ := lookups_congr follow (p := p) (by rw [horigin.1, horigin.2, hout])
        fun l hl => h l (List.mem_append_right _ hl)
      refine ⟨hlocate, ?_⟩
      rw [if_neg Bool.false_ne_true, if_neg Bool.false_ne_true, hcwd habs, hvisits, hlookups]

/-- More components, more places looked at on the way to the next link. -/
theorem advanceVisits_append (more : List String) (h : l ∈ t.advanceVisits cur parts) :
    l ∈ t.advanceVisits cur (parts ++ more) := by
  induction parts generalizing cur with
  | nil => cases h
  | cons name rest ih =>
      unfold advanceVisits at h
      rw [List.cons_append]
      unfold advanceVisits
      split_ifs at h ⊢ with hdot hdir
      · exact ih h
      · exact List.mem_cons.mpr ((List.mem_cons.mp h).imp id ih)
      · exact h

theorem walkVisits_append (follow : Bool) {more : List String} (hmore : more ≠ [])
    (h : l ∈ t.walkVisits true links cur parts) :
    l ∈ t.walkVisits follow links cur (parts ++ more) := by
  induction links generalizing cur parts with
  | zero => exact advanceVisits_append more h
  | succ links ih =>
      unfold walkVisits at h ⊢
      rcases List.mem_append.mp h with hhere | hlater
      · exact List.mem_append_left _ (advanceVisits_append more hhere)
      · refine List.mem_append_right _ ?_
        cases hnext : t.advance true cur parts with
        | arrived d => simp [hnext] at hlater
        | failed error => simp [hnext] at hlater
        | link c target rest =>
            rw [hnext] at hlater
            rw [advance_append_link follow hmore hnext]
            have hrest := ih hlater
            rwa [List.append_assoc] at hrest

/-- More components, more places gone through before a walk sets out. -/
theorem setOutVisits_append (more : List String) (h : l ∈ t.setOutVisits cur parts) :
    l ∈ t.setOutVisits cur (parts ++ more) := by
  induction parts generalizing cur with
  | nil =>
      rw [List.mem_singleton.mp h]
      cases more with
      | nil => exact List.mem_cons_self ..
      | cons name rest => exact List.mem_cons_self ..
  | cons name rest ih =>
      unfold setOutVisits at h
      rw [List.cons_append]
      unfold setOutVisits
      refine List.mem_cons.mpr ((List.mem_cons.mp h).imp id fun hlater => ?_)
      split_ifs at hlater ⊢
      · exact hlater
      · exact ih hlater
      · exact hlater

/-- A name is no way out of a directory that is gone. -/
theorem setOutVisits_concat (hn : n ≠ "..") (cur : Location) (parts : List String) :
    t.setOutVisits cur (parts ++ [n]) = t.setOutVisits cur parts := by
  induction parts generalizing cur with
  | nil => simp [setOutVisits, hn]
  | cons name rest ih =>
      rw [List.cons_append, setOutVisits, setOutVisits, ih]

/-- The names looked up for a path are looked up on the way to what is below it. -/
theorem lookups_child (follow : Bool) (n : String) (h : l ∈ t.lookups true p) :
    l ∈ t.lookups follow (p.child n) := by
  unfold lookups at h ⊢
  rcases hout : t.setOut (t.origin p) p.parts with _ | ⟨cur, parts⟩
  · rw [hout] at h
    cases h
  · rw [hout] at h
    have hchild : t.setOut (t.origin (p.child n)) (p.child n).parts = some (cur, parts ++ [n]) :=
      setOut_append [n] hout
    rw [hchild]
    exact walkVisits_append follow (List.cons_ne_nil n []) h

/-- **A path is looked at on the way to what is below it.** -/
theorem visits_child (follow : Bool) (n : String) (h : l ∈ t.visits true p) :
    l ∈ t.visits follow (p.child n) := by
  unfold visits at h ⊢
  have habs : (p.child n).absolute = p.absolute := rfl
  rw [habs]
  split_ifs at h ⊢
  · exact lookups_child follow n h
  · exact List.mem_append.mpr
      ((List.mem_append.mp h).imp (setOutVisits_append [n]) (lookups_child follow n))

/-- One component of a way. -/
theorem advanceVisits_cons (cur : Location) (name : String) (rest : List String) :
    t.advanceVisits cur (name :: rest) =
      if name = ".." then t.advanceVisits cur.dropLast rest
      else
        (cur ++ [name]) ::
          (if t.kind (cur ++ [name]) = some .dir then t.advanceVisits (cur ++ [name]) rest else []) := rfl

/-- What is looked at on a longer way is looked at on its beginning, or after that has arrived. -/
theorem mem_advanceVisits_append {more : List String} (h : l ∈ t.advanceVisits cur (parts ++ more)) :
    l ∈ t.advanceVisits cur parts ∨
      ∃ d, t.advance true cur parts = .arrived d ∧ l ∈ t.advanceVisits d more := by
  induction parts generalizing cur with
  | nil => exact Or.inr ⟨cur, rfl, h⟩
  | cons name rest ih =>
      rw [List.cons_append, advanceVisits_cons] at h
      rw [advanceVisits_cons, advance_cons]
      by_cases hdot : name = ".."
      · rw [if_pos hdot] at h ⊢
        rw [if_pos hdot]
        exact ih h
      · rw [if_neg hdot] at h ⊢
        rw [if_neg hdot]
        rcases List.mem_cons.mp h with rfl | hrest
        · exact Or.inl (List.mem_cons_self ..)
        · split_ifs at hrest with hdir
          · rw [if_pos hdir, hdir]
            exact (ih hrest).imp (List.mem_cons_of_mem _) id
          · cases hrest

/-- On the way to a name in a directory, the places on the way to the directory are looked at, and its own. -/
theorem mem_walkVisits_concat (hd : t.kind d = some .dir) (hn : n ≠ "..")
    (hlink : ∀ target, t.kind (d ++ [n]) ≠ some (.symlink target))
    (h : t.walk true links cur parts = .ok d) (hl : l ∈ t.walkVisits true links cur (parts ++ [n])) :
    l ∈ t.walkVisits true links cur parts ∨ l = d ++ [n] := by
  revert hl
  refine walk_rec (motive := fun links cur parts => l ∈ t.walkVisits true links cur (parts ++ [n]) →
    l ∈ t.walkVisits true links cur parts ∨ l = d ++ [n]) h ?_ ?_
  · intro links cur parts hadv hl
    have hlast := (advance_append true [n] hd hadv).trans (advance_name hn fun _ => hlink)
    have hhere (hmem : l ∈ t.advanceVisits cur (parts ++ [n])) :
        l ∈ t.advanceVisits cur parts ∨ l = d ++ [n] := by
      rcases mem_advanceVisits_append hmem with hbefore | ⟨d', hd', hmem⟩
      · exact Or.inl hbefore
      · rw [hadv] at hd'
        cases hd'
        simp only [advanceVisits, hn, if_false, List.mem_cons] at hmem
        exact Or.inr (hmem.resolve_right (by split <;> simp))
    cases links with
    | zero => exact hhere hl
    | succ links =>
        unfold walkVisits at hl ⊢
        rcases List.mem_append.mp hl with hmem | hlater
        · exact (hhere hmem).imp (List.mem_append_left _) id
        · rw [hlast] at hlater
          split_ifs at hlater <;> cases hlater
  · intro links cur parts c target rest hadv ih hl
    unfold walkVisits at hl ⊢
    rcases List.mem_append.mp hl with hmem | hlater
    · rcases mem_advanceVisits_append hmem with hbefore | ⟨d', hd', -⟩
      · exact Or.inl (List.mem_append_left _ hbefore)
      · rw [hadv] at hd'
        cases hd'
    · rw [advance_append_link true (List.cons_ne_nil n []) hadv] at hlater
      dsimp only at hlater
      rw [← List.append_assoc] at hlater
      rw [hadv]
      exact (ih hlater).imp (List.mem_append_right _) id

/-- The names looked up for a name in a directory. -/
theorem mem_lookups_child (h : t.locate true p = .ok d) (hd : t.kind d = some .dir) (hn : n ≠ "..")
    (hlink : ∀ target, t.kind (d ++ [n]) ≠ some (.symlink target)) (hl : l ∈ t.lookups true (p.child n)) :
    l ∈ t.lookups true p ∨ l = d ++ [n] := by
  obtain ⟨cur, parts, hout, -, hwalk⟩ := locate_eq_ok.mp h
  have hchild : t.setOut (t.origin (p.child n)) (p.child n).parts = some (cur, parts ++ [n]) :=
    setOut_append [n] hout
  unfold lookups at hl ⊢
  rw [hchild] at hl
  rw [hout]
  exact mem_walkVisits_concat hd hn hlink hwalk hl

/-- **What is looked at for a name in a directory**: what is looked at for the directory, and its own place. -/
theorem mem_visits_child (h : t.locate true p = .ok d) (hd : t.kind d = some .dir) (hn : n ≠ "..")
    (hlink : ∀ target, t.kind (d ++ [n]) ≠ some (.symlink target)) (hl : l ∈ t.visits true (p.child n)) :
    l ∈ t.visits true p ∨ l = d ++ [n] := by
  have hparts : t.setOutVisits t.cwd (p.child n).parts = t.setOutVisits t.cwd p.parts :=
    setOutVisits_concat hn t.cwd p.parts
  have habs : (p.child n).absolute = p.absolute := rfl
  unfold visits at hl ⊢
  rw [hparts, habs] at hl
  split_ifs at hl ⊢
  · exact mem_lookups_child h hd hn hlink hl
  · rcases List.mem_append.mp hl with hbefore | hlater
    · exact Or.inl (List.mem_append_left _ hbefore)
    · exact (mem_lookups_child h hd hn hlink hlater).imp (List.mem_append_right _) id

/-! ## In what is left -/

/-- What is looked up on a way that does not fail is there. -/
theorem advanceVisits_alive (follow : Bool) (h : ∀ error, t.advance follow cur parts ≠ .failed error)
    (hl : l ∈ t.advanceVisits cur parts) : (t.kind l).isSome := by
  induction parts generalizing cur with
  | nil => cases hl
  | cons name rest ih =>
      rw [advance_cons] at h
      rw [advanceVisits_cons] at hl
      by_cases hdot : name = ".."
      · rw [if_pos hdot] at h hl
        exact ih h hl
      · rw [if_neg hdot] at h hl
        have hhere : t.kind (cur ++ [name]) ≠ none := by
          intro hnone
          rw [hnone] at h
          exact h .noEntry rfl
        rcases List.mem_cons.mp hl with rfl | hrest
        · exact Option.isSome_iff_ne_none.mpr hhere
        · split_ifs at hrest with hdir
          · rw [hdir] at h
            exact ih h hrest
          · cases hrest

/-- What is looked up on a walk that succeeds is there. -/
theorem walkVisits_alive (h : t.walk follow links cur parts = .ok d)
    (hl : l ∈ t.walkVisits follow links cur parts) : (t.kind l).isSome := by
  revert hl
  refine walk_rec (motive := fun links cur parts =>
    l ∈ t.walkVisits follow links cur parts → (t.kind l).isSome) h ?_ ?_
  · intro links cur parts hadv hl
    cases links with
    | zero => exact advanceVisits_alive follow (by simp [hadv]) hl
    | succ links =>
        unfold walkVisits at hl
        rw [hadv] at hl
        have hfine : ∀ error, t.advance follow cur parts ≠ .failed error := by simp [hadv]
        exact advanceVisits_alive follow hfine (by simpa using hl)
  · intro links cur parts c target rest hadv ih hl
    unfold walkVisits at hl
    rw [hadv] at hl
    rcases List.mem_append.mp hl with hhere | hlater
    · exact advanceVisits_alive follow (by simp [hadv]) hhere
    · exact ih hlater

/-- The way before the first directory looks nothing up, in any tree. -/
theorem walkVisits_setOut {c : Location} {rest : List String} (t' : Tree)
    (h : t.setOut cur parts = some (c, rest)) :
    t'.walkVisits follow links cur parts = t'.walkVisits follow links c rest := by
  refine setOut_induction
    (motive := fun cur parts => t'.walkVisits follow links cur parts = t'.walkVisits follow links c rest) h
    (fun _ => rfl) ?_
  intro cur names _ ih
  rw [← ih]
  cases links with
  | zero => rw [walkVisits, walkVisits, advanceVisits_cons, if_pos rfl]
  | succ links => rw [walkVisits, walkVisits, advanceVisits_cons, advance_cons, if_pos rfl, if_pos rfl]

/-- A path that sets out is walked from where it starts, and looks the same names up. -/
theorem locate_of_setOut (follow : Bool) (h : (t.setOut (t.origin p) p.parts).isSome) :
    t.locate follow p = t.walk follow 40 (t.origin p) p.parts ∧
      t.lookups follow p = t.walkVisits follow 40 (t.origin p) p.parts := by
  obtain ⟨⟨cur, parts⟩, hout⟩ := Option.isSome_iff_exists.mp h
  unfold locate lookups
  rw [hout, walk_setOut t hout, walkVisits_setOut t hout]
  exact ⟨rfl, rfl⟩

/-- A walk from a directory sets out in what is left when what it looks up is left there, and its end. -/
theorem setOut_left (hleft : LeftOf t' t) (hcur : t.kind cur = some .dir)
    (h : t.walk follow links cur parts = .ok d) (hd : (t'.kind d).isSome)
    (hvisits : ∀ l ∈ t.walkVisits follow links cur parts, (t'.kind l).isSome) :
    (t'.setOut cur parts).isSome := by
  by_cases hcur' : t'.kind cur = some .dir
  · rw [setOut_dir _ hcur']
    rfl
  · induction parts generalizing cur with
    | nil =>
        rw [walk_of_arrived rfl] at h
        cases h
        obtain ⟨k, hk⟩ := Option.isSome_iff_exists.mp hd
        rw [hleft.kind _ _ hk] at hcur
        exact absurd (hk.trans hcur) hcur'
    | cons name rest ih =>
        rw [setOut_gone hcur']
        by_cases hdot : name = ".."
        · rw [if_pos hdot]
          have hwalk : t.walk follow links cur (name :: rest) = t.walk follow links cur.dropLast rest ∧
              t.walkVisits follow links cur (name :: rest) = t.walkVisits follow links cur.dropLast rest := by
            cases links with
            | zero => simp [walk, walkVisits, advance_cons, advanceVisits_cons, hdot]
            | succ links => simp [walk, walkVisits, advance_cons, advanceVisits_cons, hdot]
          rw [hwalk.1] at h
          rw [hwalk.2] at hvisits
          by_cases hparent : t'.kind cur.dropLast = some .dir
          · rw [setOut_dir _ hparent]
            rfl
          · exact ih (kind_dropLast hcur) h hvisits hparent
        · -- the first name looked up would be in the directory that is gone
          have hfirst : cur ++ [name] ∈ t.walkVisits follow links cur (name :: rest) := by
            cases links with
            | zero => simp [walkVisits, advanceVisits_cons, hdot]
            | succ links => simp [walkVisits, advanceVisits_cons, hdot]
          obtain ⟨k, hk⟩ := Option.isSome_iff_exists.mp (hvisits _ hfirst)
          exact absurd (kind_parent hk).1 hcur'

/-- What sets out in a tree sets out in what is left when it does from the first directory of the tree. -/
theorem setOut_through {c : Location} {rest : List String} (hleft : LeftOf t' t)
    (h : t.setOut cur parts = some (c, rest)) (hrest : (t'.setOut c rest).isSome) :
    (t'.setOut cur parts).isSome := by
  refine setOut_induction (motive := fun cur parts => (t'.setOut cur parts).isSome) h (fun _ => hrest) ?_
  intro cur names hcur ih
  rw [setOut_gone fun hcur' => hcur (hleft.kind _ _ hcur'), if_pos rfl]
  exact ih

/-- **A path leads where it led in what is left of a tree exactly when everything it looks up is left**, and the
place it leads to. -/
theorem locate_left_iff (hleft : LeftOf t' t) (h : t.locate follow p = .ok d) (hd : (t'.kind d).isSome) :
    t'.locate follow p = .ok d ↔ ∀ l ∈ t.lookups follow p, (t'.kind l).isSome := by
  obtain ⟨cur, parts, hout, hcur, hwalk⟩ := locate_eq_ok.mp h
  have horigin : t'.origin p = t.origin p := by
    unfold origin
    rw [hleft.cwd]
  have hsame {l : Location} (hl : (t'.kind l).isSome) : t'.kind l = t.kind l := by
    obtain ⟨k, hk⟩ := Option.isSome_iff_exists.mp hl
    rw [hk, hleft.kind _ _ hk]
  obtain ⟨hplace, hlookups⟩ := locate_of_setOut follow (Option.isSome_iff_exists.mpr ⟨_, hout⟩)
  constructor
  · intro hplace'
    obtain ⟨cur', parts', hout', -, hwalk'⟩ := locate_eq_ok.mp hplace'
    have hsome : (t'.setOut (t'.origin p) p.parts).isSome := Option.isSome_iff_exists.mpr ⟨_, hout'⟩
    obtain ⟨hwalked, hlookups'⟩ := locate_of_setOut follow hsome
    rw [hwalked] at hplace'
    have halive {l : Location} (hl : l ∈ t'.walkVisits follow 40 (t'.origin p) p.parts) :
        (t'.kind l).isSome := walkVisits_alive hplace' hl
    have hkinds : ∀ l ∈ t'.walkVisits follow 40 (t'.origin p) p.parts, t.kind l = t'.kind l :=
      fun l hl => (hsame (halive hl)).symm
    obtain ⟨-, hvisits⟩ := walk_congr hkinds
    intro l hl
    rw [hlookups, ← horigin, hvisits] at hl
    exact halive hl
  · intro halive
    have hvisits : ∀ l ∈ t.walkVisits follow 40 cur parts, (t'.kind l).isSome := by
      intro l hl
      refine halive l ?_
      unfold lookups
      rw [hout]
      exact hl
    have hsome : (t'.setOut (t'.origin p) p.parts).isSome := by
      rw [horigin]
      exact setOut_through hleft hout (setOut_left hleft hcur hwalk hd hvisits)
    rw [(locate_of_setOut follow hsome).1, horigin]
    rw [hplace] at h
    rw [← h]
    exact (walk_congr fun l hl => hsame (halive l (hlookups ▸ hl))).1

/-- What a located path looks up is there. -/
theorem lookups_alive (h : t.locate follow p = .ok d) (hl : l ∈ t.lookups follow p) : (t.kind l).isSome := by
  obtain ⟨k, hk, -⟩ := locate_alive h
  exact (locate_left_iff (.refl t) h (by rw [hk]; rfl)).mp h l hl

/-- A path of `..` alone leads upwards. -/
theorem advance_dots (follow : Bool) (hdots : ∀ n ∈ parts, n = "..") :
    t.advance follow cur parts = .arrived (parts.foldl (fun l _ => l.dropLast) cur) := by
  induction parts generalizing cur with
  | nil => rfl
  | cons name rest ih =>
      rw [List.forall_mem_cons] at hdots
      rw [advance_cons, if_pos hdots.1]
      exact ih hdots.2

/-- A path of `..` alone looks nothing up. -/
theorem walkVisits_dots (hdots : ∀ n ∈ parts, n = "..") : t.walkVisits follow links cur parts = [] := by
  have hhere : ∀ {parts : List String} {cur : Location}, (∀ n ∈ parts, n = "..") →
      t.advanceVisits cur parts = [] := by
    intro parts
    induction parts with
    | nil => exact fun _ => rfl
    | cons name rest ih =>
        intro cur hdots
        rw [List.forall_mem_cons] at hdots
        rw [advanceVisits_cons, if_pos hdots.1]
        exact ih hdots.2
  cases links with
  | zero => exact hhere hdots
  | succ links =>
      unfold walkVisits
      rw [hhere hdots, advance_dots follow hdots]
      rfl

/-- More `..` after a path of `..` alone lead above the place that leads to. -/
theorem locate_dots {more : List String} (hdots : ∀ n ∈ p.parts ++ more, n = "..") (h : t.locate true p = .ok d)
    (hl : t.locate follow (p.under more) = .ok l) : l <+: d := by
  obtain ⟨cur, parts, hout, -, hwalk⟩ := locate_eq_ok.mp h
  obtain ⟨ups, hparts, -, -⟩ := setOut_spec hout
  rw [hparts, List.append_assoc] at hdots
  have hrest : ∀ n ∈ parts ++ more, n = ".." := fun n hn => hdots n (List.mem_append_right _ hn)
  rw [walk_of_arrived (advance_dots true fun n hn => hrest n (List.mem_append_left _ hn))] at hwalk
  rw [locate_under_eq hout, walk_of_arrived (advance_dots follow hrest), List.foldl_append] at hl
  cases hwalk
  cases hl
  have hup (names : List String) (m : Location) : names.foldl (fun l _ => l.dropLast) m <+: m := by
    induction names generalizing m with
    | nil => exact List.prefix_refl _
    | cons _ names ih => exact (ih m.dropLast).trans (List.dropLast_prefix m)
  exact hup more _

/-- A path names a place: it ends in a name, and looks nothing up in there. -/
def NamesPlace (t : Tree) (p : RawPath) (l : Location) : Prop :=
  p.parts ≠ [] ∧ p.parts.getLast? ≠ some ".." ∧ ∀ m ∈ t.lookups false p, ¬ Inside l m

/-- **A path names a place exactly when it still leads there by a name once the place is emptied.** -/
theorem names_clear_iff (h : t.locate false p = .ok l) : (t.clear l).Names p l ↔ t.NamesPlace p l := by
  obtain ⟨k, hk, -⟩ := locate_alive h
  have hkind (m : Location) : ((t.clear l).kind m).isSome ↔ ¬ Inside l m ∧ (t.kind m).isSome := by
    rw [kind_clear]
    split_ifs with hin
    · simp [hin]
    · simp [hin]
  unfold Names NamesPlace
  rw [locate_left_iff (t.clear_leftOf l) h (by rw [kind_clear_self, hk]; rfl)]
  refine and_congr_right fun _ => and_congr_right fun _ => forall₂_congr fun m hm => ?_
  exact (hkind m).trans (and_iff_left (lookups_alive h hm))

/-- A path does not come to end at a directory that is gone as long as the directory it led to is left. -/
theorem not_gone_left (hleft : LeftOf t' t) (h : t.locate follow p = .ok d) (hd : (t'.kind d).isSome) :
    t'.gone p = false := by
  rw [Bool.eq_false_iff]
  intro hgone
  have hdots : ∀ n ∈ p.parts, n = ".." := (of_decide_eq_true hgone).2
  have hnone : t.lookups follow p = [] := by
    obtain ⟨cur, parts, hout, -, -⟩ := locate_eq_ok.mp h
    obtain ⟨ups, hparts, -, -⟩ := setOut_spec hout
    unfold lookups
    rw [hout]
    exact walkVisits_dots fun n hn => hdots n (hparts ▸ List.mem_append_right _ hn)
  have hplace := (locate_left_iff hleft h hd).mpr (by simp [hnone])
  rw [gone_of_located hplace] at hgone
  cases hgone

/-- A path that is open as a directory in what is left leads where it led, when that is left. -/
theorem locate_of_presentDir (hleft : LeftOf t' t) (h : t.locate true p = .ok d) (hd : (t'.kind d).isSome)
    (hopen : t'.presentDir p = true) : t'.locate true p = .ok d := by
  unfold presentDir at hopen
  rw [not_gone_left hleft h hd, Bool.or_false] at hopen
  obtain ⟨l, hl, -⟩ := isDir_iff.mp hopen
  have hsame := locate_mono hleft hl
  rw [h] at hsame
  cases hsame
  exact hl

/-- In what is left of a tree a path that leads where it led looks the same names up. -/
theorem lookups_left (hleft : LeftOf t' t) (h : t'.locate follow p = .ok d) :
    t'.lookups follow p = t.lookups follow p := by
  have hbefore := locate_mono hleft h
  obtain ⟨cur, parts, hout, -, -⟩ := locate_eq_ok.mp h
  obtain ⟨cur', parts', hout', -, -⟩ := locate_eq_ok.mp hbefore
  have horigin : t'.origin p = t.origin p := by
    unfold origin
    rw [hleft.cwd]
  obtain ⟨hplace, hlookups⟩ := locate_of_setOut follow (Option.isSome_iff_exists.mpr ⟨_, hout⟩)
  obtain ⟨-, hlookups'⟩ := locate_of_setOut follow (Option.isSome_iff_exists.mpr ⟨_, hout'⟩)
  rw [hplace] at h
  rw [hlookups, hlookups', ← horigin]
  refine (walk_congr fun l hl => ?_).2.symm
  obtain ⟨k, hk⟩ := Option.isSome_iff_exists.mp (walkVisits_alive h hl)
  rw [hk, hleft.kind _ _ hk]

/-! ## Listing -/

/-- The names in a directory are listed once. -/
theorem children_nodup (t : Tree) (d : Location) : (t.children d).Nodup := by
  have hnames : t.children d = (t.entries.map Prod.fst).filterMap fun l =>
      if l ≠ [] ∧ l.dropLast = d then l.getLast? else none := by
    rw [List.filterMap_map]
    rfl
  rw [hnames]
  refine t.distinct.filterMap fun l l' name hl hl' => ?_
  obtain ⟨⟨-, hd⟩, hlast⟩ := Option.ite_none_right_eq_some.mp hl
  obtain ⟨⟨-, hd'⟩, hlast'⟩ := Option.ite_none_right_eq_some.mp hl'
  rw [← List.dropLast_append_getLast? name hlast, ← List.dropLast_append_getLast? name hlast', hd, hd']

/-- What a directory lists hangs on what is there. -/
theorem children_perm (h : ∀ n, t'.kind (d ++ [n]) = t.kind (d ++ [n])) :
    (t'.children d).Perm (t.children d) := by
  refine (List.perm_ext_iff_of_nodup (t'.children_nodup d) (t.children_nodup d)).mpr fun n => ?_
  rw [mem_children, mem_children, h n]

/-- The places below a directory are listed once. -/
theorem below_nodup (t : Tree) (d : Location) : (t.below d).Nodup := t.distinct.filter _

/-- What is below a directory hangs on what is there. -/
theorem below_perm (h : ∀ l, d <+: l → t'.kind l = t.kind l) : (t'.below d).Perm (t.below d) := by
  refine (List.perm_ext_iff_of_nodup (t'.below_nodup d) (t.below_nodup d)).mpr fun l => ?_
  rw [mem_below, mem_below]
  constructor
  · rintro ⟨hsome, hin⟩
    rw [h l hin.1] at hsome
    exact ⟨hsome, hin⟩
  · rintro ⟨hsome, hin⟩
    rw [← h l hin.1] at hsome
    exact ⟨hsome, hin⟩

end Tree

end Posix
