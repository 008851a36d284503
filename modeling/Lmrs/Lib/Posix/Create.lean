import Lmrs.Lib.Posix

/-!
# Creating entries

`Tree.create` adds one entry to a directory. `Tree.mkdir` is `os.mkdir`, `Tree.makeDirs` is
`Path.mkdir(parents=True, exist_ok=True)`, `Tree.openTarget` the file that `open(path, "w")` writes, which
is created when its name is free and found through the links of the last component.

* `Tree.kind_create`: what is there after an entry is added.
* `Tree.makeDirs_present`: nothing is made for a path that is a directory.
* `Tree.makeDirs_child`, `Tree.makeDirs_below`: the directories made one and two names below a directory.
* `Tree.makeDirs_leftOf`: what was there is left.
* `Tree.makeDirs_through`: the same, where the path above them is made on the way.
* `Tree.openTarget_child`: the file opened under a name of a directory.
-/

namespace Posix

/-- The path before the last component. -/
def RawPath.parent (p : RawPath) : RawPath := ⟨p.absolute, p.parts.dropLast⟩

namespace Tree

variable {t t' : Tree} {d l : Location} {n : String} {k : Kind} {p : RawPath}

/-! ## One entry -/

/-- What a longer list of entries has at a location. -/
theorem kindIn_concat (entries : List (Location × Kind)) {new : Location} (k : Kind) (hne : new ≠ [])
    (hfree : kindIn entries new = none) (l : Location) :
    kindIn (entries ++ [(new, k)]) l = if l = new then some k else kindIn entries l := by
  unfold kindIn at hfree ⊢
  by_cases hnil : l = []
  · rw [if_pos hnil, if_pos hnil, if_neg]
    rintro rfl
    exact hne hnil
  · rw [if_neg hnil, if_neg hnil, List.find?_append]
    by_cases hl : l = new
    · subst hl
      rw [if_neg hne, Option.map_eq_none_iff] at hfree
      rw [if_pos rfl, hfree]
      simp
    · have hnone : List.find? (fun e : Location × Kind => decide (e.1 = l)) [(new, k)] = none := by
        simp [Ne.symm hl]
      rw [if_neg hl, hnone, Option.or_none]

/-- The names on the way to what is there. -/
theorem isName_of_kind (h : t.kind l = some k) : ∀ n ∈ l, IsName n := by
  by_cases hne : l = []
  · simp [hne]
  · exact t.named _ (mem_of_kind hne h)

/-- An entry under a free name of a directory. -/
def add (t : Tree) (d : Location) (n : String) (k : Kind)
    (h : t.kind d = some .dir ∧ IsName n ∧ t.kind (d ++ [n]) = none) : Tree where
  entries := t.entries ++ [(d ++ [n], k)]
  cwd := t.cwd
  distinct := by
    rw [List.map_append, List.nodup_append]
    refine ⟨t.distinct, List.nodup_singleton _, ?_⟩
    rintro l hl m hm rfl
    obtain rfl : l = d ++ [n] := by simpa using hm
    obtain ⟨e, he, heq⟩ := List.mem_map.mp hl
    have hsome := kind_isSome_of_mem he
    rw [heq, h.2.2] at hsome
    cases hsome
  rooted := by
    intro e he
    have hnew : d ++ [n] ≠ [] := by simp
    have hfree : kindIn t.entries (d ++ [n]) = none := h.2.2
    rcases List.mem_append.mp he with he | he
    · obtain ⟨hne, hparent⟩ := t.rooted e he
      refine ⟨hne, ?_⟩
      rw [kindIn_concat _ _ hnew hfree, if_neg]
      · exact hparent
      · intro heq
        rw [heq, hfree] at hparent
        cases hparent
    · obtain rfl : e = (d ++ [n], k) := by simpa using he
      refine ⟨hnew, ?_⟩
      rw [List.dropLast_concat, kindIn_concat _ _ hnew hfree, if_neg (by simp)]
      exact h.1
  named := by
    intro e he m hm
    rcases List.mem_append.mp he with he | he
    · exact t.named e he m hm
    · obtain rfl : e = (d ++ [n], k) := by simpa using he
      rcases List.mem_append.mp hm with hm | hm
      · exact isName_of_kind h.1 m hm
      · rw [List.mem_singleton.mp hm]
        exact h.2.1

/-- Add an entry to a directory, where its name is free. -/
def create (t : Tree) (d : Location) (n : String) (k : Kind) : Tree :=
  if h : t.kind d = some .dir ∧ IsName n ∧ t.kind (d ++ [n]) = none then t.add d n k h else t

@[simp] theorem create_cwd (t : Tree) (d : Location) (n : String) (k : Kind) :
    (t.create d n k).cwd = t.cwd := by
  unfold create
  split <;> rfl

/-- **What is there after an entry is added.** -/
theorem kind_create (h : t.kind d = some .dir ∧ IsName n ∧ t.kind (d ++ [n]) = none) (l : Location) :
    (t.create d n k).kind l = if l = d ++ [n] then some k else t.kind l := by
  unfold create
  rw [dif_pos h]
  exact kindIn_concat t.entries k (by simp) h.2.2 l

/-! ## Directories -/

/-- What `os.mkdir` comes to. -/
inductive Mkdir where
  | made (t : Tree)
  | present
  | failed (error : Errno)

/-- `os.mkdir`. -/
def mkdir (t : Tree) (p : RawPath) : Mkdir :=
  match p.parts.getLast? with
  | none => .present
  | some last =>
      match t.locate true p.parent with
      | .error error => if last = ".." ∧ t.gone p.parent then .present else .failed error
      | .ok d =>
          if t.kind d ≠ some .dir then .failed .notDirectory
          else if last = ".." ∨ (t.kind (d ++ [last])).isSome then .present
          else .made (t.create d last .dir)

/-- What is left of `mkdir` once its first attempt has an answer other than `FileNotFoundError`. -/
def mkdirExistOk (t : Tree) (p : RawPath) : Mkdir → Except Errno Tree
  | .made t' => .ok t'
  | .present => if t.presentDir p then .ok t else .error .alreadyExists
  | .failed error => if t.presentDir p then .ok t else .error error

/-- `Path.mkdir(parents=True, exist_ok=True)`, over the components of the path from the last one back. -/
def makeDirs (t : Tree) (absolute : Bool) : List String → Except Errno Tree
  | [] => if t.presentDir ⟨absolute, []⟩ then .ok t else .error .noEntry
  | last :: before =>
      let p : RawPath := ⟨absolute, (last :: before).reverse⟩
      match t.mkdir p with
      | .failed .noEntry => do
          let t' ← t.makeDirs absolute before
          t'.mkdirExistOk p (t'.mkdir p)
      | answer => t.mkdirExistOk p answer

/-- What was there before an entry is added is left. -/
theorem leftOf_create (t : Tree) (d : Location) (n : String) (k : Kind) : LeftOf t (t.create d n k) := by
  refine ⟨?_, (create_cwd ..).symm⟩
  intro l k' hk
  by_cases h : t.kind d = some .dir ∧ IsName n ∧ t.kind (d ++ [n]) = none
  · rw [kind_create h, if_neg]
    · exact hk
    · rintro rfl
      rw [h.2.2] at hk
      cases hk
  · unfold create
    rwa [dif_neg h]

/-- The parent of an entry's path. -/
theorem parent_child (p : RawPath) (n : String) : (p.child n).parent = p := by
  unfold RawPath.child RawPath.parent
  rw [List.dropLast_concat]

/-- `os.mkdir` under a name of a directory. -/
theorem mkdir_child (hp : t.locate true p = .ok d) (hd : t.kind d = some .dir) (hn : IsName n) :
    t.mkdir (p.child n) =
      if t.kind (d ++ [n]) = none then .made (t.create d n .dir) else .present := by
  unfold mkdir
  rw [parent_child, hp]
  cases hkind : t.kind (d ++ [n]) with
  | none => simp [RawPath.child, hd, hn.2.2.1, hkind]
  | some k => simp [RawPath.child, hd, hkind]

/-- The making of directories, where the first attempt does not lack the parent. -/
theorem makeDirs_of_mkdir (h : t.mkdir (p.child n) ≠ .failed .noEntry) :
    t.makeDirs p.absolute (n :: p.parts.reverse) = t.mkdirExistOk (p.child n) (t.mkdir (p.child n)) := by
  have hpath : (⟨p.absolute, (n :: p.parts.reverse).reverse⟩ : RawPath) = p.child n := by
    simp [RawPath.child]
  unfold makeDirs
  simp only [hpath]

/-- **Nothing is made for a path that is a directory.** -/
theorem makeDirs_present (hdir : t.isDir p = true) :
    t.makeDirs p.absolute p.parts.reverse = .ok t := by
  obtain ⟨absolute, parts⟩ := p
  rcases List.eq_nil_or_concat parts with rfl | ⟨before, last, rfl⟩
  · exact if_pos (presentDir_of_isDir hdir)
  · obtain ⟨l, hl, hkind⟩ := isDir_iff.mp hdir
    rw [List.concat_eq_append] at hl hdir
    have hchild : (⟨absolute, before ++ [last]⟩ : RawPath) = RawPath.child ⟨absolute, before⟩ last := rfl
    rw [hchild] at hl hdir
    have hpresent : t.mkdir (RawPath.child ⟨absolute, before⟩ last) = .present := by
      unfold mkdir
      rw [parent_child]
      rcases locate_before_or_gone hl with ⟨d, hd, hparent⟩ | ⟨hdot, hgone⟩
      · rw [hd]
        by_cases hdot : last = ".."
        · simp [RawPath.child, hparent, hdot]
        · have hthere : t.kind (d ++ [last]) ≠ none := by
            intro hnone
            rw [locate_name true hd hparent hdot (by simp [hnone]), if_pos hnone] at hl
            cases hl
          simp [RawPath.child, hparent, Option.isSome_iff_ne_none, hthere]
      · rw [locate_of_gone true hgone]
        simp [RawPath.child, hdot, hgone]
    rw [List.concat_eq_append, List.reverse_append, List.reverse_singleton, List.singleton_append]
    have hmake := makeDirs_of_mkdir (t := t) (p := ⟨absolute, before⟩) (n := last) (by simp [hpresent])
    rw [hmake, hpresent]
    exact if_pos (presentDir_of_isDir hdir)

/-- **One directory below a directory.** -/
theorem makeDirs_child (hp : t.locate true p = .ok d) (hd : t.kind d = some .dir) (hn : IsName n)
    (hlink : ∀ target, t.kind (d ++ [n]) ≠ some (.symlink target)) :
    t.makeDirs p.absolute (n :: p.parts.reverse) =
      if t.kind (d ++ [n]) = none then .ok (t.create d n .dir)
      else if t.kind (d ++ [n]) = some .dir then .ok t
      else .error .alreadyExists := by
  have hmkdir := mkdir_child hp hd hn
  have hloc := locate_name true hp hd hn.2.2.1 hlink
  have hmake : t.makeDirs p.absolute (n :: p.parts.reverse) =
      t.mkdirExistOk (p.child n) (t.mkdir (p.child n)) := by
    apply makeDirs_of_mkdir
    rw [hmkdir]
    split <;> simp
  rw [hmake, hmkdir]
  cases hkind : t.kind (d ++ [n]) with
  | none => simp [mkdirExistOk]
  | some k =>
      rw [hkind, if_neg (by simp)] at hloc
      cases k <;> simp [mkdirExistOk, presentDir, gone_child, hn.2.2.1, isDir, hloc, hkind]

/-- **Two directories below a directory, where the first name is free.** -/
theorem makeDirs_below {m : String} (hp : t.locate true p = .ok d) (hd : t.kind d = some .dir)
    (hn : IsName n) (hm : IsName m) (hfree : t.kind (d ++ [n]) = none) :
    t.makeDirs p.absolute (m :: n :: p.parts.reverse) =
      .ok ((t.create d n .dir).create (d ++ [n]) m .dir) := by
  have hnew := kind_create (k := .dir) ⟨hd, hn, hfree⟩
  have hpath : (⟨p.absolute, (m :: n :: p.parts.reverse).reverse⟩ : RawPath) =
      (p.child n).child m := by
    simp [RawPath.child]
  have hlacks : t.mkdir ((p.child n).child m) = .failed .noEntry := by
    have hloc := locate_name true hp hd hn.2.2.1 (by simp [hfree])
    rw [if_pos hfree] at hloc
    unfold mkdir
    rw [parent_child, hloc]
    simp [RawPath.child, hm.2.2.1]
  have hparent : t.makeDirs p.absolute (n :: p.parts.reverse) = .ok (t.create d n .dir) := by
    rw [makeDirs_child hp hd hn (by simp [hfree]), if_pos hfree]
  have hagain : (t.create d n .dir).mkdir ((p.child n).child m) =
      .made ((t.create d n .dir).create (d ++ [n]) m .dir) := by
    have hdir : (t.create d n .dir).kind (d ++ [n]) = some .dir := by rw [hnew, if_pos rfl]
    have hloc := locate_name true (locate_mono (leftOf_create t d n .dir) hp)
      ((leftOf_create t d n .dir).kind _ _ hd) hn.2.2.1 (by simp [hdir])
    rw [hdir, if_neg (by simp)] at hloc
    rw [mkdir_child hloc hdir hm, if_pos]
    rw [hnew, if_neg (by simp)]
    exact kind_none_of_below (by simp [hfree]) (List.cons_ne_nil m [])
  unfold makeDirs
  simp only [hpath, hlacks, hparent]
  show (t.create d n .dir).mkdirExistOk _ ((t.create d n .dir).mkdir _) = _
  rw [hagain]
  rfl

/-! ## Nothing goes -/

/-- What a `mkdir` makes is added. -/
theorem mkdir_leftOf (h : t.mkdir p = .made t') : LeftOf t t' := by
  unfold mkdir at h
  split at h
  · cases h
  · split at h
    · split_ifs at h
    · split_ifs at h
      cases h
      exact leftOf_create ..

theorem mkdirExistOk_leftOf {q : RawPath} (h : t.mkdirExistOk q (t.mkdir p) = .ok t') : LeftOf t t' := by
  cases hanswer : t.mkdir p with
  | made made =>
      rw [hanswer] at h
      cases h
      exact mkdir_leftOf hanswer
  | present =>
      rw [hanswer] at h
      simp only [mkdirExistOk] at h
      split_ifs at h
      cases h
      exact .refl _
  | failed error =>
      rw [hanswer] at h
      simp only [mkdirExistOk] at h
      split_ifs at h
      cases h
      exact .refl _

/-- **Making directories only adds entries.** -/
theorem makeDirs_leftOf {absolute : Bool} {parts : List String} (h : t.makeDirs absolute parts = .ok t') :
    LeftOf t t' := by
  induction parts generalizing t' with
  | nil =>
      unfold makeDirs at h
      split_ifs at h
      cases h
      exact .refl _
  | cons last before ih =>
      unfold makeDirs at h
      dsimp only at h
      split at h
      · cases hparent : t.makeDirs absolute before with
        | error error =>
            rw [hparent] at h
            cases h
        | ok parents =>
            rw [hparent] at h
            exact (ih hparent).trans (mkdirExistOk_leftOf h)
      · exact mkdirExistOk_leftOf h

/-! ## Paths that lead nowhere -/

section nowhere

variable {follow : Bool} {cur : Location} {parts : List String} {made : Tree} {error : Errno}

/-- A way that fails fails with more components too. -/
theorem advance_append_failed (follow : Bool) {more : List String} (hmore : more ≠ [])
    (h : t.advance true cur parts = .failed error) : t.advance follow cur (parts ++ more) = .failed error := by
  induction parts generalizing cur with
  | nil => cases h
  | cons name names ih =>
      rw [advance_cons] at h
      rw [List.cons_append, advance_cons]
      by_cases hdot : name = ".."
      · rw [if_pos hdot] at h ⊢
        exact ih h
      · rw [if_neg hdot] at h ⊢
        cases hkind : t.kind (cur ++ [name]) with
        | none =>
            rw [hkind] at h
            cases h
            rfl
        | some k =>
            rw [hkind] at h
            cases k with
            | dir => exact ih h
            | file =>
                dsimp only at h
                split at h
                · cases h
                · cases h
                  simp [hmore]
            | symlink target => simp at h

/-- **Below a path that leads nowhere, a name leads nowhere.** -/
theorem locate_child_error (follow : Bool) (hn : n = ".." → t.gone p = false)
    (h : t.locate true p = .error error) : t.locate follow (p.child n) = .error error := by
  have hmore : [n] ≠ [] := List.cons_ne_nil n []
  have hwalk {links : Nat} {cur : Location} {parts : List String}
      (h : t.walk true links cur parts = .error error) :
      t.walk follow links cur (parts ++ [n]) = .error error := by
    induction links generalizing cur parts with
    | zero =>
        unfold walk at h ⊢
        cases hadv : t.advance true cur parts with
        | arrived l => simp [hadv] at h
        | failed error' =>
            rw [hadv] at h
            rw [advance_append_failed follow hmore hadv]
            exact h
        | link c target rest =>
            rw [hadv] at h
            rw [advance_append_link follow hmore hadv]
            exact h
    | succ links ih =>
        unfold walk at h ⊢
        cases hadv : t.advance true cur parts with
        | arrived l => simp [hadv] at h
        | failed error' =>
            rw [hadv] at h
            rw [advance_append_failed follow hmore hadv]
            exact h
        | link c target rest =>
            rw [hadv] at h
            rw [advance_append_link follow hmore hadv]
            dsimp only
            rw [← List.append_assoc]
            exact ih h
  unfold locate at h ⊢
  rcases hset : t.setOut (t.origin p) p.parts with _ | ⟨cur, parts⟩
  · rw [hset] at h
    have hchild : t.setOut (t.origin (p.child n)) (p.child n).parts = none := by
      refine setOut_none_concat (fun hups hdot => ?_) hset
      have hgone : t.gone p = true := decide_eq_true ⟨by rw [hset]; rfl, hups⟩
      rw [hn hdot] at hgone
      cases hgone
    rw [hchild]
    exact h
  · rw [hset] at h
    have hchild : t.setOut (t.origin (p.child n)) (p.child n).parts = some (cur, parts ++ [n]) :=
      setOut_append [n] hset
    rw [hchild]
    exact hwalk h

/-- `os.mkdir` finds what `..` leads to there, also from a directory that is gone. -/
theorem mkdir_dotdot_gone (h : t.gone p = true) : t.mkdir (p.child "..") = .present := by
  unfold mkdir
  rw [parent_child, locate_of_gone true h]
  simp [RawPath.child, h]

/-- What `os.mkdir` comes to, by what the path before its name leads to. -/
theorem mkdir_cases (t : Tree) (p : RawPath) (n : String) :
    (∃ d, t.locate true p = .ok d ∧ t.kind d = some .dir ∧ n ≠ ".." ∧ t.kind (d ++ [n]) = none ∧
        t.mkdir (p.child n) = .made (t.create d n .dir)) ∨
      t.mkdir (p.child n) = .present ∨
        ∃ error, t.mkdir (p.child n) = .failed error ∧ (t.locate true p = .error error ∨ error = .notDirectory) := by
  have hlast : (p.child n).parts.getLast? = some n := by simp [RawPath.child]
  unfold mkdir
  rw [hlast, parent_child]
  cases hloc : t.locate true p with
  | error error =>
      dsimp only
      by_cases hgone : n = ".." ∧ t.gone p = true
      · exact Or.inr (Or.inl (if_pos hgone))
      · exact Or.inr (Or.inr ⟨error, if_neg hgone, Or.inl rfl⟩)
  | ok d =>
      dsimp only
      by_cases hdir : t.kind d = some .dir
      · rw [if_neg (not_not.mpr hdir)]
        by_cases hthere : n = ".." ∨ (t.kind (d ++ [n])).isSome
        · exact Or.inr (Or.inl (if_pos hthere))
        · rw [if_neg hthere]
          obtain ⟨hn, hfree⟩ := not_or.mp hthere
          exact Or.inl ⟨d, rfl, hdir, hn, by simpa using hfree, rfl⟩
      · exact Or.inr (Or.inr ⟨_, if_pos hdir, Or.inr rfl⟩)

/-- A path that is no directory and can be made one leads nowhere. -/
theorem locate_of_makeDirs (hmade : t.makeDirs p.absolute p.parts.reverse = .ok made)
    (hdir : t.isDir p = false) : t.locate true p = .error .noEntry := by
  cases hgone : t.gone p with
  | true => exact locate_of_gone true hgone
  | false =>
      have hlacking : t.presentDir p = false := by
        unfold presentDir
        rw [hdir, hgone]
        rfl
      obtain ⟨absolute, parts⟩ := p
      rcases List.eq_nil_or_concat parts with rfl | ⟨before, last, rfl⟩
      · -- a path without components is not made
        unfold makeDirs at hmade
        rw [if_neg (by simpa using hlacking)] at hmade
        cases hmade
      · rw [List.concat_eq_append] at hmade hlacking hgone ⊢
        have hpath : (⟨absolute, before ++ [last]⟩ : RawPath) = RawPath.child ⟨absolute, before⟩ last := rfl
        have hlist : (before ++ [last]).reverse = last :: before.reverse := by simp
        rw [hpath] at hlacking hgone ⊢
        rw [hlist] at hmade
        rcases t.mkdir_cases ⟨absolute, before⟩ last with
          ⟨d, hd, hparent, hn, hfree, -⟩ | hpresent | ⟨error, hfailed, hwhy⟩
        · rw [locate_name true hd hparent hn (by simp [hfree]), if_pos hfree]
        · have hmake := makeDirs_of_mkdir (p := ⟨absolute, before⟩) (n := last) (t := t) (by simp [hpresent])
          rw [hmake, hpresent] at hmade
          simp [mkdirExistOk, hlacking] at hmade
        · by_cases hno : error = .noEntry
          · rw [hno] at hwhy
            refine locate_child_error true (fun hdot => ?_) (hwhy.resolve_right (by simp))
            -- below one that is gone the making is not refused
            by_contra hbefore
            rw [Bool.not_eq_false] at hbefore
            have hpresent := mkdir_dotdot_gone hbefore
            rw [← hdot, hfailed] at hpresent
            cases hpresent
          · have hmake := makeDirs_of_mkdir (p := ⟨absolute, before⟩) (n := last) (t := t) (by simp [hfailed, hno])
            rw [hmake, hfailed] at hmade
            simp [mkdirExistOk, hlacking] at hmade

/-- `os.mkdir` below a path that leads nowhere. -/
theorem mkdir_of_locate_error (hn : n ≠ "..") (h : t.locate true p = .error error) :
    t.mkdir (p.child n) = .failed error := by
  unfold mkdir
  rw [parent_child, h]
  simp [RawPath.child, hn]

/-- The making of directories, where the parent is lacking. -/
theorem makeDirs_of_lacking (hn : n ≠ "..") (h : t.locate true p = .error .noEntry) :
    t.makeDirs p.absolute (n :: p.parts.reverse) =
      (t.makeDirs p.absolute p.parts.reverse).bind fun t' => t'.mkdirExistOk (p.child n) (t'.mkdir (p.child n)) := by
  have hpath : (⟨p.absolute, (n :: p.parts.reverse).reverse⟩ : RawPath) = p.child n := by
    simp [RawPath.child]
  have hlacks := mkdir_of_locate_error hn h
  conv_lhs => unfold makeDirs
  simp only [hpath, hlacks]
  rfl

/-- **Two directories below a path that is made one on the way**: what is made is what is made of them once the
path is a directory. -/
theorem makeDirs_through (hmade : t.makeDirs p.absolute p.parts.reverse = .ok made) (hdir : t.isDir p = false)
    (hd : made.locate true p = .ok d) (hkind : made.kind d = some .dir) (hn : IsName n) (hm : m ≠ "..")
    (hfree : made.kind (d ++ [n]) = none) :
    t.makeDirs p.absolute (m :: n :: p.parts.reverse) = made.makeDirs p.absolute (m :: n :: p.parts.reverse) := by
  have hlacks := locate_of_makeDirs hmade hdir
  have hparts : (p.child n).parts.reverse = n :: p.parts.reverse := by simp [RawPath.child]
  -- the first of the two is made alike, and the second in what that leaves
  have hone : t.makeDirs p.absolute (n :: p.parts.reverse) = made.makeDirs p.absolute (n :: p.parts.reverse) := by
    rw [makeDirs_of_lacking hn.2.2.1 hlacks, hmade, makeDirs_of_mkdir]
    · rfl
    · rw [mkdir_child hd hkind hn, if_pos hfree]
      simp
  have hfree' : made.locate true (p.child n) = .error .noEntry := by
    rw [locate_name true hd hkind hn.2.2.1 (by simp [hfree]), if_pos hfree]
  have htwo := makeDirs_of_lacking hm (locate_child_error true (fun hdot => absurd hdot hn.2.2.1) hlacks)
  have htwo' := makeDirs_of_lacking hm hfree'
  rw [hparts] at htwo htwo'
  exact htwo.trans ((congrArg (Except.bind · _) hone).trans htwo'.symm)

end nowhere

/-! ## Files -/

/-- The tree with the file that `open(p, "w")` writes, and the place of the file. -/
def openTarget (t : Tree) : Nat → RawPath → Except Errno (Tree × Location)
  | links, p =>
      match t.locate false p with
      | .ok l =>
          match t.kind l with
          | some .file => .ok (t, l)
          | some (.symlink target) =>
              match links with
              | 0 => .error .tooManyLinks
              | links + 1 => t.openTarget links (RawPath.join ⟨true, l.dropLast⟩ target)
          | _ => .error .isDirectory
      | .error .noEntry =>
          match p.parts.getLast?, t.locate true p.parent with
          | some last, .ok d =>
              if t.kind d = some .dir ∧ IsName last ∧ t.kind (d ++ [last]) = none then
                .ok (t.create d last .file, d ++ [last])
              else .error .noEntry
          | _, .error error => .error error
          | none, .ok _ => .error .noEntry
      | .error error => .error error

/-- **The file opened under a name of a directory.** -/
theorem openTarget_child (links : Nat) (hp : t.locate true p = .ok d) (hd : t.kind d = some .dir)
    (hn : IsName n) (hlink : ∀ target, t.kind (d ++ [n]) ≠ some (.symlink target)) :
    t.openTarget links (p.child n) =
      if t.kind (d ++ [n]) = none then .ok (t.create d n .file, d ++ [n])
      else if t.kind (d ++ [n]) = some .file then .ok (t, d ++ [n])
      else .error .isDirectory := by
  have hloc := locate_name false hp hd hn.2.2.1 hlink
  unfold openTarget
  rw [hloc, parent_child, hp]
  cases hkind : t.kind (d ++ [n]) with
  | none => simp [RawPath.child, hd, hn, hkind]
  | some k =>
      cases k with
      | file => simp [hkind]
      | dir => simp [hkind]
      | symlink target => exact absurd hkind (hlink target)

end Tree

end Posix
