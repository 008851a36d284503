import Lmrs.Lib.Python

/-!
# Paths and trees of a POSIX filesystem

A `Location` is a place in the tree, the names from the top directory down; a `RawPath` is what a
program writes: relative or absolute, with `..` components, through symbolic links. `Tree.locate`
resolves the one to the other the way the kernel does, one component at a time, following at most
forty links.

* `Tree.locate_alive`: what is located exists, and is no link when links are followed.
* `Tree.locate_followed`: following the last link of a path changes nothing when there is none.
* `Tree.locate_mono`: a path that resolves in what is left of a tree resolves to the same place in
  the tree.
* `Tree.locate_child`, `Tree.locate_parent`: a name in a directory is located by the directory's
  path and the name, and by nothing else.
* `Tree.locate_dotdot`: a path that ends in `..` is located at the parent of a directory.

Permissions, mount points and hard limits on lengths are left out. Once the working directory is gone a
relative path leads on from it by `..` only; `Tree.gone` are the paths that end at a directory that is gone,
which has no place in the tree any more.
-/

namespace Posix

/-- A place in the tree. -/
abbrev Location := List String

/-! ## Paths -/

/-- A name an entry can have. -/
def IsName (n : String) : Prop := n ≠ "" ∧ n ≠ "." ∧ n ≠ ".." ∧ '/' ∉ n.toList

instance (n : String) : Decidable (IsName n) := inferInstanceAs (Decidable (_ ∧ _ ∧ _ ∧ _))

/-- A pathname as `pathlib` keeps it: empty and `.` components dropped, `..` kept. -/
structure RawPath where
  absolute : Bool
  parts : List String
  deriving DecidableEq, Repr

namespace RawPath

/-- `Path(text)`. -/
def parse (text : String) : RawPath where
  absolute := text.toList.head? = some '/'
  parts := ((Python.splitOn '/' text.toList).filter fun part => part ≠ [] ∧ part ≠ ['.']).map
    String.ofList

/-- `p / q`: an absolute `q` replaces `p`. -/
def join (p q : RawPath) : RawPath :=
  if q.absolute then q else ⟨p.absolute, p.parts ++ q.parts⟩

/-- `p / name`, for the name of a directory entry. -/
def child (p : RawPath) (name : String) : RawPath := ⟨p.absolute, p.parts ++ [name]⟩

/-- The path of what is below `p`, by names. -/
def under (p : RawPath) (names : List String) : RawPath := ⟨p.absolute, p.parts ++ names⟩

/-- Joining a name makes the path of an entry. -/
theorem join_parse_name (p : RawPath) {n : String} (hn : IsName n) :
    p.join (parse n) = p.child n := by
  obtain ⟨hempty, hdot, -, hslash⟩ := hn
  have hparse : parse n = ⟨false, [n]⟩ := by
    have hhead : n.toList.head? ≠ some '/' := fun h => hslash (List.mem_of_mem_head? h)
    have hne : n.toList ≠ [] := by simpa using hempty
    have hone : n.toList ≠ ['.'] := by
      intro h
      apply hdot
      rw [← String.ofList_toList (s := n), h]
    unfold parse
    rw [Python.splitOn_of_not_mem hslash]
    simp [hhead, hone, hempty]
  rw [hparse]
  rfl

/-- `str(p)`. -/
def text (p : RawPath) : String :=
  if p.parts = [] then (if p.absolute then "/" else ".")
  else (if p.absolute then "/" else "") ++ String.intercalate "/" p.parts

end RawPath

example : RawPath.parse "/srv//lm/./a/../b/" = ⟨true, ["srv", "lm", "a", "..", "b"]⟩ := by decide

/-! ## Trees -/

/-- What an entry is. -/
inductive Kind where
  | file
  | dir
  | symlink (target : RawPath)
  deriving DecidableEq

/-- What the kernel answers when it cannot do what it is asked. -/
inductive Errno where
  | noEntry
  | notDirectory
  | isDirectory
  | tooManyLinks
  | notEmpty
  | alreadyExists
  | busy
  | invalid
  deriving DecidableEq

/-- What a list of entries has at a location. The top directory is always there. -/
def kindIn (entries : List (Location × Kind)) (l : Location) : Option Kind :=
  if l = [] then some .dir else (entries.find? fun e => e.1 = l).map Prod.snd

/-- A tree: its entries below the top directory, and the working directory. Every entry is in a
directory, under a name. -/
structure Tree where
  entries : List (Location × Kind)
  cwd : Location
  distinct : (entries.map Prod.fst).Nodup
  rooted : ∀ e ∈ entries, e.1 ≠ [] ∧ kindIn entries e.1.dropLast = some .dir
  named : ∀ e ∈ entries, ∀ n ∈ e.1, IsName n

/-- One place is inside another: below it, and not the place itself. -/
def Inside (d l : Location) : Prop := d <+: l ∧ l ≠ d

instance (d l : Location) : Decidable (Inside d l) := inferInstanceAs (Decidable (_ ∧ _))

/-- What is inside something is not the top directory. -/
theorem Inside.ne_nil {d l : Location} (h : Inside d l) : l ≠ [] := by
  rintro rfl
  exact h.2 (List.prefix_nil.mp h.1).symm

/-- What is below something inside is inside. -/
theorem Inside.below {d l m : Location} (h : Inside d l) (hm : l <+: m) : Inside d m := by
  refine ⟨h.1.trans hm, ?_⟩
  rintro rfl
  exact h.2 (hm.eq_of_length (le_antisymm hm.length_le h.1.length_le))

/-- What is inside something is not above it. -/
theorem Inside.not_above {d l : Location} (h : Inside d l) : ¬ l <+: d := fun hpre =>
  h.2 (hpre.eq_of_length (le_antisymm hpre.length_le h.1.length_le))

/-- An entry of a directory is inside it. -/
theorem Inside.child (d : Location) (n : String) : Inside d (d ++ [n]) :=
  ⟨List.prefix_append d [n], by simp⟩

namespace Tree

variable {t t' : Tree} {d l : Location} {n : String} {k : Kind}

/-- What a tree has at a location. -/
def kind (t : Tree) (l : Location) : Option Kind := kindIn t.entries l

@[simp] theorem kind_nil (t : Tree) : t.kind [] = some .dir := rfl

/-- Below the top, what is there is an entry. -/
theorem mem_of_kind (hne : l ≠ []) (h : t.kind l = some k) : (l, k) ∈ t.entries := by
  unfold kind kindIn at h
  rw [if_neg hne] at h
  obtain ⟨e, he, rfl⟩ := Option.map_eq_some_iff.mp h
  have hl : e.1 = l := by simpa using List.find?_some he
  exact hl ▸ List.mem_of_find?_eq_some he

/-- An entry is there. -/
theorem kind_isSome_of_mem {e : Location × Kind} (h : e ∈ t.entries) : (t.kind e.1).isSome := by
  unfold kind kindIn
  rw [if_neg (t.rooted e h).1, Option.isSome_map, List.find?_isSome]
  exact ⟨e, h, by simp⟩

/-- **An entry is in a directory, under a name.** -/
theorem kind_parent (h : t.kind (l ++ [n]) = some k) : t.kind l = some .dir ∧ IsName n := by
  have hmem := mem_of_kind (by simp) h
  constructor
  · have hparent := (t.rooted _ hmem).2
    rwa [List.dropLast_concat] at hparent
  · exact t.named _ hmem n (by simp)

/-- What has something below it is a directory. -/
theorem kind_dir_of_below {rest : List String} (h : (t.kind (l ++ rest)).isSome) (hrest : rest ≠ []) :
    t.kind l = some .dir := by
  induction rest using List.reverseRecOn with
  | nil => exact absurd rfl hrest
  | append_singleton rest n ih =>
      obtain ⟨k, hk⟩ := Option.isSome_iff_exists.mp h
      rw [← List.append_assoc] at hk
      have hdir := (kind_parent hk).1
      by_cases hnil : rest = []
      · rwa [hnil, List.append_nil] at hdir
      · exact ih (by rw [hdir]; rfl) hnil

/-- Nothing is below what is no directory. -/
theorem kind_none_of_below {rest : List String} (h : t.kind l ≠ some .dir) (hrest : rest ≠ []) :
    t.kind (l ++ rest) = none := by
  by_contra hsome
  exact h (kind_dir_of_below (Option.isSome_iff_ne_none.mpr hsome) hrest)

/-- The parent of a directory is a directory. -/
theorem kind_dropLast (h : t.kind l = some .dir) : t.kind l.dropLast = some .dir := by
  rcases List.eq_nil_or_concat l with rfl | ⟨m, n, rfl⟩
  · exact h
  · rw [List.concat_eq_append, List.dropLast_concat]
    rw [List.concat_eq_append] at h
    exact (kind_parent h).1

/-- The entries strictly below a place. -/
def below (t : Tree) (d : Location) : List Location :=
  (t.entries.map Prod.fst).filter fun l => Inside d l

theorem mem_below : l ∈ t.below d ↔ (t.kind l).isSome ∧ Inside d l := by
  unfold below
  rw [List.mem_filter, List.mem_map]
  constructor
  · rintro ⟨⟨e, he, rfl⟩, hin⟩
    exact ⟨kind_isSome_of_mem he, by simpa using hin⟩
  · rintro ⟨hsome, hin⟩
    obtain ⟨k, hk⟩ := Option.isSome_iff_exists.mp hsome
    exact ⟨⟨_, mem_of_kind hin.ne_nil hk, rfl⟩, by simpa using hin⟩

/-- The names in a directory. -/
def children (t : Tree) (d : Location) : List String :=
  t.entries.filterMap fun e => if e.1 ≠ [] ∧ e.1.dropLast = d then e.1.getLast? else none

theorem mem_children : n ∈ t.children d ↔ (t.kind (d ++ [n])).isSome := by
  unfold children
  rw [List.mem_filterMap]
  constructor
  · rintro ⟨e, he, hn⟩
    split_ifs at hn with hd
    obtain ⟨hne, rfl⟩ := hd
    rw [List.dropLast_append_getLast? n hn]
    exact kind_isSome_of_mem he
  · intro hsome
    obtain ⟨k, hk⟩ := Option.isSome_iff_exists.mp hsome
    exact ⟨_, mem_of_kind (by simp) hk, by simp⟩

/-! ### Removing entries -/

/-- What is left of a list of entries when those at some locations are gone. -/
theorem kindIn_filter (entries : List (Location × Kind)) (P : Location → Bool) (l : Location) :
    kindIn (entries.filter fun e => P e.1) l =
      if l = [] ∨ P l = true then kindIn entries l else none := by
  unfold kindIn
  by_cases hnil : l = []
  · simp [hnil]
  · rw [if_neg hnil, if_neg hnil, List.find?_filter]
    by_cases hP : P l = true
    · have hsame : (fun e : Location × Kind => decide (P e.1 = true ∧ decide (e.1 = l) = true)) =
          fun e => decide (e.1 = l) := by
        funext e
        by_cases he : e.1 = l
        · simp [he, hP]
        · simp [he]
      rw [if_pos (Or.inr hP), hsame]
    · have hnone : (entries.find? fun e =>
          decide (P e.1 = true ∧ decide (e.1 = l) = true)) = none := by
        rw [List.find?_eq_none]
        rintro e - he
        obtain ⟨hkeep, rfl⟩ : P e.1 = true ∧ e.1 = l := by simpa using he
        exact hP hkeep
      rw [if_neg (by simp [hnil, hP]), hnone]
      rfl

/-- What is left of a tree when the entries at some locations go, with everything below them. -/
def keep (t : Tree) (P : Location → Bool) (hP : ∀ l n, P (l ++ [n]) = true → P l = true) : Tree where
  entries := t.entries.filter fun e => P e.1
  cwd := t.cwd
  distinct := t.distinct.sublist (List.filter_sublist.map _)
  rooted := by
    intro e he
    obtain ⟨hmem, hkeep⟩ := List.mem_filter.mp he
    obtain ⟨hne, hparent⟩ := t.rooted e hmem
    refine ⟨hne, ?_⟩
    have hkept : P e.1.dropLast = true := by
      apply hP e.1.dropLast (e.1.getLast hne)
      rwa [List.dropLast_append_getLast]
    rw [kindIn_filter, if_pos (Or.inr hkept)]
    exact hparent
  named := fun e he => t.named e (List.mem_filter.mp he).1

theorem kind_keep (t : Tree) (P : Location → Bool) (hP) (l : Location) :
    (t.keep P hP).kind l = if l = [] ∨ P l = true then t.kind l else none :=
  kindIn_filter t.entries P l

/-- Everything inside a place goes. -/
def clear (t : Tree) (d : Location) : Tree :=
  t.keep (fun l => ¬ Inside d l) fun l n h => by
    have hout : ¬ Inside d (l ++ [n]) := by simpa using h
    simpa using fun hin : Inside d l => hout (hin.below (List.prefix_append l [n]))

/-- A place goes, with everything inside. -/
def prune (t : Tree) (d : Location) : Tree :=
  t.keep (fun l => ¬ d <+: l) fun l n h => by
    have hout : ¬ d <+: l ++ [n] := by simpa using h
    simpa using fun hpre : d <+: l => hout (hpre.trans (List.prefix_append l [n]))

theorem kind_clear (t : Tree) (d l : Location) :
    (t.clear d).kind l = if Inside d l then none else t.kind l := by
  unfold clear
  rw [kind_keep]
  by_cases hin : Inside d l
  · simp [hin, hin.ne_nil]
  · simp [hin]

theorem kind_prune (t : Tree) (d l : Location) :
    (t.prune d).kind l = if l ≠ [] ∧ d <+: l then none else t.kind l := by
  unfold prune
  rw [kind_keep]
  by_cases hnil : l = []
  · simp [hnil]
  · by_cases hpre : d <+: l
    · simp [hnil, hpre]
    · simp [hnil, hpre]

/-- `t'` is what is left of `t`. -/
structure LeftOf (t' t : Tree) : Prop where
  kind : ∀ l k, t'.kind l = some k → t.kind l = some k
  cwd : t'.cwd = t.cwd

theorem LeftOf.refl (t : Tree) : LeftOf t t := ⟨fun _ _ h => h, rfl⟩

theorem LeftOf.trans {a b c : Tree} (hab : LeftOf a b) (hbc : LeftOf b c) : LeftOf a c :=
  ⟨fun l k h => hbc.kind l k (hab.kind l k h), hab.cwd.trans hbc.cwd⟩

theorem clear_leftOf (t : Tree) (d : Location) : LeftOf (t.clear d) t := by
  refine ⟨?_, rfl⟩
  intro l k h
  rw [kind_clear] at h
  split_ifs at h
  exact h

theorem prune_leftOf (t : Tree) (d : Location) : LeftOf (t.prune d) t := by
  refine ⟨?_, rfl⟩
  intro l k h
  rw [kind_prune] at h
  split_ifs at h
  exact h

/-! ### Resolving a path -/

/-- How far a walk gets without following a link. -/
inductive Advance where
  | arrived (l : Location)
  | failed (error : Errno)
  | link (cur : Location) (target : RawPath) (rest : List String)

/-- Walk the components from a directory up to the next link to follow. The last component is
followed only when `follow` says so. -/
def advance (t : Tree) (follow : Bool) : Location → List String → Advance
  | cur, [] => .arrived cur
  | cur, name :: rest =>
      if name = ".." then t.advance follow cur.dropLast rest
      else
        match t.kind (cur ++ [name]) with
        | none => .failed .noEntry
        | some .dir => t.advance follow (cur ++ [name]) rest
        | some .file => if rest = [] then .arrived (cur ++ [name]) else .failed .notDirectory
        | some (.symlink target) =>
            if rest = [] ∧ follow = false then .arrived (cur ++ [name])
            else .link cur target rest

/-- Where the target of a link in a directory starts. -/
def start (cur : Location) (target : RawPath) : Location := if target.absolute then [] else cur

/-- Walk the components from a directory, following at most `links` links. -/
def walk (t : Tree) (follow : Bool) : Nat → Location → List String → Except Errno Location
  | 0, cur, parts =>
      match t.advance follow cur parts with
      | .arrived l => .ok l
      | .failed error => .error error
      | .link _ _ _ => .error .tooManyLinks
  | links + 1, cur, parts =>
      match t.advance follow cur parts with
      | .arrived l => .ok l
      | .failed error => .error error
      | .link cur target rest => t.walk follow links (start cur target) (target.parts ++ rest)

/-- Where the components of a path start. -/
def origin (t : Tree) (p : RawPath) : Location := if p.absolute then [] else t.cwd

/-- The first directory on the way from a place, and the components from there. From a directory that is
gone only `..` leads on, to the place it was in. -/
def setOut (t : Tree) : Location → List String → Option (Location × List String)
  | cur, [] => if t.kind cur = some .dir then some (cur, []) else none
  | cur, name :: rest =>
      if t.kind cur = some .dir then some (cur, name :: rest)
      else if name = ".." then t.setOut cur.dropLast rest
      else none

/-- The place a path resolves to. -/
def locate (t : Tree) (follow : Bool) (p : RawPath) : Except Errno Location :=
  match t.setOut (t.origin p) p.parts with
  | some (cur, parts) => t.walk follow 40 cur parts
  | none => .error .noEntry

/-- A path ends at a directory that is gone: the working directory, or one that it was in. The kernel still
opens it, and finds nothing there. -/
def gone (t : Tree) (p : RawPath) : Bool :=
  (t.setOut (t.origin p) p.parts).isNone ∧ ∀ n ∈ p.parts, n = ".."

section walks

variable {follow : Bool} {cur : Location} {parts : List String} {links : Nat} {p : RawPath}

/-- **One walk to the next link, from a directory**: it ends at an entry, which is no link when
links are followed, or at a link in a directory. -/
theorem advance_spec (follow : Bool) (parts : List String) (hcur : t.kind cur = some .dir) :
    (∃ l k, t.advance follow cur parts = .arrived l ∧ t.kind l = some k ∧
        (follow = true → ∀ target, k ≠ .symlink target)) ∨
      (∃ error, t.advance follow cur parts = .failed error) ∨
      ∃ c target rest, t.advance follow cur parts = .link c target rest ∧ t.kind c = some .dir := by
  induction parts generalizing cur with
  | nil => exact Or.inl ⟨cur, .dir, rfl, hcur, by simp⟩
  | cons name rest ih =>
      unfold advance
      by_cases hdot : name = ".."
      · rw [if_pos hdot]
        exact ih (kind_dropLast hcur)
      · rw [if_neg hdot]
        cases hkind : t.kind (cur ++ [name]) with
        | none => exact Or.inr (Or.inl ⟨_, rfl⟩)
        | some k =>
            cases k with
            | dir => exact ih hkind
            | file =>
                by_cases hlast : rest = []
                · exact Or.inl ⟨_, _, if_pos hlast, hkind, by simp⟩
                · exact Or.inr (Or.inl ⟨_, if_neg hlast⟩)
            | symlink target =>
                by_cases hlast : rest = [] ∧ follow = false
                · exact Or.inl ⟨_, _, if_pos hlast, hkind, by simp [hlast.2]⟩
                · exact Or.inr (Or.inr ⟨cur, target, rest, if_neg hlast, hcur⟩)

/-- Where a walk arrives without following a link there is an entry. -/
theorem advance_arrived (hcur : t.kind cur = some .dir)
    (h : t.advance follow cur parts = .arrived l) :
    ∃ k, t.kind l = some k ∧ (follow = true → ∀ target, k ≠ .symlink target) := by
  rcases advance_spec follow parts hcur with ⟨l', k, hadv, hk⟩ | ⟨_, hadv⟩ | ⟨_, _, _, hadv, -⟩
  · rw [h] at hadv
    cases hadv
    exact ⟨k, hk⟩
  · simp [h] at hadv
  · simp [h] at hadv

/-- A link a walk follows is in a directory. -/
theorem advance_link {c : Location} {target : RawPath} {rest : List String}
    (hcur : t.kind cur = some .dir) (h : t.advance follow cur parts = .link c target rest) :
    t.kind c = some .dir := by
  rcases advance_spec follow parts hcur with ⟨_, _, hadv, -⟩ | ⟨_, hadv⟩ | ⟨_, _, _, hadv, hc⟩
  · simp [h] at hadv
  · simp [h] at hadv
  · rw [h] at hadv
    cases hadv
    exact hc

/-- A link starts at a directory. -/
theorem start_dir (hcur : t.kind cur = some .dir) (target : RawPath) :
    t.kind (start cur target) = some .dir := by
  unfold start
  split_ifs
  · exact kind_nil t
  · exact hcur

/-- **Induction on a walk that succeeds**: it arrives, or a link is followed and the walk from its
start has the property with one link less. -/
theorem walk_rec {motive : Nat → Location → List String → Prop}
    (h : t.walk follow links cur parts = .ok l)
    (harrived : ∀ links cur parts, t.advance follow cur parts = .arrived l →
      motive links cur parts)
    (hlink : ∀ links cur parts c target rest, t.advance follow cur parts = .link c target rest →
      motive links (start c target) (target.parts ++ rest) → motive (links + 1) cur parts) :
    motive links cur parts := by
  induction links generalizing cur parts with
  | zero =>
      unfold walk at h
      cases hadv : t.advance follow cur parts with
      | arrived l' =>
          rw [hadv] at h
          cases h
          exact harrived 0 cur parts hadv
      | failed error =>
          simp [hadv] at h
      | link c target rest =>
          simp [hadv] at h
  | succ links ih =>
      unfold walk at h
      cases hadv : t.advance follow cur parts with
      | arrived l' =>
          rw [hadv] at h
          cases h
          exact harrived (links + 1) cur parts hadv
      | failed error =>
          simp [hadv] at h
      | link c target rest =>
          rw [hadv] at h
          exact hlink links cur parts c target rest hadv (ih h)

/-- A walk that arrives at once. -/
theorem walk_of_arrived (h : t.advance follow cur parts = .arrived l) :
    t.walk follow links cur parts = .ok l := by
  cases links <;> simp [walk, h]

/-- A walk that fails at once. -/
theorem walk_of_failed {error : Errno} (h : t.advance follow cur parts = .failed error) :
    t.walk follow links cur parts = .error error := by
  cases links <;> simp [walk, h]

/-- A walk that follows a link. -/
theorem walk_of_link {c : Location} {target : RawPath} {rest : List String}
    (h : t.advance follow cur parts = .link c target rest) :
    t.walk follow (links + 1) cur parts =
      t.walk follow links (start c target) (target.parts ++ rest) := by
  rw [walk, h]

/-- **What is reached exists**, and is no link when links are followed. -/
theorem walk_alive (hcur : t.kind cur = some .dir) (h : t.walk follow links cur parts = .ok l) :
    ∃ k, t.kind l = some k ∧ (follow = true → ∀ target, k ≠ .symlink target) := by
  refine walk_rec (motive := fun _ cur _ => t.kind cur = some .dir → _) h ?_ ?_ hcur
  · intro _ cur parts hadv hcur
    exact advance_arrived hcur hadv
  · intro _ cur parts c target rest hadv ih hcur
    exact ih (start_dir (advance_link hcur hadv) target)

/-- In what is left of a tree, one walk to the next link fails or goes as in the tree. -/
theorem advance_mono (hleft : LeftOf t' t)
    (h : ∀ error, t'.advance follow cur parts ≠ .failed error) :
    t.advance follow cur parts = t'.advance follow cur parts := by
  induction parts generalizing cur with
  | nil => rfl
  | cons name rest ih =>
      unfold advance at h ⊢
      by_cases hdot : name = ".."
      · rw [if_pos hdot] at h ⊢
        rw [if_pos hdot]
        exact ih h
      · rw [if_neg hdot] at h ⊢
        rw [if_neg hdot]
        cases hkind : t'.kind (cur ++ [name]) with
        | none =>
            rw [hkind] at h
            exact absurd rfl (h .noEntry)
        | some k =>
            rw [hkind] at h
            rw [hleft.kind _ _ hkind]
            cases k with
            | dir => exact ih h
            | file => rfl
            | symlink target => rfl

/-- In what is left of a tree, a walk fails or goes as in the tree. -/
theorem walk_mono (hleft : LeftOf t' t) (h : t'.walk follow links cur parts = .ok l) :
    t.walk follow links cur parts = .ok l := by
  refine walk_rec (motive := fun links cur parts => t.walk follow links cur parts = .ok l) h ?_ ?_
  · intro links cur parts hadv
    apply walk_of_arrived
    rw [advance_mono hleft (by simp [hadv]), hadv]
  · intro links cur parts c target rest hadv ih
    have hadv' : t.advance follow cur parts = .link c target rest := by
      rw [advance_mono hleft (by simp [hadv]), hadv]
    rw [walk_of_link hadv']
    exact ih

/-- Where the last component is not a link, following it changes nothing on the way to the next
link. -/
theorem advance_followed (l : Location) :
    (t.advance false cur parts = .arrived l → (∀ target, t.kind l ≠ some (.symlink target)) →
        t.advance true cur parts = .arrived l) ∧
      ∀ c target rest, t.advance false cur parts = .link c target rest →
        t.advance true cur parts = .link c target rest := by
  induction parts generalizing cur with
  | nil => exact ⟨fun h _ => h, fun _ _ _ h => h⟩
  | cons name rest ih =>
      unfold advance
      by_cases hdot : name = ".."
      · rw [if_pos hdot, if_pos hdot]
        exact ih
      · rw [if_neg hdot, if_neg hdot]
        cases hkind : t.kind (cur ++ [name]) with
        | none => exact ⟨fun h _ => h, fun _ _ _ h => h⟩
        | some k =>
            cases k with
            | dir => exact ih
            | file => exact ⟨fun h _ => h, fun _ _ _ h => h⟩
            | symlink target =>
                by_cases hlast : rest = []
                · simp only [hlast, true_and, if_true]
                  refine ⟨?_, by simp⟩
                  intro h hno
                  cases h
                  exact absurd hkind (hno target)
                · simp [hlast]

/-- **Following the last link changes nothing where there is none.** -/
theorem walk_followed (h : t.walk false links cur parts = .ok l)
    (hno : ∀ target, t.kind l ≠ some (.symlink target)) :
    t.walk true links cur parts = .ok l := by
  refine walk_rec (motive := fun links cur parts => t.walk true links cur parts = .ok l) h ?_ ?_
  · intro links cur parts hadv
    exact walk_of_arrived ((advance_followed l).1 hadv hno)
  · intro links cur parts c target rest hadv ih
    rw [walk_of_link ((advance_followed l).2 c target rest hadv)]
    exact ih

/-- One component of a walk. -/
theorem advance_cons (follow : Bool) (cur : Location) (name : String) (rest : List String) :
    t.advance follow cur (name :: rest) =
      if name = ".." then t.advance follow cur.dropLast rest
      else
        match t.kind (cur ++ [name]) with
        | none => .failed .noEntry
        | some .dir => t.advance follow (cur ++ [name]) rest
        | some .file => if rest = [] then .arrived (cur ++ [name]) else .failed .notDirectory
        | some (.symlink target) =>
            if rest = [] ∧ follow = false then .arrived (cur ++ [name])
            else .link cur target rest := rfl

/-- A link on the way is met with more components too. -/
theorem advance_append_link (follow : Bool) {more : List String} (hmore : more ≠ []) {c : Location}
    {target : RawPath} {rest : List String} (h : t.advance true cur parts = .link c target rest) :
    t.advance follow cur (parts ++ more) = .link c target (rest ++ more) := by
  induction parts generalizing cur with
  | nil => cases h
  | cons name names ih =>
      rw [advance_cons] at h
      rw [List.cons_append, advance_cons]
      by_cases hdot : name = ".."
      · rw [if_pos hdot] at h ⊢
        exact ih h
      · rw [if_neg hdot] at h ⊢
        cases hkind : t.kind (cur ++ [name]) with
        | none => simp [hkind] at h
        | some k =>
            rw [hkind] at h
            cases k with
            | dir => exact ih h
            | file =>
                dsimp only at h
                split at h <;> cases h
            | symlink target' =>
                dsimp only at h
                rw [if_neg (by simp)] at h
                cases h
                simp [hmore]

/-- More components after those of a directory. -/
theorem advance_append (follow : Bool) (more : List String) (hd : t.kind d = some .dir)
    (h : t.advance true cur parts = .arrived d) :
    t.advance follow cur (parts ++ more) = t.advance follow d more := by
  induction parts generalizing cur with
  | nil =>
      cases h
      rfl
  | cons name names ih =>
      rw [advance_cons] at h
      rw [List.cons_append, advance_cons]
      by_cases hdot : name = ".."
      · rw [if_pos hdot] at h ⊢
        exact ih h
      · rw [if_neg hdot] at h ⊢
        cases hkind : t.kind (cur ++ [name]) with
        | none => simp [hkind] at h
        | some k =>
            rw [hkind] at h
            cases k with
            | dir => exact ih h
            | file =>
                -- a file can only be the last component, and then it is no directory
                dsimp only at h
                split at h
                · cases h
                  simp [hd] at hkind
                · cases h
            | symlink target => simp at h

/-- A name in a directory is there or is not. -/
theorem advance_name (hn : n ≠ "..")
    (hlink : follow = true → ∀ target, t.kind (d ++ [n]) ≠ some (.symlink target)) :
    t.advance follow d [n] =
      if t.kind (d ++ [n]) = none then .failed .noEntry else .arrived (d ++ [n]) := by
  unfold advance
  rw [if_neg hn]
  cases hkind : t.kind (d ++ [n]) with
  | none => rfl
  | some k =>
      cases k with
      | file => simp
      | dir => simp [advance]
      | symlink target =>
          cases follow with
          | false => simp
          | true => exact absurd hkind (hlink rfl target)

/-- **Components after those of a directory, up to no link, are walked from the directory.** -/
theorem walk_append (follow : Bool) {more : List String} (h : t.walk true links cur parts = .ok d)
    (hd : t.kind d = some .dir) (hmore : more ≠ []) :
    (∀ l, t.advance follow d more = .arrived l → t.walk follow links cur (parts ++ more) = .ok l) ∧
      ∀ error, t.advance follow d more = .failed error →
        t.walk follow links cur (parts ++ more) = .error error := by
  refine walk_rec (motive := fun links cur parts =>
    (∀ l, t.advance follow d more = .arrived l → t.walk follow links cur (parts ++ more) = .ok l) ∧
      ∀ error, t.advance follow d more = .failed error →
        t.walk follow links cur (parts ++ more) = .error error) h ?_ ?_
  · intro links cur parts hadv
    have hlast := advance_append follow more hd hadv
    exact ⟨fun l hl => walk_of_arrived (hlast.trans hl), fun e he => walk_of_failed (hlast.trans he)⟩
  · intro links cur parts c target rest hadv ih
    rw [walk_of_link (advance_append_link follow hmore hadv), ← List.append_assoc]
    exact ih

/-- **A name after the components of a directory reaches what is there under that name.** -/
theorem walk_child (h : t.walk true links cur parts = .ok d) (hd : t.kind d = some .dir)
    (hn : n ≠ "..")
    (hlink : follow = true → ∀ target, t.kind (d ++ [n]) ≠ some (.symlink target)) :
    t.walk follow links cur (parts ++ [n]) =
      if t.kind (d ++ [n]) = none then .error .noEntry else .ok (d ++ [n]) := by
  have hlast := advance_name hn hlink
  obtain ⟨harrived, hfailed⟩ := walk_append follow h hd (List.cons_ne_nil n [])
  by_cases hkind : t.kind (d ++ [n]) = none
  · rw [if_pos hkind] at hlast ⊢
    exact hfailed _ hlast
  · rw [if_neg hkind] at hlast ⊢
    exact harrived _ hlast

/-- Names below a directory where there are no links reach what is there. -/
theorem advance_plain (follow : Bool) {names : List String} (hnames : ∀ n ∈ names, n ≠ "..")
    (hplain : ∀ before, before <+: names → ∀ target, t.kind (d ++ before) ≠ some (.symlink target)) :
    (t.kind (d ++ names) ≠ none → t.advance follow d names = .arrived (d ++ names)) ∧
      (t.kind (d ++ names) = none → t.kind d = some .dir →
        ∃ error, t.advance follow d names = .failed error) := by
  induction names generalizing d with
  | nil =>
      rw [List.append_nil]
      exact ⟨fun _ => rfl, fun hnone hdir => by simp [hnone] at hdir⟩
  | cons name rest ih =>
      have hstep := hplain [name] ⟨rest, rfl⟩
      have hrest := ih (d := d ++ [name]) (fun n hn => hnames n (List.mem_cons_of_mem _ hn)) (by
        intro before hbefore target
        have h := hplain (name :: before) (by simpa using hbefore) target
        rwa [List.append_assoc])
      rw [List.append_assoc, List.singleton_append] at hrest
      unfold advance
      rw [if_neg (hnames name (List.mem_cons_self ..))]
      cases hkind : t.kind (d ++ [name]) with
      | none =>
          refine ⟨fun hsome => ?_, fun _ _ => ⟨_, rfl⟩⟩
          by_cases hlast : rest = []
          · exact absurd (hlast ▸ hkind) hsome
          · have hnone := kind_none_of_below (l := d ++ [name]) (t := t) (by simp [hkind]) hlast
            rw [List.append_assoc, List.singleton_append] at hnone
            exact absurd hnone hsome
      | some k =>
          cases k with
          | dir => exact ⟨hrest.1, fun hnone _ => hrest.2 hnone hkind⟩
          | symlink target => exact absurd hkind (hstep target)
          | file =>
              by_cases hlast : rest = []
              · subst hlast
                simp [hkind]
              · have hnone := kind_none_of_below (l := d ++ [name]) (t := t) (by simp [hkind]) hlast
                rw [List.append_assoc, List.singleton_append] at hnone
                simp [hlast, hnone]

/-- On the way to a name the components before it are walked, links followed. -/
theorem advance_parent (l : Location) (hcur : t.kind cur = some .dir) (hn : n ≠ "..") :
    (t.advance false cur (parts ++ [n]) = .arrived l →
        ∃ d, t.advance true cur parts = .arrived d ∧ t.kind d = some .dir ∧ l = d ++ [n]) ∧
      ∀ c target rest, t.advance false cur (parts ++ [n]) = .link c target rest →
        ∃ rest', t.advance true cur parts = .link c target rest' ∧ rest = rest' ++ [n] := by
  induction parts generalizing cur with
  | nil =>
      rw [List.nil_append, advance_name hn (by simp)]
      by_cases hkind : t.kind (cur ++ [n]) = none
      · simp [hkind]
      · rw [if_neg hkind]
        refine ⟨?_, by simp⟩
        intro h
        cases h
        exact ⟨cur, rfl, hcur, rfl⟩
  | cons name rest ih =>
      rw [List.cons_append]
      unfold advance
      by_cases hdot : name = ".."
      · rw [if_pos hdot, if_pos hdot]
        exact ih (kind_dropLast hcur)
      · rw [if_neg hdot, if_neg hdot]
        cases hkind : t.kind (cur ++ [name]) with
        | none => exact ⟨by simp, by simp⟩
        | some k =>
            cases k with
            | dir => exact ih hkind
            | file => exact ⟨by simp, by simp⟩
            | symlink target =>
                refine ⟨by simp, ?_⟩
                intro c target' rest' h
                obtain ⟨rfl, rfl, rfl⟩ : cur = c ∧ target = target' ∧ rest ++ [n] = rest' := by
                  simpa using h
                exact ⟨rest, by simp, rfl⟩

/-- **What is reached by a name is in the directory the components before it lead to.** -/
theorem walk_parent (hcur : t.kind cur = some .dir) (hn : n ≠ "..")
    (h : t.walk false links cur (parts ++ [n]) = .ok l) :
    ∃ d, t.walk true links cur parts = .ok d ∧ t.kind d = some .dir ∧ l = d ++ [n] := by
  refine walk_rec (motive := fun links cur all => ∀ parts, all = parts ++ [n] →
    t.kind cur = some .dir →
      ∃ d, t.walk true links cur parts = .ok d ∧ t.kind d = some .dir ∧ l = d ++ [n])
    h ?_ ?_ parts rfl hcur
  · rintro links cur _ hadv parts rfl hcur
    obtain ⟨d, harrived, hd, hl⟩ := (advance_parent l hcur hn).1 hadv
    exact ⟨d, walk_of_arrived harrived, hd, hl⟩
  · rintro links cur _ c target rest hadv ih parts rfl hcur
    obtain ⟨rest', hlink, rfl⟩ := (advance_parent l hcur hn).2 c target rest hadv
    rw [walk_of_link hlink]
    exact ih (target.parts ++ rest') (List.append_assoc ..).symm
      (start_dir (advance_link hcur hadv) target)

/-- Before one more component, a walk is at a directory, or at a link it meets either way. -/
theorem advance_before (follow : Bool) (parts : List String) (n : String) (hcur : t.kind cur = some .dir) :
    (∃ d, t.advance true cur parts = .arrived d ∧ t.kind d = some .dir) ∨
      (∃ c target rest, t.advance true cur parts = .link c target rest ∧
        t.advance follow cur (parts ++ [n]) = .link c target (rest ++ [n])) ∨
      ∃ error, t.advance follow cur (parts ++ [n]) = .failed error := by
  induction parts generalizing cur with
  | nil => exact Or.inl ⟨cur, rfl, hcur⟩
  | cons name rest ih =>
      rw [List.cons_append, advance_cons, advance_cons]
      by_cases hdot : name = ".."
      · rw [if_pos hdot, if_pos hdot]
        exact ih (kind_dropLast hcur)
      · rw [if_neg hdot, if_neg hdot]
        cases hkind : t.kind (cur ++ [name]) with
        | none => exact Or.inr (Or.inr ⟨_, rfl⟩)
        | some k =>
            cases k with
            | dir => exact ih hkind
            | file => exact Or.inr (Or.inr ⟨.notDirectory, by simp⟩)
            | symlink target => exact Or.inr (Or.inl ⟨cur, target, rest, by simp, by simp⟩)

/-- **What is reached has its components before the last lead to a directory.** -/
theorem walk_before (hcur : t.kind cur = some .dir)
    (h : t.walk follow links cur (parts ++ [n]) = .ok l) :
    ∃ d, t.walk true links cur parts = .ok d ∧ t.kind d = some .dir := by
  refine walk_rec (motive := fun links cur all => ∀ parts, all = parts ++ [n] →
    t.kind cur = some .dir → ∃ d, t.walk true links cur parts = .ok d ∧ t.kind d = some .dir)
    h ?_ ?_ parts rfl hcur
  · rintro links cur _ hadv parts rfl hcur
    rcases advance_before follow parts n hcur with
      ⟨d, harrived, hd⟩ | ⟨c, target, rest, -, hlink⟩ | ⟨error, hfailed⟩
    · exact ⟨d, walk_of_arrived harrived, hd⟩
    · rw [hlink] at hadv
      cases hadv
    · rw [hfailed] at hadv
      cases hadv
  · rintro links cur _ c target rest hadv ih parts rfl hcur
    rcases advance_before follow parts n hcur with
      ⟨d, harrived, hd⟩ | ⟨c', target', rest', hmet, hlink⟩ | ⟨error, hfailed⟩
    · exact ⟨d, walk_of_arrived harrived, hd⟩
    · rw [hlink] at hadv
      obtain ⟨rfl, rfl, rfl⟩ := Advance.link.inj hadv
      rw [walk_of_link hmet]
      exact ih (target'.parts ++ rest') (List.append_assoc ..).symm
        (start_dir (advance_link hcur hlink) target')
    · rw [hfailed] at hadv
      cases hadv

/-- A walk to the next link over components that end in `..`. -/
theorem advance_dotdot (follow : Bool) (l : Location) (hcur : t.kind cur = some .dir)
    (hlast : parts.getLast? = some "..") :
    (t.advance follow cur parts = .arrived l → ∃ c, t.kind c = some .dir ∧ l = c.dropLast) ∧
      ∀ c target rest, t.advance follow cur parts = .link c target rest →
        rest.getLast? = some ".." := by
  induction parts generalizing cur with
  | nil => cases hlast
  | cons name rest ih =>
      cases rest with
      | nil =>
          cases hlast
          refine ⟨?_, by simp [advance]⟩
          intro h
          cases h
          exact ⟨cur, hcur, rfl⟩
      | cons name' rest =>
          rw [List.getLast?_cons_cons] at hlast
          rw [advance]
          by_cases hdot : name = ".."
          · rw [if_pos hdot]
            exact ih (kind_dropLast hcur) hlast
          · rw [if_neg hdot]
            cases hkind : t.kind (cur ++ [name]) with
            | none => exact ⟨by simp, by simp⟩
            | some k =>
                cases k with
                | dir => exact ih hkind hlast
                | file => exact ⟨by simp, by simp⟩
                | symlink target =>
                    refine ⟨by simp, ?_⟩
                    rintro c target' rest' h
                    have hrest : rest' = name' :: rest := by
                      simp at h
                      exact h.2.2.symm
                    rw [hrest]
                    exact hlast

/-- **Components that end in `..` lead to the parent of a directory.** -/
theorem walk_dotdot (hcur : t.kind cur = some .dir) (hlast : parts.getLast? = some "..")
    (h : t.walk follow links cur parts = .ok l) :
    ∃ c, t.kind c = some .dir ∧ l = c.dropLast := by
  refine walk_rec (motive := fun _ cur parts =>
    t.kind cur = some .dir → parts.getLast? = some ".." → _) h ?_ ?_ hcur hlast
  · intro _ cur parts hadv hcur hlast
    exact (advance_dotdot follow l hcur hlast).1 hadv
  · intro _ cur parts c target rest hadv ih hcur hlast
    have hrest := (advance_dotdot follow l hcur hlast).2 c target rest hadv
    apply ih (start_dir (advance_link hcur hadv) target)
    rw [List.getLast?_append, hrest]
    rfl

/-! ### Setting out -/

/-- From a directory a path sets out there. -/
theorem setOut_dir (parts : List String) (hcur : t.kind cur = some .dir) :
    t.setOut cur parts = some (cur, parts) := by
  cases parts with
  | nil => exact if_pos hcur
  | cons name rest => exact if_pos hcur

/-- One component from a directory that is gone. -/
theorem setOut_gone {name : String} {rest : List String} (hcur : t.kind cur ≠ some .dir) :
    t.setOut cur (name :: rest) = if name = ".." then t.setOut cur.dropLast rest else none :=
  if_neg hcur

/-- **Induction along the way to the first directory**: from it, and back over one `..` at a time. -/
theorem setOut_induction {c : Location} {rest : List String} {motive : Location → List String → Prop}
    (h : t.setOut cur parts = some (c, rest)) (here : t.kind c = some .dir → motive c rest)
    (up : ∀ cur names, t.kind cur ≠ some .dir → motive cur.dropLast names → motive cur (".." :: names)) :
    motive cur parts := by
  induction parts generalizing cur with
  | nil =>
      by_cases hcur : t.kind cur = some .dir
      · rw [setOut_dir _ hcur] at h
        cases h
        exact here hcur
      · rw [show t.setOut cur [] = none from if_neg hcur] at h
        cases h
  | cons name names ih =>
      by_cases hcur : t.kind cur = some .dir
      · rw [setOut_dir _ hcur] at h
        cases h
        exact here hcur
      · rw [setOut_gone hcur] at h
        split_ifs at h with hdot
        rw [hdot]
        exact up cur names hcur (ih h)

/-- A path sets out from a directory. -/
theorem dir_of_setOut {c : Location} {rest : List String} (h : t.setOut cur parts = some (c, rest)) :
    t.kind c = some .dir :=
  setOut_induction (motive := fun _ _ => t.kind c = some .dir) h id fun _ _ _ ih => ih

/-- A located path sets out at a directory. -/
theorem locate_eq_ok :
    t.locate follow p = .ok l ↔
      ∃ cur parts, t.setOut (t.origin p) p.parts = some (cur, parts) ∧ t.kind cur = some .dir ∧
        t.walk follow 40 cur parts = .ok l := by
  unfold locate
  rcases hout : t.setOut (t.origin p) p.parts with _ | ⟨cur, parts⟩
  · simp
  · simp only [Option.some.injEq, Prod.mk.injEq]
    constructor
    · intro h
      exact ⟨cur, parts, ⟨rfl, rfl⟩, dir_of_setOut hout, h⟩
    · rintro ⟨_, _, ⟨rfl, rfl⟩, -, h⟩
      exact h

/-- **What comes before the first directory is `..` only**, and leads above the start. -/
theorem setOut_spec {c : Location} {rest : List String} (h : t.setOut cur parts = some (c, rest)) :
    ∃ ups, parts = ups ++ rest ∧ (∀ n ∈ ups, n = "..") ∧ c <+: cur := by
  refine setOut_induction
    (motive := fun cur parts => ∃ ups, parts = ups ++ rest ∧ (∀ n ∈ ups, n = "..") ∧ c <+: cur) h ?_ ?_
  · intro _
    exact ⟨[], rfl, by simp, List.prefix_refl _⟩
  · rintro cur names - ⟨ups, rfl, hups, hpre⟩
    refine ⟨".." :: ups, rfl, ?_, hpre.trans (List.dropLast_prefix cur)⟩
    rw [List.forall_mem_cons]
    exact ⟨rfl, hups⟩

/-- **The way before the first directory is walked in any tree.** -/
theorem walk_setOut {c : Location} {rest : List String} (t' : Tree)
    (h : t.setOut cur parts = some (c, rest)) :
    t'.walk follow links cur parts = t'.walk follow links c rest := by
  refine setOut_induction
    (motive := fun cur parts => t'.walk follow links cur parts = t'.walk follow links c rest) h (fun _ => rfl) ?_
  intro cur names _ ih
  rw [← ih]
  cases links with
  | zero => rw [walk, walk, advance_cons, if_pos rfl]
  | succ links => rw [walk, walk, advance_cons, if_pos rfl]

/-- More components come after those from the first directory. -/
theorem setOut_append {c : Location} {rest : List String} (more : List String)
    (h : t.setOut cur parts = some (c, rest)) :
    t.setOut cur (parts ++ more) = some (c, rest ++ more) := by
  refine setOut_induction
    (motive := fun cur parts => t.setOut cur (parts ++ more) = some (c, rest ++ more)) h (setOut_dir _) ?_
  intro cur names hcur ih
  rw [List.cons_append, setOut_gone hcur, if_pos rfl]
  exact ih

/-- Before a name a path has come to a directory. -/
theorem setOut_concat {c : Location} {rest : List String} (hn : n ≠ "..")
    (h : t.setOut cur (parts ++ [n]) = some (c, rest)) :
    ∃ before, rest = before ++ [n] ∧ t.setOut cur parts = some (c, before) := by
  induction parts generalizing cur with
  | nil =>
      by_cases hcur : t.kind cur = some .dir
      · rw [setOut_dir _ hcur] at h
        cases h
        exact ⟨[], rfl, setOut_dir _ hcur⟩
      · rw [List.nil_append, setOut_gone hcur, if_neg hn] at h
        cases h
  | cons name names ih =>
      by_cases hcur : t.kind cur = some .dir
      · rw [setOut_dir _ hcur] at h
        cases h
        exact ⟨name :: names, rfl, setOut_dir _ hcur⟩
      · rw [List.cons_append, setOut_gone hcur] at h
        rw [setOut_gone hcur]
        split_ifs at h ⊢
        exact ih h

/-- One more component leads on from no directory that is gone, unless all are `..`. -/
theorem setOut_none_concat (hname : (∀ m ∈ parts, m = "..") → n ≠ "..")
    (h : t.setOut cur parts = none) : t.setOut cur (parts ++ [n]) = none := by
  induction parts generalizing cur with
  | nil =>
      have hcur : t.kind cur ≠ some .dir := by
        intro hcur
        rw [setOut_dir _ hcur] at h
        cases h
      rw [List.nil_append, setOut_gone hcur, if_neg (hname (by simp))]
  | cons name rest ih =>
      by_cases hcur : t.kind cur = some .dir
      · rw [setOut_dir _ hcur] at h
        cases h
      · rw [setOut_gone hcur] at h
        rw [List.cons_append, setOut_gone hcur]
        split_ifs at h ⊢ with hdot
        · refine ih (fun hrest => hname ?_) h
          rw [List.forall_mem_cons]
          exact ⟨hdot, hrest⟩
        · rfl

/-- In a tree the way sets out when it does in what is left of it. -/
theorem setOut_mono {c : Location} {rest : List String} (hleft : LeftOf t' t)
    (h : t'.setOut cur parts = some (c, rest)) : (t.setOut cur parts).isSome := by
  refine setOut_induction (motive := fun cur parts => (t.setOut cur parts).isSome) h ?_ ?_
  · intro hdir
    rw [setOut_dir _ (hleft.kind _ _ hdir)]
    rfl
  · intro cur names _ ih
    by_cases hcur : t.kind cur = some .dir
    · rw [setOut_dir _ hcur]
      rfl
    · rw [setOut_gone hcur, if_pos rfl]
      exact ih

/-! ### Locating a path -/

/-- **What is located exists**, and is no link when links are followed. -/
theorem locate_alive (h : t.locate follow p = .ok l) :
    ∃ k, t.kind l = some k ∧ (follow = true → ∀ target, k ≠ .symlink target) := by
  obtain ⟨cur, parts, -, hcur, hwalk⟩ := locate_eq_ok.mp h
  exact walk_alive hcur hwalk

/-- **A path that resolves in what is left of a tree resolves to the same place in the tree.** -/
theorem locate_mono (hleft : LeftOf t' t) (h : t'.locate follow p = .ok l) :
    t.locate follow p = .ok l := by
  obtain ⟨cur, parts, hout, -, hwalk⟩ := locate_eq_ok.mp h
  have horigin : t'.origin p = t.origin p := by
    unfold origin
    rw [hleft.cwd]
  rw [horigin] at hout
  obtain ⟨⟨c, rest⟩, hout'⟩ := Option.isSome_iff_exists.mp (setOut_mono hleft hout)
  refine locate_eq_ok.mpr ⟨c, rest, hout', dir_of_setOut hout', ?_⟩
  rw [← walk_setOut t hout', walk_setOut t hout]
  exact walk_mono hleft hwalk

/-- **Following the last link changes nothing where there is none.** -/
theorem locate_followed (h : t.locate false p = .ok l)
    (hno : ∀ target, t.kind l ≠ some (.symlink target)) : t.locate true p = .ok l := by
  obtain ⟨cur, parts, hout, hcur, hwalk⟩ := locate_eq_ok.mp h
  exact locate_eq_ok.mpr ⟨cur, parts, hout, hcur, walk_followed hwalk hno⟩

/-- A path and names after it are walked from where the path sets out. -/
theorem locate_under_eq {names : List String} (hout : t.setOut (t.origin p) p.parts = some (cur, parts)) :
    t.locate follow (p.under names) = t.walk follow 40 cur (parts ++ names) := by
  have hunder : t.setOut (t.origin (p.under names)) (p.under names).parts = some (cur, parts ++ names) :=
    setOut_append names hout
  unfold locate
  rw [hunder]

/-- **A name in a directory is located by the directory's path and the name.** -/
theorem locate_child (h : t.locate true p = .ok d) (hd : t.kind d = some .dir) (hn : n ≠ "..")
    (hlink : follow = true → ∀ target, t.kind (d ++ [n]) ≠ some (.symlink target)) :
    t.locate follow (p.child n) =
      if t.kind (d ++ [n]) = none then .error .noEntry else .ok (d ++ [n]) := by
  obtain ⟨cur, parts, hout, -, hwalk⟩ := locate_eq_ok.mp h
  rw [show t.locate follow (p.child n) = _ from locate_under_eq hout]
  exact walk_child hwalk hd hn hlink

/-- A name in a directory that is no link. -/
theorem locate_name (follow : Bool) (h : t.locate true p = .ok d) (hd : t.kind d = some .dir)
    (hn : n ≠ "..") (hlink : ∀ target, t.kind (d ++ [n]) ≠ some (.symlink target)) :
    t.locate follow (p.child n) =
      if t.kind (d ++ [n]) = none then .error .noEntry else .ok (d ++ [n]) :=
  locate_child h hd hn fun _ => hlink

/-- **Names below a directory where there are no links locate what is there.** -/
theorem locate_under (follow : Bool) {names : List String} (h : t.locate true p = .ok d)
    (hd : t.kind d = some .dir) (hne : names ≠ []) (hnames : ∀ n ∈ names, n ≠ "..")
    (hplain : ∀ before, before <+: names → ∀ target, t.kind (d ++ before) ≠ some (.symlink target)) :
    (t.kind (d ++ names) ≠ none → t.locate follow (p.under names) = .ok (d ++ names)) ∧
      (t.kind (d ++ names) = none → ∃ error, t.locate follow (p.under names) = .error error) := by
  obtain ⟨cur, parts, hout, -, hwalk⟩ := locate_eq_ok.mp h
  obtain ⟨harrived, hfailed⟩ := walk_append follow hwalk hd hne
  obtain ⟨hthere, hgone⟩ := advance_plain follow hnames hplain
  rw [locate_under_eq hout]
  refine ⟨fun hsome => harrived _ (hthere hsome), fun hnone => ?_⟩
  obtain ⟨error, herror⟩ := hgone hnone hd
  exact ⟨error, hfailed _ herror⟩

/-- **What is located by a name is in the directory the path before it leads to.** -/
theorem locate_parent (hn : n ≠ "..") (h : t.locate false (p.child n) = .ok l) :
    ∃ d, t.locate true p = .ok d ∧ t.kind d = some .dir ∧ l = d ++ [n] := by
  obtain ⟨cur, all, hout, hcur, hwalk⟩ := locate_eq_ok.mp h
  obtain ⟨parts, rfl, hout'⟩ := setOut_concat hn hout
  obtain ⟨d, hd, hdir, hl⟩ := walk_parent hcur hn hwalk
  exact ⟨d, locate_eq_ok.mpr ⟨cur, parts, hout', hcur, hd⟩, hdir, hl⟩

/-- The path before what is located leads to a directory, or ends at one that is gone. -/
theorem locate_before_or_gone (h : t.locate follow (p.child n) = .ok l) :
    (∃ d, t.locate true p = .ok d ∧ t.kind d = some .dir) ∨ (n = ".." ∧ t.gone p = true) := by
  obtain ⟨cur, all, hout, hcur, hwalk⟩ := locate_eq_ok.mp h
  rcases hset : t.setOut (t.origin p) p.parts with _ | ⟨c, parts⟩
  · right
    have hout' : t.setOut (t.origin p) (p.parts ++ [n]) = some (cur, all) := hout
    obtain ⟨hups, hdot⟩ : (∀ m ∈ p.parts, m = "..") ∧ n = ".." := by
      by_contra hname
      rw [not_and] at hname
      rw [setOut_none_concat hname hset] at hout'
      cases hout'
    exact ⟨hdot, decide_eq_true ⟨by rw [hset]; rfl, hups⟩⟩
  · left
    have hout' : t.setOut (t.origin (p.child n)) (p.child n).parts = some (c, parts ++ [n]) :=
      setOut_append [n] hset
    rw [hout] at hout'
    cases hout'
    obtain ⟨d, hd, hdir⟩ := walk_before hcur hwalk
    exact ⟨d, locate_eq_ok.mpr ⟨cur, parts, hset, hcur, hd⟩, hdir⟩

/-- The path before a name that is located leads to a directory. -/
theorem locate_before (hn : n ≠ "..") (h : t.locate follow (p.child n) = .ok l) :
    ∃ d, t.locate true p = .ok d ∧ t.kind d = some .dir :=
  (locate_before_or_gone h).resolve_right fun hgone => hn hgone.1

/-- **A path that ends in `..` is located at the parent of a directory**, or above a working directory that
is gone. -/
theorem locate_dotdot (hlast : p.parts.getLast? = some "..") (h : t.locate follow p = .ok l) :
    (∃ c, t.kind c = some .dir ∧ l = c.dropLast) ∨
      (p.absolute = false ∧ t.kind t.cwd ≠ some .dir ∧ l <+: t.cwd ∧ ∀ n ∈ p.parts, n = "..") := by
  obtain ⟨cur, parts, hout, hcur, hwalk⟩ := locate_eq_ok.mp h
  obtain ⟨ups, hparts, hups, habove⟩ := setOut_spec hout
  rcases List.eq_nil_or_concat parts with rfl | ⟨init, last, rfl⟩
  · right
    cases hwalk
    rw [List.append_nil] at hparts
    have hgone : t.kind (t.origin p) ≠ some .dir := by
      intro hdir
      rw [setOut_dir _ hdir] at hout
      simp only [Option.some.injEq, Prod.mk.injEq] at hout
      rw [hout.2] at hlast
      cases hlast
    unfold origin at habove hgone
    cases habs : p.absolute with
    | true =>
        rw [habs] at hgone
        exact absurd (kind_nil t) hgone
    | false =>
        rw [habs] at habove hgone
        exact ⟨rfl, hgone, habove, hparts ▸ hups⟩
  · left
    refine walk_dotdot hcur ?_ hwalk
    rw [hparts, List.getLast?_append] at hlast
    simpa using hlast

/-- A path without components is located where it starts. -/
theorem locate_of_no_parts (hparts : p.parts = []) (h : t.locate follow p = .ok l) :
    l = if p.absolute then [] else t.cwd := by
  obtain ⟨cur, parts, hout, -, hwalk⟩ := locate_eq_ok.mp h
  rw [hparts] at hout
  have hdir : t.kind (t.origin p) = some .dir := by
    by_contra hdir
    rw [show t.setOut (t.origin p) [] = none from if_neg hdir] at hout
    cases hout
  rw [setOut_dir _ hdir] at hout
  cases hout
  cases hwalk
  rfl

end walks

/-! ### What a program asks of a tree -/

/-- `p.exists()`. -/
def pathExists (t : Tree) (p : RawPath) : Bool :=
  match t.locate true p with
  | .ok _ => true
  | .error _ => false

/-- `p.is_dir()`. -/
def isDir (t : Tree) (p : RawPath) : Bool :=
  match t.locate true p with
  | .ok l => t.kind l = some .dir
  | .error _ => false

/-- `p.is_file()`. -/
def isFile (t : Tree) (p : RawPath) : Bool :=
  match t.locate true p with
  | .ok l => t.kind l = some .file
  | .error _ => false

theorem isDir_iff {p : RawPath} :
    t.isDir p = true ↔ ∃ l, t.locate true p = .ok l ∧ t.kind l = some .dir := by
  unfold isDir
  cases t.locate true p with
  | ok l => simp
  | error e => simp

/-- What is there without following the last link, and no link, is a directory exactly when the
path is one. -/
theorem isDir_iff_of_locate {p : RawPath} (h : t.locate false p = .ok l)
    (hno : ∀ target, t.kind l ≠ some (.symlink target)) :
    t.isDir p = true ↔ t.kind l = some .dir := by
  rw [isDir_iff, locate_followed h hno]
  simp

/-- `p.exists()`, where a directory that is gone is still open. -/
def present (t : Tree) (p : RawPath) : Bool := t.pathExists p || t.gone p

/-- `p.is_dir()`, where a directory that is gone is still open. -/
def presentDir (t : Tree) (p : RawPath) : Bool := t.isDir p || t.gone p

theorem presentDir_of_isDir {p : RawPath} (h : t.isDir p = true) : t.presentDir p = true := by
  unfold presentDir
  rw [h, Bool.true_or]

/-- What is located is not gone. -/
theorem gone_of_located {p : RawPath} {follow : Bool} (h : t.locate follow p = .ok l) :
    t.gone p = false := by
  obtain ⟨cur, parts, hout, -, -⟩ := locate_eq_ok.mp h
  unfold gone
  simp [hout]

/-- What a path leads to when it ends at a directory that is gone. -/
theorem locate_of_gone {p : RawPath} (follow : Bool) (h : t.gone p = true) :
    t.locate follow p = .error .noEntry := by
  unfold gone at h
  obtain ⟨hnone, -⟩ := of_decide_eq_true h
  unfold locate
  rw [Option.isNone_iff_eq_none.mp hnone]

/-- A path that ends in a name does not end at a directory that is gone. -/
theorem gone_child (p : RawPath) (hn : n ≠ "..") : t.gone (p.child n) = false := by
  unfold gone RawPath.child
  simp [hn]

/-- `p.iterdir()`. -/
def iterdir (t : Tree) (p : RawPath) : List RawPath :=
  match t.locate true p with
  | .ok l => (t.children l).map p.child
  | .error _ => []

/-! ### Removing by path -/

/-- Why a removal stopped: the kernel refused, or `rmtree` was asked to remove a link. -/
inductive Refusal where
  | os (error : Errno)
  | onLink
  deriving DecidableEq

/-- What a removal left, what it removed, and why it stopped, if it did. -/
structure Removal where
  tree : Tree
  removed : List Location
  refusal : Option Refusal

/-- `os.unlink`. -/
def unlink (t : Tree) (p : RawPath) : Removal :=
  match t.locate false p with
  | .error error => ⟨t, [], some (.os error)⟩
  | .ok l =>
      if t.kind l = some .dir then ⟨t, [], some (.os .isDirectory)⟩ else ⟨t.prune l, [l], none⟩

/-- `os.rmdir`. The last component has to be a name. -/
def rmdir (t : Tree) (p : RawPath) : Removal :=
  match p.parts.getLast? with
  | none => ⟨t, [], some (.os (if p.absolute then .busy else .invalid))⟩
  | some last =>
      if last = ".." then
        match t.locate true ⟨p.absolute, p.parts.dropLast⟩ with
        | .error error =>
            ⟨t, [], some (.os (if t.gone ⟨p.absolute, p.parts.dropLast⟩ then .notEmpty else error))⟩
        | .ok _ => ⟨t, [], some (.os .notEmpty)⟩
      else
        match t.locate false p with
        | .error error => ⟨t, [], some (.os error)⟩
        | .ok l =>
            if t.kind l = some .dir then
              if t.below l = [] then ⟨t.prune l, [l], none⟩ else ⟨t, [], some (.os .notEmpty)⟩
            else ⟨t, [], some (.os .notDirectory)⟩

/-- `shutil.rmtree`: the contents first, then the directory by its path. A link is refused. A directory
that is gone has no contents left. -/
def rmtree (t : Tree) (p : RawPath) : Removal :=
  match t.locate false p with
  | .error error => if t.gone p then t.rmdir p else ⟨t, [], some (.os error)⟩
  | .ok l =>
      match t.kind l with
      | some .dir =>
          let last := (t.clear l).rmdir p
          ⟨last.tree, t.below l ++ last.removed, last.refusal⟩
      | some (.symlink _) => ⟨t, [], some .onLink⟩
      | _ => ⟨t, [], some (.os .notDirectory)⟩

/-- The path names the directory at `l` by a name, so that it can be removed once it is empty. -/
def Names (t : Tree) (p : RawPath) (l : Location) : Prop :=
  p.parts ≠ [] ∧ p.parts.getLast? ≠ some ".." ∧ t.locate false p = .ok l

/-- **What removing a directory by path does**: it removes the empty directory the path names, or
nothing. -/
theorem rmdir_cases (t : Tree) (p : RawPath) :
    (∃ l, t.Names p l ∧ t.kind l = some .dir ∧ t.below l = [] ∧
        t.rmdir p = ⟨t.prune l, [l], none⟩) ∨
      ∃ refusal, t.rmdir p = ⟨t, [], some refusal⟩ ∧
        ∀ l, t.Names p l → t.kind l = some .dir → t.below l ≠ [] := by
  unfold rmdir Names
  cases hlast : p.parts.getLast? with
  | none =>
      have hparts : p.parts = [] := List.getLast?_eq_none_iff.mp hlast
      exact Or.inr ⟨_, rfl, fun l hn => absurd hparts hn.1⟩
  | some last =>
      have hne : p.parts ≠ [] := by
        intro hparts
        simp [hparts] at hlast
      by_cases hdot : last = ".."
      · right
        subst hdot
        dsimp only
        rw [if_pos rfl]
        cases t.locate true ⟨p.absolute, p.parts.dropLast⟩ with
        | error error => exact ⟨_, rfl, fun l hn => absurd rfl hn.2.1⟩
        | ok l => exact ⟨_, rfl, fun l hn => absurd rfl hn.2.1⟩
      · dsimp only
        rw [if_neg hdot]
        cases hloc : t.locate false p with
        | error error => exact Or.inr ⟨_, rfl, by simp⟩
        | ok l =>
            dsimp only
            by_cases hdir : t.kind l = some .dir
            · rw [if_pos hdir]
              by_cases hempty : t.below l = []
              · rw [if_pos hempty]
                exact Or.inl ⟨l, ⟨hne, by simpa using hdot, rfl⟩, hdir, hempty, rfl⟩
              · rw [if_neg hempty]
                refine Or.inr ⟨_, rfl, ?_⟩
                rintro l' ⟨-, -, hl'⟩ -
                cases hl'
                exact hempty
            · rw [if_neg hdir]
              refine Or.inr ⟨_, rfl, ?_⟩
              rintro l' ⟨-, -, hl'⟩ hdir'
              cases hl'
              exact absurd hdir' hdir

/-- A cleared directory is empty. -/
theorem below_clear (t : Tree) (d : Location) : (t.clear d).below d = [] := by
  rw [List.eq_nil_iff_forall_not_mem]
  intro l hl
  obtain ⟨hsome, hin⟩ := mem_below.mp hl
  simp [kind_clear, if_pos hin] at hsome

/-- A cleared directory is still there. -/
theorem kind_clear_self (t : Tree) (d : Location) : (t.clear d).kind d = t.kind d := by
  rw [kind_clear, if_neg]
  exact fun hin => hin.2 rfl

/-- **A directory that is gone is not removed again.** -/
theorem rmtree_gone {p : RawPath} (h : t.gone p = true) :
    ∃ refusal, t.rmtree p = ⟨t, [], some refusal⟩ := by
  have hnowhere := locate_of_gone false h
  have hrm : t.rmtree p = t.rmdir p := by
    unfold rmtree
    rw [hnowhere]
    exact if_pos h
  rcases rmdir_cases t p with ⟨l, ⟨-, -, hplace⟩, -⟩ | ⟨refusal, hcase, -⟩
  · rw [hnowhere] at hplace
    cases hplace
  · exact ⟨refusal, hrm.trans hcase⟩

/-- Where a path leads nowhere nothing is removed. -/
theorem rmtree_error {p : RawPath} {error : Errno} (h : t.locate false p = .error error) :
    ∃ refusal, t.rmtree p = ⟨t, [], some refusal⟩ := by
  cases hgone : t.gone p with
  | true => exact rmtree_gone hgone
  | false =>
      unfold rmtree
      rw [h]
      exact ⟨_, if_neg (by simp [hgone])⟩

/-- **What removing a tree by path does to a directory**: everything inside goes; the directory
itself goes when the path still names it then. -/
theorem rmtree_cases {p : RawPath} (hloc : t.locate false p = .ok l) (hdir : t.kind l = some .dir) :
    ((t.clear l).Names p l ∧ t.rmtree p = ⟨(t.clear l).prune l, t.below l ++ [l], none⟩) ∨
      (¬ (t.clear l).Names p l ∧ ∃ refusal, t.rmtree p = ⟨t.clear l, t.below l, some refusal⟩) := by
  have hrm : t.rmtree p = ⟨((t.clear l).rmdir p).tree, t.below l ++ ((t.clear l).rmdir p).removed,
      ((t.clear l).rmdir p).refusal⟩ := by
    unfold rmtree
    rw [hloc]
    dsimp only
    rw [hdir]
  rcases rmdir_cases (t.clear l) p with ⟨l', hnames, -, -, hcase⟩ | ⟨refusal, hcase, hnone⟩
  · have hsame := locate_mono (clear_leftOf t l) hnames.2.2
    rw [hloc] at hsame
    cases hsame
    rw [hrm, hcase]
    exact Or.inl ⟨hnames, rfl⟩
  · rw [hrm, hcase]
    refine Or.inr ⟨?_, refusal, by simp⟩
    intro hnames
    exact hnone l hnames ((kind_clear_self t l).trans hdir) (below_clear t l)

/-- A link is not removed as a tree. -/
theorem rmtree_symlink {p target : RawPath} (hloc : t.locate false p = .ok l)
    (hlink : t.kind l = some (.symlink target)) : t.rmtree p = ⟨t, [], some .onLink⟩ := by
  unfold rmtree
  rw [hloc]
  dsimp only
  rw [hlink]

/-- What is no directory is not removed as a tree. -/
theorem rmtree_of_not_dir {p : RawPath} (hloc : t.locate false p = .ok l) (hdir : t.kind l ≠ some .dir) :
    ∃ refusal, t.rmtree p = ⟨t, [], some refusal⟩ := by
  unfold rmtree
  rw [hloc]
  dsimp only
  cases hkind : t.kind l with
  | none => exact ⟨_, rfl⟩
  | some k =>
      cases k with
      | dir => exact absurd hkind hdir
      | file => exact ⟨_, rfl⟩
      | symlink target => exact ⟨_, rfl⟩

/-- **What removing a tree by path can change**: it removes what is at or below the place located. -/
theorem rmtree_changes (t : Tree) (p : RawPath) :
    (t.rmtree p).tree.cwd = t.cwd ∧
      ∀ m, (t.rmtree p).tree.kind m = t.kind m ∨
        (t.rmtree p).tree.kind m = none ∧ ∃ l, t.locate false p = .ok l ∧ l <+: m := by
  have hstays {q : Removal} (hq : t.rmtree p = q) (htree : q.tree = t) :
      (t.rmtree p).tree.cwd = t.cwd ∧ ∀ m, (t.rmtree p).tree.kind m = t.kind m ∨
        (t.rmtree p).tree.kind m = none ∧ ∃ l, t.locate false p = .ok l ∧ l <+: m := by
    rw [hq, htree]
    exact ⟨rfl, fun m => Or.inl rfl⟩
  cases hloc : t.locate false p with
  | error error =>
      obtain ⟨refusal, hcase⟩ := rmtree_error hloc
      rw [← hloc]
      exact hstays hcase rfl
  | ok l =>
      have hclear (m : Location) : (t.clear l).kind m = t.kind m ∨
          (t.clear l).kind m = none ∧ ∃ l', Except.ok l = (Except.ok l' : Except Errno _) ∧ l' <+: m := by
        rw [kind_clear]
        by_cases hin : Inside l m
        · exact Or.inr ⟨if_pos hin, l, rfl, hin.1⟩
        · exact Or.inl (if_neg hin)
      by_cases hdir : t.kind l = some .dir
      · rcases rmtree_cases hloc hdir with ⟨-, hcase⟩ | ⟨-, refusal, hcase⟩
        · rw [hcase]
          refine ⟨rfl, fun m => ?_⟩
          dsimp only
          rw [kind_prune]
          by_cases hgone : m ≠ [] ∧ l <+: m
          · exact Or.inr ⟨if_pos hgone, l, rfl, hgone.2⟩
          · rw [if_neg hgone]
            exact hclear m
        · rw [hcase]
          exact ⟨rfl, hclear⟩
      · obtain ⟨refusal, hcase⟩ := rmtree_of_not_dir hloc hdir
        rw [← hloc]
        exact hstays hcase rfl

/-- A directory reached by its own name is named by that path, once empty too. -/
theorem names_clear_of_empty {p : RawPath} (hloc : t.locate false p = .ok l)
    (hparts : p.parts ≠ []) (hlast : p.parts.getLast? ≠ some "..") (hempty : t.below l = []) :
    (t.clear l).Names p l := by
  refine ⟨hparts, hlast, locate_mono ?_ hloc⟩
  refine ⟨?_, rfl⟩
  intro m k hk
  rw [kind_clear, if_neg]
  · exact hk
  · intro hin
    have hmem : m ∈ t.below l := mem_below.mpr ⟨by rw [hk]; rfl, hin⟩
    simp [hempty] at hmem

end Tree

end Posix
