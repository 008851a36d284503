import Mathlib

/-!
# Brackets outside of string literals

A scan of a text counts the brackets that are open, and knows whether it is in a string literal, where
brackets do not count and a backslash hides the character after it.

* `Balanced`: the scan ends in the mode and at the depth it started with, and never falls below it.
* `Balanced.append`, `Balanced.flatten`, `Balanced.quoted`, `Balanced.bracketed`: how balanced texts are
  put together.
* `Balanced.eq_of_prefix_bracketed`: of the beginnings of a bracketed text only the empty one and the
  whole are balanced.
-/

namespace Nesting

/-- Where a scan stands: between tokens, in a string literal, after a backslash of one. -/
inductive Mode where
  | text | literal | escape
  deriving DecidableEq

/-- The brackets open so far, and where the scan stands. -/
structure Scan where
  depth : Nat
  mode : Mode
  deriving DecidableEq

/-- The characters with a meaning between tokens. -/
def structural : List Char := ['"', '{', '[', '}', ']']

/-- One character. -/
def Scan.step (s : Scan) (c : Char) : Scan :=
  match s.mode with
  | .text =>
      if c = '"' then ⟨s.depth, .literal⟩
      else if c = '{' ∨ c = '[' then ⟨s.depth + 1, .text⟩
      else if c = '}' ∨ c = ']' then ⟨s.depth - 1, .text⟩
      else s
  | .literal =>
      if c = '"' then ⟨s.depth, .text⟩
      else if c = '\\' then ⟨s.depth, .escape⟩
      else s
  | .escape => ⟨s.depth, .literal⟩

/-- A whole text. -/
def scan (s : Scan) (cs : List Char) : Scan := cs.foldl Scan.step s

@[simp] theorem scan_nil (s : Scan) : scan s [] = s := rfl

@[simp] theorem scan_cons (s : Scan) (c : Char) (cs : List Char) :
    scan s (c :: cs) = scan (s.step c) cs := rfl

theorem scan_append (s : Scan) (as bs : List Char) : scan s (as ++ bs) = scan (scan s as) bs :=
  List.foldl_append

/-- All along a text the depth is at least `d`. -/
def Above (d : Nat) : Scan → List Char → Prop
  | s, [] => d ≤ s.depth
  | s, c :: cs => d ≤ s.depth ∧ Above d (s.step c) cs

/-- The bound holds along two texts one after the other. -/
theorem Above.append {d : Nat} {s : Scan} {as bs : List Char} (has : Above d s as)
    (hbs : Above d (scan s as) bs) : Above d s (as ++ bs) := by
  induction as generalizing s with
  | nil => exact hbs
  | cons c as ih => exact ⟨has.1, ih has.2 hbs⟩

/-- A smaller bound holds as well. -/
theorem Above.mono {d d' : Nat} {s : Scan} {cs : List Char} (h : Above d s cs) (hle : d' ≤ d) :
    Above d' s cs := by
  induction cs generalizing s with
  | nil => exact hle.trans h
  | cons c cs ih => exact ⟨hle.trans h.1, ih h.2⟩

/-- The bound holds at the end of every beginning of the text. -/
theorem Above.depth_beginning {d : Nat} {s : Scan} {as cs : List Char} (h : Above d s cs)
    (hpre : as <+: cs) : d ≤ (scan s as).depth := by
  induction as generalizing s cs with
  | nil =>
      cases cs with
      | nil => exact h
      | cons c cs => exact h.1
  | cons a as ih =>
      obtain ⟨rest, rfl⟩ := hpre
      exact ih h.2 ⟨rest, rfl⟩

/-- A text the scan passes without an open end: it starts and ends in one mode and at one depth, and
does not fall below that depth. -/
structure Balanced (mode : Mode) (cs : List Char) : Prop where
  scan_eq : ∀ d, scan ⟨d, mode⟩ cs = ⟨d, mode⟩
  above : ∀ d, Above d ⟨d, mode⟩ cs

namespace Balanced

variable {mode : Mode} {as bs cs : List Char}

theorem nil : Balanced mode [] := ⟨fun _ => rfl, fun d => Nat.le_refl d⟩

theorem append (has : Balanced mode as) (hbs : Balanced mode bs) : Balanced mode (as ++ bs) where
  scan_eq d := by rw [scan_append, has.scan_eq, hbs.scan_eq]
  above d := (has.above d).append (by rw [has.scan_eq]; exact hbs.above d)

theorem flatten {parts : List (List Char)} (h : ∀ part ∈ parts, Balanced mode part) :
    Balanced mode parts.flatten := by
  induction parts with
  | nil => exact nil
  | cons part parts ih =>
      rw [List.flatten_cons]
      exact (h part (List.mem_cons_self ..)).append
        (ih fun p hp => h p (List.mem_cons_of_mem part hp))

/-- One character that leaves the scan as it is. -/
theorem singleton {c : Char} (h : ∀ d, Scan.step ⟨d, mode⟩ c = ⟨d, mode⟩) : Balanced mode [c] where
  scan_eq := h
  above d := ⟨Nat.le_refl d, by rw [h]; exact Nat.le_refl d⟩

/-- A text of characters that leave the scan as it is. -/
theorem of_forall (h : ∀ c ∈ cs, ∀ d, Scan.step ⟨d, mode⟩ c = ⟨d, mode⟩) : Balanced mode cs := by
  induction cs with
  | nil => exact nil
  | cons c cs ih =>
      rw [← List.singleton_append]
      exact (singleton (h c (List.mem_cons_self ..))).append
        (ih fun c' hc' => h c' (List.mem_cons_of_mem c hc'))

/-- A text without a quote or a bracket is balanced between tokens. -/
theorem of_plain (h : ∀ c ∈ cs, c ∉ structural) : Balanced .text cs := by
  apply of_forall
  intro c hc d
  have hplain := h c hc
  simp only [structural, List.mem_cons, List.not_mem_nil, or_false, not_or] at hplain
  obtain ⟨hquote, hbrace, hbracket, hbrace', hbracket'⟩ := hplain
  simp [Scan.step, hquote, hbrace, hbracket, hbrace', hbracket']

/-- A character that is no quote and no backslash is balanced in a literal. -/
theorem unescaped {c : Char} (hquote : c ≠ '"') (hback : c ≠ '\\') : Balanced .literal [c] := by
  apply singleton
  intro d
  simp [Scan.step, hquote, hback]

/-- A backslash and the character after it are balanced in a literal. -/
theorem escaped (c : Char) : Balanced .literal ['\\', c] :=
  ⟨fun _ => rfl, fun d => ⟨Nat.le_refl d, Nat.le_refl d, Nat.le_refl d⟩⟩

/-- A literal between its quotes. -/
theorem quoted (h : Balanced .literal cs) : Balanced .text ('"' :: (cs ++ ['"'])) where
  scan_eq d := by
    show scan ⟨d, .literal⟩ (cs ++ ['"']) = _
    rw [scan_append, h.scan_eq]
    rfl
  above d := by
    refine ⟨Nat.le_refl d, (h.above d).append ?_⟩
    rw [h.scan_eq]
    exact ⟨Nat.le_refl d, Nat.le_refl d⟩

/-- A text between brackets. -/
theorem bracketed {o c : Char} (ho : o = '{' ∨ o = '[') (hc : c = '}' ∨ c = ']')
    (h : Balanced .text cs) : Balanced .text (o :: (cs ++ [c])) := by
  have hopen (d : Nat) : Scan.step ⟨d, .text⟩ o = ⟨d + 1, .text⟩ := by
    rcases ho with rfl | rfl <;> rfl
  have hclose (d : Nat) : Scan.step ⟨d + 1, .text⟩ c = ⟨d, .text⟩ := by
    rcases hc with rfl | rfl <;> rfl
  constructor
  · intro d
    rw [scan_cons, hopen, scan_append, h.scan_eq, scan_cons, hclose, scan_nil]
  · intro d
    refine ⟨Nat.le_refl d, ?_⟩
    rw [hopen]
    refine ((h.above (d + 1)).mono (Nat.le_succ d)).append ?_
    rw [h.scan_eq]
    exact ⟨Nat.le_succ d, by rw [hclose]; exact Nat.le_refl d⟩

/-- **A bracketed text has no balanced beginning** but the empty one and the whole. -/
theorem eq_of_prefix_bracketed {o c : Char} (ho : o = '{' ∨ o = '[') (h : Balanced .text cs)
    (has : Balanced .text as) (hpre : as <+: o :: (cs ++ [c])) :
    as = [] ∨ as = o :: (cs ++ [c]) := by
  cases as with
  | nil => exact Or.inl rfl
  | cons a as =>
      right
      obtain ⟨rfl, htail⟩ := List.cons_prefix_cons.mp hpre
      rcases List.prefix_concat_iff.mp htail with rfl | hbody
      · rfl
      · -- The scan of a beginning without the closing bracket ends above depth zero.
        have hopen : Scan.step ⟨0, .text⟩ a = ⟨1, .text⟩ := by rcases ho with rfl | rfl <;> rfl
        have hdepth := (h.above 1).depth_beginning hbody
        have hzero := has.scan_eq 0
        rw [scan_cons, hopen] at hzero
        rw [hzero] at hdepth
        exact absurd hdepth (by decide)

end Balanced

end Nesting
