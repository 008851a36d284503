import Lmrs.Lib.Python

/-!
# Lines and decimal fields of a text

* **Lines** `splitLines`: `str.splitlines`, at every boundary the language knows.
* `splitLines_cons_line`: a line and its line feed are split off a text. `splitLines_append_line`: a text is
  divided after any line feed of it.
* `strip_field`: white space around a field is stripped. `rpartition_append`: a text is divided at its last
  separator.
* `splitOn_eq_iff`: the parts a text is split into are those it is made of.
* `intOfString_toDigits`, `intOfString_toString`: a number is read back from its decimal digits, and an integer
  from its text.
* `contains_append`: what a text holds after a part that holds no beginning of it.
-/

namespace Python

/-! ## Lines -/

/-- The characters that end a line for `str.splitlines`. -/
def lineBoundaries : List Char :=
  ['\n', '\r', Char.ofNat 0x0b, Char.ofNat 0x0c, Char.ofNat 0x1c, Char.ofNat 0x1d, Char.ofNat 0x1e,
   Char.ofNat 0x85, Char.ofNat 0x2028, Char.ofNat 0x2029]

/-- Put a character in front of the first line. -/
def extendLine (c : Char) : List (List Char) → List (List Char)
  | [] => [[c]]
  | line :: lines => (c :: line) :: lines

/-- `text.splitlines()`. -/
def splitLines : List Char → List (List Char)
  | [] => []
  | '\r' :: '\n' :: cs => [] :: splitLines cs
  | c :: cs => if c ∈ lineBoundaries then [] :: splitLines cs else extendLine c (splitLines cs)

example : splitLines "a\nb\r\n\nc".toList = ["a".toList, "b".toList, [], "c".toList] := by decide

/-- A character that ends no line is the first of the first line. -/
theorem splitLines_cons {c : Char} (hc : c ∉ lineBoundaries) (cs : List Char) :
    splitLines (c :: cs) = extendLine c (splitLines cs) := by
  rw [splitLines.eq_3]
  · rw [if_neg hc]
  · rintro cs' rfl
    exact absurd (by decide) hc

/-- **A line is split off a text**, with its line feed. -/
theorem splitLines_cons_line {line : List Char} (hline : ∀ c ∈ line, c ∉ lineBoundaries)
    (rest : List Char) : splitLines (line ++ '\n' :: rest) = line :: splitLines rest := by
  induction line with
  | nil =>
      rw [List.nil_append, splitLines.eq_3]
      · rw [if_pos (by decide)]
      · exact fun _ h => absurd h (by decide)
  | cons c line ih =>
      rw [List.forall_mem_cons] at hline
      rw [List.cons_append, splitLines_cons hline.1, ih hline.2, extendLine]

/-- A character is put in front of the first line, and the others stay. -/
theorem extendLine_append (c : Char) {lines : List (List Char)} (h : lines ≠ []) (rest : List (List Char)) :
    extendLine c (lines ++ rest) = extendLine c lines ++ rest := by
  cases lines with
  | nil => exact absurd rfl h
  | cons line lines => rfl

/-- A text with a character in it has a line. -/
theorem splitLines_ne_nil {cs : List Char} (h : cs ≠ []) : splitLines cs ≠ [] := by
  fun_cases splitLines cs with
  | case1 => exact absurd rfl h
  | case2 cs => exact List.cons_ne_nil _ _
  | case3 c cs hpair hc => exact List.cons_ne_nil _ _
  | case4 c cs hpair hc =>
      unfold extendLine
      split <;> exact List.cons_ne_nil _ _

/-- **A text is divided after a line feed**, whatever is before it. -/
theorem splitLines_append_line (line rest : List Char) :
    splitLines (line ++ '\n' :: rest) = splitLines (line ++ ['\n']) ++ splitLines rest := by
  fun_induction splitLines line with
  | case1 => exact splitLines_cons_line (by simp) rest
  | case2 line ih =>
      rw [List.cons_append, List.cons_append, List.cons_append, List.cons_append, splitLines, splitLines, ih]
      rfl
  | case3 c line hpair hc ih =>
      by_cases hreturn : c = '\r' ∧ line = []
      · obtain ⟨rfl, rfl⟩ := hreturn
        rfl
      · have hpair' (tail : List Char) : ∀ cs, c = '\r' → line ++ '\n' :: tail = '\n' :: cs → False := by
          intro cs hc' hline
          cases line with
          | nil => exact hreturn ⟨hc', rfl⟩
          | cons d line =>
              obtain rfl : d = '\n' := (List.cons.inj hline).1
              exact hpair line hc' rfl
        rw [List.cons_append, List.cons_append, splitLines.eq_3 _ _ (hpair' rest), if_pos hc,
          splitLines.eq_3 _ _ (hpair' []), if_pos hc, ih, List.cons_append]
  | case4 c line hpair hc ih =>
      rw [List.cons_append, List.cons_append, splitLines_cons hc, splitLines_cons hc, ih]
      exact extendLine_append c (splitLines_ne_nil (by simp)) _

/-! ## Fields -/

/-- White space around a field is stripped. -/
theorem strip_field {before field after : List Char} (hbefore : ∀ c ∈ before, isSpace c = true)
    (hfield : ∀ c ∈ field, isSpace c = false) (hafter : ∀ c ∈ after, isSpace c = true) :
    strip (before ++ field ++ after) = field := by
  have hdrop {cs rest : List Char} (hcs : ∀ c ∈ cs, isSpace c = true)
      (hrest : ∀ c ∈ rest, isSpace c = false) : (cs ++ rest).dropWhile isSpace = rest := by
    rw [List.dropWhile_append_of_pos hcs]
    cases rest with
    | nil => rfl
    | cons c rest => rw [List.dropWhile_cons_of_neg (by simp [hrest])]
  unfold strip
  cases field with
  | nil =>
      rw [List.append_nil, List.dropWhile_eq_nil_iff.mpr]
      · rfl
      · intro c hc
        have hmem := List.dropWhile_subset _ (List.mem_reverse.mp hc)
        exact (List.mem_append.mp hmem).elim (hbefore c) (hafter c)
  | cons d field =>
      have hd : isSpace d = false := hfield d (List.mem_cons_self ..)
      rw [List.append_assoc, List.dropWhile_append_of_pos hbefore, List.cons_append,
        List.dropWhile_cons_of_neg (by simp [hd]), ← List.cons_append, List.reverse_append,
        hdrop (fun c hc => hafter c (List.mem_reverse.mp hc))
          (fun c hc => hfield c (List.mem_reverse.mp hc)), List.reverse_reverse]

/-- A field without white space is what its stripping leaves. -/
theorem strip_of_no_space {field : List Char} (hfield : ∀ c ∈ field, isSpace c = false) :
    strip field = field := by
  have hnone : ∀ c ∈ ([] : List Char), isSpace c = true := by simp
  have h := strip_field hnone hfield hnone
  rwa [List.nil_append, List.append_nil] at h

/-- White space is stripped around a field that starts and ends with other characters. -/
theorem strip_between {before first middle last after : List Char} (hbefore : ∀ c ∈ before, isSpace c = true)
    (hfirst : first ≠ [] ∧ ∀ c ∈ first, isSpace c = false) (hlast : last ≠ [] ∧ ∀ c ∈ last, isSpace c = false)
    (hafter : ∀ c ∈ after, isSpace c = true) :
    strip (before ++ (first ++ middle ++ last) ++ after) = first ++ middle ++ last := by
  have hstop {field rest : List Char} (hfield : field ≠ [] ∧ ∀ c ∈ field, isSpace c = false) :
      (field ++ rest).dropWhile isSpace = field ++ rest := by
    obtain ⟨c, cs, rfl⟩ := List.exists_cons_of_ne_nil hfield.1
    rw [List.cons_append, List.dropWhile_cons_of_neg]
    simp [hfield.2 c (by simp)]
  have hreverse : (first ++ middle ++ last ++ after).reverse =
      after.reverse ++ (last.reverse ++ (middle.reverse ++ first.reverse)) := by
    simp
  have hlast' : last.reverse ≠ [] ∧ ∀ c ∈ last.reverse, isSpace c = false := by
    simpa using hlast
  unfold strip
  rw [List.append_assoc, List.dropWhile_append_of_pos hbefore]
  simp only [List.append_assoc] at hreverse ⊢
  rw [hstop hfirst, hreverse, List.dropWhile_append_of_pos (by simpa using hafter), hstop hlast']
  simp

/-- Stripping keeps what is between two characters that are no white space, and these. -/
theorem strip_around (before : List Char) {a b : Char} (ha : isSpace a = false) (hb : isSpace b = false)
    (middle after : List Char) :
    ∃ before' after', strip (before ++ a :: (middle ++ b :: after)) = before' ++ a :: (middle ++ b :: after') := by
  have hstop (d : Char) (hd : isSpace d = false) (cs rest : List Char) :
      ∃ cs', (cs ++ d :: rest).dropWhile isSpace = cs' ++ d :: rest := by
    induction cs with
    | nil => exact ⟨[], by rw [List.nil_append, List.dropWhile_cons_of_neg (by simp [hd])]⟩
    | cons c cs ih =>
        rw [List.cons_append, List.dropWhile_cons]
        split_ifs
        · exact ih
        · exact ⟨c :: cs, rfl⟩
  obtain ⟨before', hbefore⟩ := hstop a ha before (middle ++ b :: after)
  have hreverse : (before' ++ a :: (middle ++ b :: after)).reverse =
      after.reverse ++ b :: (middle.reverse ++ a :: before'.reverse) := by simp
  obtain ⟨after', hafter⟩ := hstop b hb after.reverse (middle.reverse ++ a :: before'.reverse)
  refine ⟨before', after'.reverse, ?_⟩
  unfold strip
  rw [hbefore, hreverse, hafter]
  simp

/-- `text.rpartition(sep)`, without the separator: what is before the last one, and what is after it. -/
def rpartition (sep : Char) (cs : List Char) : List Char × List Char :=
  ((cs.reverse.dropWhile fun c => c ≠ sep).tail.reverse, (cs.reverse.takeWhile fun c => c ≠ sep).reverse)

/-- The last separator is the one none follows. -/
theorem rpartition_append {sep : Char} {after : List Char} (h : sep ∉ after) (before : List Char) :
    rpartition sep (before ++ sep :: after) = (before, after) := by
  have hafter : ∀ c ∈ after.reverse, decide (c ≠ sep) = true := by
    intro c hc
    apply decide_eq_true
    rintro rfl
    exact h (List.mem_reverse.mp hc)
  have hreverse : (before ++ sep :: after).reverse = after.reverse ++ sep :: before.reverse := by simp
  unfold rpartition
  rw [hreverse, List.dropWhile_append_of_pos hafter, List.takeWhile_append_of_pos hafter]
  simp

/-- Without a separator there is nothing before it. -/
theorem rpartition_of_not_mem {sep : Char} {cs : List Char} (h : sep ∉ cs) : rpartition sep cs = ([], cs) := by
  have hall : ∀ c ∈ cs.reverse, decide (c ≠ sep) = true := by
    intro c hc
    apply decide_eq_true
    rintro rfl
    exact h (List.mem_reverse.mp hc)
  unfold rpartition
  rw [List.dropWhile_eq_nil_iff.mpr hall, List.takeWhile_eq_self_iff.mpr hall]
  simp

/-- What is before the last separator is of the text. -/
theorem rpartition_subset {sep : Char} {cs : List Char} : (rpartition sep cs).1 ⊆ cs := by
  intro c hc
  have hmem := List.mem_of_mem_tail (List.mem_reverse.mp hc)
  exact List.mem_reverse.mp (List.dropWhile_subset _ hmem)

/-! ## The parts between separators -/

/-- Splitting as the standard library splits. -/
theorem splitOn_eq (sep : Char) (cs : List Char) : splitOn sep cs = cs.splitOn sep := by
  induction cs with
  | nil => simp [splitOn]
  | cons c cs ih =>
      rw [List.splitOn_cons_eq_if_modifyHead, splitOn, ih]
      simp only [beq_iff_eq]
      split_ifs
      · rfl
      · cases hparts : cs.splitOn sep with
        | nil => exact absurd hparts (by simp)
        | cons part parts => rfl

/-- No part of a split holds the separator. -/
theorem not_mem_of_mem_splitOn {sep : Char} {cs part : List Char} (h : part ∈ splitOn sep cs) :
    sep ∉ part := by
  induction cs generalizing part with
  | nil => simp_all [splitOn]
  | cons c cs ih =>
      unfold splitOn at h
      split_ifs at h with hc
      · rcases List.mem_cons.mp h with rfl | hmem
        · simp
        · exact ih hmem
      · cases hparts : splitOn sep cs with
        | nil =>
            rw [hparts] at h
            obtain rfl := List.mem_singleton.mp h
            simpa using Ne.symm hc
        | cons first parts =>
            rw [hparts] at h ih
            rcases List.mem_cons.mp h with rfl | hmem
            · have hfirst := ih (List.mem_cons_self ..)
              simp [hfirst, Ne.symm hc]
            · exact ih (List.mem_cons_of_mem _ hmem)

/-- **When a text is split into given parts**: it is made of them, and none holds the separator. -/
theorem splitOn_eq_iff {sep : Char} {cs : List Char} {parts : List (List Char)} :
    splitOn sep cs = parts ↔ parts ≠ [] ∧ cs = [sep].intercalate parts ∧ ∀ part ∈ parts, sep ∉ part := by
  constructor
  · rintro rfl
    refine ⟨?_, ?_, fun part hpart => not_mem_of_mem_splitOn hpart⟩
    · rw [splitOn_eq]
      simp
    · rw [splitOn_eq, List.intercalate_splitOn]
  · rintro ⟨hne, rfl, hparts⟩
    rw [splitOn_eq, List.splitOn_intercalate sep hparts hne]

/-! ## Decimal digits -/

/-- What the reader of a literal knows about a decimal digit. -/
theorem digit_facts {c : Char} (h : c.isDigit = true) :
    decimalValue c = some (c.toNat - 48) ∧ isSpace c = false ∧ c ∉ lineBoundaries ∧
      c ≠ '-' ∧ c ≠ '+' ∧ c ≠ '_' ∧ c ≠ ',' := by
  have hall : ∀ k < 10, decimalValue (Char.ofNat (48 + k)) = some ((Char.ofNat (48 + k)).toNat - 48) ∧
      isSpace (Char.ofNat (48 + k)) = false ∧ Char.ofNat (48 + k) ∉ lineBoundaries ∧
      Char.ofNat (48 + k) ≠ '-' ∧ Char.ofNat (48 + k) ≠ '+' ∧ Char.ofNat (48 + k) ≠ '_' ∧
      Char.ofNat (48 + k) ≠ ',' := by decide
  simp only [Char.isDigit, Bool.and_eq_true, decide_eq_true_eq, ge_iff_le,
    UInt32.le_iff_toNat_le] at h
  have hlow : 48 ≤ c.toNat := h.1
  have hhigh : c.toNat ≤ 57 := h.2
  have hfacts := hall (c.toNat - 48) (by omega)
  rwa [Nat.add_sub_cancel' hlow, Char.ofNat_toNat] at hfacts

/-- The digits after the first are read one by one. -/
theorem digitTail_of_digits {cs : List Char} (h : ∀ c ∈ cs, c.isDigit = true) :
    digitTail cs = some (cs.map fun c => c.toNat - 48) := by
  induction cs with
  | nil => rfl
  | cons c cs ih =>
      rw [List.forall_mem_cons] at h
      obtain ⟨hvalue, -, -, -, -, hunderscore, -⟩ := digit_facts h.1
      rw [digitTail.eq_3, hvalue, ih h.2]
      · rfl
      · rintro c' cs' rfl rfl
        exact hunderscore rfl

/-- A literal of digits, after a minus sign or without one, is read as the number they denote, if there are not
too many of them. -/
theorem intOfString_of_digits {s : String} {negative : Bool} {cs : List Char} {ds : List Nat}
    (hstrip : strip s.toList = if negative then '-' :: cs else cs) (hminus : cs.head? ≠ some '-')
    (hplus : cs.head? ≠ some '+') (hdigits : digits cs = some ds) :
    intOfString s = if maxStrDigits < ds.length then
        .error (valueError "Exceeds the limit (4300 digits) for integer string conversion")
      else .ok (if negative then -(ofDigits ds : Int) else ofDigits ds) := by
  unfold intOfString
  rw [hstrip]
  cases negative with
  | true =>
      simp [hdigits]
  | false =>
      rw [if_neg (by decide)]
      dsimp only
      split
      · next hnone =>
          exfalso
          revert hnone
          split
          · exact absurd rfl hminus
          · exact absurd rfl hplus
          · rw [hdigits]
            exact fun h => Option.some_ne_none ds h
      · next ds' hsome =>
          revert hsome
          split
          · exact absurd rfl hminus
          · exact absurd rfl hplus
          · intro hsome
            rw [hdigits] at hsome
            cases hsome
            rfl

/-- Reading an integer off a text raises one class. -/
theorem intOfString_raises (s : String) : OnlyRaises "ValueError" (intOfString s) := by
  intro exc h
  unfold intOfString at h
  dsimp only at h
  split at h
  · cases h
    rfl
  · split_ifs at h
    cases h
    rfl

/-- The digits of a number denote it. -/
theorem digits_toDigits (n : Nat) :
    ∃ ds, digits (Nat.toDigits 10 n) = some ds ∧ ofDigits ds = n ∧ ds.length = (Nat.toDigits 10 n).length ∧
      (Nat.toDigits 10 n).head? ≠ some '-' ∧ (Nat.toDigits 10 n).head? ≠ some '+' := by
  have hdigits : ∀ c ∈ Nat.toDigits 10 n, c.isDigit = true :=
    fun c hc => Nat.isDigit_of_mem_toDigits (by decide) (by decide) hc
  have hvalue : ofDigits ((Nat.toDigits 10 n).map fun c => c.toNat - 48) = n := by
    rw [ofDigits, List.foldl_map]
    exact Nat.ofDigitChars_ten_toDigits
  have hhead {c : Char} (h : (Nat.toDigits 10 n).head? = some c) : c ≠ '-' ∧ c ≠ '+' := by
    obtain ⟨-, -, -, hminus, hplus, -⟩ := digit_facts (hdigits c (List.mem_of_mem_head? h))
    exact ⟨hminus, hplus⟩
  have hread : digits (Nat.toDigits 10 n) = some ((Nat.toDigits 10 n).map fun c => c.toNat - 48) := by
    cases htext : Nat.toDigits 10 n with
    | nil => exact absurd htext Nat.toDigits_ne_nil
    | cons d ds =>
        rw [htext, List.forall_mem_cons] at hdigits
        rw [digits, (digit_facts hdigits.1).1, digitTail_of_digits hdigits.2]
        rfl
  exact ⟨_, hread, hvalue, by simp, fun h => (hhead h).1 rfl, fun h => (hhead h).2 rfl⟩

/-- **A number is read back from its decimal digits**, up to the digits that are converted, with white
space around them or not. -/
theorem intOfString_toDigits {s : String} {n : Nat} (hs : strip s.toList = Nat.toDigits 10 n)
    (hn : (Nat.toDigits 10 n).length ≤ maxStrDigits) : intOfString s = .ok n := by
  obtain ⟨ds, hdigits, hvalue, hlength, hminus, hplus⟩ := digits_toDigits n
  have hunsigned : strip s.toList = if false = true then '-' :: Nat.toDigits 10 n else Nat.toDigits 10 n := hs
  rw [intOfString_of_digits hunsigned hminus hplus hdigits, if_neg (by omega), hvalue]
  rfl

/-! ## Parts of a text -/

/-- A text contains another that is a part of it. -/
theorem contains_iff {needle text : String} :
    contains needle text = true ↔ needle.toList <:+: text.toList := by
  unfold contains
  rw [List.any_eq_true]
  constructor
  · rintro ⟨rest, hrest, hprefix⟩
    exact (List.isPrefixOf_iff_prefix.mp hprefix).isInfix.trans ((List.mem_tails _ _).mp hrest).isInfix
  · rintro ⟨before, after, heq⟩
    refine ⟨needle.toList ++ after, (List.mem_tails _ _).mpr ⟨before, ?_⟩, ?_⟩
    · rw [← heq, List.append_assoc]
    · exact List.isPrefixOf_iff_prefix.mpr (List.prefix_append _ _)

/-- A part that starts with a character is not found where the character is not. -/
theorem infix_append_of_not_mem {c : Char} {needle before : List Char} (h : c ∉ before)
    (text : List Char) : c :: needle <:+: before ++ text ↔ c :: needle <:+: text := by
  induction before with
  | nil => rfl
  | cons b before ih =>
      rw [List.mem_cons, not_or] at h
      rw [List.cons_append, List.infix_cons_iff, ih h.2]
      apply or_iff_right
      intro hprefix
      exact h.1 (List.cons_prefix_cons.mp hprefix).1

/-- **What a text contains after a part without the first character of it.** -/
theorem contains_append {needle : String} {c : Char} {cs : List Char} (hneedle : needle.toList = c :: cs)
    {before : String} (h : c ∉ before.toList) (text : String) :
    contains needle (before ++ text) = contains needle text := by
  rw [Bool.eq_iff_iff, contains_iff, contains_iff, hneedle, String.toList_append]
  exact infix_append_of_not_mem h _

/-- The characters a number is written with. -/
theorem toList_toString_int (n : Int) : ∀ c ∈ (toString n).toList, c = '-' ∨ c.isDigit = true := by
  have hnat (k : Nat) : ∀ c ∈ (toString k).toList, c.isDigit = true := by
    intro c hc
    rw [Nat.toString_eq_repr, Nat.toList_repr] at hc
    exact Nat.isDigit_of_mem_toDigits (by decide) (by decide) hc
  intro c hc
  cases n with
  | ofNat k => exact Or.inr (hnat k c hc)
  | negSucc k =>
      have htext : (toString (Int.negSucc k)).toList = '-' :: (toString (k + 1)).toList := by
        show (Int.negSucc k).repr.toList = _
        rw [Int.repr, String.toList_append]
        rfl
      rw [htext] at hc
      rcases List.mem_cons.mp hc with h | h
      · exact Or.inl h
      · exact Or.inr (hnat _ c h)

/-! ## The text of an integer -/

/-- The number has no more digits than are converted. -/
def Convertible (n : Int) : Prop := (Nat.toDigits 10 n.natAbs).length ≤ maxStrDigits

instance (n : Int) : Decidable (Convertible n) := inferInstanceAs (Decidable (_ ≤ _))

/-- `str(n)`. -/
def strOfInt (n : Int) : Except PyException String :=
  if Convertible n then .ok (toString n)
  else .error (valueError "Exceeds the limit (4300 digits) for integer string conversion")

/-- Which numbers are converted: those below a power of ten. -/
theorem convertible_iff {n : Int} : Convertible n ↔ n.natAbs < 10 ^ maxStrDigits :=
  Nat.length_toDigits_le_iff (by decide) (by decide)

/-- The text of an integer: its digits, after a minus sign where it is negative. -/
theorem toList_toString (n : Int) :
    (toString n).toList = if n < 0 then '-' :: Nat.toDigits 10 n.natAbs else Nat.toDigits 10 n.natAbs := by
  cases n with
  | ofNat k =>
      rw [if_neg (by simp)]
      exact Nat.toList_repr
  | negSucc k =>
      rw [if_pos (Int.negSucc_lt_zero k), Int.toString_eq_repr, Int.repr, String.toList_append, Nat.toList_repr]
      rfl

/-- The characters of the text of an integer: no white space, no comma, and none that ends a line. -/
theorem toString_facts (n : Int) :
    ∀ c ∈ (toString n).toList, isSpace c = false ∧ c ∉ lineBoundaries ∧ c ≠ ',' := by
  intro c hc
  rcases toList_toString_int n c hc with rfl | hdigit
  · decide
  · obtain ⟨-, hspace, hline, -, -, -, hcomma⟩ := digit_facts hdigit
    exact ⟨hspace, hline, hcomma⟩

/-- **The text of an integer is read back**, if it is not too long to be converted. -/
theorem intOfString_toString {s : String} {n : Int} (hs : strip s.toList = (toString n).toList) :
    intOfString s = if Convertible n then .ok n
      else .error (valueError "Exceeds the limit (4300 digits) for integer string conversion") := by
  obtain ⟨ds, hdigits, hvalue, hlength, hminus, hplus⟩ := digits_toDigits n.natAbs
  have hstrip : strip s.toList =
      if decide (n < 0) = true then '-' :: Nat.toDigits 10 n.natAbs else Nat.toDigits 10 n.natAbs := by
    rw [hs, toList_toString]
    simp
  have hint : (if decide (n < 0) = true then -(ofDigits ds : Int) else ofDigits ds) = n := by
    rw [hvalue]
    split_ifs with hneg
    · have := of_decide_eq_true hneg
      omega
    · have := mt decide_eq_true hneg
      omega
  rw [intOfString_of_digits hstrip hminus hplus hdigits, hint, hlength]
  by_cases h : Convertible n
  · rw [if_pos h, if_neg (not_lt.mpr h)]
  · rw [if_neg h, if_pos (not_le.mp h)]

end Python
