import Lmrs.Lib.Nesting
import Lmrs.Lib.Python

/-!
# Writing JSON

`json.dumps(value, indent=2, sort_keys=True)` on a list of characters: ASCII only, two blanks a level,
the members of a mapping by key. How a finite float is spelled is a parameter, `FloatText`.

* `render_balanced`: the text of a value is balanced, whatever its strings hold.
* `dumps_beginning`: a beginning of the text of a mapping is balanced only when it is empty or the whole
  text.
-/

namespace Json

open Python Nesting

/-- The characters of a number. -/
def numberChars : List Char :=
  ['0', '1', '2', '3', '4', '5', '6', '7', '8', '9', '+', '-', '.', 'e', 'E']

/-- How floats are spelled: `float.__repr__` and `float(text)`. -/
structure FloatText where
  repr : ℚ → List Char
  parse : List Char → PyFloat
  repr_number : ∀ q, ∀ c ∈ repr q, c ∈ numberChars

/-- The characters of a number have no meaning between tokens. -/
theorem number_plain {c : Char} (h : c ∈ numberChars) : c ∉ structural := by
  have hall : ∀ c ∈ numberChars, c ∉ structural := by simp [numberChars, structural]
  exact hall c h

/-! ## Strings -/

/-- Four hexadecimal digits. -/
def hex4 (n : Nat) : List Char :=
  [(n / 4096 % 16).digitChar, (n / 256 % 16).digitChar, (n / 16 % 16).digitChar, (n % 16).digitChar]

/-- `\uXXXX`. -/
def escapeUnit (n : Nat) : List Char := '\\' :: 'u' :: hex4 n

/-- One character of a literal. Past the basic plane it is a pair of surrogates. -/
def escapeChar (c : Char) : List Char :=
  if c = '"' then ['\\', '"']
  else if c = '\\' then ['\\', '\\']
  else if c = '\n' then ['\\', 'n']
  else if c = '\r' then ['\\', 'r']
  else if c = '\t' then ['\\', 't']
  else if c = Char.ofNat 0x0c then ['\\', 'f']
  else if c = Char.ofNat 0x08 then ['\\', 'b']
  else if 0x20 ≤ c.toNat ∧ c.toNat ≤ 0x7e then [c]
  else if c.toNat < 0x10000 then escapeUnit c.toNat
  else
    escapeUnit (0xd800 + (c.toNat - 0x10000) / 1024) ++
      escapeUnit (0xdc00 + (c.toNat - 0x10000) % 1024)

/-- A string literal. -/
def quote (s : List Char) : List Char := '"' :: ((s.map escapeChar).flatten ++ ['"'])

/-- A hexadecimal digit ends no literal and starts no escape. -/
theorem digitChar_unescaped (n : Nat) :
    (n % 16).digitChar ≠ '"' ∧ (n % 16).digitChar ≠ '\\' := by
  have hall : ∀ k < 16, k.digitChar ≠ '"' ∧ k.digitChar ≠ '\\' := by decide
  exact hall (n % 16) (Nat.mod_lt n (by decide))

/-- An escape is put together from characters that stand for themselves and pairs of a backslash and a
character. -/
theorem escapeChar_rec {P : List Char → Prop} (hpair : ∀ c, P ['\\', c])
    (hself : ∀ c, c ≠ '"' → c ≠ '\\' → P [c])
    (happend : ∀ as bs, P as → P bs → P (as ++ bs)) (c : Char) : P (escapeChar c) := by
  have hunit (n : Nat) : P (escapeUnit n) := by
    have hdigit (k : Nat) : P [(k % 16).digitChar] :=
      hself _ (digitChar_unescaped k).1 (digitChar_unescaped k).2
    exact happend _ _ (hpair 'u') (happend _ _ (hdigit _) (happend _ _ (hdigit _)
      (happend _ _ (hdigit _) (hdigit _))))
  unfold escapeChar
  by_cases hquote : c = '"'
  · rw [if_pos hquote]
    exact hpair _
  rw [if_neg hquote]
  by_cases hback : c = '\\'
  · rw [if_pos hback]
    exact hpair _
  rw [if_neg hback]
  split_ifs
  · exact hpair _
  · exact hpair _
  · exact hpair _
  · exact hpair _
  · exact hpair _
  · exact hself c hquote hback
  · exact hunit _
  · exact happend _ _ (hunit _) (hunit _)

/-- However a character is escaped, the literal goes on after it. -/
theorem escapeChar_balanced (c : Char) : Balanced .literal (escapeChar c) :=
  escapeChar_rec Balanced.escaped (fun _ hquote hback => Balanced.unescaped hquote hback)
    (fun _ _ => Balanced.append) c

theorem quote_balanced (s : List Char) : Balanced .text (quote s) := by
  apply Balanced.quoted
  apply Balanced.flatten
  intro part hpart
  obtain ⟨c, -, rfl⟩ := List.mem_map.mp hpart
  exact escapeChar_balanced c

/-! ## Numbers -/

/-- `int.__repr__`. -/
def intText (n : Int) : List Char :=
  if n < 0 then '-' :: Nat.toDigits 10 n.natAbs else Nat.toDigits 10 n.natAbs

/-- The spelling of a float. -/
def floatText (F : FloatText) : PyFloat → List Char
  | .finite q => F.repr q
  | .nan => "NaN".toList
  | .posInf => "Infinity".toList
  | .negInf => "-Infinity".toList

/-- A decimal digit is a character of a number. -/
theorem digit_number {c : Char} (h : c.isDigit = true) : c ∈ numberChars := by
  simp only [Char.isDigit, Bool.and_eq_true, decide_eq_true_eq, ge_iff_le, UInt32.le_iff_toNat_le] at h
  have hall : ∀ k < 10, Char.ofNat (48 + k) ∈ numberChars := by decide
  have hlow : 48 ≤ c.toNat := h.1
  have hhigh : c.toNat ≤ 57 := h.2
  have hmem := hall (c.toNat - 48) (by omega)
  rwa [Nat.add_sub_cancel' hlow, Char.ofNat_toNat] at hmem

theorem intText_number (n : Int) : ∀ c ∈ intText n, c ∈ numberChars := by
  have hdigits (c : Char) (hc : c ∈ Nat.toDigits 10 n.natAbs) : c ∈ numberChars :=
    digit_number (Nat.isDigit_of_mem_toDigits (by decide) (by decide) hc)
  intro c hc
  unfold intText at hc
  split_ifs at hc
  · rcases List.mem_cons.mp hc with rfl | hmem
    · decide
    · exact hdigits c hmem
  · exact hdigits c hc

theorem floatText_balanced (F : FloatText) (x : PyFloat) : Balanced .text (floatText F x) := by
  apply Balanced.of_plain
  cases x with
  | finite q => exact fun c hc => number_plain (F.repr_number q c hc)
  | nan =>
      show ∀ c ∈ "NaN".toList, c ∉ structural
      simp [structural]
  | posInf =>
      show ∀ c ∈ "Infinity".toList, c ∉ structural
      simp [structural]
  | negInf =>
      show ∀ c ∈ "-Infinity".toList, c ∉ structural
      simp [structural]

/-! ## Values -/

/-- A line break and the indentation of a level. -/
def newline (level : Nat) : List Char := '\n' :: List.replicate (2 * level) ' '

/-- The parts of a container, one a line. -/
def layoutBody (level : Nat) (parts : List (List Char)) : List Char :=
  if parts = [] then []
  else
    newline (level + 1) ++ (parts.intersperse (',' :: newline (level + 1))).flatten ++ newline level

/-- The parts of a container between its brackets. -/
def layout (level : Nat) (o c : Char) (parts : List (List Char)) : List Char :=
  o :: (layoutBody level parts ++ [c])

/-- The members of a mapping, by key. -/
def memberTexts (members : List (String × List Char)) : List (List Char) :=
  (members.insertionSort fun a b => a.1 ≤ b.1).map fun kv => quote kv.1.toList ++ ": ".toList ++ kv.2

mutual

/-- The text of a value at an indentation level. -/
def render (F : FloatText) (level : Nat) : Value → List Char
  | .none => "null".toList
  | .bool b => if b then "true".toList else "false".toList
  | .int n => intText n
  | .float x => floatText F x
  | .str s => quote s.toList
  | .list items => layout level '[' ']' (renderItems F (level + 1) items)
  | .dict items => layout level '{' '}' (memberTexts (renderMembers F (level + 1) items))

/-- The texts of the items of a list. -/
def renderItems (F : FloatText) (level : Nat) : List Value → List (List Char)
  | [] => []
  | item :: items => render F level item :: renderItems F level items

/-- The members of a mapping with the texts of their values. -/
def renderMembers (F : FloatText) (level : Nat) : List (String × Value) → List (String × List Char)
  | [] => []
  | (key, value) :: members => (key, render F level value) :: renderMembers F level members

end

mutual

/-- Every integer of a value can be spelled. -/
def printable : Value → Bool
  | .int n => (Nat.toDigits 10 n.natAbs).length ≤ maxStrDigits
  | .list items => printableItems items
  | .dict items => printableMembers items
  | _ => true

/-- `printable`, over the items of a list. -/
def printableItems : List Value → Bool
  | [] => true
  | item :: items => printable item && printableItems items

/-- `printable`, over the members of a mapping. -/
def printableMembers : List (String × Value) → Bool
  | [] => true
  | (_, value) :: members => printable value && printableMembers members

end

/-- `json.dumps(value, indent=2, sort_keys=True)`. -/
def dumps (F : FloatText) (value : Value) : Except PyException (List Char) :=
  if printable value then .ok (render F 0 value)
  else .error (valueError "Exceeds the limit (4300 digits) for integer string conversion")

example : String.ofList (render ⟨fun _ => [], fun _ => .nan, by simp⟩ 0
    (.dict [("b", .list [.int (-12), .none]), ("a", .str "x\"\n")])) =
      "\x7b\n  \"a\": \"x\\\"\\n\",\n  \"b\": [\n    -12,\n    null\n  ]\n\x7d" := by decide

/-! ### The text is balanced -/

/-- A line break separates, and means nothing else. -/
theorem newline_plain (level : Nat) : ∀ c ∈ newline level, c ∉ structural := by
  intro c hc
  rcases List.mem_cons.mp hc with rfl | hblank
  · simp [structural]
  · rw [List.eq_of_mem_replicate hblank]
    simp [structural]

/-- What stands between separators is a separator or one of the parts. -/
theorem mem_intersperse {α : Type} {sep x : α} {xs : List α} (h : x ∈ xs.intersperse sep) :
    x = sep ∨ x ∈ xs := by
  induction xs with
  | nil => exact Or.inr h
  | cons y ys ih =>
      cases ys with
      | nil => exact Or.inr h
      | cons z zs =>
          rw [List.intersperse_cons_cons] at h
          rcases List.mem_cons.mp h with rfl | h
          · exact Or.inr (List.mem_cons_self ..)
          · rcases List.mem_cons.mp h with rfl | h
            · exact Or.inl rfl
            · exact (ih h).imp id (List.mem_cons_of_mem y)

theorem layoutBody_balanced (level : Nat) {parts : List (List Char)}
    (h : ∀ part ∈ parts, Balanced .text part) : Balanced .text (layoutBody level parts) := by
  have hline (k : Nat) : Balanced .text (newline k) := Balanced.of_plain (newline_plain k)
  have hsep : Balanced .text (',' :: newline (level + 1)) := by
    apply Balanced.of_plain
    intro c hc
    rcases List.mem_cons.mp hc with rfl | hmem
    · simp [structural]
    · exact newline_plain _ c hmem
  unfold layoutBody
  split_ifs
  · exact Balanced.nil
  · refine ((hline _).append (Balanced.flatten ?_)).append (hline _)
    intro part hpart
    rcases mem_intersperse hpart with rfl | hmem
    · exact hsep
    · exact h part hmem

theorem memberTexts_balanced {members : List (String × List Char)}
    (h : ∀ kv ∈ members, Balanced .text kv.2) : ∀ part ∈ memberTexts members, Balanced .text part := by
  intro part hpart
  obtain ⟨kv, hkv, rfl⟩ := List.mem_map.mp hpart
  have hcolon : Balanced .text ": ".toList := Balanced.of_plain (by simp [structural])
  exact ((quote_balanced _).append hcolon).append (h kv ((List.mem_insertionSort _).mp hkv))

mutual

/-- **The text of a value is balanced.** -/
theorem render_balanced (F : FloatText) (level : Nat) :
    ∀ value, Balanced .text (render F level value)
  | .none => by
      rw [render]
      exact Balanced.of_plain (by simp [structural])
  | .bool b => by
      rw [render]
      cases b with
      | true => exact Balanced.of_plain (by simp [structural])
      | false => exact Balanced.of_plain (by simp [structural])
  | .int n => by
      rw [render]
      exact Balanced.of_plain fun c hc => number_plain (intText_number n c hc)
  | .float x => by
      rw [render]
      exact floatText_balanced F x
  | .str s => by
      rw [render]
      exact quote_balanced _
  | .list items => by
      rw [render]
      exact Balanced.bracketed (Or.inr rfl) (Or.inr rfl)
        (layoutBody_balanced level (renderItems_balanced F (level + 1) items))
  | .dict items => by
      rw [render]
      exact Balanced.bracketed (Or.inl rfl) (Or.inl rfl)
        (layoutBody_balanced level (memberTexts_balanced (renderMembers_balanced F (level + 1) items)))

theorem renderItems_balanced (F : FloatText) (level : Nat) :
    ∀ items, ∀ part ∈ renderItems F level items, Balanced .text part
  | [] => by simp [renderItems]
  | item :: items => by
      rw [renderItems]
      intro part hpart
      rcases List.mem_cons.mp hpart with rfl | hmem
      · exact render_balanced F level item
      · exact renderItems_balanced F level items part hmem

theorem renderMembers_balanced (F : FloatText) (level : Nat) :
    ∀ members, ∀ kv ∈ renderMembers F level members, Balanced .text kv.2
  | [] => by simp [renderMembers]
  | (key, value) :: members => by
      rw [renderMembers]
      intro kv hkv
      rcases List.mem_cons.mp hkv with rfl | hmem
      · exact render_balanced F level value
      · exact renderMembers_balanced F level members kv hmem

end

/-- **A beginning of the text of a mapping** is balanced only when it is empty or the whole text. -/
theorem dumps_beginning {F : FloatText} {items : Dict Value} {text as : List Char}
    (h : dumps F (.dict items) = .ok text) (has : Balanced .text as) (hpre : as <+: text) :
    as = [] ∨ as = text := by
  unfold dumps at h
  split_ifs at h
  cases h
  rw [render] at hpre ⊢
  exact Balanced.eq_of_prefix_bracketed (Or.inl rfl)
    (layoutBody_balanced 0 (memberTexts_balanced (renderMembers_balanced F 1 items))) has hpre

end Json
