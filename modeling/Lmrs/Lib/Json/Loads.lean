import Lmrs.Lib.Json.Dumps

/-!
# Reading JSON

`json.loads(text)` on a list of characters. A recursion on a number that is large enough for every
text of a given length replaces the recursion on the text.

* `parser_reads`: what is read off the front of a text is balanced.
* `loads_fuel`: the number given is large enough.
* `loads_beginning`: of the beginnings of the text of a mapping none is read but the whole.

A lone surrogate is read as the replacement character, and there is no limit on the nesting.
-/

namespace Json

open Python Nesting

/-- Why nothing is read: the text is no JSON, or the recursion ended. -/
inductive ParseError where
  | invalid | fuel
  deriving DecidableEq

/-! ## Tokens -/

/-- The characters between tokens. -/
def isBlank (c : Char) : Bool := c = ' ' || c = '\t' || c = '\n' || c = '\r'

/-- The text after its leading blanks. -/
def skip (cs : List Char) : List Char := cs.dropWhile isBlank

/-- The words that are values. -/
def words : List (List Char × Value) :=
  [("null".toList, .none), ("true".toList, .bool true), ("false".toList, .bool false),
   ("NaN".toList, .float .nan), ("Infinity".toList, .float .posInf),
   ("-Infinity".toList, .float .negInf)]

/-- One word. -/
def parseWord (cs : List Char) (entry : List Char × Value) : Option (Value × List Char) :=
  if entry.1 <+: cs then some (entry.2, cs.drop entry.1.length) else none

/-- The digits a text starts with, and the rest. -/
def spanDigits (cs : List Char) : List Char × List Char :=
  (cs.takeWhile Char.isDigit, cs.dropWhile Char.isDigit)

/-- The sign of a number or of its exponent. -/
def spanSign (signs : List Char) : List Char → List Char × List Char
  | [] => ([], [])
  | c :: cs => if c ∈ signs then ([c], cs) else ([], c :: cs)

/-- The integer part of a number: no digit follows a leading zero. -/
def spanInteger : List Char → List Char × List Char
  | '0' :: cs => (['0'], cs)
  | cs => spanDigits cs

/-- A decimal point, when digits follow it, and these. -/
def spanFraction : List Char → List Char × List Char
  | '.' :: cs =>
      if (spanDigits cs).1 = [] then ([], '.' :: cs) else ('.' :: (spanDigits cs).1, (spanDigits cs).2)
  | cs => ([], cs)

/-- An exponent, when digits follow its letter and its sign, and these. -/
def spanExponent : List Char → List Char × List Char
  | [] => ([], [])
  | c :: cs =>
      let (sign, rest) := spanSign ['+', '-'] cs
      if (c = 'e' ∨ c = 'E') ∧ (spanDigits rest).1 ≠ [] then
        (c :: (sign ++ (spanDigits rest).1), (spanDigits rest).2)
      else ([], c :: cs)

/-- A number: an integer without a fraction and an exponent, else a float. -/
def parseNumber (F : FloatText) (cs : List Char) : Option (Value × List Char) :=
  let (sign, afterSign) := spanSign ['-'] cs
  let (digits, afterDigits) := spanInteger afterSign
  let (fraction, afterFraction) := spanFraction afterDigits
  let (exponent, rest) := spanExponent afterFraction
  if digits = [] then none
  else if fraction = [] ∧ exponent = [] then
    if maxStrDigits < digits.length then none
    else
      let magnitude : Int := ofDigits (digits.map fun c => c.toNat - 48)
      some (.int (if sign = [] then magnitude else -magnitude), rest)
  else some (.float (F.parse (sign ++ digits ++ fraction ++ exponent)), rest)

/-- The characters up to the closing quote of a literal, and what follows it. -/
def spanLiteral : List Char → Option (List Char × List Char)
  | [] => none
  | '"' :: cs => some ([], cs)
  | '\\' :: c :: cs => (spanLiteral cs).map fun (body, rest) => ('\\' :: c :: body, rest)
  | c :: cs => (spanLiteral cs).map fun (body, rest) => (c :: body, rest)

/-- The value of a hexadecimal digit. -/
def hexValue (c : Char) : Option Nat :=
  if '0' ≤ c ∧ c ≤ '9' then some (c.toNat - 48)
  else if 'a' ≤ c ∧ c ≤ 'f' then some (c.toNat - 87)
  else if 'A' ≤ c ∧ c ≤ 'F' then some (c.toNat - 55)
  else none

/-- The value of four hexadecimal digits. -/
def hexValue4 (a b c d : Char) : Option Nat := do
  return 4096 * (← hexValue a) + 256 * (← hexValue b) + 16 * (← hexValue c) + (← hexValue d)

/-- The character of a one-letter escape. -/
def escapeValue (c : Char) : Option Char :=
  [('"', '"'), ('\\', '\\'), ('/', '/'), ('b', Char.ofNat 0x08), ('f', Char.ofNat 0x0c), ('n', '\n'),
    ('r', '\r'), ('t', '\t')].lookup c

/-- The character of a code unit, when it is no surrogate. -/
def unitChar (n : Nat) : Char := if 0xd800 ≤ n ∧ n ≤ 0xdfff then Char.ofNat 0xfffd else Char.ofNat n

/-- The characters of a literal: no control characters, and only the escapes there are. -/
def decodeLiteral : List Char → Option (List Char)
  | [] => some []
  | '\\' :: 'u' :: a :: b :: c :: d :: '\\' :: 'u' :: a' :: b' :: c' :: d' :: cs => do
      let high ← hexValue4 a b c d
      match hexValue4 a' b' c' d' with
      | some low =>
          if (0xd800 ≤ high ∧ high ≤ 0xdbff) ∧ 0xdc00 ≤ low ∧ low ≤ 0xdfff then
            (decodeLiteral cs).map
              (Char.ofNat (0x10000 + 1024 * (high - 0xd800) + (low - 0xdc00)) :: ·)
          else
            (decodeLiteral ('\\' :: 'u' :: a' :: b' :: c' :: d' :: cs)).map (unitChar high :: ·)
      | none => none
  | '\\' :: 'u' :: a :: b :: c :: d :: cs => do
      let unit ← hexValue4 a b c d
      (decodeLiteral cs).map (unitChar unit :: ·)
  | '\\' :: c :: cs => do
      let char ← escapeValue c
      (decodeLiteral cs).map (char :: ·)
  | c :: cs => if c = '\\' ∨ c.toNat < 0x20 then none else (decodeLiteral cs).map (c :: ·)

/-- The rest of a literal, after its opening quote. -/
def parseLiteral (cs : List Char) : Except ParseError (String × List Char) :=
  match spanLiteral cs with
  | some (body, rest) =>
      match decodeLiteral body with
      | some chars => .ok (String.ofList chars, rest)
      | none => .error .invalid
  | none => .error .invalid

/-- A value that is no literal and no container. -/
def parseScalar (F : FloatText) (cs : List Char) : Except ParseError (Value × List Char) :=
  match (words.findSome? (parseWord cs)).or (parseNumber F cs) with
  | some parsed => .ok parsed
  | none => .error .invalid

/-! ### What a token takes -/

/-- A balanced text is read off the front. -/
def Reads (cs rest : List Char) : Prop := ∃ front, cs = front ++ rest ∧ Balanced .text front

theorem Reads.refl (cs : List Char) : Reads cs cs := ⟨[], rfl, Balanced.nil⟩

theorem Reads.trans {as bs cs : List Char} (h : Reads as bs) (h' : Reads bs cs) : Reads as cs := by
  obtain ⟨front, rfl, hfront⟩ := h
  obtain ⟨front', rfl, hfront'⟩ := h'
  exact ⟨front ++ front', (List.append_assoc ..).symm, hfront.append hfront'⟩

/-- A text without structure is read off the front. -/
theorem Reads.of_plain {front : List Char} (rest : List Char) (h : ∀ c ∈ front, c ∉ structural) :
    Reads (front ++ rest) rest := ⟨front, rfl, Balanced.of_plain h⟩

/-- A container is read off the front, when its inside is. -/
theorem Reads.bracketed {o c : Char} {cs rest : List Char} (ho : o = '{' ∨ o = '[')
    (hc : c = '}' ∨ c = ']') (h : Reads cs (c :: rest)) : Reads (o :: cs) rest := by
  obtain ⟨inside, rfl, hinside⟩ := h
  exact ⟨o :: (inside ++ [c]), by simp, hinside.bracketed ho hc⟩

/-- What is left is no longer than the text. -/
theorem Reads.length_le {cs rest : List Char} (h : Reads cs rest) : rest.length ≤ cs.length := by
  obtain ⟨front, rfl, -⟩ := h
  simp

theorem skip_reads (cs : List Char) : Reads cs (skip cs) := by
  have hsplit : cs.takeWhile isBlank ++ skip cs = cs := List.takeWhile_append_dropWhile
  have hplain : ∀ c ∈ cs.takeWhile isBlank, c ∉ structural := by
    intro c hc hmem
    have hblank := List.mem_takeWhile_imp hc
    have hnone : ∀ c ∈ structural, isBlank c = false := by simp [structural, isBlank]
    rw [hnone c hmem] at hblank
    cases hblank
  have hreads := Reads.of_plain (skip cs) hplain
  rwa [hsplit] at hreads

theorem words_plain : ∀ entry ∈ words, ∀ c ∈ entry.1, c ∉ structural := by
  simp [words, structural]

theorem parseWord_reads {cs rest : List Char} {value : Value}
    (h : words.findSome? (parseWord cs) = some (value, rest)) : Reads cs rest := by
  obtain ⟨entry, hentry, hword⟩ := List.exists_of_findSome?_eq_some h
  unfold parseWord at hword
  split_ifs at hword with hfront
  obtain ⟨tail, rfl⟩ := hfront
  rw [List.drop_left] at hword
  cases hword
  exact Reads.of_plain _ (words_plain entry hentry)

/-- Characters of a number at the front of a text, and the rest. -/
def Splits (cs : List Char) (parts : List Char × List Char) : Prop :=
  cs = parts.1 ++ parts.2 ∧ ∀ c ∈ parts.1, c ∈ numberChars

theorem Splits.none (cs : List Char) : Splits cs ([], cs) := ⟨rfl, by simp⟩

/-- One more character at the front. -/
theorem Splits.cons {c : Char} {cs : List Char} {parts : List Char × List Char}
    (hc : c ∈ numberChars) (h : Splits cs parts) : Splits (c :: cs) (c :: parts.1, parts.2) := by
  constructor
  · show c :: cs = c :: (parts.1 ++ parts.2)
    rw [← h.1]
  · intro c' hc'
    rcases List.mem_cons.mp hc' with rfl | hmem
    · exact hc
    · exact h.2 c' hmem

/-- One split after another. -/
theorem Splits.append {cs : List Char} {parts parts' : List Char × List Char} (h : Splits cs parts)
    (h' : Splits parts.2 parts') : Splits cs (parts.1 ++ parts'.1, parts'.2) := by
  constructor
  · show cs = parts.1 ++ parts'.1 ++ parts'.2
    rw [List.append_assoc, ← h'.1]
    exact h.1
  · intro c hc
    exact (List.mem_append.mp hc).elim (h.2 c) (h'.2 c)

theorem spanDigits_splits (cs : List Char) : Splits cs (spanDigits cs) :=
  ⟨List.takeWhile_append_dropWhile.symm, fun _ hc => digit_number (List.mem_takeWhile_imp hc)⟩

theorem spanSign_splits {signs : List Char} (hsigns : ∀ c ∈ signs, c ∈ numberChars)
    (cs : List Char) : Splits cs (spanSign signs cs) := by
  cases cs with
  | nil => exact Splits.none []
  | cons c cs =>
      rw [spanSign]
      split_ifs with hc
      · exact (Splits.none cs).cons (hsigns c hc)
      · exact Splits.none _

theorem spanInteger_splits (cs : List Char) : Splits cs (spanInteger cs) := by
  unfold spanInteger
  split
  · exact (Splits.none _).cons (by simp [numberChars])
  · exact spanDigits_splits cs

theorem spanFraction_splits (cs : List Char) : Splits cs (spanFraction cs) := by
  unfold spanFraction
  split
  · split_ifs
    · exact Splits.none _
    · exact (spanDigits_splits _).cons (by simp [numberChars])
  · exact Splits.none _

theorem spanExponent_splits (cs : List Char) : Splits cs (spanExponent cs) := by
  unfold spanExponent
  split
  · exact Splits.none []
  · next c cs =>
      have hsign := spanSign_splits (by simp [numberChars] : ∀ c ∈ ['+', '-'], c ∈ numberChars) cs
      dsimp only
      split_ifs with hexp
      · have hletter : c ∈ numberChars := by
          rcases hexp.1 with rfl | rfl <;> simp [numberChars]
        exact (hsign.append (spanDigits_splits _)).cons hletter
      · exact Splits.none _

theorem parseNumber_reads {F : FloatText} {cs rest : List Char} {value : Value}
    (h : parseNumber F cs = some (value, rest)) : Reads cs rest := by
  have hall := (((spanSign_splits (by simp [numberChars] : ∀ c ∈ ['-'], c ∈ numberChars) cs).append
    (spanInteger_splits _)).append (spanFraction_splits _)).append (spanExponent_splits _)
  have hrest : (spanExponent (spanFraction (spanInteger (spanSign ['-'] cs).2).2).2).2 = rest := by
    unfold parseNumber at h
    dsimp only at h
    split_ifs at h <;> cases h <;> rfl
  rw [hrest] at hall
  rw [hall.1]
  exact Reads.of_plain _ fun c hc => number_plain (hall.2 c hc)

theorem parseScalar_reads {F : FloatText} {cs rest : List Char} {value : Value}
    (h : parseScalar F cs = .ok (value, rest)) : Reads cs rest := by
  unfold parseScalar at h
  split at h
  · next parsed hparsed =>
      cases h
      rcases Option.or_eq_some_iff.mp hparsed with hword | ⟨-, hnumber⟩
      · exact parseWord_reads hword
      · exact parseNumber_reads hnumber
  · cases h

/-- A literal is split at its closing quote. -/
theorem spanLiteral_spec {cs body rest : List Char} (h : spanLiteral cs = some (body, rest)) :
    cs = body ++ '"' :: rest ∧ Balanced .literal body := by
  induction cs using spanLiteral.induct generalizing body rest with
  | case1 => cases h
  | case2 cs =>
      cases h
      exact ⟨rfl, Balanced.nil⟩
  | case3 c cs ih =>
      rw [spanLiteral] at h
      obtain ⟨⟨body', rest'⟩, hspan, hparts⟩ := Option.map_eq_some_iff.mp h
      cases hparts
      obtain ⟨rfl, hbody⟩ := ih hspan
      exact ⟨rfl, (Balanced.escaped c).append hbody⟩
  | case4 c cs hquote hback ih =>
      have hend : spanLiteral (c :: cs) = (spanLiteral cs).map fun (body, rest) => (c :: body, rest) := by
        rw [spanLiteral]
        · exact hquote
        · exact hback
      rw [hend] at h
      obtain ⟨⟨body', rest'⟩, hspan, hparts⟩ := Option.map_eq_some_iff.mp h
      cases hparts
      -- A backslash with nothing after it would leave the literal without a closing quote.
      have hne : c ≠ '\\' := by
        rintro rfl
        cases cs with
        | nil => cases hspan
        | cons c' cs => exact hback c' cs rfl rfl
      obtain ⟨rfl, hbody⟩ := ih hspan
      exact ⟨rfl, (Balanced.unescaped hquote hne).append hbody⟩

theorem parseLiteral_reads {cs rest : List Char} {s : String} (h : parseLiteral cs = .ok (s, rest)) :
    Reads ('"' :: cs) rest := by
  unfold parseLiteral at h
  split at h
  · next body rest' hspan =>
      split at h
      · cases h
        obtain ⟨rfl, hbody⟩ := spanLiteral_spec hspan
        exact ⟨'"' :: (body ++ ['"']), by simp, hbody.quoted⟩
      · cases h
  · cases h

/-! ## Values -/

mutual

/-- A value. -/
def parseValue (F : FloatText) : Nat → List Char → Except ParseError (Value × List Char)
  | 0, _ => .error .fuel
  | _ + 1, '"' :: cs => do
      let (s, rest) ← parseLiteral cs
      return (.str s, rest)
  | n + 1, '{' :: cs =>
      match skip cs with
      | '}' :: rest => .ok (.dict [], rest)
      | inner => parseMembers F n [] inner
  | n + 1, '[' :: cs =>
      match skip cs with
      | ']' :: rest => .ok (.list [], rest)
      | inner => parseItems F n [] inner
  | _ + 1, cs => parseScalar F cs

/-- The members of a mapping that are left, and its closing brace. -/
def parseMembers (F : FloatText) : Nat → Dict Value → List Char → Except ParseError (Value × List Char)
  | 0, _, _ => .error .fuel
  | n + 1, acc, '"' :: cs => do
      let (key, afterKey) ← parseLiteral cs
      match skip afterKey with
      | ':' :: afterColon => do
          let (value, afterValue) ← parseValue F n (skip afterColon)
          match skip afterValue with
          | '}' :: rest => .ok (.dict (Dict.set acc key value), rest)
          | ',' :: rest => parseMembers F n (Dict.set acc key value) (skip rest)
          | _ => .error .invalid
      | _ => .error .invalid
  | _ + 1, _, _ => .error .invalid

/-- The items of a list that are left, and its closing bracket. -/
def parseItems (F : FloatText) : Nat → List Value → List Char → Except ParseError (Value × List Char)
  | 0, _, _ => .error .fuel
  | n + 1, acc, cs => do
      let (value, afterValue) ← parseValue F n cs
      match skip afterValue with
      | ']' :: rest => .ok (.list (acc ++ [value]), rest)
      | ',' :: rest => parseItems F n (acc ++ [value]) (skip rest)
      | _ => .error .invalid

end

/-- `json.loads(text)`; `none` for a `ValueError`. -/
def loads (F : FloatText) (cs : List Char) : Option Value :=
  match parseValue F (2 * cs.length + 1) (skip cs) with
  | .ok (value, rest) => if skip rest = [] then some value else none
  | .error _ => none

/-! ### What a value takes -/

/-- What the three parsers do with a given recursion bound: each reads off its part and a closing
bracket where it has one. -/
structure ParserReads (F : FloatText) (n : Nat) : Prop where
  value : ∀ {cs rest v}, parseValue F n cs = .ok (v, rest) → Reads cs rest
  members : ∀ {acc cs rest v}, parseMembers F n acc cs = .ok (v, rest) → Reads cs ('}' :: rest)
  items : ∀ {acc cs rest v}, parseItems F n acc cs = .ok (v, rest) → Reads cs (']' :: rest)

section step

variable {F : FloatText} {n : Nat} {cs rest : List Char} {acc : Dict Value} {items : List Value}
  {v : Value}

/-- A character after blanks is read off with them. -/
theorem Reads.of_skip {c : Char} {rest : List Char} (h : skip cs = c :: rest) :
    Reads cs (c :: rest) := by
  rw [← h]
  exact skip_reads cs

/-- A separator is read off together with the blanks around it. -/
theorem Reads.separator {c : Char} {rest : List Char} (h : skip cs = c :: rest)
    (hc : c ∉ structural) : Reads cs (skip rest) := by
  have hsep : Reads ([c] ++ rest) rest := Reads.of_plain rest (by
    intro c' hc'
    rw [List.mem_singleton.mp hc']
    exact hc)
  exact (Reads.of_skip h).trans (hsep.trans (skip_reads rest))

theorem parseValue_step (ih : ParserReads F n) (h : parseValue F (n + 1) cs = .ok (v, rest)) :
    Reads cs rest := by
  rw [parseValue.eq_def] at h
  dsimp only at h
  split at h
  · contradiction
  · -- a string literal
    obtain ⟨⟨s, rest'⟩, hliteral, hv⟩ := bind_eq_ok.mp h
    cases hv
    exact parseLiteral_reads hliteral
  · -- a mapping
    next cs hm =>
      cases hm
      split at h
      · next rest' hclose =>
          cases h
          exact (Reads.of_skip hclose).bracketed (Or.inl rfl) (Or.inl rfl)
      · exact ((skip_reads cs).trans (ih.members h)).bracketed (Or.inl rfl) (Or.inl rfl)
  · -- a list
    next cs hm =>
      cases hm
      split at h
      · next rest' hclose =>
          cases h
          exact (Reads.of_skip hclose).bracketed (Or.inr rfl) (Or.inr rfl)
      · exact ((skip_reads cs).trans (ih.items h)).bracketed (Or.inr rfl) (Or.inr rfl)
  · exact parseScalar_reads h

theorem parseMembers_step (ih : ParserReads F n)
    (h : parseMembers F (n + 1) acc cs = .ok (v, rest)) : Reads cs ('}' :: rest) := by
  rw [parseMembers.eq_def] at h
  dsimp only at h
  split at h
  · contradiction
  · next cs hm =>
      cases hm
      obtain ⟨⟨key, afterKey⟩, hkey, h⟩ := bind_eq_ok.mp h
      dsimp only at h
      split at h
      · next afterColon hcolon =>
          obtain ⟨⟨value, afterValue⟩, hvalue, h⟩ := bind_eq_ok.mp h
          dsimp only at h
          have hmember : Reads ('"' :: cs) afterValue :=
            (parseLiteral_reads hkey).trans
              ((Reads.separator hcolon (by simp [structural])).trans (ih.value hvalue))
          split at h
          · next rest' hclose =>
              cases h
              exact hmember.trans (Reads.of_skip hclose)
          · next rest' hcomma =>
              exact hmember.trans ((Reads.separator hcomma (by simp [structural])).trans (ih.members h))
          · contradiction
      · contradiction
  · contradiction

theorem parseItems_step (ih : ParserReads F n)
    (h : parseItems F (n + 1) items cs = .ok (v, rest)) : Reads cs (']' :: rest) := by
  rw [parseItems] at h
  obtain ⟨⟨value, afterValue⟩, hvalue, h⟩ := bind_eq_ok.mp h
  dsimp only at h
  split at h
  · next rest' hclose =>
      cases h
      exact (ih.value hvalue).trans (Reads.of_skip hclose)
  · next rest' hcomma =>
      exact (ih.value hvalue).trans
        ((Reads.separator hcomma (by simp [structural])).trans (ih.items h))
  · contradiction

end step

/-- **What is read off the front of a text is balanced.** -/
theorem parser_reads (F : FloatText) (n : Nat) : ParserReads F n := by
  induction n with
  | zero =>
      constructor
      · intro cs rest v h
        rw [parseValue] at h
        cases h
      · intro acc cs rest v h
        rw [parseMembers] at h
        cases h
      · intro acc cs rest v h
        rw [parseItems] at h
        cases h
  | succ n ih => exact ⟨parseValue_step ih, parseMembers_step ih, parseItems_step ih⟩

/-! ### The recursion bound -/

theorem parseLiteral_fuel (cs : List Char) : parseLiteral cs ≠ .error .fuel := by
  unfold parseLiteral
  split
  · split
    · exact nofun
    · exact nofun
  · exact nofun

theorem parseScalar_fuel (F : FloatText) (cs : List Char) : parseScalar F cs ≠ .error .fuel := by
  unfold parseScalar
  split
  · exact nofun
  · exact nofun

/-- A bound that is large enough for the text left. -/
structure FuelSuffices (F : FloatText) (n : Nat) : Prop where
  value : ∀ cs, 2 * cs.length < n → parseValue F n cs ≠ .error .fuel
  members : ∀ acc cs, 2 * cs.length < n → parseMembers F n acc cs ≠ .error .fuel
  items : ∀ acc cs, 2 * cs.length + 1 < n → parseItems F n acc cs ≠ .error .fuel

section fuel

variable {F : FloatText} {n : Nat} {cs : List Char} {acc : Dict Value} {items : List Value}

theorem skip_length_le (cs : List Char) : (skip cs).length ≤ cs.length := (skip_reads cs).length_le

theorem parseValue_fuel_step (ih : FuelSuffices F n) (hn : 2 * cs.length < n + 1) :
    parseValue F (n + 1) cs ≠ .error .fuel := by
  intro h
  rw [parseValue.eq_def] at h
  dsimp only at h
  split at h
  · contradiction
  · rcases bind_eq_error.mp h with hliteral | ⟨a, -, ha⟩
    · exact parseLiteral_fuel _ hliteral
    · cases ha
  · next cs hm =>
      cases hm
      have hskip := skip_length_le cs
      rw [List.length_cons] at hn
      split at h
      · cases h
      · exact ih.members _ _ (by omega) h
  · next cs hm =>
      cases hm
      have hskip := skip_length_le cs
      rw [List.length_cons] at hn
      split at h
      · cases h
      · exact ih.items _ _ (by omega) h
  · exact parseScalar_fuel F _ h

theorem parseMembers_fuel_step (ih : FuelSuffices F n) (hn : 2 * cs.length < n + 1) :
    parseMembers F (n + 1) acc cs ≠ .error .fuel := by
  intro h
  rw [parseMembers.eq_def] at h
  dsimp only at h
  split at h
  · contradiction
  · next cs hm =>
      cases hm
      rw [List.length_cons] at hn
      rcases bind_eq_error.mp h with hliteral | ⟨⟨key, afterKey⟩, hkey, h⟩
      · exact parseLiteral_fuel _ hliteral
      · dsimp only at h
        have hkey_le := (parseLiteral_reads hkey).length_le
        rw [List.length_cons] at hkey_le
        split at h
        · next afterColon hcolon =>
            have hcolon_le := (Reads.of_skip hcolon).length_le
            have hinner_le := skip_length_le afterColon
            rw [List.length_cons] at hcolon_le
            rcases bind_eq_error.mp h with hvalue | ⟨⟨value, afterValue⟩, hvalue, h⟩
            · exact ih.value _ (by omega) hvalue
            · dsimp only at h
              have hvalue_le := ((parser_reads F n).value hvalue).length_le
              split at h
              · cases h
              · next rest hcomma =>
                  have hcomma_le := (Reads.of_skip hcomma).length_le
                  have hrest_le := skip_length_le rest
                  rw [List.length_cons] at hcomma_le
                  exact ih.members _ _ (by omega) h
              · cases h
        · cases h
  · cases h

theorem parseItems_fuel_step (ih : FuelSuffices F n) (hn : 2 * cs.length + 1 < n + 1) :
    parseItems F (n + 1) items cs ≠ .error .fuel := by
  intro h
  rw [parseItems] at h
  rcases bind_eq_error.mp h with hvalue | ⟨⟨value, afterValue⟩, hvalue, h⟩
  · exact ih.value _ (by omega) hvalue
  · dsimp only at h
    have hvalue_le := ((parser_reads F n).value hvalue).length_le
    split at h
    · cases h
    · next rest hcomma =>
        have hcomma_le := (Reads.of_skip hcomma).length_le
        have hrest_le := skip_length_le rest
        rw [List.length_cons] at hcomma_le
        exact ih.items _ _ (by omega) h
    · cases h

end fuel

theorem fuelSuffices (F : FloatText) (n : Nat) : FuelSuffices F n := by
  induction n with
  | zero =>
      constructor
      · intro cs hn
        omega
      · intro acc cs hn
        omega
      · intro acc cs hn
        omega
  | succ n ih =>
      exact ⟨fun _ => parseValue_fuel_step ih, fun _ _ => parseMembers_fuel_step ih,
        fun _ _ => parseItems_fuel_step ih⟩

/-- **The recursion of `loads` never ends early**: a text that is not read is no JSON. -/
theorem loads_fuel (F : FloatText) (cs : List Char) :
    parseValue F (2 * cs.length + 1) (skip cs) ≠ .error .fuel := by
  have hskip := skip_length_le cs
  exact (fuelSuffices F _).value _ (by omega)

/-! ### Texts cut short -/

/-- A text that is read is balanced. -/
theorem loads_balanced {F : FloatText} {cs : List Char} {value : Value}
    (h : loads F cs = some value) : Balanced .text cs := by
  unfold loads at h
  split at h
  · next v rest hparse =>
      split_ifs at h with hend
      have hrest : Reads rest [] := hend ▸ skip_reads rest
      obtain ⟨front, hfront, hbalanced⟩ :=
        (skip_reads cs).trans (((parser_reads F _).value hparse).trans hrest)
      rwa [hfront, List.append_nil]
  · cases h

/-- The empty text is not read. -/
theorem loads_nil (F : FloatText) : loads F [] = none := rfl

/-- **A beginning of the text of a mapping** is not read. -/
theorem loads_beginning {F : FloatText} {items : Dict Value} {text front : List Char}
    (h : dumps F (.dict items) = .ok text) (hfront : front <+: text) (hne : front ≠ text) :
    loads F front = none := by
  cases hloads : loads F front with
  | none => rfl
  | some value =>
      exfalso
      rcases dumps_beginning h (loads_balanced hloads) hfront with rfl | heq
      · rw [loads_nil] at hloads
        cases hloads
      · exact hne heq

end Json
