import Lmrs.Lib.Json.Loads

/-!
# Reading what was written

* `parseLiteral_quote`: a string literal is read as the string it was written from.
* `parseScalar_int`: so is an integer.
* `loads_dumps`: a value is read as it was written, but for the order of the members of its mappings.
-/

namespace Json

open Python

/-! ## Strings -/

/-- A piece of a literal that is passed over whole. -/
def Passes (piece : List Char) : Prop :=
  ∀ cs, spanLiteral (piece ++ cs) = (spanLiteral cs).map fun (body, rest) => (piece ++ body, rest)

theorem Passes.nil : Passes [] := by
  intro cs
  simp

theorem Passes.append {as bs : List Char} (has : Passes as) (hbs : Passes bs) : Passes (as ++ bs) := by
  intro cs
  rw [List.append_assoc, has, hbs, Option.map_map]
  congr 1
  funext ⟨body, rest⟩
  simp

theorem Passes.flatten {parts : List (List Char)} (h : ∀ part ∈ parts, Passes part) :
    Passes parts.flatten := by
  induction parts with
  | nil => exact Passes.nil
  | cons part parts ih =>
      rw [List.flatten_cons]
      exact (h part (List.mem_cons_self ..)).append
        (ih fun p hp => h p (List.mem_cons_of_mem part hp))

theorem Passes.escaped (c : Char) : Passes ['\\', c] := by
  intro cs
  rfl

theorem Passes.singleton {c : Char} (hquote : c ≠ '"') (hback : c ≠ '\\') : Passes [c] := by
  intro cs
  rw [List.singleton_append, spanLiteral]
  · rfl
  · exact hquote
  · exact fun _ _ h => absurd h hback

/-- Reading one escaped character gives it back, whatever follows. -/
def Decodes (piece : List Char) (c : Char) : Prop :=
  ∀ cs, decodeLiteral (piece ++ cs) = (decodeLiteral cs).map (c :: ·)

theorem hexValue_digitChar {n : Nat} (h : n < 16) : hexValue n.digitChar = some n := by
  have hall : ∀ k < 16, hexValue k.digitChar = some k := by decide
  exact hall n h

/-- Four hexadecimal digits are read as the number they were written from. -/
theorem hexValue4_hex4 {n : Nat} (h : n < 0x10000) :
    hexValue4 (n / 4096 % 16).digitChar (n / 256 % 16).digitChar (n / 16 % 16).digitChar
      (n % 16).digitChar = some n := by
  have hdigit (k : Nat) : hexValue (k % 16).digitChar = some (k % 16) :=
    hexValue_digitChar (Nat.mod_lt k (by decide))
  simp only [hexValue4, hdigit]
  show some _ = some n
  congr 1
  omega

/-- An escape that is not four hexadecimal digits ends the reading. -/
theorem decodeLiteral_of_no_unit {a b c d : Char} (h : hexValue4 a b c d = none) (cs : List Char) :
    decodeLiteral ('\\' :: 'u' :: a :: b :: c :: d :: cs) = none := by
  rw [decodeLiteral.eq_def]
  split
  · contradiction
  · next heq =>
      cases heq
      rw [h]
      rfl
  · next heq =>
      cases heq
      rw [h]
      rfl
  · next hno heq =>
      cases heq
      exact (hno a b c d cs rfl rfl).elim
  · next hno heq =>
      cases heq
      exact (hno 'u' _ rfl rfl).elim

/-- An escaped code unit that is no surrogate is read as its character, even before another escape. -/
theorem decodes_unit {n : Nat} (hn : n < 0x10000) (hplain : ¬ (0xd800 ≤ n ∧ n ≤ 0xdfff)) :
    Decodes (escapeUnit n) (Char.ofNat n) := by
  intro cs
  have hunit : unitChar n = Char.ofNat n := if_neg hplain
  have hhex := hexValue4_hex4 hn
  show decodeLiteral ('\\' :: 'u' :: (n / 4096 % 16).digitChar :: (n / 256 % 16).digitChar ::
    (n / 16 % 16).digitChar :: (n % 16).digitChar :: cs) = _
  generalize (n / 4096 % 16).digitChar = a at hhex ⊢
  generalize (n / 256 % 16).digitChar = b at hhex ⊢
  generalize (n / 16 % 16).digitChar = c at hhex ⊢
  generalize (n % 16).digitChar = d at hhex ⊢
  rw [decodeLiteral.eq_def]
  split
  · contradiction
  · -- Another escape follows: it is no second half of a pair, since this is no first half.
    next a' b' c' d' cs' heq =>
      cases heq
      cases hnext : hexValue4 a' b' c' d' with
      | none =>
          rw [hhex, decodeLiteral_of_no_unit hnext]
          rfl
      | some low =>
          rw [hhex]
          dsimp only [bind, Option.bind]
          rw [if_neg (fun hpair => hplain ⟨hpair.1.1, by omega⟩), hunit]
  · next heq =>
      cases heq
      rw [hhex]
      show Option.map (fun x => unitChar n :: x) (decodeLiteral cs) = _
      rw [hunit]
  · next hno heq =>
      cases heq
      exact (hno a b c d cs rfl rfl).elim
  · next hno heq =>
      cases heq
      exact (hno 'u' _ rfl rfl).elim

/-- Two escapes that make a pair of surrogates are read as one character. -/
theorem decodeLiteral_pair {a b c d a' b' c' d' : Char} {high low : Nat}
    (hfirst : hexValue4 a b c d = some high) (hsecond : hexValue4 a' b' c' d' = some low)
    (hpair : (0xd800 ≤ high ∧ high ≤ 0xdbff) ∧ 0xdc00 ≤ low ∧ low ≤ 0xdfff) (cs : List Char) :
    decodeLiteral ('\\' :: 'u' :: a :: b :: c :: d :: '\\' :: 'u' :: a' :: b' :: c' :: d' :: cs) =
      (decodeLiteral cs).map (Char.ofNat (0x10000 + 1024 * (high - 0xd800) + (low - 0xdc00)) :: ·) := by
  rw [decodeLiteral]
  simp only [hfirst, hsecond]
  show (if _ then _ else _) = _
  rw [if_pos hpair]

/-- A character past the basic plane is read back from its pair. -/
theorem decodes_pair {n high low : Nat} (hhigh : high = 0xd800 + (n - 0x10000) / 1024)
    (hlow : low = 0xdc00 + (n - 0x10000) % 1024) (hbasic : 0x10000 ≤ n) (hlast : n < 0x110000) :
    Decodes (escapeUnit high ++ escapeUnit low) (Char.ofNat n) := by
  intro cs
  have hfirst := hexValue4_hex4 (n := high) (by omega)
  have hsecond := hexValue4_hex4 (n := low) (by omega)
  have hchar : 0x10000 + 1024 * (high - 0xd800) + (low - 0xdc00) = n := by omega
  simp only [escapeUnit, hex4, List.cons_append, List.nil_append]
  rw [decodeLiteral_pair hfirst hsecond (by omega), hchar]

/-- A one-letter escape. -/
theorem decodes_escaped {letter c : Char} (h : escapeValue letter = some c) (hu : letter ≠ 'u') :
    Decodes ['\\', letter] c := by
  intro cs
  show decodeLiteral ('\\' :: letter :: cs) = _
  rw [decodeLiteral, h]
  · rfl
  · exact fun _ _ _ _ _ _ _ _ _ hletter => absurd hletter hu
  · exact fun _ _ _ _ _ hletter => absurd hletter hu

/-- A character that stands for itself. -/
theorem decodes_self {c : Char} (hback : c ≠ '\\') (hcontrol : 0x20 ≤ c.toNat) : Decodes [c] c := by
  intro cs
  rw [List.singleton_append, decodeLiteral]
  · rw [if_neg]
    rintro (h | h)
    · exact hback h
    · omega
  · exact fun _ _ _ _ _ _ _ _ _ h => absurd h hback
  · exact fun _ _ _ _ _ h => absurd h hback
  · exact fun _ _ h => absurd h hback

/-- **However a character is escaped, it is read back.** -/
theorem decodes_escapeChar (c : Char) : Decodes (escapeChar c) c := by
  unfold escapeChar
  by_cases hquote : c = '"'
  · rw [if_pos hquote, hquote]
    exact decodes_escaped rfl (by decide)
  rw [if_neg hquote]
  by_cases hback : c = '\\'
  · rw [if_pos hback, hback]
    exact decodes_escaped rfl (by decide)
  rw [if_neg hback]
  split_ifs with h₁ h₂ h₃ h₄ h₅ hascii hbasic
  · rw [h₁]
    exact decodes_escaped rfl (by decide)
  · rw [h₂]
    exact decodes_escaped rfl (by decide)
  · rw [h₃]
    exact decodes_escaped rfl (by decide)
  · rw [h₄]
    exact decodes_escaped rfl (by decide)
  · rw [h₅]
    exact decodes_escaped rfl (by decide)
  · exact decodes_self hback hascii.1
  · have hvalid : ¬ (0xd800 ≤ c.toNat ∧ c.toNat ≤ 0xdfff) := by
      have hchar : c.toNat < 0xd800 ∨ 0xdfff < c.toNat ∧ c.toNat < 0x110000 := c.valid
      omega
    have hunit := decodes_unit hbasic hvalid
    rwa [Char.ofNat_toNat] at hunit
  · have hlast : c.toNat < 0x110000 := by
      have hchar : c.toNat < 0xd800 ∨ 0xdfff < c.toNat ∧ c.toNat < 0x110000 := c.valid
      omega
    have hpair := decodes_pair rfl rfl (Nat.le_of_not_lt hbasic) hlast
    rwa [Char.ofNat_toNat] at hpair

/-- However a character is escaped, the literal goes on after it. -/
theorem passes_escapeChar (c : Char) : Passes (escapeChar c) :=
  escapeChar_rec Passes.escaped (fun _ => Passes.singleton) (fun _ _ => Passes.append) c

/-- The escaped characters of a string are read back. -/
theorem decodeLiteral_escaped (s : List Char) :
    decodeLiteral (s.map escapeChar).flatten = some s := by
  induction s with
  | nil => rfl
  | cons c s ih =>
      rw [List.map_cons, List.flatten_cons, decodes_escapeChar, ih]
      rfl

/-- **A string literal is read as the string it was written from.** -/
theorem parseLiteral_quote (s : String) (rest : List Char) :
    parseLiteral ((s.toList.map escapeChar).flatten ++ '"' :: rest) = .ok (s, rest) := by
  have hpasses : Passes (s.toList.map escapeChar).flatten := by
    apply Passes.flatten
    intro part hpart
    obtain ⟨c, -, rfl⟩ := List.mem_map.mp hpart
    exact passes_escapeChar c
  unfold parseLiteral
  rw [hpasses]
  simp [spanLiteral, decodeLiteral_escaped]

/-! ## Numbers -/

/-- What may follow a number. -/
def Delimited (rest : List Char) : Prop := ∀ c ∈ rest.head?, c ∉ numberChars

section numbers

variable {rest : List Char}

theorem Delimited.cons {c : Char} (h : c ∉ numberChars) (rest : List Char) : Delimited (c :: rest) := by
  intro c' hc'
  cases hc'
  exact h

/-- The digits at the front are taken whole. -/
theorem spanDigits_append {ds : List Char} (hds : ∀ c ∈ ds, c.isDigit = true)
    (hrest : Delimited rest) : spanDigits (ds ++ rest) = (ds, rest) := by
  unfold spanDigits
  rw [List.takeWhile_append_of_pos hds, List.dropWhile_append_of_pos hds]
  cases rest with
  | nil => simp
  | cons c rest =>
      have hc : c.isDigit = false := by
        by_contra hdigit
        exact hrest c rfl (digit_number (by simpa using hdigit))
      simp [hc]

/-- No fraction follows. -/
theorem spanFraction_delimited (hrest : Delimited rest) : spanFraction rest = ([], rest) := by
  cases rest with
  | nil => rfl
  | cons c rest =>
      have hc : c ≠ '.' := by
        rintro rfl
        exact hrest '.' rfl (by simp [numberChars])
      unfold spanFraction
      split
      · next heq =>
          cases heq
          exact (hc rfl).elim
      · rfl

/-- No exponent follows. -/
theorem spanExponent_delimited (hrest : Delimited rest) : spanExponent rest = ([], rest) := by
  cases rest with
  | nil => rfl
  | cons c rest =>
      rw [spanExponent]
      dsimp only
      rw [if_neg]
      rintro ⟨rfl | rfl, -⟩
      · exact hrest 'e' rfl (by simp [numberChars])
      · exact hrest 'E' rfl (by simp [numberChars])

/-- Only the spelling of zero starts with a zero. -/
theorem toDigits_head_ne {n : Nat} (hn : 0 < n) : (Nat.toDigits 10 n).head? ≠ some '0' := by
  induction n using Nat.strong_induction_on with
  | _ n ih =>
      rw [Nat.toDigits_eq_if (by decide)]
      split_ifs with hlt
      · simp only [List.head?_cons, ne_eq, Option.some.injEq, Nat.digitChar_eq_zero]
        omega
      · have hne : Nat.toDigits 10 (n / 10) ≠ [] := Nat.toDigits_ne_nil
        rw [List.head?_append_of_ne_nil _ hne]
        exact ih (n / 10) (by omega) (by omega)

/-- The digits of a number are taken whole. -/
theorem spanInteger_toDigits (n : Nat) (hrest : Delimited rest) :
    spanInteger (Nat.toDigits 10 n ++ rest) = (Nat.toDigits 10 n, rest) := by
  rcases Nat.eq_zero_or_pos n with rfl | hn
  · rw [Nat.toDigits_zero]
    rfl
  · have hdigits : ∀ c ∈ Nat.toDigits 10 n, c.isDigit = true :=
      fun c hc => Nat.isDigit_of_mem_toDigits (by decide) (by decide) hc
    have hhead := toDigits_head_ne hn
    unfold spanInteger
    split
    · next cs heq =>
        cases htext : Nat.toDigits 10 n with
        | nil => exact absurd htext Nat.toDigits_ne_nil
        | cons d ds =>
            rw [htext] at hhead heq
            cases heq
            exact absurd rfl hhead
    · exact spanDigits_append hdigits hrest

/-- The digits of a number denote it. -/
theorem ofDigits_toDigits (n : Nat) :
    ofDigits ((Nat.toDigits 10 n).map fun c => c.toNat - 48) = n := by
  rw [ofDigits, List.foldl_map]
  exact Nat.ofDigitChars_ten_toDigits

/-- No word starts with a digit, or with a minus sign and a digit. -/
theorem parseWord_digit {c : Char} (hc : c.isDigit = true) (cs : List Char) :
    words.findSome? (parseWord (c :: cs)) = none ∧
      words.findSome? (parseWord ('-' :: c :: cs)) = none := by
  have hne (d : Char) (hd : d.isDigit = false) : d ≠ c := by
    rintro rfl
    rw [hc] at hd
    cases hd
  have hn := hne 'n' rfl
  have ht := hne 't' rfl
  have hf := hne 'f' rfl
  have hN := hne 'N' rfl
  have hI := hne 'I' rfl
  have hminus := hne '-' rfl
  constructor
  · simp [words, parseWord, hn, ht, hf, hN, hI, hminus]
  · simp [words, parseWord, hI]

/-- Digits after their sign are read as an integer. -/
theorem parseNumber_toDigits (F : FloatText) {cs sign : List Char} {n : Nat}
    (hsign : spanSign ['-'] cs = (sign, Nat.toDigits 10 n ++ rest))
    (hn : (Nat.toDigits 10 n).length ≤ maxStrDigits) (hrest : Delimited rest) :
    parseNumber F cs = some (.int (if sign = [] then (n : Int) else -(n : Int)), rest) := by
  unfold parseNumber
  rw [hsign]
  dsimp only
  rw [spanInteger_toDigits n hrest]
  dsimp only
  rw [spanFraction_delimited hrest]
  dsimp only
  rw [spanExponent_delimited hrest]
  dsimp only
  rw [if_neg Nat.toDigits_ne_nil, if_pos ⟨rfl, rfl⟩, if_neg (Nat.not_lt.mpr hn), ofDigits_toDigits]

/-- **An integer is read as it was written**, up to the digits that are converted. -/
theorem parseScalar_int (F : FloatText) {n : Int}
    (hn : (Nat.toDigits 10 n.natAbs).length ≤ maxStrDigits) (hrest : Delimited rest) :
    parseScalar F (intText n ++ rest) = .ok (.int n, rest) := by
  cases htext : Nat.toDigits 10 n.natAbs with
  | nil => exact absurd htext Nat.toDigits_ne_nil
  | cons d ds =>
      have hdigit : d.isDigit = true := by
        apply Nat.isDigit_of_mem_toDigits (b := 10) (n := n.natAbs) (by decide) (by decide)
        rw [htext]
        exact List.mem_cons_self ..
      unfold intText parseScalar
      by_cases hneg : n < 0
      · have hsign : spanSign ['-'] ('-' :: (Nat.toDigits 10 n.natAbs ++ rest)) =
            (['-'], Nat.toDigits 10 n.natAbs ++ rest) := rfl
        have hnumber := parseNumber_toDigits F hsign hn hrest
        have hvalue : -(n.natAbs : Int) = n := by omega
        rw [if_neg (List.cons_ne_nil _ _), hvalue, htext] at hnumber
        rw [if_pos hneg, htext]
        simp only [List.cons_append] at hnumber ⊢
        rw [(parseWord_digit hdigit _).2, hnumber]
        rfl
      · have hminus : d ∉ ['-'] := by
          intro hmem
          rw [List.mem_singleton.mp hmem] at hdigit
          cases hdigit
        have hsign : spanSign ['-'] (Nat.toDigits 10 n.natAbs ++ rest) =
            ([], Nat.toDigits 10 n.natAbs ++ rest) := by
          rw [htext, List.cons_append, spanSign, if_neg hminus]
        have hnumber := parseNumber_toDigits F hsign hn hrest
        have hvalue : (n.natAbs : Int) = n := by omega
        rw [if_pos rfl, hvalue, htext] at hnumber
        rw [if_neg hneg, htext]
        simp only [List.cons_append] at hnumber ⊢
        rw [(parseWord_digit hdigit _).1, hnumber]
        rfl

end numbers

/-! ## Values -/

/-- A word is read as its value. -/
theorem parseScalar_word (F : FloatText) (rest : List Char) :
    parseScalar F ("null".toList ++ rest) = .ok (.none, rest) ∧
      parseScalar F ("true".toList ++ rest) = .ok (.bool true, rest) ∧
      parseScalar F ("false".toList ++ rest) = .ok (.bool false, rest) ∧
      parseScalar F ("NaN".toList ++ rest) = .ok (.float .nan, rest) ∧
      parseScalar F ("Infinity".toList ++ rest) = .ok (.float .posInf, rest) ∧
      parseScalar F ("-Infinity".toList ++ rest) = .ok (.float .negInf, rest) := by
  simp [parseScalar, words, parseWord]

/-- The order of the keys of a mapping when it is written. -/
def byKey {α : Type} (a b : String × α) : Prop := a.1 ≤ b.1

instance {α : Type} : DecidableRel (byKey (α := α)) := fun a b => inferInstanceAs (Decidable (a.1 ≤ b.1))

mutual

/-- A value as it is read back: the members of its mappings by key. -/
def canonical : Value → Value
  | .list items => .list (canonicalItems items)
  | .dict items => .dict ((canonicalMembers items).insertionSort byKey)
  | value => value

/-- `canonical`, over the items of a list. -/
def canonicalItems : List Value → List Value
  | [] => []
  | item :: items => canonical item :: canonicalItems items

/-- `canonical`, over the members of a mapping. -/
def canonicalMembers : List (String × Value) → List (String × Value)
  | [] => []
  | (key, value) :: members => (key, canonical value) :: canonicalMembers members

end

mutual

/-- A value that can be written and read back: its integers can be spelled, its floats are read as they
are spelled, and no key of a mapping occurs twice. -/
def Writable (F : FloatText) : Value → Prop
  | .int n => (Nat.toDigits 10 n.natAbs).length ≤ maxStrDigits
  | .float (.finite q) => ∀ rest, Delimited rest →
      parseScalar F (F.repr q ++ rest) = .ok (.float (.finite q), rest)
  | .list items => WritableItems F items
  | .dict items => (items.map Prod.fst).Nodup ∧ WritableMembers F items
  | _ => True

/-- `Writable`, over the items of a list. -/
def WritableItems (F : FloatText) : List Value → Prop
  | [] => True
  | item :: items => Writable F item ∧ WritableItems F items

/-- `Writable`, over the members of a mapping. -/
def WritableMembers (F : FloatText) : List (String × Value) → Prop
  | [] => True
  | (_, value) :: members => Writable F value ∧ WritableMembers F members

end

/-! ### The three recursions as maps -/

section maps

variable (F : FloatText) (level : Nat)

theorem renderItems_eq_map (items : List Value) :
    renderItems F level items = items.map (render F level) := by
  induction items with
  | nil => rfl
  | cons item items ih => rw [renderItems, ih, List.map_cons]

theorem renderMembers_eq_map (members : List (String × Value)) :
    renderMembers F level members = members.map fun kv => (kv.1, render F level kv.2) := by
  induction members with
  | nil => rfl
  | cons kv members ih => rw [renderMembers, ih, List.map_cons]

theorem canonicalItems_eq_map (items : List Value) : canonicalItems items = items.map canonical := by
  induction items with
  | nil => rfl
  | cons item items ih => rw [canonicalItems, ih, List.map_cons]

theorem canonicalMembers_eq_map (members : List (String × Value)) :
    canonicalMembers members = members.map fun kv => (kv.1, canonical kv.2) := by
  induction members with
  | nil => rfl
  | cons kv members ih => rw [canonicalMembers, ih, List.map_cons]

end maps

/-! ### Blanks between the tokens -/

theorem skip_of_not_blank {c : Char} (h : isBlank c = false) (cs : List Char) :
    skip (c :: cs) = c :: cs := by
  simp [skip, h]

theorem skip_newline (level : Nat) (cs : List Char) : skip (newline level ++ cs) = skip cs := by
  apply List.dropWhile_append_of_pos
  intro c hc
  rcases List.mem_cons.mp hc with rfl | hblank
  · rfl
  · rw [List.eq_of_mem_replicate hblank]
    rfl

theorem newline_delimited (level : Nat) (cs : List Char) : Delimited (newline level ++ cs) :=
  Delimited.cons (by simp [numberChars]) _

/-- How a value starts, and that it is read back. -/
structure ReadBack (F : FloatText) (value : Value) : Prop where
  starts : ∀ level, ∃ c cs, render F level value = c :: cs ∧ isBlank c = false ∧ c ≠ ']'
  parses : ∀ level n rest, Delimited rest → 2 * (render F level value ++ rest).length < n →
    parseValue F n (render F level value ++ rest) = .ok (canonical value, rest)

section containers

variable {F : FloatText} {level outer n : Nat} {rest : List Char}

/-- Blanks before a value are passed over. -/
theorem ReadBack.skip_eq {value : Value} (h : ReadBack F value) (level : Nat) (cs : List Char) :
    skip (render F level value ++ cs) = render F level value ++ cs := by
  obtain ⟨c, cs', htext, hblank, -⟩ := h.starts level
  rw [htext]
  exact skip_of_not_blank hblank _

/-- The texts of the items of a list, with what separates them. -/
def itemsText (F : FloatText) (level : Nat) (items : List Value) : List Char :=
  ((items.map (render F level)).intersperse (',' :: newline level)).flatten

theorem itemsText_cons_cons (item next : Value) (items : List Value) :
    itemsText F level (item :: next :: items) =
      render F level item ++ (',' :: (newline level ++ itemsText F level (next :: items))) := by
  simp [itemsText]

theorem itemsText_cons (F : FloatText) (level : Nat) (item : Value) (items : List Value) :
    ∃ tail, itemsText F level (item :: items) = render F level item ++ tail := by
  cases items with
  | nil => exact ⟨[], by simp [itemsText]⟩
  | cons next items => exact ⟨_, itemsText_cons_cons item next items⟩

/-- Blanks before the items of a list are passed over. -/
theorem skip_itemsText {item : Value} (h : ReadBack F item) (level : Nat) (items : List Value)
    (cs : List Char) :
    skip (itemsText F level (item :: items) ++ cs) = itemsText F level (item :: items) ++ cs := by
  obtain ⟨tail, htext⟩ := itemsText_cons F level item items
  rw [htext, List.append_assoc]
  exact h.skip_eq level _

theorem parseItems_close {acc : List Value} {cs after : List Char} {value : Value}
    (hvalue : parseValue F n cs = .ok (value, after)) (hskip : skip after = ']' :: rest) :
    parseItems F (n + 1) acc cs = .ok (.list (acc ++ [value]), rest) := by
  simp only [parseItems, hvalue, bind, Except.bind, hskip]

theorem parseItems_comma {acc : List Value} {cs after : List Char} {value : Value}
    (hvalue : parseValue F n cs = .ok (value, after)) (hskip : skip after = ',' :: rest) :
    parseItems F (n + 1) acc cs = parseItems F n (acc ++ [value]) (skip rest) := by
  simp only [parseItems, hvalue, bind, Except.bind, hskip]

theorem skip_close {c : Char} (hc : isBlank c = false) : skip (newline outer ++ c :: rest) = c :: rest := by
  rw [skip_newline]
  exact skip_of_not_blank hc rest

theorem comma_delimited (cs : List Char) : Delimited (',' :: cs) :=
  Delimited.cons (by simp [numberChars]) cs

/-- **The items of a list are read back.** -/
theorem parseItems_itemsText (items : List Value) (hne : items ≠ [])
    (h : ∀ item ∈ items, ReadBack F item) (acc : List Value)
    (hn : 2 * (itemsText F level items ++ (newline outer ++ ']' :: rest)).length + 1 < n) :
    parseItems F n acc (itemsText F level items ++ (newline outer ++ ']' :: rest)) =
      .ok (.list (acc ++ items.map canonical), rest) := by
  induction items generalizing acc n with
  | nil => exact absurd rfl hne
  | cons item items ih =>
      have hitem := h item (List.mem_cons_self ..)
      cases n with
      | zero => omega
      | succ n =>
          cases items with
          | nil =>
              have htext : itemsText F level [item] = render F level item := by simp [itemsText]
              rw [htext] at hn ⊢
              have hparse := hitem.parses level n _ (newline_delimited outer (']' :: rest)) (by omega)
              exact parseItems_close hparse (skip_close rfl)
          | cons next items =>
              have hnext := h next (List.mem_cons_of_mem item (List.mem_cons_self ..))
              rw [itemsText_cons_cons] at hn ⊢
              simp only [List.append_assoc, List.cons_append] at hn ⊢
              have hparse := hitem.parses level n _ (comma_delimited (newline level ++
                (itemsText F level (next :: items) ++ (newline outer ++ ']' :: rest)))) (by omega)
              rw [parseItems_comma hparse (skip_of_not_blank rfl _), skip_newline,
                skip_itemsText hnext level]
              have hrest := ih (List.cons_ne_nil _ _)
                (fun other hother => h other (List.mem_cons_of_mem item hother))
                (acc ++ [canonical item]) (n := n) (by
                  simp only [List.length_append, List.length_cons] at hn ⊢
                  omega)
              rw [hrest]
              simp

/-- The text of a member of a mapping. -/
def memberText (F : FloatText) (level : Nat) (member : String × Value) : List Char :=
  quote member.1.toList ++ ": ".toList ++ render F level member.2

/-- The texts of the members of a mapping, with what separates them. -/
def membersText (F : FloatText) (level : Nat) (members : List (String × Value)) : List Char :=
  ((members.map (memberText F level)).intersperse (',' :: newline level)).flatten

theorem membersText_cons_cons (member next : String × Value) (members : List (String × Value)) :
    membersText F level (member :: next :: members) =
      memberText F level member ++ (',' :: (newline level ++ membersText F level (next :: members))) := by
  simp [membersText]

theorem membersText_cons (F : FloatText) (level : Nat) (member : String × Value)
    (members : List (String × Value)) :
    ∃ tail, membersText F level (member :: members) = '"' :: tail := by
  cases members with
  | nil => exact ⟨_, by simp [membersText, memberText, quote]; rfl⟩
  | cons next members => exact ⟨_, by rw [membersText_cons_cons]; rfl⟩

theorem parseMembers_close {acc : Dict Value} {key : String} {cs colon after : List Char}
    {value : Value} (hkey : parseLiteral cs = .ok (key, ':' :: colon))
    (hvalue : parseValue F n (skip colon) = .ok (value, after)) (hskip : skip after = '}' :: rest) :
    parseMembers F (n + 1) acc ('"' :: cs) = .ok (.dict (Dict.set acc key value), rest) := by
  have hcolon : skip (':' :: colon) = ':' :: colon := skip_of_not_blank rfl colon
  simp only [parseMembers, hkey, hcolon, hvalue, bind, Except.bind, hskip]

theorem parseMembers_comma {acc : Dict Value} {key : String} {cs colon after : List Char}
    {value : Value} (hkey : parseLiteral cs = .ok (key, ':' :: colon))
    (hvalue : parseValue F n (skip colon) = .ok (value, after)) (hskip : skip after = ',' :: rest) :
    parseMembers F (n + 1) acc ('"' :: cs) =
      parseMembers F n (Dict.set acc key value) (skip rest) := by
  have hcolon : skip (':' :: colon) = ':' :: colon := skip_of_not_blank rfl colon
  simp only [parseMembers, hkey, hcolon, hvalue, bind, Except.bind, hskip]

/-- The key of a member is read back, and its value is what follows the colon. -/
theorem memberText_key (level : Nat) (key : String) {value : Value} (h : ReadBack F value)
    (cs : List Char) :
    ∃ tail colon, memberText F level (key, value) ++ cs = '"' :: tail ∧
      parseLiteral tail = .ok (key, ':' :: colon) ∧ skip colon = render F level value ++ cs ∧
      (render F level value ++ cs).length + 2 ≤ (memberText F level (key, value) ++ cs).length := by
  refine ⟨_, ' ' :: (render F level value ++ cs), ?_, parseLiteral_quote key _, ?_, ?_⟩
  · simp [memberText, quote]
  · have hblank : skip (' ' :: (render F level value ++ cs)) = skip (render F level value ++ cs) := by
      simp [skip, isBlank]
    rw [hblank]
    exact h.skip_eq level cs
  · simp only [memberText, quote, List.length_append, List.length_cons]
    omega

/-- **The members of a mapping are read back.** -/
theorem parseMembers_membersText (members : List (String × Value)) (hne : members ≠ [])
    (h : ∀ member ∈ members, ReadBack F member.2) (acc : Dict Value)
    (hkeys : (acc.map Prod.fst ++ members.map Prod.fst).Nodup)
    (hn : 2 * (membersText F level members ++ (newline outer ++ '}' :: rest)).length < n) :
    parseMembers F n acc (membersText F level members ++ (newline outer ++ '}' :: rest)) =
      .ok (.dict (acc ++ members.map fun kv => (kv.1, canonical kv.2)), rest) := by
  induction members generalizing acc n with
  | nil => exact absurd rfl hne
  | cons member members ih =>
      obtain ⟨key, value⟩ := member
      have hvalue : ReadBack F value := h (key, value) (List.mem_cons_self ..)
      have hset (v : Value) : Dict.set acc key v = acc ++ [(key, v)] := by
        apply Dict.set_of_not_mem
        intro hmem
        exact (List.nodup_append.mp hkeys).2.2 key hmem key (List.mem_cons_self ..) rfl
      cases n with
      | zero => omega
      | succ n =>
          cases members with
          | nil =>
              have htext : membersText F level [(key, value)] = memberText F level (key, value) := by
                simp [membersText]
              rw [htext] at hn ⊢
              obtain ⟨tail, colon, hmember, hkey, hcolon, hlength⟩ :=
                memberText_key level key hvalue (newline outer ++ '}' :: rest)
              have hparse := hvalue.parses level n _ (newline_delimited outer ('}' :: rest)) (by omega)
              rw [← hcolon] at hparse
              rw [hmember, parseMembers_close hkey hparse (skip_close rfl), hset]
              rfl
          | cons next members =>
              rw [membersText_cons_cons] at hn ⊢
              simp only [List.append_assoc, List.cons_append] at hn ⊢
              obtain ⟨tail, colon, hmember, hkey, hcolon, hlength⟩ :=
                memberText_key level key hvalue
                  (',' :: (newline level ++
                    (membersText F level (next :: members) ++ (newline outer ++ '}' :: rest))))
              have hparse := hvalue.parses level n _ (comma_delimited (newline level ++
                (membersText F level (next :: members) ++ (newline outer ++ '}' :: rest)))) (by omega)
              rw [← hcolon] at hparse
              have hskip : skip (membersText F level (next :: members) ++
                  (newline outer ++ '}' :: rest)) =
                    membersText F level (next :: members) ++ (newline outer ++ '}' :: rest) := by
                obtain ⟨tail', htext⟩ := membersText_cons F level next members
                rw [htext]
                exact skip_of_not_blank rfl _
              have hkeys' : ((acc ++ [(key, canonical value)]).map Prod.fst ++
                  (next :: members).map Prod.fst).Nodup := by
                simpa using hkeys
              have hrest := ih (List.cons_ne_nil _ _)
                (fun other hother => h other (List.mem_cons_of_mem (key, value) hother))
                (acc ++ [(key, canonical value)]) hkeys' (n := n) (by
                  simp only [List.length_append, List.length_cons] at hn hlength ⊢
                  omega)
              rw [hmember, parseMembers_comma hkey hparse (skip_of_not_blank rfl _), skip_newline,
                hskip, hset, hrest]
              simp

end containers

/-! ### Every writable value -/

section values

variable {F : FloatText}

/-- A text that starts with no quote and no opening bracket is read as a scalar. -/
theorem parseValue_scalar {c : Char} (n : Nat) (cs : List Char)
    (hc : c ∉ Nesting.structural) : parseValue F (n + 1) (c :: cs) = parseScalar F (c :: cs) := by
  have hne (d : Char) (hd : d ∈ Nesting.structural) : c = d → False := fun heq => hc (heq ▸ hd)
  have hquote := hne '"' (by simp [Nesting.structural])
  have hbrace := hne '{' (by simp [Nesting.structural])
  have hbracket := hne '[' (by simp [Nesting.structural])
  rw [parseValue]
  · exact fun _ heq => hquote (List.cons.inj heq).1
  · exact fun _ heq => hbrace (List.cons.inj heq).1
  · exact fun _ heq => hbracket (List.cons.inj heq).1

/-- A scalar is read back when its text is read as it. -/
theorem readBack_scalar {value : Value} {c : Char} {cs : List Char}
    (htext : ∀ level, render F level value = c :: cs) (hc : c ∉ Nesting.structural)
    (hblank : isBlank c = false)
    (hparse : ∀ rest, Delimited rest → parseScalar F (c :: cs ++ rest) = .ok (canonical value, rest)) :
    ReadBack F value where
  starts level := by
    refine ⟨c, cs, htext level, hblank, ?_⟩
    rintro rfl
    exact hc (by simp [Nesting.structural])
  parses level n rest hrest hn := by
    cases n with
    | zero => omega
    | succ n =>
        rw [htext, List.cons_append, parseValue_scalar n _ hc, ← List.cons_append]
        exact hparse rest hrest

/-- A character of a number starts no other token, and is no blank. -/
theorem number_start {c : Char} (h : c ∈ numberChars) : isBlank c = false := by
  have hall : ∀ c ∈ numberChars, isBlank c = false := by simp [numberChars, isBlank]
  exact hall c h

/-- A number is read back when its text is read as it. -/
theorem readBack_number {value : Value} {text : List Char} (htext : ∀ level, render F level value = text)
    (hchars : ∀ c ∈ text, c ∈ numberChars)
    (hparse : ∀ rest, Delimited rest → parseScalar F (text ++ rest) = .ok (canonical value, rest)) :
    ReadBack F value := by
  cases text with
  | nil =>
      have hempty := hparse [] nofun
      cases hempty
  | cons c cs =>
      have hc := hchars c (List.mem_cons_self ..)
      exact readBack_scalar htext (number_plain hc) (number_start hc) hparse

theorem readBack_bool (b : Bool) : ReadBack F (.bool b) := by
  cases b with
  | true =>
      exact readBack_scalar (c := 't') (fun _ => rfl) (by simp [Nesting.structural]) rfl
        fun rest _ => (parseScalar_word F rest).2.1
  | false =>
      exact readBack_scalar (c := 'f') (fun _ => rfl) (by simp [Nesting.structural]) rfl
        fun rest _ => (parseScalar_word F rest).2.2.1

theorem readBack_float (x : PyFloat) (h : Writable F (.float x)) : ReadBack F (.float x) := by
  cases x with
  | finite q => exact readBack_number (fun _ => rfl) (F.repr_number q) h
  | nan =>
      exact readBack_scalar (c := 'N') (fun _ => rfl) (by simp [Nesting.structural]) rfl
        fun rest _ => (parseScalar_word F rest).2.2.2.1
  | posInf =>
      exact readBack_scalar (c := 'I') (fun _ => rfl) (by simp [Nesting.structural]) rfl
        fun rest _ => (parseScalar_word F rest).2.2.2.2.1
  | negInf =>
      exact readBack_scalar (c := '-') (fun _ => rfl) (by simp [Nesting.structural]) rfl
        fun rest _ => (parseScalar_word F rest).2.2.2.2.2

theorem readBack_str (s : String) : ReadBack F (.str s) where
  starts level := ⟨'"', _, rfl, rfl, by decide⟩
  parses level n rest hrest hn := by
    cases n with
    | zero => omega
    | succ n =>
        have htext : render F level (.str s) ++ rest =
            '"' :: ((s.toList.map escapeChar).flatten ++ '"' :: rest) := by
          simp [render, quote]
        rw [htext, parseValue, parseLiteral_quote]
        rfl

theorem parseValue_list {n : Nat} {cs inner : List Char} (hskip : skip cs = inner)
    (hinner : ∀ rest, inner ≠ ']' :: rest) :
    parseValue F (n + 1) ('[' :: cs) = parseItems F n [] inner := by
  rw [parseValue, hskip]
  split
  · exact (hinner _ rfl).elim
  · rfl

theorem parseValue_dict {n : Nat} {cs inner : List Char} (hskip : skip cs = inner)
    (hinner : ∀ rest, inner ≠ '}' :: rest) :
    parseValue F (n + 1) ('{' :: cs) = parseMembers F n [] inner := by
  rw [parseValue, hskip]
  split
  · exact (hinner _ rfl).elim
  · rfl

/-- **A list is read back**, when its items are. -/
theorem readBack_list {items : List Value} (h : ∀ item ∈ items, ReadBack F item) :
    ReadBack F (.list items) where
  starts level := ⟨'[', _, by rw [render]; rfl, rfl, by decide⟩
  parses level n rest hrest hn := by
    cases n with
    | zero => omega
    | succ n =>
        rw [render, renderItems_eq_map] at hn ⊢
        rw [canonical, canonicalItems_eq_map]
        cases items with
        | nil => rfl
        | cons item items =>
            have hitem := h item (List.mem_cons_self ..)
            have hbody : layout level '[' ']' ((item :: items).map (render F (level + 1))) ++ rest =
                '[' :: (newline (level + 1) ++ (itemsText F (level + 1) (item :: items) ++
                  (newline level ++ ']' :: rest))) := by
              simp [layout, layoutBody, itemsText]
            rw [hbody] at hn ⊢
            have hskip := (skip_newline (level + 1) _).trans
              (skip_itemsText hitem (level + 1) items (newline level ++ ']' :: rest))
            have hinner : ∀ rest', itemsText F (level + 1) (item :: items) ++
                (newline level ++ ']' :: rest) ≠ ']' :: rest' := by
              intro rest' heq
              obtain ⟨tail, htext⟩ := itemsText_cons F (level + 1) item items
              obtain ⟨c, cs, hrender, -, hc⟩ := hitem.starts (level + 1)
              rw [htext, hrender] at heq
              exact hc (List.cons.inj heq).1
            rw [parseValue_list hskip hinner, parseItems_itemsText _ (List.cons_ne_nil _ _) h]
            · rfl
            · simp only [List.length_cons, List.length_append] at hn ⊢
              omega

/-- Sorting the members by key does not look at their values. -/
theorem insertionSort_map {α β : Type} (f : α → β) (members : List (String × α)) :
    (members.map fun kv => (kv.1, f kv.2)).insertionSort byKey =
      (members.insertionSort byKey).map fun kv => (kv.1, f kv.2) :=
  (List.map_insertionSort byKey byKey (fun kv => (kv.1, f kv.2)) members fun _ _ _ _ => Iff.rfl).symm

/-- The members of a mapping are written in the order of their keys. -/
theorem memberTexts_eq_map (level : Nat) (members : List (String × Value)) :
    memberTexts (members.map fun kv => (kv.1, render F level kv.2)) =
      (members.insertionSort byKey).map (memberText F level) := by
  have hsort := insertionSort_map (render F level) members
  unfold memberTexts
  show ((members.map fun kv => (kv.1, render F level kv.2)).insertionSort byKey).map _ = _
  rw [hsort, List.map_map]
  rfl

/-- **A mapping is read back**, when the values of its members are and no key occurs twice. -/
theorem readBack_dict {members : List (String × Value)} (hkeys : (members.map Prod.fst).Nodup)
    (h : ∀ member ∈ members, ReadBack F member.2) : ReadBack F (.dict members) where
  starts level := ⟨'{', _, by rw [render]; rfl, rfl, by decide⟩
  parses level n rest hrest hn := by
    cases n with
    | zero => omega
    | succ n =>
        rw [render, renderMembers_eq_map, memberTexts_eq_map] at hn ⊢
        rw [canonical, canonicalMembers_eq_map, insertionSort_map]
        have hperm : (members.insertionSort byKey).Perm members := List.perm_insertionSort byKey members
        have hsorted : ∀ member ∈ members.insertionSort byKey, ReadBack F member.2 :=
          fun member hmember => h member (hperm.mem_iff.mp hmember)
        have hnodup : ((members.insertionSort byKey).map Prod.fst).Nodup :=
          ((hperm.map Prod.fst).nodup_iff).mpr hkeys
        generalize members.insertionSort byKey = sorted at hn hsorted hnodup ⊢
        cases sorted with
        | nil => rfl
        | cons member sorted =>
            have hbody : layout level '{' '}' ((member :: sorted).map (memberText F (level + 1))) ++ rest =
                '{' :: (newline (level + 1) ++ (membersText F (level + 1) (member :: sorted) ++
                  (newline level ++ '}' :: rest))) := by
              simp [layout, layoutBody, membersText]
            rw [hbody] at hn ⊢
            obtain ⟨tail, htext⟩ := membersText_cons F (level + 1) member sorted
            have hstart : skip (membersText F (level + 1) (member :: sorted) ++
                (newline level ++ '}' :: rest)) =
                  membersText F (level + 1) (member :: sorted) ++ (newline level ++ '}' :: rest) := by
              rw [htext]
              exact skip_of_not_blank rfl _
            have hskip := (skip_newline (level + 1) _).trans hstart
            have hinner : ∀ rest', membersText F (level + 1) (member :: sorted) ++
                (newline level ++ '}' :: rest) ≠ '}' :: rest' := by
              intro rest' heq
              rw [htext] at heq
              exact absurd (List.cons.inj heq).1 (by decide)
            rw [parseValue_dict hskip hinner, parseMembers_membersText _ (List.cons_ne_nil _ _) hsorted]
            · rfl
            · simpa using hnodup
            · simp only [List.length_cons, List.length_append] at hn ⊢
              omega

mutual

/-- **A writable value is read back.** -/
theorem readBack : ∀ value, Writable F value → ReadBack F value
  | .none, _ =>
      readBack_scalar (c := 'n') (fun _ => rfl) (by simp [Nesting.structural]) rfl
        fun rest _ => (parseScalar_word F rest).1
  | .bool b, _ => readBack_bool b
  | .int n, h => readBack_number (fun _ => rfl) (intText_number n) fun _ => parseScalar_int F h
  | .float x, h => readBack_float x h
  | .str s, _ => readBack_str s
  | .list items, h => readBack_list (readBack_items items h)
  | .dict members, h => readBack_dict h.1 (readBack_members members h.2)

theorem readBack_items : ∀ items, WritableItems F items → ∀ item ∈ items, ReadBack F item
  | [], _ => fun _ hitem => absurd hitem List.not_mem_nil
  | first :: items, h => fun item hitem => by
      rcases List.mem_cons.mp hitem with heq | hmem
      · rw [heq]
        exact readBack first h.1
      · exact readBack_items items h.2 item hmem

theorem readBack_members :
    ∀ members, WritableMembers F members → ∀ member ∈ members, ReadBack F member.2
  | [], _ => fun _ hmember => absurd hmember List.not_mem_nil
  | (key, value) :: members, h => fun member hmember => by
      rcases List.mem_cons.mp hmember with heq | hmem
      · rw [heq]
        exact readBack value h.1
      · exact readBack_members members h.2 member hmem

end

mutual

theorem printable_of_writable : ∀ value, Writable F value → printable value = true
  | .none, _ => rfl
  | .bool _, _ => rfl
  | .int n, h => by
      rw [printable]
      exact decide_eq_true h
  | .float _, _ => rfl
  | .str _, _ => rfl
  | .list items, h => by
      rw [printable]
      exact printableItems_of_writable items h
  | .dict members, h => by
      rw [printable]
      exact printableMembers_of_writable members h.2

theorem printableItems_of_writable : ∀ items, WritableItems F items → printableItems items = true
  | [], _ => rfl
  | item :: items, h => by
      rw [printableItems, printable_of_writable item h.1, printableItems_of_writable items h.2]
      rfl

theorem printableMembers_of_writable :
    ∀ members, WritableMembers F members → printableMembers members = true
  | [], _ => rfl
  | (_, value) :: members, h => by
      rw [printableMembers, printable_of_writable value h.1, printableMembers_of_writable members h.2]
      rfl

end

/-- **What is written is read back**, but for the order of the members of mappings. -/
theorem loads_dumps {value : Value} (h : Writable F value) :
    ∃ text, dumps F value = .ok text ∧ loads F text = some (canonical value) := by
  refine ⟨render F 0 value, if_pos (printable_of_writable value h), ?_⟩
  have hback := readBack value h
  have hskip := hback.skip_eq 0 []
  have hparse := hback.parses 0 (2 * (render F 0 value).length + 1) [] nofun (by simp)
  rw [List.append_nil] at hskip hparse
  unfold loads
  rw [hskip, hparse]
  rfl

end values

end Json
