import Lmrs.Lib.Text

/-!
# Addresses and the authority of a URL

What `urllib.parse.urlparse` reads off a URL as far as its authority: the scheme, the host name and the port.
Addresses in brackets are checked as `ipaddress` checks them. Whether the normal form of a text that is not ASCII
holds a delimiter is a parameter (`clashes`); an ASCII text is not asked.

* `ipv4`, `ipv6`: the numbers an address text stands for. `ipv6_chars`: what it is written with.
* `urlsplit_format`: the parts of a URL that was put together from a scheme and an authority.
* `hostinfo_name`, `hostinfo_bracketed`: host and port of an authority whose host is a name, or an address in
  brackets; `lowerCase_hostname` and `port_of_digits` say what is read of them.
* `port_of_colon`: in an authority whose host holds a colon outside brackets there is no port to read.
-/

namespace Url

open Python

/-! ## Characters and parts -/

/-- A letter of ASCII in lower case. -/
def lowerCase (cs : List Char) : List Char := cs.map Char.toLower

/-- What is before the first separator, `text.partition(sep)[0]`. -/
def before (sep : Char) (cs : List Char) : List Char := cs.takeWhile fun c => c ≠ sep

/-- What is after the first separator, `text.partition(sep)[2]`. -/
def after (sep : Char) (cs : List Char) : List Char := (cs.dropWhile fun c => c ≠ sep).tail

/-- A hexadecimal digit. -/
def isHex (c : Char) : Bool := c.isDigit || ('a' ≤ c && c ≤ 'f') || ('A' ≤ c && c ≤ 'F')

/-- The value of a hexadecimal digit. -/
def hexValue (c : Char) : Nat :=
  if c.isDigit then c.toNat - '0'.toNat
  else if 'a' ≤ c then c.toNat - 'a'.toNat + 10
  else c.toNat - 'A'.toNat + 10

section parts

variable {sep : Char} {first : List Char}

theorem before_append (h : sep ∉ first) (rest : List Char) : before sep (first ++ sep :: rest) = first := by
  unfold before
  rw [List.takeWhile_append_of_pos]
  · simp
  · intro c hc
    simpa using fun heq : c = sep => h (heq ▸ hc)

theorem after_append (h : sep ∉ first) (rest : List Char) : after sep (first ++ sep :: rest) = rest := by
  unfold after
  rw [List.dropWhile_append_of_pos]
  · simp
  · intro c hc
    simpa using fun heq : c = sep => h (heq ▸ hc)

/-- Without the separator all is before it. -/
theorem before_of_not_mem (h : sep ∉ first) : before sep first = first := by
  unfold before
  rw [List.takeWhile_eq_self_iff]
  intro c hc
  simpa using fun heq : c = sep => h (heq ▸ hc)

/-- A character of a split text is the separator, or of a part. -/
theorem mem_splitOn (sep : Char) {cs : List Char} {c : Char} (h : c ∈ cs) :
    c = sep ∨ ∃ part ∈ splitOn sep cs, c ∈ part := by
  induction cs with
  | nil => cases h
  | cons d cs ih =>
      unfold splitOn
      by_cases hd : d = sep
      · rw [if_pos hd]
        rcases List.mem_cons.mp h with rfl | hmem
        · exact Or.inl hd
        · obtain hsep | ⟨part, hpart, hc⟩ := ih hmem
          · exact Or.inl hsep
          · exact Or.inr ⟨part, List.mem_cons_of_mem _ hpart, hc⟩
      · rw [if_neg hd]
        cases hparts : splitOn sep cs with
        | nil =>
            rw [hparts] at ih
            rcases List.mem_cons.mp h with rfl | hmem
            · exact Or.inr ⟨[c], by simp⟩
            · exact Or.inl ((ih hmem).resolve_right (by simp))
        | cons part parts =>
            rw [hparts] at ih
            rcases List.mem_cons.mp h with rfl | hmem
            · exact Or.inr ⟨c :: part, by simp⟩
            · obtain hsep | ⟨part', hpart, hc⟩ := ih hmem
              · exact Or.inl hsep
              · rcases List.mem_cons.mp hpart with rfl | hlater
                · exact Or.inr ⟨d :: part', by simp, List.mem_cons_of_mem _ hc⟩
                · exact Or.inr ⟨part', List.mem_cons_of_mem _ hlater, hc⟩

end parts

/-! ## Addresses -/

/-- A decimal octet: no leading zero, at most 255. -/
def octet (cs : List Char) : Option Nat :=
  if cs ≠ [] ∧ cs.length ≤ 3 ∧ cs.all Char.isDigit ∧ (cs.head? = some '0' → cs = ['0']) ∧
      ofDigits (cs.map fun c => c.toNat - '0'.toNat) ≤ 255 then
    some (ofDigits (cs.map fun c => c.toNat - '0'.toNat))
  else none

/-- The octets of an IPv4 address. -/
def ipv4 (cs : List Char) : Option (List Nat) :=
  match (splitOn '.' cs).mapM octet with
  | some [a, b, c, d] => some [a, b, c, d]
  | _ => none

/-- A group of an IPv6 address: one to four hexadecimal digits. -/
def hextet (cs : List Char) : Option Nat :=
  if cs ≠ [] ∧ cs.length ≤ 4 ∧ cs.all isHex then some (cs.foldl (fun n c => 16 * n + hexValue c) 0) else none

/-- Groups, the last of which may be written as an IPv4 address. -/
def groupList : List (List Char) → Option (List Nat)
  | [] => some []
  | [last] =>
      if '.' ∈ last then
        (ipv4 last).map fun octets =>
          [octets.getD 0 0 * 256 + octets.getD 1 0, octets.getD 2 0 * 256 + octets.getD 3 0]
      else (hextet last).map fun n => [n]
  | part :: parts => do
      let n ← hextet part
      let rest ← groupList parts
      some (n :: rest)

/-- The groups of a text between colons, of which there are none in the empty text. -/
def groups (cs : List Char) : Option (List Nat) := if cs = [] then some [] else groupList (splitOn ':' cs)

/-- The groups before a run of zeros. -/
def leadingGroups (cs : List Char) : Option (List Nat) :=
  if cs = [] then some [] else (splitOn ':' cs).mapM hextet

/-- A text at its first two colons in a row. -/
def splitRun : List Char → Option (List Char × List Char)
  | [] => none
  | ':' :: ':' :: rest => some ([], rest)
  | c :: rest => (splitRun rest).map fun halves => (c :: halves.1, halves.2)

/-- The eight groups of an IPv6 address: all of them, or those on the two sides of one run of zeros. -/
def ipv6 (cs : List Char) : Option (List Nat) :=
  match splitRun cs with
  | some (high, low) => do
      let high ← leadingGroups high
      let low ← groups low
      if high.length + low.length ≤ 7 then
        some (high ++ List.replicate (8 - (high.length + low.length)) 0 ++ low)
      else none
  | none => do
      let all ← groups cs
      if all.length = 8 then some all else none

example : ipv6 "::".toList = some (List.replicate 8 0) := by decide
example : ipv6 "2001:db8::1".toList = some [0x2001, 0xdb8, 0, 0, 0, 0, 0, 1] := by decide
example : (ipv6 "1::2::3".toList).isNone := by decide

/-- A character of an IPv6 address. -/
def isIpv6Char (c : Char) : Bool := isHex c || c = ':' || c = '.'

section addresses

variable {cs : List Char}

theorem hextet_chars {n : Nat} (h : hextet cs = some n) : ∀ c ∈ cs, isIpv6Char c = true := by
  unfold hextet at h
  split_ifs at h with hcs
  intro c hc
  have hhex := List.all_eq_true.mp hcs.2.2 c hc
  simp [isIpv6Char, hhex]

theorem mapM_some_mem {α β : Type} {f : α → Option β} {xs : List α} {ys : List β} (h : xs.mapM f = some ys) :
    ∀ x ∈ xs, ∃ y, f x = some y := by
  induction xs generalizing ys with
  | nil => simp
  | cons x xs ih =>
      simp only [List.mapM_cons, Option.bind_eq_bind, Option.bind_eq_some_iff, Option.pure_def] at h
      obtain ⟨y, hy, rest, hrest, -⟩ := h
      exact List.forall_mem_cons.mpr ⟨⟨y, hy⟩, ih hrest⟩

theorem ipv4_chars {octets : List Nat} (h : ipv4 cs = some octets) : ∀ c ∈ cs, isIpv6Char c = true := by
  have hparts : ∃ all, (splitOn '.' cs).mapM octet = some all := by
    unfold ipv4 at h
    cases hall : (splitOn '.' cs).mapM octet with
    | none =>
        rw [hall] at h
        cases h
    | some all => exact ⟨all, rfl⟩
  obtain ⟨all, hall⟩ := hparts
  intro c hc
  obtain rfl | ⟨part, hpart, hcpart⟩ := mem_splitOn '.' hc
  · rfl
  · obtain ⟨n, hn⟩ := mapM_some_mem hall part hpart
    unfold octet at hn
    split_ifs at hn with hoctet
    have hdigit := List.all_eq_true.mp hoctet.2.2.1 c hcpart
    simp [isIpv6Char, isHex, hdigit]

theorem groupList_chars {parts : List (List Char)} {ns : List Nat} (h : groupList parts = some ns) :
    ∀ part ∈ parts, ∀ c ∈ part, isIpv6Char c = true := by
  induction parts using groupList.induct generalizing ns with
  | case1 => simp
  | case2 last hdot =>
      rw [groupList, if_pos hdot] at h
      obtain ⟨octets, hoctets, -⟩ := Option.map_eq_some_iff.mp h
      simpa using ipv4_chars hoctets
  | case3 last hdot =>
      rw [groupList, if_neg hdot] at h
      obtain ⟨n, hn, -⟩ := Option.map_eq_some_iff.mp h
      simpa using hextet_chars hn
  | case4 part parts hne ih =>
      rw [groupList.eq_3 _ _ hne] at h
      simp only [Option.bind_eq_bind, Option.bind_eq_some_iff] at h
      obtain ⟨n, hn, rest, hrest, -⟩ := h
      exact List.forall_mem_cons.mpr ⟨hextet_chars hn, ih hrest⟩

theorem groups_chars {ns : List Nat} (h : groups cs = some ns) : ∀ c ∈ cs, isIpv6Char c = true := by
  unfold groups at h
  split_ifs at h with hempty
  · simp [hempty]
  · intro c hc
    obtain rfl | ⟨part, hpart, hcpart⟩ := mem_splitOn ':' hc
    · rfl
    · exact groupList_chars h part hpart c hcpart

theorem leadingGroups_chars {ns : List Nat} (h : leadingGroups cs = some ns) : ∀ c ∈ cs, isIpv6Char c = true := by
  unfold leadingGroups at h
  split_ifs at h with hempty
  · simp [hempty]
  · intro c hc
    obtain rfl | ⟨part, hpart, hcpart⟩ := mem_splitOn ':' hc
    · rfl
    · obtain ⟨n, hn⟩ := mapM_some_mem h part hpart
      exact hextet_chars hn c hcpart

theorem splitRun_eq_some {high low : List Char} (h : splitRun cs = some (high, low)) :
    cs = high ++ ':' :: ':' :: low := by
  induction cs using splitRun.induct generalizing high with
  | case1 => cases h
  | case2 rest =>
      cases h
      rfl
  | case3 c rest hne ih =>
      rw [splitRun.eq_3 _ _ hne] at h
      obtain ⟨⟨high', low'⟩, hrest, heq⟩ := Option.map_eq_some_iff.mp h
      cases heq
      rw [ih hrest]
      rfl

/-- **What an IPv6 address is written with.** -/
theorem ipv6_chars {ns : List Nat} (h : ipv6 cs = some ns) : ∀ c ∈ cs, isIpv6Char c = true := by
  unfold ipv6 at h
  cases hrun : splitRun cs with
  | none =>
      rw [hrun] at h
      simp only [Option.bind_eq_bind, Option.bind_eq_some_iff] at h
      obtain ⟨all, hall, -⟩ := h
      exact groups_chars hall
  | some halves =>
      obtain ⟨high, low⟩ := halves
      rw [hrun] at h
      simp only [Option.bind_eq_bind, Option.bind_eq_some_iff] at h
      obtain ⟨highs, hhigh, lows, hlow, -⟩ := h
      rw [splitRun_eq_some hrun]
      intro c hc
      rw [List.mem_append, List.mem_cons, List.mem_cons] at hc
      rcases hc with hc | rfl | rfl | hc
      · exact leadingGroups_chars hhigh c hc
      · rfl
      · rfl
      · exact groups_chars hlow c hc

/-- **An IPv6 address holds a colon.** -/
theorem colon_mem_ipv6 {ns : List Nat} (h : ipv6 cs = some ns) : ':' ∈ cs := by
  by_contra hnone
  unfold ipv6 at h
  cases hrun : splitRun cs with
  | some halves =>
      obtain ⟨high, low⟩ := halves
      rw [splitRun_eq_some hrun] at hnone
      simp at hnone
  | none =>
      -- without a colon there are two groups at most
      rw [hrun] at h
      simp only [Option.bind_eq_bind, Option.bind_eq_some_iff] at h
      obtain ⟨all, hall, hlength⟩ := h
      unfold groups at hall
      rw [splitOn_of_not_mem hnone] at hall
      have hshort : all.length ≤ 2 := by
        split_ifs at hall with hempty
        · cases hall
          simp
        · rw [groupList] at hall
          split_ifs at hall
          · obtain ⟨octets, -, rfl⟩ := Option.map_eq_some_iff.mp hall
            simp
          · obtain ⟨n, -, rfl⟩ := Option.map_eq_some_iff.mp hall
            simp
      rw [if_neg (by omega)] at hlength
      cases hlength

end addresses

/-! ## Reading a URL -/

/-- A control character or a space, which are skipped in front of a URL. -/
def isC0OrSpace (c : Char) : Bool := c.toNat ≤ 0x20

/-- The characters that are removed wherever they stand in a URL. -/
def unsafeToKeep : List Char := ['\t', '\r', '\n']

/-- A URL without what is skipped and removed. -/
def cleaned (url : List Char) : List Char :=
  (url.dropWhile isC0OrSpace).filter fun c => c ∉ unsafeToKeep

/-- A character of a scheme. -/
def isSchemeChar (c : Char) : Bool := c.isAlphanum || c = '+' || c = '-' || c = '.'

/-- The scheme in front of the first colon, in lower case, and the rest; no scheme where there is none. -/
def splitScheme (url : List Char) : List Char × List Char :=
  if ':' ∈ url ∧ ((before ':' url).head?.any Char.isAlpha) ∧ (before ':' url).all isSchemeChar then
    (lowerCase (before ':' url), after ':' url)
  else ([], url)

/-- The characters that end an authority. -/
def authorityEnds : List Char := ['/', '?', '#']

/-- The text between the first brackets. -/
def bracketedHost (netloc : List Char) : List Char := before ']' (after '[' netloc)

/-- An address of a version to come: a `v`, its version and a text. -/
def isFutureAddress (cs : List Char) : Bool :=
  match cs with
  | 'v' :: rest =>
      (rest.takeWhile isHex ≠ []) && (before '.' rest = rest.takeWhile isHex) && (after '.' rest ≠ []) &&
        ('\n' ∉ after '.' rest)
  | _ => false

/-- An IPv6 address, with a scope after a percent sign or without one. -/
def isScopedIpv6 (cs : List Char) : Bool :=
  (ipv6 (before '%' cs)).isSome && ('%' ∉ cs || (after '%' cs ≠ [] && '%' ∉ after '%' cs))

/-- The check of an address in brackets. -/
def checkBracketedHost (host : List Char) : Except PyException Unit :=
  if host.head? = some 'v' then
    if isFutureAddress host then .ok () else .error (valueError "IPvFuture address is invalid")
  else if (ipv4 host).isSome then .error (valueError "An IPv4 address cannot be in brackets")
  else if isScopedIpv6 host then .ok ()
  else .error (valueError "does not appear to be an IPv4 or IPv6 address")

/-- The brackets of an authority. -/
def checkBrackets (netloc : List Char) : Except PyException Unit :=
  if ('[' ∈ netloc ∧ ']' ∉ netloc) ∨ (']' ∈ netloc ∧ '[' ∉ netloc) then .error (valueError "Invalid IPv6 URL")
  else if '[' ∈ netloc then checkBracketedHost (bracketedHost netloc)
  else .ok ()

/-- The check of an authority that is not ASCII. -/
def checkNetloc (clashes : List Char → Bool) (netloc : List Char) : Except PyException Unit :=
  if (netloc.all fun c => c.toNat < 128) = false ∧ clashes netloc = true then
    .error (valueError "netloc contains invalid characters under NFKC normalization")
  else .ok ()

/-- The scheme and the authority of a URL. -/
structure Split where
  scheme : List Char
  netloc : List Char
  deriving DecidableEq

/-- `urlsplit(url)`, as far as the authority. -/
def urlsplit (clashes : List Char → Bool) (url : List Char) : Except PyException Split := do
  let parts := splitScheme (cleaned url)
  if parts.2.take 2 = ['/', '/'] then
    let netloc := (parts.2.drop 2).takeWhile fun c => c ∉ authorityEnds
    checkBrackets netloc
    checkNetloc clashes netloc
    return ⟨parts.1, netloc⟩
  else return ⟨parts.1, []⟩

/-- The host and the port of an authority, as texts. -/
def hostinfo (netloc : List Char) : List Char × List Char :=
  let info := (rpartition '@' netloc).2
  if '[' ∈ info then (before ']' (after '[' info), after ':' (after ']' (after '[' info)))
  else (before ':' info, after ':' info)

/-- The host name: in lower case, but for the scope of an address; none where it is empty. -/
def hostname (netloc : List Char) : Option (List Char) :=
  let host := (hostinfo netloc).1
  if host = [] then none
  else some (lowerCase (before '%' host) ++ host.drop (before '%' host).length)

/-- The port: none where the text is empty. -/
def port (netloc : List Char) : Except PyException (Option Int) :=
  let text := (hostinfo netloc).2
  if text = [] then .ok none
  else if text.all Char.isDigit then do
    let number ← intOfString (String.ofList text)
    if 0 ≤ number ∧ number ≤ 65535 then return some number
    else .error (valueError "Port out of range 0-65535")
  else .error (valueError "Port could not be cast to integer value")

/-! ## A URL that was put together -/

/-- A character of a name: of a registered name as the grammar of URLs has it. -/
def isNameChar (c : Char) : Bool :=
  c.isAlphanum || c ∈ ['-', '.', '_', '~', '!', '$', '&', '\'', '(', ')', '*', '+', ',', ';', '=', '%']

/-- A character that ends, moves or hides nothing in an authority. -/
def Plain (c : Char) : Prop := 0x20 < c.toNat ∧ c.toNat < 128 ∧ c ∉ authorityEnds ∧ c ≠ '@'

instance (c : Char) : Decidable (Plain c) := inferInstanceAs (Decidable (_ ∧ _))

section characters

variable {c : Char}

/-- What holds of every character of ASCII holds of one of them. -/
theorem of_ascii {P : Char → Prop} (hc : c.toNat < 128) (h : ∀ k < 128, P (Char.ofNat k)) : P c := by
  have hk := h c.toNat hc
  rwa [Char.ofNat_toNat] at hk

theorem lt_of_isAlphanum (h : c.isAlphanum = true) : c.toNat < 128 := by
  simp only [Char.isAlphanum, Char.isAlpha, Char.isUpper, Char.isLower, Char.isDigit, Bool.or_eq_true,
    Bool.and_eq_true, decide_eq_true_eq, ge_iff_le, UInt32.le_iff_toNat_le] at h
  have hvalue : c.toNat = c.val.toNat := rfl
  rcases h with (⟨-, h⟩ | ⟨-, h⟩) | ⟨-, h⟩
  · exact hvalue ▸ lt_of_le_of_lt h (by decide)
  · exact hvalue ▸ lt_of_le_of_lt h (by decide)
  · exact hvalue ▸ lt_of_le_of_lt h (by decide)

/-- A character of a name is plain, and no colon and no bracket. -/
theorem nameChar_facts (h : isNameChar c = true) : Plain c ∧ c ≠ ':' ∧ c ≠ '[' ∧ c ≠ ']' := by
  have hc : c.toNat < 128 := by
    unfold isNameChar at h
    rcases Bool.or_eq_true_iff.mp h with halphanum | hmem
    · exact lt_of_isAlphanum halphanum
    · have hall : ∀ c ∈ ['-', '.', '_', '~', '!', '$', '&', '\'', '(', ')', '*', '+', ',', ';', '=', '%'],
          c.toNat < 128 := by simp
      exact hall c (of_decide_eq_true hmem)
  revert h
  refine of_ascii (P := fun c => isNameChar c = true → Plain c ∧ c ≠ ':' ∧ c ≠ '[' ∧ c ≠ ']') hc ?_
  decide

/-- A character of an IPv6 address is plain, and no bracket, no percent sign and no `v`. -/
theorem ipv6Char_facts (h : isIpv6Char c = true) : Plain c ∧ c ≠ '[' ∧ c ≠ ']' ∧ c ≠ '%' ∧ c ≠ 'v' := by
  have hc : c.toNat < 128 := by
    simp only [isIpv6Char, isHex, Bool.or_eq_true, Bool.and_eq_true, decide_eq_true_eq] at h
    have hle {a b : Char} (hab : a ≤ b) (hb : b.toNat < 128) : a.toNat < 128 :=
      lt_of_le_of_lt (UInt32.le_iff_toNat_le.mp hab) hb
    rcases h with (((hdigit | ⟨-, hle'⟩) | ⟨-, hle'⟩) | rfl) | rfl
    · exact lt_of_isAlphanum (by simp [Char.isAlphanum, hdigit])
    · exact hle hle' (by decide)
    · exact hle hle' (by decide)
    · decide
    · decide
  revert h
  refine of_ascii (P := fun c => isIpv6Char c = true → Plain c ∧ c ≠ '[' ∧ c ≠ ']' ∧ c ≠ '%' ∧ c ≠ 'v') hc ?_
  decide

/-- A digit is plain, and no colon and no bracket. -/
theorem digit_plain (h : c.isDigit = true) : Plain c ∧ c ≠ ':' ∧ c ≠ '[' ∧ c ≠ ']' := by
  apply nameChar_facts
  simp [isNameChar, Char.isAlphanum, h]

end characters

section format

variable {clashes : List Char → Bool} {scheme netloc host digits : List Char}

/-- Nothing is skipped in a URL of visible characters, and nothing removed. -/
theorem cleaned_of_visible {url : List Char} (h : ∀ c ∈ url, 0x20 < c.toNat) : cleaned url = url := by
  have hkept : url.dropWhile isC0OrSpace = url := by
    rw [List.dropWhile_eq_self_iff]
    intro hlength
    simpa [isC0OrSpace] using h _ (List.getElem_mem hlength)
  unfold cleaned
  rw [hkept, List.filter_eq_self]
  intro c hc
  have hsafe : ∀ d ∈ unsafeToKeep, d.toNat ≤ 0x20 := by simp [unsafeToKeep]
  simpa using fun hmem => absurd (h c hc) (not_lt.mpr (hsafe c hmem))

/-- The scheme is what was put in front of the colon. -/
theorem splitScheme_format (hfirst : scheme.head?.any Char.isAlpha = true)
    (hscheme : ∀ c ∈ scheme, isSchemeChar c = true ∧ Plain c ∧ c ≠ ':' ∧ c.toLower = c) (rest : List Char) :
    splitScheme (scheme ++ ':' :: rest) = (scheme, rest) := by
  have hcolon : ':' ∉ scheme := fun hmem => (hscheme _ hmem).2.2.1 rfl
  have hlower : lowerCase scheme = scheme := by
    unfold lowerCase
    conv_rhs => rw [← List.map_id scheme]
    exact List.map_congr_left fun c hc => (hscheme c hc).2.2.2
  unfold splitScheme
  rw [before_append hcolon, after_append hcolon, if_pos, hlower]
  exact ⟨by simp, hfirst, List.all_eq_true.mpr fun c hc => (hscheme c hc).1⟩

/-- An authority of plain characters is ASCII, so it does not come to the check of one that is not. -/
theorem checkNetloc_of_plain (clashes : List Char → Bool) (h : ∀ c ∈ netloc, Plain c) :
    checkNetloc clashes netloc = .ok () := by
  have hascii : (netloc.all fun c => c.toNat < 128) = true := by
    rw [List.all_eq_true]
    exact fun c hc => by simpa using (h c hc).2.1
  unfold checkNetloc
  rw [if_neg]
  simp [hascii]

/-- **The parts of a URL put together** from a scheme and an authority of plain characters, which has to stand the
check of its brackets. -/
theorem urlsplit_format (hfirst : scheme.head?.any Char.isAlpha = true)
    (hscheme : ∀ c ∈ scheme, isSchemeChar c = true ∧ Plain c ∧ c ≠ ':' ∧ c.toLower = c)
    (hnetloc : ∀ c ∈ netloc, Plain c) :
    urlsplit clashes (scheme ++ ':' :: '/' :: '/' :: netloc) =
      (checkBrackets netloc >>= fun _ => .ok ⟨scheme, netloc⟩) := by
  have hvisible : ∀ c ∈ scheme ++ ':' :: '/' :: '/' :: netloc, 0x20 < c.toNat := by
    intro c hc
    simp only [List.mem_append, List.mem_cons] at hc
    rcases hc with hc | rfl | rfl | rfl | hc
    · exact (hscheme c hc).2.1.1
    · decide
    · decide
    · decide
    · exact (hnetloc c hc).1
  have hends : netloc.takeWhile (fun c => c ∉ authorityEnds) = netloc := by
    rw [List.takeWhile_eq_self_iff]
    exact fun c hc => by simpa using (hnetloc c hc).2.2.1
  unfold urlsplit
  dsimp only
  rw [cleaned_of_visible hvisible, splitScheme_format hfirst hscheme]
  simp only [List.take_succ_cons, List.take_zero, if_true, List.drop_succ_cons, List.drop_zero, hends,
    checkNetloc_of_plain clashes hnetloc]
  rfl

/-- Without an `@` the host and the port are all of an authority. -/
theorem info_of_plain (h : ∀ c ∈ netloc, Plain c) : (rpartition '@' netloc).2 = netloc := by
  rw [rpartition_of_not_mem]
  exact fun hmem => (h _ hmem).2.2.2 rfl

/-- Host and port of an authority whose host holds no colon and no bracket. -/
theorem hostinfo_name (hhost : ∀ c ∈ host, Plain c ∧ c ≠ ':' ∧ c ≠ '[' ∧ c ≠ ']')
    (hdigits : ∀ c ∈ digits, c.isDigit = true) :
    hostinfo (host ++ ':' :: digits) = (host, digits) ∧ checkBrackets (host ++ ':' :: digits) = .ok () := by
  have hplain : ∀ c ∈ host ++ ':' :: digits, Plain c ∧ c ≠ '[' ∧ c ≠ ']' := by
    intro c hc
    simp only [List.mem_append, List.mem_cons] at hc
    rcases hc with hc | rfl | hc
    · exact ⟨(hhost c hc).1, (hhost c hc).2.2⟩
    · decide
    · exact ⟨(digit_plain (hdigits c hc)).1, (digit_plain (hdigits c hc)).2.2⟩
  have hopen : '[' ∉ host ++ ':' :: digits := fun hmem => (hplain _ hmem).2.1 rfl
  have hclose : ']' ∉ host ++ ':' :: digits := fun hmem => (hplain _ hmem).2.2 rfl
  have hcolon : ':' ∉ host := fun hmem => (hhost _ hmem).2.1 rfl
  constructor
  · unfold hostinfo
    rw [info_of_plain fun c hc => (hplain c hc).1]
    dsimp only
    rw [if_neg hopen, before_append hcolon, after_append hcolon]
  · unfold checkBrackets
    rw [if_neg (by tauto), if_neg hopen]

/-- An address that holds a colon is no IPv4 address. -/
theorem ipv4_eq_none_of_colon (h : ':' ∈ host) : ipv4 host = none := by
  unfold ipv4
  cases hall : (splitOn '.' host).mapM octet with
  | none => rfl
  | some all =>
      exfalso
      obtain hdot | ⟨part, hpart, hcolon⟩ := mem_splitOn '.' h
      · exact absurd hdot (by decide)
      · obtain ⟨n, hn⟩ := mapM_some_mem hall part hpart
        unfold octet at hn
        split_ifs at hn with hoctet
        exact absurd (List.all_eq_true.mp hoctet.2.2.1 ':' hcolon) (by decide)

/-- An IPv6 address stands the check of an address in brackets. -/
theorem checkBracketedHost_ipv6 {ns : List Nat} (h : ipv6 host = some ns) : checkBracketedHost host = .ok () := by
  have hchars : ∀ c ∈ host, c ≠ '%' ∧ c ≠ 'v' := fun c hc => (ipv6Char_facts (ipv6_chars h c hc)).2.2.2
  have hversion : host.head? ≠ some 'v' := by
    intro hhead
    exact (hchars 'v' (List.mem_of_mem_head? hhead)).2 rfl
  have hscope : '%' ∉ host := fun hmem => (hchars _ hmem).1 rfl
  unfold checkBracketedHost
  rw [if_neg hversion, ipv4_eq_none_of_colon (colon_mem_ipv6 h), if_neg (by simp), if_pos]
  unfold isScopedIpv6
  rw [before_of_not_mem hscope, h]
  simp [hscope]

/-- Host and port of an authority whose host is an IPv6 address in brackets. -/
theorem hostinfo_bracketed {ns : List Nat} (h : ipv6 host = some ns) (hdigits : ∀ c ∈ digits, c.isDigit = true) :
    hostinfo ('[' :: (host ++ ']' :: ':' :: digits)) = (host, digits) ∧
      checkBrackets ('[' :: (host ++ ']' :: ':' :: digits)) = .ok () ∧
      ∀ c ∈ '[' :: (host ++ ']' :: ':' :: digits), Plain c := by
  have hchars : ∀ c ∈ host, Plain c ∧ c ≠ '[' ∧ c ≠ ']' := fun c hc =>
    ⟨(ipv6Char_facts (ipv6_chars h c hc)).1, (ipv6Char_facts (ipv6_chars h c hc)).2.1,
      (ipv6Char_facts (ipv6_chars h c hc)).2.2.1⟩
  have hplain : ∀ c ∈ '[' :: (host ++ ']' :: ':' :: digits), Plain c := by
    intro c hc
    simp only [List.mem_append, List.mem_cons] at hc
    rcases hc with rfl | hc | rfl | rfl | hc
    · decide
    · exact (hchars c hc).1
    · decide
    · decide
    · exact (digit_plain (hdigits c hc)).1
  have hclose : ']' ∉ host := fun hmem => (hchars _ hmem).2.2 rfl
  have hinside : after '[' ('[' :: (host ++ ']' :: ':' :: digits)) = host ++ ']' :: ':' :: digits :=
    by simp [after]
  have hport : after ':' (':' :: digits) = digits := by simp [after]
  refine ⟨?_, ?_, hplain⟩
  · unfold hostinfo
    rw [info_of_plain hplain]
    dsimp only
    rw [if_pos (List.mem_cons_self ..), hinside, before_append hclose, after_append hclose, hport]
  · unfold checkBrackets
    rw [if_neg (by simp), if_pos (List.mem_cons_self ..), bracketedHost, hinside, before_append hclose]
    exact checkBracketedHost_ipv6 h

/-- **The host name of an authority**, but for the case of its letters. -/
theorem lowerCase_hostname (h : (hostinfo netloc).1 = host) (hne : host ≠ []) :
    ∃ name, hostname netloc = some name ∧ lowerCase name = lowerCase host := by
  unfold hostname
  dsimp only
  rw [h, if_neg hne]
  refine ⟨_, rfl, ?_⟩
  have hidem (cs : List Char) : lowerCase (lowerCase cs) = lowerCase cs := by
    unfold lowerCase
    rw [List.map_map]
    refine List.map_congr_left fun c _ => ?_
    exact Char.toLower_toLower_eq_toLower c
  have hsplit : before '%' host ++ host.drop (before '%' host).length = host := by
    exact List.prefix_iff_eq_append.mp (List.takeWhile_prefix _)
  calc lowerCase (lowerCase (before '%' host) ++ host.drop (before '%' host).length)
      = lowerCase (before '%' host ++ host.drop (before '%' host).length) := by
        unfold lowerCase at hidem ⊢
        rw [List.map_append, List.map_append, hidem]
    _ = lowerCase host := by rw [hsplit]

/-- **The port of an authority** that was written in digits. -/
theorem port_of_digits {n : Nat} (h : (hostinfo netloc).2 = Nat.toDigits 10 n) (hn : n ≤ 65535) :
    port netloc = .ok (some n) := by
  have hdigits : ∀ c ∈ Nat.toDigits 10 n, c.isDigit = true :=
    fun c hc => Nat.isDigit_of_mem_toDigits (by decide) (by decide) hc
  have hread : intOfString (String.ofList (Nat.toDigits 10 n)) = .ok n := by
    apply intOfString_toDigits
    · rw [String.toList_ofList]
      exact strip_of_no_space fun c hc => (digit_facts (hdigits c hc)).2.1
    · have hlength : (Nat.toDigits 10 n).length ≤ 5 :=
        (Nat.length_toDigits_le_iff (by decide) (by decide)).mpr (by omega)
      exact hlength.trans (by decide)
  unfold port
  dsimp only
  rw [h, if_neg Nat.toDigits_ne_nil, if_pos (List.all_eq_true.mpr hdigits), hread]
  simp only [bind, Except.bind]
  rw [if_pos ⟨by omega, by omega⟩]
  rfl

/-- **In an authority whose host holds a colon outside brackets there is no port to read.** -/
theorem port_of_colon (hhost : ∀ c ∈ host, Plain c ∧ c ≠ '[' ∧ c ≠ ']') (hcolon : ':' ∈ host)
    (hdigits : ∀ c ∈ digits, c.isDigit = true) :
    port (host ++ ':' :: digits) = .error (valueError "Port could not be cast to integer value") ∧
      checkBrackets (host ++ ':' :: digits) = .ok () := by
  have hplain : ∀ c ∈ host ++ ':' :: digits, Plain c ∧ c ≠ '[' ∧ c ≠ ']' := by
    intro c hc
    simp only [List.mem_append, List.mem_cons] at hc
    rcases hc with hc | rfl | hc
    · exact hhost c hc
    · decide
    · exact ⟨(digit_plain (hdigits c hc)).1, (digit_plain (hdigits c hc)).2.2⟩
  have hopen : '[' ∉ host ++ ':' :: digits := fun hmem => (hplain _ hmem).2.1 rfl
  have hclose : ']' ∉ host ++ ':' :: digits := fun hmem => (hplain _ hmem).2.2 rfl
  constructor
  · -- what is after the first colon holds the last one
    obtain ⟨first, rest, hsplit, hfirst⟩ := List.eq_append_cons_of_mem hcolon
    have hinfo : (hostinfo (host ++ ':' :: digits)).2 = rest ++ ':' :: digits := by
      unfold hostinfo
      rw [info_of_plain fun c hc => (hplain c hc).1]
      dsimp only
      rw [if_neg hopen, hsplit, List.append_assoc, List.cons_append, after_append hfirst]
    have hall : ((rest ++ ':' :: digits).all Char.isDigit) = false := by
      rw [List.all_eq_false]
      exact ⟨':', by simp, by decide⟩
    unfold port
    dsimp only
    rw [hinfo, if_neg (by simp), hall]
    rfl
  · unfold checkBrackets
    rw [if_neg (by tauto), if_neg hopen]

end format

end Url
