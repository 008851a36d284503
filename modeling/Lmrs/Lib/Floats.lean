import Lmrs.Lib.Text

/-!
# Floats from texts, and their sums

`floatOfString round` is `float(text)`, by the grammar the language documents, and `PyFloat.add round` the
sum of two floats. `round` is the float a rational becomes: the nearest one, or an infinity where there is
none. In exact arithmetic it is `PyFloat.finite`.

* `Decimal`: how a decimal number is written. `floatOfString_decimal`: it is read back.
* `floatOfString_chars`: what holds another character than those of literals is not read.
* `StaysFinite`, `foldl_add_finite_iff`: when the sum of a list is finite.
-/

namespace Python

/-! ## The grammar -/

/-- The sign of a literal, and what follows it. -/
def signed : List Char → Bool × List Char
  | '-' :: cs => (true, cs)
  | '+' :: cs => (false, cs)
  | cs => (false, cs)

/-- `inf`, `infinity` and `nan`, in any case. -/
def specialFloat (cs : List Char) : Option PyFloat :=
  let name := cs.map Char.toLower
  if name = "inf".toList ∨ name = "infinity".toList then some .posInf
  else if name = "nan".toList then some .nan
  else none

/-- The digits on one side of a point: there may be none. -/
def digitsOrNone (cs : List Char) : Option (List Nat) := if cs = [] then some [] else digits cs

/-- The number before an exponent. -/
def mantissa (cs : List Char) : Option ℚ :=
  let whole := cs.takeWhile fun c => c ≠ '.'
  match cs.dropWhile fun c => c ≠ '.' with
  | [] => (digits whole).map fun ds => (ofDigits ds : ℚ)
  | _ :: fraction =>
      if whole = [] ∧ fraction = [] then none
      else do
        let ws ← digitsOrNone whole
        let fs ← digitsOrNone fraction
        some ((ofDigits (ws ++ fs) : ℚ) / 10 ^ fs.length)

/-- The exponent after its mark. -/
def exponent (cs : List Char) : Option ℤ :=
  (digits (signed cs).2).map fun ds => if (signed cs).1 then -(ofDigits ds : ℤ) else ofDigits ds

/-- The marks of an exponent. -/
def exponentMarks : List Char := ['e', 'E']

/-- A decimal number without a sign. -/
def decimalNumber (cs : List Char) : Option ℚ :=
  match cs.dropWhile fun c => c ∉ exponentMarks with
  | [] => mantissa cs
  | _ :: rest => do
      let m ← mantissa (cs.takeWhile fun c => c ∉ exponentMarks)
      let e ← exponent rest
      some (m * 10 ^ e)

namespace PyFloat

/-- `-x`. -/
def neg : PyFloat → PyFloat
  | .finite q => .finite (-q)
  | .nan => .nan
  | .posInf => .negInf
  | .negInf => .posInf

/-- `x + y`. -/
def add (round : ℚ → PyFloat) : PyFloat → PyFloat → PyFloat
  | .finite a, .finite b => round (a + b)
  | .finite _, y => y
  | x, .finite _ => x
  | .posInf, .posInf => .posInf
  | .negInf, .negInf => .negInf
  | _, _ => .nan

/-- A float is a number. -/
def IsFinite (x : PyFloat) : Prop := ∃ q, x = .finite q

/-- A sum with what is no number is none. -/
theorem add_not_finite (round : ℚ → PyFloat) {x : PyFloat} (h : ¬ x.IsFinite) (y : PyFloat) :
    ¬ (add round x y).IsFinite := by
  unfold IsFinite at h ⊢
  cases x <;> cases y <;> simp_all [add]

theorem add_not_finite_right (round : ℚ → PyFloat) (x : PyFloat) {y : PyFloat} (h : ¬ y.IsFinite) :
    ¬ (add round x y).IsFinite := by
  unfold IsFinite at h ⊢
  cases x <;> cases y <;> simp_all [add]

end PyFloat

/-- `float(text)`; nothing for a `ValueError`. -/
def floatOfString (round : ℚ → PyFloat) (text : List Char) : Option PyFloat :=
  let (negative, unsigned) := signed (strip text)
  let value := (specialFloat unsigned).or ((decimalNumber unsigned).map round)
  value.map fun x => if negative then x.neg else x

example : floatOfString .finite " -1_2.5e1\t".toList = some (.finite (-125)) := by decide +kernel
example : floatOfString .finite "-iNf".toList = some .negInf := by decide +kernel
example : floatOfString .finite "nan-ish".toList = none := by decide +kernel

/-! ## The characters of a literal -/

/-- The characters a float literal may hold. -/
def isFloatChar (c : Char) : Bool :=
  (decimalValue c).isSome || c ∈ ['_', '.', 'e', 'E', '+', '-'] || c.toLower ∈ "infinitynan".toList

theorem digitTail_chars {cs : List Char} {ds : List Nat} (h : digitTail cs = some ds) :
    ∀ c ∈ cs, isFloatChar c = true := by
  have hvalue {c : Char} {d : Nat} (hc : decimalValue c = some d) : isFloatChar c = true := by
    simp [isFloatChar, hc]
  induction cs using digitTail.induct generalizing ds with
  | case1 => simp
  | case2 c cs ih =>
      rw [digitTail.eq_2] at h
      obtain ⟨d, hd, h⟩ := Option.bind_eq_some_iff.mp h
      obtain ⟨ds', hds, -⟩ := Option.bind_eq_some_iff.mp h
      exact List.forall_mem_cons.mpr ⟨rfl, List.forall_mem_cons.mpr ⟨hvalue hd, ih hds⟩⟩
  | case3 c cs hc ih =>
      rw [digitTail.eq_3 _ _ hc] at h
      obtain ⟨d, hd, h⟩ := Option.bind_eq_some_iff.mp h
      obtain ⟨ds', hds, -⟩ := Option.bind_eq_some_iff.mp h
      exact List.forall_mem_cons.mpr ⟨hvalue hd, ih hds⟩

theorem digits_chars {cs : List Char} {ds : List Nat} (h : digits cs = some ds) :
    cs ≠ [] ∧ ∀ c ∈ cs, isFloatChar c = true := by
  cases cs with
  | nil => cases h
  | cons c cs =>
      obtain ⟨d, hd, h⟩ := Option.bind_eq_some_iff.mp h
      obtain ⟨ds', hds, -⟩ := Option.bind_eq_some_iff.mp h
      exact ⟨List.cons_ne_nil _ _, List.forall_mem_cons.mpr ⟨by simp [isFloatChar, hd], digitTail_chars hds⟩⟩

/-- What a list is divided at, and its parts. -/
theorem dropWhile_cons {p : Char → Bool} {cs rest : List Char} {m : Char} (h : cs.dropWhile p = m :: rest) :
    p m = false ∧ cs ≠ [] ∧ ∀ c ∈ cs, c ∈ cs.takeWhile p ∨ c = m ∨ c ∈ rest := by
  have hstop : p m = false := by
    have hhead := List.head?_dropWhile_not p cs
    rw [h] at hhead
    simpa using hhead
  refine ⟨hstop, ?_, fun c hc => ?_⟩
  · rintro rfl
    cases h
  · rw [← List.takeWhile_append_dropWhile (p := p) (l := cs), h] at hc
    simpa using hc

theorem mantissa_chars {cs : List Char} {m : ℚ} (h : mantissa cs = some m) :
    cs ≠ [] ∧ ∀ c ∈ cs, isFloatChar c = true := by
  have hside {cs : List Char} {ds : List Nat} (h : digitsOrNone cs = some ds) :
      ∀ c ∈ cs, isFloatChar c = true := by
    unfold digitsOrNone at h
    split_ifs at h with hnil
    · simp [hnil]
    · exact (digits_chars h).2
  unfold mantissa at h
  dsimp only at h
  split at h
  · next hdrop =>
      obtain ⟨ds, hds, -⟩ := Option.map_eq_some_iff.mp h
      rw [List.takeWhile_eq_self_iff.mpr (List.dropWhile_eq_nil_iff.mp hdrop)] at hds
      exact digits_chars hds
  · next point fraction hdrop =>
      split_ifs at h
      obtain ⟨ws, hws, h⟩ := Option.bind_eq_some_iff.mp h
      obtain ⟨fs, hfs, -⟩ := Option.bind_eq_some_iff.mp h
      obtain ⟨hpoint, hne, hparts⟩ := dropWhile_cons hdrop
      refine ⟨hne, fun c hc => ?_⟩
      rcases hparts c hc with hmem | rfl | hmem
      · exact hside hws c hmem
      · obtain rfl : c = '.' := by simpa using hpoint
        rfl
      · exact hside hfs c hmem

theorem signed_chars {cs : List Char} (h : ∀ c ∈ (signed cs).2, isFloatChar c = true) :
    ∀ c ∈ cs, isFloatChar c = true := by
  unfold signed at h
  split at h
  · exact List.forall_mem_cons.mpr ⟨rfl, h⟩
  · exact List.forall_mem_cons.mpr ⟨rfl, h⟩
  · exact h

theorem decimalNumber_chars {cs : List Char} {q : ℚ} (h : decimalNumber cs = some q) :
    cs ≠ [] ∧ ∀ c ∈ cs, isFloatChar c = true := by
  unfold decimalNumber at h
  split at h
  · exact mantissa_chars h
  · next mark rest hdrop =>
      obtain ⟨m, hm, h⟩ := Option.bind_eq_some_iff.mp h
      obtain ⟨e, he, -⟩ := Option.bind_eq_some_iff.mp h
      obtain ⟨ds, hds, -⟩ := Option.map_eq_some_iff.mp he
      obtain ⟨hmark, hne, hparts⟩ := dropWhile_cons hdrop
      refine ⟨hne, fun c hc => ?_⟩
      rcases hparts c hc with hmem | rfl | hmem
      · exact (mantissa_chars hm).2 c hmem
      · have hmem : c = 'e' ∨ c = 'E' := or_iff_not_imp_left.mpr (by simpa [exponentMarks] using hmark)
        rcases hmem with rfl | rfl <;> rfl
      · exact signed_chars (digits_chars hds).2 c hmem

theorem specialFloat_chars {cs : List Char} {x : PyFloat} (h : specialFloat cs = some x) :
    cs ≠ [] ∧ ∀ c ∈ cs, isFloatChar c = true := by
  have hletters {name : List Char} (hname : name ≠ [] ∧ name ⊆ "infinitynan".toList)
      (hcs : cs.map Char.toLower = name) : cs ≠ [] ∧ ∀ c ∈ cs, isFloatChar c = true := by
    subst hcs
    refine ⟨by simpa using hname.1, fun c hc => ?_⟩
    have hlower := hname.2 (List.mem_map_of_mem hc)
    unfold isFloatChar
    rw [decide_eq_true hlower, Bool.or_true]
  unfold specialFloat at h
  dsimp only at h
  split_ifs at h with hinf hnan
  · rcases hinf with hinf | hinf
    · exact hletters (by simp) hinf
    · exact hletters (by simp) hinf
  · exact hletters (by simp) hnan

/-- **What is read as a float** holds characters of literals alone, and some, between its white space. -/
theorem floatOfString_chars {round : ℚ → PyFloat} {text : List Char} {x : PyFloat}
    (h : floatOfString round text = some x) : strip text ≠ [] ∧ ∀ c ∈ strip text, isFloatChar c = true := by
  obtain ⟨y, hy, -⟩ := Option.map_eq_some_iff.mp h
  have hunsigned : (signed (strip text)).2 ≠ [] ∧ ∀ c ∈ (signed (strip text)).2, isFloatChar c = true := by
    rcases Option.or_eq_some_iff.mp hy with hspecial | ⟨-, hdecimal⟩
    · exact specialFloat_chars hspecial
    · obtain ⟨q, hq, -⟩ := Option.map_eq_some_iff.mp hdecimal
      exact decimalNumber_chars hq
  refine ⟨fun hnil => hunsigned.1 ?_, signed_chars hunsigned.2⟩
  rw [hnil]
  rfl

/-! ## Sums -/

/-- A sum that starts from a number stays one, at each of its terms. -/
def StaysFinite (round : ℚ → PyFloat) : ℚ → List PyFloat → Prop
  | _, [] => True
  | q, x :: xs => ∃ r q', x = .finite r ∧ round (q + r) = .finite q' ∧ StaysFinite round q' xs

/-- A sum that is no number stays none. -/
theorem foldl_add_not_finite (round : ℚ → PyFloat) {x : PyFloat} (h : ¬ x.IsFinite) (xs : List PyFloat) :
    ¬ (xs.foldl (PyFloat.add round) x).IsFinite := by
  induction xs generalizing x with
  | nil => exact h
  | cons y xs ih => exact ih (PyFloat.add_not_finite round h y)

/-- **A sum is a number exactly when it stays one.** -/
theorem foldl_add_finite_iff (round : ℚ → PyFloat) (q : ℚ) (xs : List PyFloat) :
    (xs.foldl (PyFloat.add round) (.finite q)).IsFinite ↔ StaysFinite round q xs := by
  induction xs generalizing q with
  | nil => exact ⟨fun _ => trivial, fun _ => ⟨q, rfl⟩⟩
  | cons x xs ih =>
      rw [List.foldl_cons]
      constructor
      · intro hfinite
        by_cases hx : x.IsFinite
        · obtain ⟨r, rfl⟩ := hx
          by_cases hsum : (round (q + r)).IsFinite
          · obtain ⟨q', hq'⟩ := hsum
            rw [PyFloat.add, hq'] at hfinite
            exact ⟨r, q', rfl, hq', (ih q').mp hfinite⟩
          · exact absurd hfinite (foldl_add_not_finite round hsum xs)
        · exact absurd hfinite (foldl_add_not_finite round (PyFloat.add_not_finite_right round _ hx) xs)
      · rintro ⟨r, q', rfl, hq', hrest⟩
        rw [PyFloat.add, hq']
        exact (ih q').mpr hrest

/-- In exact arithmetic the sum of numbers is their sum. -/
theorem foldl_add_exact (q : ℚ) (qs : List ℚ) :
    (qs.map PyFloat.finite).foldl (PyFloat.add .finite) (.finite q) = .finite (q + qs.sum) := by
  induction qs generalizing q with
  | nil => simp
  | cons r qs ih =>
      rw [List.map_cons, List.foldl_cons, PyFloat.add, ih, List.sum_cons, add_assoc]

/-- **In exact arithmetic a sum is a number** exactly when its terms are numbers, and it is their sum. -/
theorem foldl_add_exact_iff {q r : ℚ} {xs : List PyFloat} :
    xs.foldl (PyFloat.add .finite) (.finite q) = .finite r ↔ ∃ qs : List ℚ, xs = qs.map .finite ∧ q + qs.sum = r := by
  constructor
  · intro h
    have hall {q : ℚ} {xs : List PyFloat} (hstays : StaysFinite .finite q xs) :
        ∃ qs : List ℚ, xs = qs.map .finite := by
      induction xs generalizing q with
      | nil => exact ⟨[], rfl⟩
      | cons x xs ih =>
          obtain ⟨r, q', rfl, -, hrest⟩ := hstays
          obtain ⟨qs, rfl⟩ := ih hrest
          exact ⟨r :: qs, rfl⟩
    obtain ⟨qs, rfl⟩ := hall ((foldl_add_finite_iff .finite q xs).mp ⟨r, h⟩)
    rw [foldl_add_exact] at h
    exact ⟨qs, rfl, PyFloat.finite.inj h⟩
  · rintro ⟨qs, rfl, rfl⟩
    exact foldl_add_exact q qs

/-! ## Decimal numbers -/

/-- A sign that is written, or not. -/
inductive Sign where
  | none
  | plus
  | minus
  deriving DecidableEq

namespace Sign

/-- The text of a sign. -/
def text : Sign → List Char
  | .none => []
  | .plus => ['+']
  | .minus => ['-']

/-- The sign makes a number negative. -/
def negative (sign : Sign) : Bool := sign = .minus

end Sign

/-- The character of a digit. -/
def digitText (d : Fin 10) : Char := Char.ofNat (48 + d)

/-- The number some digits denote. -/
def digitsValue (ds : List (Fin 10)) : Nat := ofDigits (ds.map Fin.val)

/-- A decimal number as it is written: digits with a point in them or without one, and an exponent or none. -/
structure Decimal where
  sign : Sign := .none
  whole : List (Fin 10)
  fraction : Option (List (Fin 10)) := none
  /-- The mark of the exponent, small or capital, its sign and its digits. -/
  exponent : Option (Bool × Sign × List (Fin 10)) := none
  some_digit : whole ≠ [] ∨ ∃ ds, fraction = some ds ∧ ds ≠ []
  some_exponent : ∀ capital sign ds, exponent = some (capital, sign, ds) → ds ≠ []

namespace Decimal

/-- What is written before the exponent, without the sign. -/
def mantissaText (d : Decimal) : List Char :=
  d.whole.map digitText ++
    match d.fraction with
    | some ds => '.' :: ds.map digitText
    | none => []

/-- What is written of the exponent. -/
def exponentText (d : Decimal) : List Char :=
  match d.exponent with
  | some (capital, sign, ds) => (if capital then 'E' else 'e') :: (sign.text ++ ds.map digitText)
  | none => []

/-- The text of a decimal number. -/
def text (d : Decimal) : List Char := d.sign.text ++ (d.mantissaText ++ d.exponentText)

/-- The digits after the point. -/
def decimals (d : Decimal) : List (Fin 10) := d.fraction.getD []

/-- The power of ten a number is scaled by. -/
def scale (d : Decimal) : ℤ :=
  match d.exponent with
  | some (_, sign, ds) => if sign.negative then -(digitsValue ds : ℤ) else digitsValue ds
  | none => 0

/-- The number without its sign. -/
def magnitude (d : Decimal) : ℚ :=
  (digitsValue (d.whole ++ d.decimals) : ℚ) / 10 ^ d.decimals.length * 10 ^ d.scale

/-- The number a decimal number denotes. -/
def value (d : Decimal) : ℚ := if d.sign.negative then -d.magnitude else d.magnitude

end Decimal

/-- What a reader knows of the character of a digit. -/
theorem digitText_facts (d : Fin 10) : (digitText d).isDigit = true ∧ (digitText d).toNat - 48 = d ∧
    digitText d ≠ '.' ∧ digitText d ∉ exponentMarks ∧ (digitText d).toLower = digitText d := by
  revert d
  decide

/-- Digits are read back. -/
theorem digits_digitText {ds : List (Fin 10)} (hne : ds ≠ []) :
    digits (ds.map digitText) = some (ds.map Fin.val) := by
  have hvalues : (ds.map digitText).map (fun c => c.toNat - 48) = ds.map Fin.val := by
    rw [List.map_map]
    exact List.map_congr_left fun d _ => (digitText_facts d).2.1
  have hall : ∀ c ∈ ds.map digitText, c.isDigit = true := by
    intro c hc
    obtain ⟨d, -, rfl⟩ := List.mem_map.mp hc
    exact (digitText_facts d).1
  rw [← hvalues]
  cases ds with
  | nil => exact absurd rfl hne
  | cons d ds =>
      rw [List.map_cons, List.forall_mem_cons] at hall
      rw [List.map_cons, digits, (digit_facts hall.1).1, digitTail_of_digits hall.2]
      rfl

theorem digitsOrNone_digitText (ds : List (Fin 10)) :
    digitsOrNone (ds.map digitText) = some (ds.map Fin.val) := by
  unfold digitsOrNone
  split_ifs with hnil
  · rw [List.map_eq_nil_iff.mp hnil]
    rfl
  · exact digits_digitText (by simpa using hnil)

/-- Digits are taken up to what is no digit. -/
theorem span_digitText (p : Char → Bool) (hp : ∀ d, p (digitText d) = true) (ds : List (Fin 10)) {c : Char}
    (hc : p c = false) (cs : List Char) :
    (ds.map digitText ++ c :: cs).takeWhile p = ds.map digitText ∧
      (ds.map digitText ++ c :: cs).dropWhile p = c :: cs := by
  have hall : ∀ c ∈ ds.map digitText, p c = true := by
    intro c hc
    obtain ⟨d, -, rfl⟩ := List.mem_map.mp hc
    exact hp d
  rw [List.takeWhile_append_of_pos hall, List.dropWhile_append_of_pos hall]
  simp [hc]

/-- A text all of which is taken. -/
theorem span_all {p : Char → Bool} {cs : List Char} (h : ∀ c ∈ cs, p c = true) :
    cs.takeWhile p = cs ∧ cs.dropWhile p = [] :=
  ⟨List.takeWhile_eq_self_iff.mpr h, List.dropWhile_eq_nil_iff.mpr h⟩

/-- No literal that starts with a digit or a point is a special one, or has a sign. -/
theorem unsigned_literal {c : Char} (hc : c = '.' ∨ ∃ k, c = digitText k) (cs : List Char) :
    specialFloat (c :: cs) = none ∧ signed (c :: cs) = (false, c :: cs) := by
  have hfacts : c ≠ '-' ∧ c ≠ '+' ∧ c.toLower ≠ 'i' ∧ c.toLower ≠ 'n' := by
    rcases hc with rfl | ⟨k, rfl⟩
    · decide
    · revert k
      decide
  obtain ⟨hminus, hplus, hi, hn⟩ := hfacts
  constructor
  · unfold specialFloat
    simp [hi, hn]
  · unfold signed
    split
    · next heq => exact absurd (List.cons.inj heq).1 hminus
    · next heq => exact absurd (List.cons.inj heq).1 hplus
    · rfl

namespace Decimal

variable (d : Decimal)

/-- The number before the exponent is read back. -/
theorem mantissa_text :
    mantissa d.mantissaText = some ((digitsValue (d.whole ++ d.decimals) : ℚ) / 10 ^ d.decimals.length) := by
  have hpoint (k : Fin 10) : decide (digitText k ≠ '.') = true := decide_eq_true (digitText_facts k).2.2.1
  unfold mantissa mantissaText decimals digitsValue
  cases hfraction : d.fraction with
  | none =>
      have hwhole : d.whole ≠ [] := by
        rcases d.some_digit with h | ⟨_, h, -⟩
        · exact h
        · rw [hfraction] at h
          cases h
      have hall : ∀ c ∈ d.whole.map digitText, decide (c ≠ '.') = true := by
        intro c hc
        obtain ⟨k, -, rfl⟩ := List.mem_map.mp hc
        exact hpoint k
      obtain ⟨htake, hdrop⟩ := span_all hall
      simp only [List.append_nil, htake, hdrop, digits_digitText hwhole, Option.map_some, Option.getD_none,
        List.length_nil, pow_zero, div_one]
  | some ds =>
      obtain ⟨htake, hdrop⟩ := span_digitText (fun c => decide (c ≠ '.')) hpoint d.whole (c := '.')
        (by decide) (ds.map digitText)
      have hsome : ¬ (d.whole.map digitText = [] ∧ ds.map digitText = []) := by
        rw [List.map_eq_nil_iff, List.map_eq_nil_iff]
        rintro ⟨hwhole, hds⟩
        rcases d.some_digit with h | ⟨_, h, hne⟩
        · exact h hwhole
        · rw [hfraction] at h
          cases h
          exact hne hds
      simp only [htake, hdrop, if_neg hsome, digitsOrNone_digitText]
      simp

/-- The exponent is read back. -/
theorem exponent_text {capital : Bool} {sign : Sign} {ds : List (Fin 10)}
    (h : d.exponent = some (capital, sign, ds)) :
    Python.exponent (sign.text ++ ds.map digitText) = some d.scale := by
  have hdigits := digits_digitText (d.some_exponent _ _ _ h)
  have hscale : d.scale = if sign.negative then -(digitsValue ds : ℤ) else digitsValue ds := by
    unfold scale
    rw [h]
  rw [hscale]
  unfold Python.exponent digitsValue
  cases sign with
  | plus => simp [Sign.text, signed, hdigits, Sign.negative]
  | minus => simp [Sign.text, signed, hdigits, Sign.negative]
  | none =>
      cases ds with
      | nil => exact absurd rfl (d.some_exponent _ _ _ h)
      | cons k ds =>
          have hsigned := (unsigned_literal (Or.inr ⟨k, rfl⟩) (ds.map digitText)).2
          rw [List.map_cons] at hdigits
          simp [Sign.text, hsigned, hdigits, Sign.negative]

/-- The text before the exponent holds no mark of one. -/
theorem mantissaText_marks : ∀ c ∈ d.mantissaText, decide (c ∉ exponentMarks) = true := by
  intro c hc
  apply decide_eq_true
  unfold mantissaText at hc
  rcases List.mem_append.mp hc with hmem | hmem
  · obtain ⟨k, -, rfl⟩ := List.mem_map.mp hmem
    exact (digitText_facts k).2.2.2.1
  · split at hmem
    · rcases List.mem_cons.mp hmem with rfl | hmem
      · decide
      · obtain ⟨k, -, rfl⟩ := List.mem_map.mp hmem
        exact (digitText_facts k).2.2.2.1
    · cases hmem

/-- **A decimal number without its sign is read back.** -/
theorem decimalNumber_text : decimalNumber (d.mantissaText ++ d.exponentText) = some d.magnitude := by
  unfold decimalNumber magnitude
  have hmarks := d.mantissaText_marks
  rw [List.dropWhile_append_of_pos hmarks, List.takeWhile_append_of_pos hmarks]
  cases hexponent : d.exponent with
  | none =>
      have htext : d.exponentText = [] := by
        unfold exponentText
        rw [hexponent]
      have hscale : d.scale = 0 := by
        unfold scale
        rw [hexponent]
      simp [htext, d.mantissa_text, hscale]
  | some parts =>
      obtain ⟨capital, sign, ds⟩ := parts
      have htext : d.exponentText = (if capital then 'E' else 'e') :: (sign.text ++ ds.map digitText) := by
        unfold exponentText
        rw [hexponent]
      have hmark : decide ((if capital then 'E' else 'e') ∉ exponentMarks) = false := by
        cases capital <;> decide
      rw [htext, List.dropWhile_cons_of_neg (by simpa using hmark),
        List.takeWhile_cons_of_neg (by simpa using hmark), List.append_nil]
      simp [d.mantissa_text, d.exponent_text hexponent]

/-- The first character of a decimal number without its sign. -/
theorem mantissaText_head : ∃ c cs, d.mantissaText = c :: cs ∧ (c = '.' ∨ ∃ k, c = digitText k) := by
  unfold mantissaText
  cases hwhole : d.whole with
  | cons k ds => exact ⟨digitText k, _, rfl, Or.inr ⟨k, rfl⟩⟩
  | nil =>
      rcases d.some_digit with h | ⟨ds, hfraction, -⟩
      · exact absurd hwhole h
      · rw [hfraction]
        exact ⟨'.', _, rfl, Or.inl rfl⟩

end Decimal

/-- **A decimal number is read back**, with white space around it or not. -/
theorem floatOfString_decimal (round : ℚ → PyFloat) (d : Decimal) {text : List Char}
    (h : strip text = d.text) :
    floatOfString round text =
      some (if d.sign.negative then (round d.magnitude).neg else round d.magnitude) := by
  obtain ⟨c, cs, hhead, hc⟩ := d.mantissaText_head
  obtain ⟨hspecial, hsigned⟩ := unsigned_literal hc (cs ++ d.exponentText)
  have hnumber := d.decimalNumber_text
  rw [hhead, List.cons_append] at hnumber
  have hsign : signed d.text = (d.sign.negative, c :: (cs ++ d.exponentText)) := by
    unfold Decimal.text
    rw [hhead, List.cons_append]
    cases d.sign with
    | none => exact hsigned
    | plus => rfl
    | minus => rfl
  unfold floatOfString
  rw [h, hsign]
  simp [hspecial, hnumber]

/-- In exact arithmetic it is read as the number it denotes. -/
theorem floatOfString_exact (d : Decimal) {text : List Char} (h : strip text = d.text) :
    floatOfString .finite text = some (.finite d.value) := by
  rw [floatOfString_decimal .finite d h, Decimal.value]
  split_ifs <;> rfl

end Python
