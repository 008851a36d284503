import Lmrs.Lib.Floats

/-!
# The text format of metrics

A text of lines that each end with a line feed: empty lines, comments, and samples. A sample is a name, labels
or none, a value, and a timestamp or none; its tokens are separated by blanks and tabs. The values here are
integers, written as decimal numbers.

* `Text.render`: the text. `Text.splitLines_render`: it is divided into the pieces of its lines.
* `Line.pieces`: what `str.splitlines` divides a line into. `Line.Unbroken.pieces`: a line without a character
  that could end it is one piece.
* `Sample.Spaced`: a blank that is no tab stands before the last token of a sample, and none after it.
  `Sample.text_spaced`, `Sample.text_not_spaced`: what is before the last blank of a sample, and what is
  after it.
-/

namespace MetricsFormat

open Python

/-! ## Tokens -/

/-- Blanks and tabs. -/
abbrev Blanks : Type := {cs : List Char // ∀ c ∈ cs, c = ' ' ∨ c = '\t'}

/-- The characters of a name. -/
def isNameChar (c : Char) : Bool := c.isAlphanum || c = '_' || c = ':'

/-- The name of a metric or of a label. -/
structure Name where
  text : List Char
  some_char : text ≠ []
  chars : ∀ c ∈ text, isNameChar c = true

/-- A character inside quotes. -/
def escape : Char → List Char
  | '\\' => ['\\', '\\']
  | '"' => ['\\', '"']
  | '\n' => ['\\', 'n']
  | c => [c]

/-- A label, with the blanks around its tokens. -/
structure Label where
  indent : Blanks
  name : Name
  beforeEquals : Blanks
  afterEquals : Blanks
  value : List Char
  trail : Blanks

/-- The text of a label. -/
def Label.text (label : Label) : List Char :=
  label.indent.1 ++ label.name.text ++ label.beforeEquals.1 ++
    '=' :: (label.afterEquals.1 ++ '"' :: (label.value.flatMap escape ++ '"' :: label.trail.1))

/-- A set of labels. A comma may stand after the last one; the blanks are those before the closing brace. -/
structure Labels where
  labels : List Label
  comma : Bool
  some_label : comma = true → labels ≠ []
  blanks : Blanks

/-- The text of a set of labels. -/
def labelsText (labels : Labels) : List Char :=
  '\x7b' :: (List.intercalate [','] (labels.labels.map Label.text) ++ (if labels.comma then [','] else []) ++
    labels.blanks.1 ++ ['\x7d'])

/-- A timestamp: a sign and digits. -/
structure Timestamp where
  sign : Sign
  digits : List (Fin 10)
  some_digit : digits ≠ []

/-- A timestamp is a decimal number. -/
def Timestamp.decimal (stamp : Timestamp) : Decimal where
  sign := stamp.sign
  whole := stamp.digits
  some_digit := Or.inl stamp.some_digit
  some_exponent := by
    intro capital sign ds h
    cases h

/-- The instant of a timestamp. -/
def Timestamp.value (stamp : Timestamp) : ℚ := stamp.decimal.value

/-! ## Lines -/

/-- A sample. Between a name and its value there is a blank; after the brace of its labels there may be none. -/
structure Sample where
  indent : Blanks
  name : Name
  labels : Option (Blanks × Labels)
  gap : Blanks
  separated : labels = none → gap.1 ≠ []
  value : Decimal
  number : ℤ
  denotes : value.value = number
  timestamp : Option ({gap : Blanks // gap.1 ≠ []} × Timestamp)
  trail : Blanks

namespace Sample

/-- The labels of a sample, with the blanks before them. -/
def labelPart (s : Sample) : List Char :=
  match s.labels with
  | some (gap, labels) => gap.1 ++ labelsText labels
  | none => []

/-- The timestamp of a sample, with the blanks before it. -/
def stampPart (s : Sample) : List Char :=
  match s.timestamp with
  | some (gap, stamp) => gap.1.1 ++ stamp.decimal.text
  | none => []

/-- The text of a sample. -/
def text (s : Sample) : List Char :=
  s.indent.1 ++ s.name.text ++ s.labelPart ++ s.gap.1 ++ s.value.text ++ s.stampPart ++ s.trail.1

/-- The name of the metric. -/
def family (s : Sample) : String := String.ofList s.name.text

/-- No character in the labels of a sample could end the line. -/
def Unbroken (s : Sample) : Prop := ∀ c ∈ s.labelPart, c ∉ lineBoundaries

instance (s : Sample) : Decidable s.Unbroken :=
  inferInstanceAs (Decidable (∀ c ∈ s.labelPart, c ∉ lineBoundaries))

end Sample

/-- A line. -/
inductive Line where
  | empty (blanks : Blanks)
  | comment (indent : Blanks) (text : {cs : List Char // '\n' ∉ cs})
  | sample (s : Sample)

namespace Line

/-- The text of a line. -/
def text : Line → List Char
  | empty blanks => blanks.1
  | comment indent text => indent.1 ++ '#' :: text.1
  | sample s => s.text

/-- The sample of a line. -/
def sample? : Line → Option Sample
  | sample s => some s
  | _ => none

/-- No character of a line could end it. -/
def Unbroken : Line → Prop
  | empty _ => True
  | comment _ text => ∀ c ∈ text.1, c ∉ lineBoundaries
  | sample s => s.Unbroken

/-- What `str.splitlines` divides a line into. -/
def pieces (line : Line) : List (List Char) := splitLines (line.text ++ ['\n'])

end Line

/-- A text of lines. -/
abbrev Text : Type := List Line

namespace Text

/-- The characters of a text. -/
def render (t : Text) : List Char := t.flatMap fun line => line.text ++ ['\n']

/-- The samples of a text. -/
def samples (t : Text) : List Sample := t.filterMap Line.sample?

/-- The samples of one family. -/
def ofFamily (t : Text) (family : String) : List Sample := t.samples.filter fun s => s.family = family

/-- The sum of a family. -/
def total (t : Text) (family : String) : ℤ := ((t.ofFamily family).map Sample.number).sum

end Text

/-! ## Characters of the tokens -/

/-- What a token may hold: no white space, no brace, no number sign, no end of a line. -/
def IsTokenChar (c : Char) : Prop := isSpace c = false ∧ c ≠ '\x7b' ∧ c ≠ '#' ∧ c ∉ lineBoundaries

instance (c : Char) : Decidable (IsTokenChar c) :=
  inferInstanceAs (Decidable (isSpace c = false ∧ c ≠ '\x7b' ∧ c ≠ '#' ∧ c ∉ lineBoundaries))

/-- A blank is white space, no brace, and ends no line. -/
theorem blank_facts {blanks : Blanks} : ∀ c ∈ blanks.1, isSpace c = true ∧ c ≠ '\x7b' ∧ c ∉ lineBoundaries := by
  intro c hc
  rcases blanks.2 c hc with rfl | rfl <;> decide

/-- The characters of a decimal number. -/
theorem decimal_chars (d : Decimal) : ∀ c ∈ d.text, IsTokenChar c := by
  have hdigit : ∀ k, IsTokenChar (digitText k) := by decide
  have hdigits (ds : List (Fin 10)) : ∀ c ∈ ds.map digitText, IsTokenChar c := by
    simpa using fun k _ => hdigit k
  have hsign (sign : Sign) : ∀ c ∈ sign.text, IsTokenChar c := by
    cases sign with
    | none => simp [Sign.text]
    | plus => exact List.forall_mem_singleton.mpr (by decide)
    | minus => exact List.forall_mem_singleton.mpr (by decide)
  have hmantissa : ∀ c ∈ d.mantissaText, IsTokenChar c := by
    unfold Decimal.mantissaText
    rw [List.forall_mem_append]
    refine ⟨hdigits d.whole, ?_⟩
    cases d.fraction with
    | none => simp
    | some ds => exact List.forall_mem_cons.mpr ⟨by decide, hdigits ds⟩
  have hexponent : ∀ c ∈ d.exponentText, IsTokenChar c := by
    unfold Decimal.exponentText
    cases d.exponent with
    | none => simp
    | some parts =>
        obtain ⟨capital, sign, ds⟩ := parts
        refine List.forall_mem_cons.mpr ⟨by cases capital <;> decide, ?_⟩
        exact List.forall_mem_append.mpr ⟨hsign sign, hdigits ds⟩
  unfold Decimal.text
  rw [List.forall_mem_append, List.forall_mem_append]
  exact ⟨hsign d.sign, hmantissa, hexponent⟩

/-- A decimal number is written with some character. -/
theorem decimal_text_ne_nil (d : Decimal) : d.text ≠ [] := by
  obtain ⟨c, cs, htext, -⟩ := d.mantissaText_head
  unfold Decimal.text
  simp [htext]

/-- The characters of a name. -/
theorem name_chars (name : Name) : ∀ c ∈ name.text, IsTokenChar c := by
  have hall : ∀ k < 128, isNameChar (Char.ofNat k) = true → IsTokenChar (Char.ofNat k) := by decide +kernel
  intro c hc
  have hname := name.chars c hc
  have hascii : c.toNat < 128 := by
    simp only [isNameChar, Char.isAlphanum, Char.isAlpha, Char.isUpper, Char.isLower, Char.isDigit,
      Bool.or_eq_true, Bool.and_eq_true, decide_eq_true_eq, UInt32.le_iff_toNat_le, ge_iff_le] at hname
    have hval : c.toNat = c.val.toNat := rfl
    have hz : 'z'.val.toNat = 122 := rfl
    have hZ : 'Z'.val.toNat = 90 := rfl
    have h9 : '9'.val.toNat = 57 := rfl
    rcases hname with (hrange | rfl) | rfl
    · omega
    · decide
    · decide
  rw [← Char.ofNat_toNat c] at hname ⊢
  exact hall _ hascii hname

/-! ## The last token -/

/-- Some blanks divided at the last one that is no tab. -/
theorem last_blank {cs : List Char} (h : ' ' ∈ cs) : ∃ before after, cs = before ++ ' ' :: after ∧ ' ' ∉ after := by
  induction cs with
  | nil => simp at h
  | cons c cs ih =>
      by_cases hmem : ' ' ∈ cs
      · obtain ⟨before, after, rfl, hafter⟩ := ih hmem
        exact ⟨c :: before, after, rfl, hafter⟩
      · have hc : ' ' = c := by simpa [hmem] using h
        exact ⟨[], cs, by rw [hc]; rfl, hmem⟩

namespace Sample

variable (s : Sample)

/-- The blanks before the last token. -/
def lastGap : Blanks :=
  match s.timestamp with
  | some (gap, _) => gap.1
  | none => s.gap

/-- The last token: the timestamp, or else the value. -/
def lastToken : Decimal :=
  match s.timestamp with
  | some (_, stamp) => stamp.decimal
  | none => s.value

/-- The value of a sample that has a timestamp, with the blanks before it. -/
def valueBefore : List Char :=
  match s.timestamp with
  | some _ => s.gap.1 ++ s.value.text
  | none => []

/-- What is before the last token and its blanks. -/
def front : List Char := s.indent.1 ++ (s.name.text ++ (s.labelPart ++ s.valueBefore))

/-- A blank that is no tab stands before the last token, and none after it. -/
def Spaced : Prop := ' ' ∈ s.lastGap.1 ∧ ' ' ∉ s.trail.1

instance : Decidable s.Spaced := inferInstanceAs (Decidable (' ' ∈ s.lastGap.1 ∧ ' ' ∉ s.trail.1))

/-- A sample up to its last token, that token, and the blanks after it. -/
theorem text_eq : s.text = s.front ++ (s.lastGap.1 ++ (s.lastToken.text ++ s.trail.1)) := by
  unfold text front stampPart valueBefore lastGap lastToken
  cases s.timestamp with
  | none => simp
  | some stamp => simp

/-- A sample starts with no number sign. -/
theorem text_head : ∃ c cs, s.text = c :: cs ∧ c ≠ '#' := by
  obtain ⟨c, cs, hname⟩ := List.exists_cons_of_ne_nil s.name.some_char
  have hc : c ≠ '#' := (name_chars s.name c (by simp [hname])).2.2.1
  unfold text
  cases hindent : s.indent.1 with
  | nil =>
      simp only [hname, List.nil_append, List.cons_append]
      exact ⟨c, _, rfl, hc⟩
  | cons b blanks =>
      simp only [List.cons_append]
      refine ⟨b, _, rfl, ?_⟩
      rcases s.indent.2 b (by simp [hindent]) with rfl | rfl <;> decide

/-- What is before the last token ends with the end of a token, and there is a blank after that unless it is
the brace of the labels. -/
theorem front_last : ∃ cs c, s.front = cs ++ [c] ∧ isSpace c = false ∧
    (s.lastGap.1 ≠ [] ∨ c = '\x7d') := by
  have hend {cs token : List Char} (hne : token ≠ []) (htoken : ∀ c ∈ token, isSpace c = false) :
      ∃ cs' c, cs ++ token = cs' ++ [c] ∧ isSpace c = false := by
    refine ⟨cs ++ token.dropLast, token.getLast hne, ?_, htoken _ (List.getLast_mem hne)⟩
    rw [List.append_assoc, List.dropLast_append_getLast hne]
  unfold front valueBefore lastGap
  cases s.timestamp with
  | some stamp =>
      obtain ⟨cs, c, heq, hc⟩ := @hend (s.indent.1 ++ (s.name.text ++ (s.labelPart ++ s.gap.1))) _
        (decimal_text_ne_nil s.value) fun c hc => (decimal_chars s.value c hc).1
      refine ⟨cs, c, ?_, hc, Or.inl stamp.1.2⟩
      rw [← heq]
      simp
  | none =>
      unfold labelPart
      cases hlabels : s.labels with
      | some parts =>
          refine ⟨s.indent.1 ++ (s.name.text ++ (parts.1.1 ++
            ('\x7b' :: (List.intercalate [','] (parts.2.labels.map Label.text) ++
              (if parts.2.comma then [','] else []) ++ parts.2.blanks.1)))), '\x7d', ?_, by decide, Or.inr rfl⟩
          simp [labelsText]
      | none =>
          obtain ⟨cs, c, heq, hc⟩ := @hend s.indent.1 _ s.name.some_char
            fun c hc => (name_chars s.name c hc).1
          refine ⟨cs, c, ?_, hc, Or.inl (s.separated hlabels)⟩
          rw [← heq]
          simp

variable {s}

/-- **A spaced sample divided at its last blank**: the last token is what is after it. -/
theorem text_spaced (h : s.Spaced) : ∃ before after : List Char, s.text = (s.front ++ before) ++ ' ' :: after ∧
    ' ' ∉ after ∧ strip after = s.lastToken.text ∧ ∀ c ∈ before, isSpace c = true ∧ c ≠ '\x7b' := by
  obtain ⟨before, after, hgap, hafter⟩ := last_blank h.1
  have hblanks : ∀ c ∈ before ++ ' ' :: after, isSpace c = true ∧ c ≠ '\x7b' := by
    rw [← hgap]
    exact fun c hc => ⟨(blank_facts c hc).1, (blank_facts c hc).2.1⟩
  rw [List.forall_mem_append, List.forall_mem_cons] at hblanks
  have htoken := decimal_chars s.lastToken
  refine ⟨before, after ++ s.lastToken.text ++ s.trail.1, ?_, ?_, ?_, hblanks.1⟩
  · rw [s.text_eq, hgap]
    simp
  · simp only [List.mem_append, not_or]
    refine ⟨⟨hafter, fun hmem => ?_⟩, h.2⟩
    exact absurd (htoken ' ' hmem).1 (by decide)
  · exact strip_field (fun c hc => (hblanks.2.2 c hc).1) (fun c hc => (htoken c hc).1)
      fun c hc => (blank_facts c hc).1

/-- **A sample that is not spaced divided at its last blank**: there is none, or after it there is nothing, or
the tab before the last token or the brace of the labels. -/
theorem text_not_spaced (h : ¬ s.Spaced) : ' ' ∉ s.text ∨
    ∃ before after : List Char, s.text = before ++ ' ' :: after ∧ ' ' ∉ after ∧
      (strip after = [] ∨ '\t' ∈ strip after ∨ '\x7d' ∈ strip after) := by
  by_cases htrail : ' ' ∈ s.trail.1
  · obtain ⟨before, after, heq, hafter⟩ := last_blank htrail
    refine Or.inr ⟨s.front ++ (s.lastGap.1 ++ (s.lastToken.text ++ before)), after, ?_, hafter, Or.inl ?_⟩
    · rw [s.text_eq, heq]
      simp
    · have hspace : ∀ c ∈ after, isSpace c = true := by
        intro c hc
        exact (blank_facts c (by rw [heq]; simp [hc])).1
      have hstrip := @strip_field after [] [] hspace (by simp) (by simp)
      simpa using hstrip
  · have hgap : ' ' ∉ s.lastGap.1 := fun hmem => h ⟨hmem, htrail⟩
    have hchars := decimal_chars s.lastToken
    have hend : ' ' ∉ s.lastGap.1 ++ (s.lastToken.text ++ s.trail.1) := by
      simp only [List.mem_append, not_or]
      exact ⟨hgap, fun hmem => absurd (hchars ' ' hmem).1 (by decide), htrail⟩
    obtain ⟨cs, c, hfront, hc, hgapped⟩ := s.front_last
    have hblank : ' ' ≠ c := by
      rintro rfl
      cases hc
    have htext : s.text = cs ++ c :: (s.lastGap.1 ++ (s.lastToken.text ++ s.trail.1)) := by
      rw [s.text_eq, hfront]
      simp
    by_cases hmem : ' ' ∈ cs
    · obtain ⟨before, after, rfl, hafter⟩ := last_blank hmem
      refine Or.inr ⟨before, after ++ c :: (s.lastGap.1 ++ (s.lastToken.text ++ s.trail.1)), ?_, ?_, Or.inr ?_⟩
      · rw [htext]
        simp
      · rw [List.mem_append, List.mem_cons]
        exact fun hin => hin.elim hafter fun hin => hin.elim hblank hend
      · -- the token before the gap and the last one are kept, with what is between them
        obtain ⟨init, last, htoken⟩ := (List.eq_nil_or_concat s.lastToken.text).resolve_left
          (decimal_text_ne_nil s.lastToken)
        have hlast : isSpace last = false := (decimal_chars s.lastToken last (by simp [htoken])).1
        obtain ⟨before', after', hstrip⟩ :=
          strip_around after hc hlast (s.lastGap.1 ++ init) s.trail.1
        have hsame : after ++ c :: (s.lastGap.1 ++ (s.lastToken.text ++ s.trail.1)) =
            after ++ c :: (s.lastGap.1 ++ init ++ last :: s.trail.1) := by simp [htoken]
        rw [hsame, hstrip]
        rcases hgapped with hne | rfl
        · obtain ⟨b, blanks, hgapText⟩ := List.exists_cons_of_ne_nil hne
          have hb : b = '\t' := by
            rcases s.lastGap.2 b (by simp [hgapText]) with rfl | rfl
            · exact absurd (by simp [hgapText]) hgap
            · rfl
          left
          simp [hgapText, hb]
        · right
          simp
    · left
      rw [htext, List.mem_append, List.mem_cons]
      exact fun hin => hin.elim hmem fun hin => hin.elim hblank hend

end Sample

/-! ## Lines -/

/-- An unbroken sample is one line. -/
theorem Sample.Unbroken.text_chars {s : Sample} (h : s.Unbroken) : ∀ c ∈ s.text, c ∉ lineBoundaries := by
  have hstamp : ∀ c ∈ s.stampPart, c ∉ lineBoundaries := by
    unfold Sample.stampPart
    cases s.timestamp with
    | none => simp
    | some parts =>
        exact List.forall_mem_append.mpr ⟨fun c hc => (blank_facts c hc).2.2,
          fun c hc => (decimal_chars _ c hc).2.2.2⟩
  unfold Sample.text
  simp only [List.forall_mem_append]
  exact ⟨⟨⟨⟨⟨⟨fun c hc => (blank_facts c hc).2.2, fun c hc => (name_chars s.name c hc).2.2.2⟩, h⟩,
    fun c hc => (blank_facts c hc).2.2⟩, fun c hc => (decimal_chars _ c hc).2.2.2⟩, hstamp⟩,
    fun c hc => (blank_facts c hc).2.2⟩

/-- An unbroken line is one line. -/
theorem Line.Unbroken.text_chars {line : Line} (h : line.Unbroken) : ∀ c ∈ line.text, c ∉ lineBoundaries := by
  cases line with
  | empty blanks => exact fun c hc => (blank_facts c hc).2.2
  | comment indent text =>
      show ∀ c ∈ indent.1 ++ '#' :: text.1, c ∉ lineBoundaries
      rw [List.forall_mem_append, List.forall_mem_cons]
      exact ⟨fun c hc => (blank_facts c hc).2.2, by decide, h⟩
  | sample s => exact Sample.Unbroken.text_chars h

/-- An unbroken line is one piece. -/
theorem Line.Unbroken.pieces {line : Line} (h : line.Unbroken) : line.pieces = [line.text] :=
  splitLines_cons_line h.text_chars []

/-- **A text is divided into the pieces of its lines.** -/
theorem Text.splitLines_render (t : Text) : splitLines t.render = t.flatMap Line.pieces := by
  induction t with
  | nil => rfl
  | cons line t ih =>
      have hrender : Text.render (line :: t) = line.text ++ '\n' :: Text.render t := by
        simp [Text.render]
      rw [hrender, splitLines_append_line, ih]
      rfl

end MetricsFormat
