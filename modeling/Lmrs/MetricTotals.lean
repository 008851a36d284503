import Lmrs.Lib.MetricsFormat
import Lmrs.Metrics

/-!
# The totals of a metrics text

Source: `lmrs/lmcache.py`, `_sum_metric_families`, `observations_from_vllm_metrics`.

A sample on one line is read as the number after its last blank, under what is before its labels: its value, or
its timestamp where it has one. Where that blank is not the one before its last token it is not read. What
`str.splitlines` makes of a comment, or of a sample that it divides, is read where it looks like a sample.

* `countedSample_sample`, `countedSample_iff`: what a line is read as.
* `valuesOf_render`: what is read of a family in a text.
* `Balanced.summed`, `summed_iff`: when the totals of a text, and the counters taken from them, are its own.
-/

namespace Lmrs

open Python MetricsFormat

/-! ## What a sample is read as -/

/-- The family a sample is read under: its name, and also its value where it has a timestamp and no labels. -/
def readFamily (s : Sample) : List Char :=
  if s.labels.isNone ∧ s.timestamp.isSome then s.name.text ++ s.gap.1 ++ s.value.text else s.name.text

/-- What a sample is read as. -/
def readSample (s : Sample) : String × ℚ := (String.ofList (readFamily s), s.lastToken.value)

/-- What is before the labels of a sample, or else before its last token. -/
theorem strip_front (s : Sample) {before : List Char} (hbefore : ∀ c ∈ before, isSpace c = true ∧ c ≠ '\x7b') :
    strip ((s.front ++ before).takeWhile fun c => c ≠ '\x7b') = readFamily s := by
  have hindent : ∀ c ∈ s.indent.1, isSpace c = true := fun c hc => (blank_facts c hc).1
  have hname : ∀ c ∈ s.name.text, isSpace c = false := fun c hc => (name_chars s.name c hc).1
  have hkept {blanks : Blanks} : ∀ c ∈ blanks.1, decide (c ≠ '\x7b') = true :=
    fun c hc => decide_eq_true (blank_facts c hc).2.1
  have hname_kept : ∀ c ∈ s.name.text, decide (c ≠ '\x7b') = true :=
    fun c hc => decide_eq_true (name_chars s.name c hc).2.1
  unfold Sample.front readFamily Sample.labelPart Sample.valueBefore
  cases hlabels : s.labels with
  | some parts =>
      obtain ⟨gap, labels⟩ := parts
      -- the brace of the labels ends what is taken
      have htaken (rest : List Char) :
          (s.indent.1 ++ (s.name.text ++ (gap.1 ++ labelsText labels ++ rest)) ++ before).takeWhile
              (fun c => decide (c ≠ '\x7b')) = s.indent.1 ++ s.name.text ++ gap.1 := by
        unfold labelsText
        simp only [List.append_assoc, List.cons_append]
        rw [List.takeWhile_append_of_pos hkept, List.takeWhile_append_of_pos hname_kept,
          List.takeWhile_append_of_pos hkept, List.takeWhile_cons_of_neg (by simp), List.append_nil]
      rw [htaken]
      exact strip_field hindent hname fun c hc => (blank_facts c hc).1
  | none =>
      cases hstamp : s.timestamp with
      | none =>
          have hall : ∀ c ∈ s.indent.1 ++ s.name.text ++ before, decide (c ≠ '\x7b') = true := by
            rw [List.forall_mem_append, List.forall_mem_append]
            exact ⟨⟨hkept, hname_kept⟩, fun c hc => decide_eq_true (hbefore c hc).2⟩
          simp only [List.append_nil, List.takeWhile_eq_self_iff.mpr hall]
          exact strip_field hindent hname fun c hc => (hbefore c hc).1
      | some stamp =>
          have hvalue := decimal_chars s.value
          have hall : ∀ c ∈ s.indent.1 ++ (s.name.text ++ s.gap.1 ++ s.value.text) ++ before,
              decide (c ≠ '\x7b') = true := by
            simp only [List.forall_mem_append]
            exact ⟨⟨hkept, ⟨hname_kept, hkept⟩, fun c hc => decide_eq_true (hvalue c hc).2.1⟩,
              fun c hc => decide_eq_true (hbefore c hc).2⟩
          have hsame : s.indent.1 ++ (s.name.text ++ ([] ++ (s.gap.1 ++ s.value.text))) ++ before =
              s.indent.1 ++ (s.name.text ++ s.gap.1 ++ s.value.text) ++ before := by simp
          rw [hsame, List.takeWhile_eq_self_iff.mpr hall]
          exact strip_between hindent ⟨s.name.some_char, hname⟩
            ⟨decimal_text_ne_nil s.value, fun c hc => (hvalue c hc).1⟩ fun c hc => (hbefore c hc).1

/-- **A spaced sample is read as its last token**, under the family it shows. Another is not read. -/
theorem countedSample_sample (s : Sample) : countedSample .finite s.text =
    if s.Spaced then some ((readSample s).1, .finite (readSample s).2) else none := by
  obtain ⟨c, cs, hhead, hc⟩ := s.text_head
  have hsome : ¬ (s.text = [] ∨ s.text.head? = some '#') := by
    simp [hhead, hc]
  unfold countedSample
  rw [if_neg hsome]
  split_ifs with h
  · obtain ⟨before, after, htext, hafter, hstrip, hbefore⟩ := Sample.text_spaced h
    have hfamily : readFamily s ≠ [] := by
      unfold readFamily
      split_ifs
      · simp [s.name.some_char]
      · exact s.name.some_char
    rw [htext, rpartition_append hafter]
    dsimp only
    rw [strip_front s hbefore, if_neg hfamily, floatOfString_exact s.lastToken hstrip]
    rfl
  · rcases Sample.text_not_spaced h with hnone | ⟨before, after, htext, hafter, hstrip⟩
    · rw [rpartition_of_not_mem hnone]
      rfl
    · have hvalue : floatOfString .finite after = none := by
        by_contra hread
        obtain ⟨x, hx⟩ := Option.ne_none_iff_exists'.mp hread
        obtain ⟨hne, hchars⟩ := floatOfString_chars hx
        rcases hstrip with hnil | htab | hbrace
        · exact hne hnil
        · exact absurd (hchars _ htab) (by decide +kernel)
        · exact absurd (hchars _ hbrace) (by decide +kernel)
      rw [htext, rpartition_append hafter]
      dsimp only
      rw [hvalue, Option.map_none, ite_self]

/-- A line with nothing but blanks before its last one is not read. -/
theorem countedSample_blank {line : List Char}
    (h : ∀ c ∈ (rpartition ' ' line).1, isSpace c = true) : countedSample .finite line = none := by
  have hname : ∀ c ∈ (rpartition ' ' line).1.takeWhile (fun c => decide (c ≠ '\x7b')), isSpace c = true :=
    fun c hc => h c (List.takeWhile_subset _ hc)
  have hfamily : strip ((rpartition ' ' line).1.takeWhile fun c => decide (c ≠ '\x7b')) = [] := by
    simpa using @strip_field _ [] [] hname (by simp) (by simp)
  unfold countedSample
  dsimp only
  rw [hfamily, if_pos rfl, ite_self]

/-- An empty line is not read. -/
theorem countedSample_empty (blanks : Blanks) : countedSample .finite blanks.1 = none := by
  apply countedSample_blank
  intro c hc
  exact (blank_facts c (rpartition_subset hc)).1

/-- A line looks like a sample: it does not start with a number sign, what is after its last blank is a number,
and what is before that, up to a brace, names a family. -/
structure LooksLike (line : List Char) (family : String) (x : PyFloat) : Prop where
  no_comment : line.head? ≠ some '#'
  named : family ≠ ""
  parts : ∃ before after, line = before ++ ' ' :: after ∧ ' ' ∉ after ∧
    strip (before.takeWhile fun c => c ≠ '{') = family.toList ∧ floatOfString .finite after = some x

/-- **A line is read as what it looks like.** -/
theorem countedSample_iff {line : List Char} {family : String} {x : PyFloat} :
    countedSample .finite line = some (family, x) ↔ LooksLike line family x := by
  constructor
  · intro h
    have hblank : ' ' ∈ line := by
      by_contra hnone
      rw [countedSample_blank] at h
      · cases h
      · rw [rpartition_of_not_mem hnone]
        simp
    obtain ⟨before, after, rfl, hafter⟩ := last_blank hblank
    unfold countedSample at h
    rw [rpartition_append hafter] at h
    dsimp only at h
    split_ifs at h with hskip hfamily
    obtain ⟨y, hy, heq⟩ := Option.map_eq_some_iff.mp h
    obtain ⟨rfl, rfl⟩ := Prod.mk.inj heq
    refine ⟨fun hhead => hskip (Or.inr hhead), fun hnamed => hfamily ?_, before, after, rfl, hafter, ?_, hy⟩
    · simpa using congrArg String.toList hnamed
    · rw [String.toList_ofList]
  · rintro ⟨hhead, hnamed, before, after, rfl, hafter, hfamily, hx⟩
    have hsome : ¬ (before ++ ' ' :: after = [] ∨ (before ++ ' ' :: after).head? = some '#') := by
      rintro (hnil | hcomment)
      · simp at hnil
      · exact hhead hcomment
    have hne : family.toList ≠ [] := by simpa using hnamed
    unfold countedSample
    rw [if_neg hsome, rpartition_append hafter]
    dsimp only
    rw [hfamily, if_neg hne, hx, Option.map_some, String.ofList_toList]

/-! ## What a text is read as -/

/-- A sample is read: `str.splitlines` does not divide it, a blank that is no tab stands before its last token, and
none after it. -/
def IsRead (s : Sample) : Prop := s.Unbroken ∧ s.Spaced

instance (s : Sample) : Decidable (IsRead s) := inferInstanceAs (Decidable (s.Unbroken ∧ s.Spaced))

/-- The samples of a text that are read. -/
def readSamples (t : Text) : List Sample := t.samples.filter fun s => IsRead s

/-- The pieces of a line that are no sample of the text: those of a comment, and of a broken sample. -/
def lineStrays : Line → List (List Char)
  | .empty _ => []
  | .comment indent text => (Line.comment indent text).pieces
  | .sample s => if s.Unbroken then [] else (Line.sample s).pieces

/-- The pieces of a text that are no sample of it. -/
def strays (t : Text) : List (List Char) := t.flatMap lineStrays

/-- The values some lines show for a family, where they look like samples of it. -/
inductive Shown (family : String) : List (List Char) → List PyFloat → Prop
  | nil : Shown family [] []
  | skip {line lines values} : (∀ x, ¬ LooksLike line family x) → Shown family lines values →
      Shown family (line :: lines) values
  | look {line lines x values} : LooksLike line family x → Shown family lines values →
      Shown family (line :: lines) (x :: values)

/-- The values that lines are read as under a family. -/
def strayValues (family : String) (lines : List (List Char)) : List PyFloat :=
  valuesOf family (lines.filterMap (countedSample .finite))

/-- The value of one more line. -/
theorem strayValues_cons (family : String) (line : List Char) (lines : List (List Char)) :
    strayValues family (line :: lines) = strayValues family [line] ++ strayValues family lines := by
  unfold strayValues valuesOf
  rw [← List.map_append, ← List.filter_append, ← List.filterMap_append]
  rfl

/-- A line that looks like a sample of a family is read under it, and only that. -/
theorem strayValues_singleton {family : String} {line : List Char} {x : PyFloat} :
    LooksLike line family x ↔ strayValues family [line] = [x] := by
  rw [← countedSample_iff]
  unfold strayValues valuesOf
  cases hcounted : countedSample .finite line with
  | none => simp [hcounted]
  | some sample =>
      rw [List.filterMap_cons_some hcounted, List.filterMap_nil]
      obtain ⟨name, y⟩ := sample
      by_cases hname : name = family <;> simp [hname]

/-- A line that looks like no sample of a family is not read under it. -/
theorem strayValues_nil {family : String} {line : List Char} (h : ∀ x, ¬ LooksLike line family x) :
    strayValues family [line] = [] := by
  by_contra hne
  obtain ⟨x, hx⟩ := List.exists_mem_of_ne_nil _ hne
  obtain ⟨⟨name, y⟩, hsample, rfl⟩ := List.mem_map.mp hx
  obtain ⟨hmem, hname⟩ := List.mem_filter.mp hsample
  obtain ⟨line', hline, hcounted⟩ := List.mem_filterMap.mp hmem
  obtain rfl := List.mem_singleton.mp hline
  obtain rfl : name = family := of_decide_eq_true hname
  exact h y (countedSample_iff.mp hcounted)

/-- **Lines are read as what they show.** -/
theorem shown_iff {family : String} {lines : List (List Char)} {values : List PyFloat} :
    Shown family lines values ↔ strayValues family lines = values := by
  constructor
  · intro h
    induction h with
    | nil => rfl
    | skip hnone _ ih => rw [strayValues_cons, strayValues_nil hnone, ih, List.nil_append]
    | look hlook _ ih => rw [strayValues_cons, strayValues_singleton.mp hlook, ih, List.singleton_append]
  · rintro rfl
    induction lines with
    | nil => exact .nil
    | cons line lines ih =>
        rw [strayValues_cons]
        by_cases hlook : ∃ x, LooksLike line family x
        · obtain ⟨x, hx⟩ := hlook
          rw [strayValues_singleton.mp hx]
          exact .look hx ih
        · push Not at hlook
          rw [strayValues_nil hlook]
          exact .skip hlook ih

/-- What a line is read as: the sample on it, where that is read, and what it strays. -/
theorem countedSample_pieces (line : Line) : line.pieces.filterMap (countedSample .finite) =
    ((line.sample?.toList.filter fun s => IsRead s).map fun s => ((readSample s).1, .finite (readSample s).2)) ++
      (lineStrays line).filterMap (countedSample .finite) := by
  cases line with
  | empty blanks =>
      have hpieces := (show (Line.empty blanks).Unbroken from trivial).pieces
      have hnone : countedSample .finite (Line.empty blanks).text = none := countedSample_empty blanks
      rw [hpieces, List.filterMap_cons_none hnone]
      rfl
  | comment indent text => rfl
  | sample s =>
      by_cases hbroken : s.Unbroken
      · have hpieces := (show (Line.sample s).Unbroken from hbroken).pieces
        have hsample : countedSample .finite (Line.sample s).text = _ := countedSample_sample s
        rw [hpieces]
        by_cases hspaced : s.Spaced
        · rw [if_pos hspaced] at hsample
          rw [List.filterMap_cons_some hsample]
          simp [Line.sample?, lineStrays, IsRead, hbroken, hspaced]
        · rw [if_neg hspaced] at hsample
          rw [List.filterMap_cons_none hsample]
          simp [Line.sample?, lineStrays, IsRead, hbroken, hspaced]
      · simp [Line.sample?, lineStrays, IsRead, hbroken]

/-- The samples that are read under a family. -/
def readUnder (t : Text) (family : String) : List Sample :=
  (readSamples t).filter fun s => (readSample s).1 = family

/-- **What is read of a family in a text**: the last tokens of the samples that are read under it, and what the
strays show. -/
theorem valuesOf_render (t : Text) (family : String) :
    (valuesOf family (countedSamples .finite t.render)).Perm
      (((readUnder t family).map fun s => PyFloat.finite s.lastToken.value) ++ strayValues family (strays t)) := by
  have hcounted : (countedSamples .finite t.render).Perm
      (((readSamples t).map fun s => ((readSample s).1, PyFloat.finite (readSample s).2)) ++
        (strays t).filterMap (countedSample .finite)) := by
    have hsamples : t.samples = t.flatMap fun line => line.sample?.toList :=
      List.filterMap_eq_flatMap_toList _ _
    unfold countedSamples readSamples strays
    rw [Text.splitLines_render, List.filterMap_flatMap, List.filterMap_flatMap, hsamples, List.filter_flatMap,
      List.map_flatMap]
    simp only [countedSample_pieces]
    exact (List.flatMap_append_perm _ _ _).symm
  have hvalues := (hcounted.filter fun sample => sample.1 = family).map Prod.snd
  rw [List.filter_append, List.map_append, List.filter_map, List.map_map] at hvalues
  exact hvalues

/-! ## The totals -/

/-- The counters of a text: the hits, and what the queries have more than them. -/
def textCounters (t : Text) : Option (ℤ × ℤ) :=
  if t.ofFamily externalQueriesFamily ≠ [] ∧ t.ofFamily externalHitsFamily ≠ [] then
    some (t.total externalHitsFamily, max 0 (t.total externalQueriesFamily - t.total externalHitsFamily))
  else none

/-- The totals of a text, and the counters taken from them, are its own. -/
structure Summed (t : Text) : Prop where
  totals : ∀ family, Dict.get? (sumMetricFamilies .finite t.render) family =
    if t.ofFamily family = [] then none else some (.finite (t.total family))
  counters : ∃ metadata, observationsFromVllmMetrics (sumMetricFamilies .finite t.render) =
    .ok (textCounters t, metadata)

/-- The timestamps that stand behind the values of a family, where these samples are read. -/
def stamps (t : Text) (family : String) : List ℚ :=
  ((readSamples t).filter fun s => s.family = family).filterMap fun s => s.timestamp.map fun stamp => stamp.2.value

/-- The samples of a family whose values are not read: those with a timestamp, and those that are not read. -/
def hidden (t : Text) (family : String) : List Sample :=
  (t.ofFamily family).filter fun s => s.timestamp.isSome ∨ ¬ IsRead s

/-- What is read of a text for the values that are hidden in it balances. Every sample that is read has labels
where it has a timestamp. A stray that looks like a sample is of a family of the text; each family has a sample
that is read, or such a stray. In each the timestamps, and the numbers the strays show, add up to the values that
are hidden. -/
structure Balanced (t : Text) : Prop where
  labelled : ∀ s ∈ readSamples t, s.timestamp.isSome → s.labels.isSome
  own : ∀ line ∈ strays t, ∀ family x, LooksLike line family x → ∃ s ∈ t.samples, s.family = family
  present : ∀ s ∈ t.samples, (∃ s' ∈ readSamples t, s'.family = s.family) ∨
    ∃ line ∈ strays t, ∃ x, LooksLike line s.family x
  even : ∀ family, ∃ numbers : List ℚ, Shown family (strays t) (numbers.map .finite) ∧
    (stamps t family).sum + numbers.sum = (((hidden t family).map Sample.number).sum : ℤ)

/-- A sample without labels and with a timestamp is read under a text with a blank in it, which is no name. -/
theorem readFamily_ne {s s' : Sample} (hlabels : s.labels = none) (hstamp : s.timestamp.isSome) :
    String.ofList (readFamily s) ≠ s'.family := by
  intro heq
  have hchars : readFamily s = s'.name.text := by
    simpa [Sample.family] using congrArg String.toList heq
  obtain ⟨c, hc⟩ := List.exists_mem_of_ne_nil _ (s.separated hlabels)
  have hmem : c ∈ readFamily s := by
    unfold readFamily
    simp [hlabels, hstamp, hc]
  rw [hchars] at hmem
  have hspace := (blank_facts c hc).1
  rw [(name_chars s'.name c hmem).1] at hspace
  cases hspace

/-- A sample with labels, or without a timestamp, is read under its name. -/
theorem readSample_family {s : Sample} (h : s.timestamp.isSome → s.labels.isSome) :
    (readSample s).1 = s.family := by
  unfold readSample readFamily Sample.family
  rw [if_neg]
  rintro ⟨hlabels, hstamp⟩
  have hsome := h hstamp
  rw [Option.isNone_iff_eq_none.mp hlabels] at hsome
  cases hsome

/-- What is read under a family is told. -/
theorem strayValues_ne_nil {family : String} {lines : List (List Char)} :
    strayValues family lines ≠ [] ↔ ∃ line ∈ lines, ∃ x, LooksLike line family x := by
  constructor
  · intro hne
    by_contra hnone
    push Not at hnone
    apply hne
    induction lines with
    | nil => rfl
    | cons line lines ih =>
        rw [List.forall_mem_cons] at hnone
        rw [strayValues_cons, strayValues_nil hnone.1, List.nil_append]
        by_contra hsome
        exact hsome (ih hsome hnone.2)
  · rintro ⟨line, hline, x, hlook⟩
    obtain ⟨before, after, rfl⟩ := List.append_of_mem hline
    unfold strayValues valuesOf
    simp [countedSample_iff.mpr hlook]

/-- A family is in the totals of a text exactly when something is read under it. -/
theorem get?_render_eq_none {t : Text} {family : String} :
    Dict.get? (sumMetricFamilies .finite t.render) family = none ↔
      readUnder t family = [] ∧ strayValues family (strays t) = [] := by
  have hperm := valuesOf_render t family
  rw [get?_sumMetricFamilies]
  split_ifs with hnone
  · rw [hnone] at hperm
    simpa using hperm.nil_eq.symm
  · refine iff_of_false not_false fun hnil => hnone ?_
    rw [hnil.1, hnil.2] at hperm
    exact hperm.eq_nil

/-- **The total of a family is a number** when all the strays show are numbers: then it is their sum with that of
the last tokens of the samples that are read. -/
theorem get?_render_eq_some {t : Text} {family : String} {n : ℚ} :
    Dict.get? (sumMetricFamilies .finite t.render) family = some (.finite n) ↔
      ¬ (readUnder t family = [] ∧ strayValues family (strays t) = []) ∧
        ∃ numbers : List ℚ, strayValues family (strays t) = numbers.map .finite ∧
          ((readUnder t family).map fun s => s.lastToken.value).sum + numbers.sum = n := by
  rw [← get?_render_eq_none]
  have hperm := valuesOf_render t family
  have hinjective : Function.Injective PyFloat.finite := fun _ _ => PyFloat.finite.inj
  have htokens : ((readUnder t family).map fun s => PyFloat.finite s.lastToken.value) =
      ((readUnder t family).map fun s => s.lastToken.value).map .finite := by
    rw [List.map_map]
    rfl
  rw [get?_sumMetricFamilies]
  rw [htokens] at hperm
  split_ifs with hnone
  · simp
  · rw [Option.some_inj, foldl_add_exact_iff]
    simp only [not_false_eq_true, true_and, zero_add]
    constructor
    · rintro ⟨all, hall, rfl⟩
      rw [hall] at hperm
      -- what the strays show is among these numbers
      have hfinite : ∀ x ∈ strayValues family (strays t), x ∈ Set.range PyFloat.finite := by
        intro x hx
        obtain ⟨q, -, hq⟩ := List.mem_map.mp (hperm.mem_iff.mpr (List.mem_append_right _ hx))
        exact ⟨q, hq⟩
      obtain ⟨numbers, hnumbers⟩ := (Set.range_list_map PyFloat.finite).ge hfinite
      rw [← hnumbers, ← List.map_append, List.map_perm_map_iff hinjective] at hperm
      exact ⟨numbers, hnumbers.symm, by rw [hperm.sum_eq, List.sum_append]⟩
    · rintro ⟨numbers, hnumbers, rfl⟩
      rw [hnumbers, ← List.map_append] at hperm
      have hfinite : ∀ x ∈ valuesOf family (countedSamples .finite t.render), x ∈ Set.range PyFloat.finite := by
        intro x hx
        obtain ⟨q, -, hq⟩ := List.mem_map.mp (hperm.mem_iff.mp hx)
        exact ⟨q, hq⟩
      obtain ⟨all, hall⟩ := (Set.range_list_map PyFloat.finite).ge hfinite
      rw [← hall, List.map_perm_map_iff hinjective] at hperm
      exact ⟨all, hall.symm, by rw [hperm.sum_eq, List.sum_append]⟩

/-- With labels on every timestamped sample, those that are read are read under their own families. -/
theorem readUnder_eq {t : Text} (h : ∀ s ∈ readSamples t, s.timestamp.isSome → s.labels.isSome)
    (family : String) : readUnder t family = (readSamples t).filter fun s => s.family = family := by
  apply List.filter_congr
  intro s hs
  rw [readSample_family (h s hs)]

/-- The last tokens of the samples of a family that are read, and the values that are hidden, add up to all its
values and the timestamps. -/
theorem sum_lastToken (t : Text) (family : String) :
    ((((readSamples t).filter fun s => s.family = family).map fun s => s.lastToken.value).sum : ℚ) +
        (((hidden t family).map Sample.number).sum : ℤ) = (t.total family : ℤ) + (stamps t family).sum := by
  unfold hidden stamps Text.total Text.ofFamily readSamples
  rw [List.filter_comm]
  induction t.samples.filter fun s => s.family = family with
  | nil => simp
  | cons s samples ih =>
      rw [List.map_cons, List.sum_cons, Int.cast_add]
      by_cases hread : IsRead s
      · rw [List.filter_cons_of_pos (by simp [hread]), List.map_cons, List.sum_cons]
        cases hstamp : s.timestamp with
        | none =>
            have hvalue : s.lastToken.value = s.number := by
              rw [← s.denotes, Sample.lastToken, hstamp]
            rw [List.filter_cons_of_neg (by simp [hread, hstamp]), List.filterMap_cons_none (by simp [hstamp]),
              hvalue]
            linarith
        | some stamp =>
            have hvalue : s.lastToken.value = stamp.2.value := by
              rw [Sample.lastToken, hstamp, Timestamp.value]
            rw [List.filter_cons_of_pos (by simp [hstamp]), List.filterMap_cons, hstamp]
            simp only [Option.map_some, List.map_cons, List.sum_cons, Int.cast_add, hvalue]
            linarith
      · rw [List.filter_cons_of_neg (by simp [hread]), List.filter_cons_of_pos (by simp [hread]), List.map_cons,
          List.sum_cons, Int.cast_add]
        linarith

/-- With its totals a text has its counters. -/
theorem counters_of_totals {t : Text}
    (h : ∀ family, Dict.get? (sumMetricFamilies .finite t.render) family =
      if t.ofFamily family = [] then none else some (.finite (t.total family))) :
    ∃ metadata, observationsFromVllmMetrics (sumMetricFamilies .finite t.render) =
      .ok (textCounters t, metadata) := by
  have hinteger (n : ℤ) : toInt (.float (.finite n)) = .ok n := by simp [toInt]
  have hcounters : externalCounters (sumMetricFamilies .finite t.render) = .ok (textCounters t) := by
    unfold externalCounters textCounters
    rw [h, h]
    by_cases hqueries : t.ofFamily externalQueriesFamily = []
    · simp [hqueries]
    · by_cases hhits : t.ofFamily externalHitsFamily = []
      · simp [hqueries, hhits]
      · simp only [hqueries, hhits, if_false, not_false_eq_true, ne_eq, and_self, if_true, hinteger]
        rfl
  unfold observationsFromVllmMetrics
  rw [hcounters]
  exact ⟨_, rfl⟩

/-- With the totals of a text nothing is read under another family than those of its samples. -/
theorem Summed.family {t : Text} (h : Summed t) {family : String}
    (hread : readUnder t family ≠ [] ∨ strayValues family (strays t) ≠ []) :
    ∃ s ∈ t.samples, s.family = family := by
  have htotal := h.totals family
  split_ifs at htotal with hnone
  · obtain ⟨hsamples, hstrays⟩ := get?_render_eq_none.mp htotal
    exact absurd hread (not_or.mpr ⟨not_not.mpr hsamples, not_not.mpr hstrays⟩)
  · obtain ⟨s, hs⟩ := List.exists_mem_of_ne_nil _ hnone
    obtain ⟨hmem, heq⟩ := List.mem_filter.mp hs
    exact ⟨s, hmem, of_decide_eq_true heq⟩

/-- **The totals of a balanced text are its own.** -/
theorem Balanced.summed {t : Text} (h : Balanced t) : Summed t := by
  have htotals : ∀ family, Dict.get? (sumMetricFamilies .finite t.render) family =
      if t.ofFamily family = [] then none else some (.finite (t.total family)) := by
    intro family
    split_ifs with hnone
    · rw [get?_render_eq_none, readUnder_eq h.labelled]
      have hfamily : ∀ s ∈ t.samples, s.family ≠ family := by
        simpa [Text.ofFamily, List.filter_eq_nil_iff] using hnone
      constructor
      · rw [List.filter_eq_nil_iff]
        intro s hs
        simpa using hfamily s (List.mem_of_mem_filter hs)
      · by_contra hne
        obtain ⟨line, hline, x, hlook⟩ := strayValues_ne_nil.mp hne
        obtain ⟨s, hs, heq⟩ := h.own line hline family x hlook
        exact hfamily s hs heq
    · rw [get?_render_eq_some, readUnder_eq h.labelled]
      obtain ⟨numbers, hshown, hsum⟩ := h.even family
      have htokens := sum_lastToken t family
      refine ⟨?_, numbers, shown_iff.mp hshown, by linarith⟩
      rintro ⟨hsamples, hstrays⟩
      obtain ⟨s, hs⟩ := List.exists_mem_of_ne_nil _ hnone
      obtain ⟨hmem, heq⟩ := List.mem_filter.mp hs
      obtain rfl : s.family = family := of_decide_eq_true heq
      rcases h.present s hmem with ⟨s', hs', hfamily⟩ | hstray
      · exact List.filter_eq_nil_iff.mp hsamples s' hs' (decide_eq_true hfamily)
      · exact strayValues_ne_nil.mpr hstray hstrays
  exact ⟨htotals, counters_of_totals htotals⟩

/-- A text all of whose samples are read and have no timestamp, and none of whose strays looks like a sample, has
its totals. -/
theorem summed_plain {t : Text} (hsamples : ∀ s ∈ t.samples, IsRead s ∧ s.timestamp = none)
    (hstrays : ∀ line ∈ strays t, ∀ family x, ¬ LooksLike line family x) : Summed t := by
  have hread : readSamples t = t.samples := List.filter_eq_self.mpr fun s hs => by simp [hsamples s hs]
  refine Balanced.summed ⟨?_, ?_, ?_, ?_⟩
  · intro s hs hstamp
    rw [hread] at hs
    simp [(hsamples s hs).2] at hstamp
  · intro line hline family x hlook
    exact absurd hlook (hstrays line hline family x)
  · intro s hs
    rw [hread]
    exact Or.inl ⟨s, hs, rfl⟩
  · intro family
    refine ⟨[], shown_iff.mpr ?_, ?_⟩
    · by_contra hne
      obtain ⟨line, hline, x, hlook⟩ := strayValues_ne_nil.mp hne
      exact hstrays line hline family x hlook
    · have hstamps : stamps t family = [] := by
        unfold stamps
        rw [List.filterMap_eq_nil_iff, hread]
        intro s hs
        simp [(hsamples s (List.mem_of_mem_filter hs)).2]
      have hhidden : hidden t family = [] := by
        unfold hidden
        rw [List.filter_eq_nil_iff]
        intro s hs
        simp [hsamples s (List.mem_of_mem_filter hs)]
      rw [hstamps, hhidden]
      simp

/-- **The totals of a text are its own exactly when it balances.** In exact arithmetic, for every text of the
format: each family is mapped to the sum of the values of its samples, and the hit and miss tokens are taken from
these, if and only if no sample without labels has a timestamp that is read, nothing in a comment or in a sample
`str.splitlines` divides looks like a sample of another family, and in each family the timestamps, and the numbers
such strays show, add up to the values that are hidden. -/
theorem summed_iff (t : Text) : Summed t ↔ Balanced t := by
  constructor
  · intro h
    have hlabelled : ∀ s ∈ readSamples t, s.timestamp.isSome → s.labels.isSome := by
      intro s hs hstamp
      by_contra hnone
      rw [Option.not_isSome_iff_eq_none] at hnone
      have hunder : readUnder t (readSample s).1 ≠ [] :=
        List.ne_nil_of_mem (List.mem_filter.mpr ⟨hs, by simp⟩)
      obtain ⟨s', -, heq⟩ := h.family (Or.inl hunder)
      exact readFamily_ne hnone hstamp heq.symm
    refine ⟨hlabelled, fun line hline family x hlook => ?_, fun s hs => ?_, fun family => ?_⟩
    · exact h.family (Or.inr (strayValues_ne_nil.mpr ⟨line, hline, x, hlook⟩))
    · -- a family with a sample has a total, so something is read under it
      have hown : t.ofFamily s.family ≠ [] :=
        List.ne_nil_of_mem (List.mem_filter.mpr ⟨hs, by simp⟩)
      have htotal := h.totals s.family
      rw [if_neg hown, get?_render_eq_some, readUnder_eq hlabelled] at htotal
      by_contra hnone
      rw [not_or] at hnone
      refine htotal.1 ⟨List.filter_eq_nil_iff.mpr fun s' hs' hfamily => ?_, ?_⟩
      · exact hnone.1 ⟨s', hs', of_decide_eq_true hfamily⟩
      · by_contra hstrays
        exact hnone.2 (strayValues_ne_nil.mp hstrays)
    · have htotal := h.totals family
      have htokens := sum_lastToken t family
      split_ifs at htotal with hnone
      · rw [get?_render_eq_none, readUnder_eq hlabelled] at htotal
        refine ⟨[], shown_iff.mpr htotal.2, ?_⟩
        have hvalue : t.total family = 0 := by simp [Text.total, hnone]
        rw [htotal.1, hvalue] at htokens
        simpa using htokens.symm
      · rw [get?_render_eq_some, readUnder_eq hlabelled] at htotal
        obtain ⟨-, numbers, hnumbers, hsum⟩ := htotal
        exact ⟨numbers, shown_iff.mpr hnumbers, by linarith⟩
  · exact Balanced.summed

/-- The text `m{} 12 17`: the value 12 at the instant 17. -/
def stampedText : Text :=
  [.sample
    { indent := ⟨[], by simp⟩
      name := ⟨['m'], by simp, List.forall_mem_singleton.mpr rfl⟩
      labels := some (⟨[], by simp⟩, ⟨[], false, by simp, ⟨[], by simp⟩⟩)
      gap := ⟨[' '], by simp⟩
      separated := by simp
      value := { whole := [1, 2], some_digit := Or.inl (by simp), some_exponent := by simp }
      number := 12
      denotes := by decide +kernel
      timestamp := some (⟨⟨[' '], by simp⟩, by simp⟩, ⟨.none, [1, 7], by simp⟩)
      trail := ⟨[], by simp⟩ }]

/-- **A timestamp is counted as the value of its sample.** -/
theorem timestamp_is_counted :
    Dict.get? (sumMetricFamilies .finite stampedText.render) "m" = some (.finite 17) ∧
      ¬ ∀ t : Text, Summed t := by
  have hcounted : Dict.get? (sumMetricFamilies .finite stampedText.render) "m" = some (.finite 17) := by
    decide +kernel
  refine ⟨hcounted, fun hclaim => ?_⟩
  have htotal := (hclaim stampedText).totals "m"
  have hown : (if stampedText.ofFamily "m" = [] then none
      else some (PyFloat.finite (stampedText.total "m"))) = some (.finite 12) := by
    decide +kernel
  rw [hcounted, hown] at htotal
  exact absurd htotal (by decide)

end Lmrs
