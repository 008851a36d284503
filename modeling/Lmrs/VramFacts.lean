import Lmrs.Lib.Transition
import Lmrs.Vram

/-!
# Runs of the facts store

Source: `lmrs/vram.py`, `VramFactsStore.record_service_baseline`, `VramFactsStore.record_model_loaded`.

The two recordings each write part of one mapping: the first the baseline and its label, the second the
reading of a load and the static figure between the two. `Recording` is either of them, on a store that
can be read and written.

* `record_baseline_cases`, `record_loaded_cases`: what each recording changes.
* `label_kept`: a baseline labelled model-free keeps that label.
* `static_consistent_iff`: the stored figure is the difference of the two stored readings all along a
  run exactly when no baseline is recorded over a figure it does not agree with.
-/

namespace Lmrs

open Python Transition

namespace VramFactsStore

/-- One call of a recording method. -/
inductive Recording where
  | baseline (measurement : GpuMemoryMeasurement) (residentServices : List String)
      (modelServed : Bool)
  | loaded (modelName : String) (measurement : GpuMemoryMeasurement)
      (runtimeBackend quantizationProfile : String)

/-- The file after a recording, on a store that can be read and written. -/
def record (file : File) : Recording → File
  | .baseline measurement services modelServed =>
      (recordServiceBaseline {} file measurement services modelServed).2
  | .loaded modelName measurement backend quantization =>
      (recordModelLoaded {} file modelName measurement backend quantization).2

/-- The stored mapping. -/
abbrev stored (file : File) : Dict Value := read {} file

/-- The stored baseline. -/
abbrev baselineFree (facts : Dict Value) : Value := Value.item facts "service_baseline_free_vram_bytes"

/-- The label of the stored baseline. -/
abbrev modelServedLabel (facts : Dict Value) : Value := Value.item facts "baseline_model_served"

/-- The static figure, when it is present. -/
abbrev static? (facts : Dict Value) : Option Value :=
  Dict.get? facts "measured_model_static_vram_bytes"

/-- A baseline and its label are stored together. -/
def Labelled (facts : Dict Value) : Prop :=
  (modelServedLabel facts = .none ∧ baselineFree facts = .none) ∨
    ∃ (served : Bool) (bytes : Int), modelServedLabel facts = .bool served ∧
      baselineFree facts = .int bytes

/-- A present static figure is the difference of a model-free baseline and the reading of a load. -/
def StaticConsistent (facts : Dict Value) : Prop :=
  ∀ figure, static? facts = some figure → modelServedLabel facts = .bool false ∧
    ∃ baseline loaded : Int, baselineFree facts = .int baseline ∧ free facts = .int loaded ∧
      figure = .int (baseline - loaded)

/-- A model-free baseline recorded over a static figure reads what the stored baseline reads. -/
def KeepsFigure (file : File) : Recording → Prop
  | .baseline measurement _ modelServed =>
      measurement.ok = true → modelServed = false → (static? (stored file)).isSome = true →
        baselineFree (stored file) = .int measurement.freeBytes
  | .loaded .. => True

section recordings

variable {file : File} {measurement : GpuMemoryMeasurement} {services : List String}
  {modelServed : Bool} {modelName backend quantization : String} {facts : Dict Value}

/-- A write to a store that can be read and written is stored. -/
theorem stored_write (file : File) (facts : Dict Value) : stored (write {} file facts).2 = facts :=
  rfl

/-- A model-served reading would replace a model-free baseline. -/
def keepsModelFree (modelServed : Bool) (facts : Dict Value) : Bool :=
  match modelServed, modelServedLabel facts with
  | true, .bool false => true
  | _, _ => false

/-- When a stored baseline is kept. -/
theorem keepsModelFree_iff :
    keepsModelFree modelServed facts = true ↔
      modelServed = true ∧ modelServedLabel facts = .bool false := by
  unfold keepsModelFree
  split
  · next hlabel => simp [hlabel]
  · next hnot =>
      constructor
      · intro h
        cases h
      · intro ⟨hserved, hlabel⟩
        exact (hnot hserved hlabel).elim

/-- The mapping a baseline is recorded as. -/
def baselineFacts (facts : Dict Value) (measurement : GpuMemoryMeasurement) (services : List String)
    (modelServed : Bool) : Dict Value :=
  Dict.update facts
    [("service_baseline_free_vram_bytes", .int measurement.freeBytes),
     ("total_vram_bytes", .int measurement.totalBytes),
     ("resident_services", .list (services.map .str)),
     ("baseline_measured_at", .str measurement.measuredAt),
     ("baseline_model_served", .bool modelServed)]

/-- Recording a baseline, by its two guards. -/
theorem recordServiceBaseline_eq (access : Access) (file : File) (measurement : GpuMemoryMeasurement)
    (services : List String) (modelServed : Bool) :
    recordServiceBaseline access file measurement services modelServed =
      if measurement.ok = false then (read access file, file)
      else if keepsModelFree modelServed (read access file) = true then (read access file, file)
      else write access file (baselineFacts (read access file) measurement services modelServed) := by
  unfold recordServiceBaseline
  dsimp only
  by_cases hok : measurement.ok = false
  · rw [if_pos hok, if_pos hok]
  · rw [if_neg hok, if_neg hok]
    by_cases hkeeps : keepsModelFree modelServed (read access file) = true
    · obtain ⟨hserved, hlabel⟩ := keepsModelFree_iff.mp hkeeps
      rw [if_pos hkeeps, hserved, show Value.item (read access file) "baseline_model_served" =
        .bool false from hlabel]
    · rw [if_neg hkeeps]
      split
      · next hlabel => exact absurd (keepsModelFree_iff.mpr ⟨rfl, hlabel⟩) hkeeps
      · rfl

/-- The fields of a recorded baseline. -/
theorem baselineFacts_fields (facts : Dict Value) (measurement : GpuMemoryMeasurement)
    (services : List String) (modelServed : Bool) :
    baselineFree (baselineFacts facts measurement services modelServed) =
        .int measurement.freeBytes ∧
      modelServedLabel (baselineFacts facts measurement services modelServed) =
        .bool modelServed ∧
      free (baselineFacts facts measurement services modelServed) = free facts ∧
      static? (baselineFacts facts measurement services modelServed) = static? facts := by
  simp [baselineFacts, Dict.update, Value.item, Dict.get?_set]

/-- **What recording a baseline changes**: nothing, when the reading failed or would replace a
model-free baseline by a model-served one; else the baseline and its label, and neither the reading of
a load nor the static figure. -/
theorem record_baseline_cases (file : File) (measurement : GpuMemoryMeasurement)
    (services : List String) (modelServed : Bool) :
    (record file (.baseline measurement services modelServed) = file ∧
        (measurement.ok = false ∨
          modelServed = true ∧ modelServedLabel (stored file) = .bool false)) ∨
      ∃ facts, stored (record file (.baseline measurement services modelServed)) = facts ∧
        measurement.ok = true ∧
        ¬ (modelServed = true ∧ modelServedLabel (stored file) = .bool false) ∧
        baselineFree facts = .int measurement.freeBytes ∧
        modelServedLabel facts = .bool modelServed ∧ free facts = free (stored file) ∧
        static? facts = static? (stored file) := by
  unfold record
  dsimp only
  rw [recordServiceBaseline_eq]
  by_cases hok : measurement.ok = false
  · rw [if_pos hok]
    exact Or.inl ⟨rfl, Or.inl hok⟩
  · rw [if_neg hok]
    by_cases hkeeps : keepsModelFree modelServed (stored file) = true
    · rw [if_pos hkeeps]
      exact Or.inl ⟨rfl, Or.inr (keepsModelFree_iff.mp hkeeps)⟩
    · rw [if_neg hkeeps]
      have hnot := mt keepsModelFree_iff.mpr hkeeps
      exact Or.inr ⟨_, rfl, by simpa using hok, hnot,
        baselineFacts_fields (stored file) measurement services modelServed⟩

/-- The facts of a load keep the baseline and its label and carry the reading. -/
theorem loadedFacts_fields (facts : Dict Value) (modelName : String)
    (measurement : GpuMemoryMeasurement) (backend quantization : String) :
    baselineFree (loadedFacts facts modelName measurement backend quantization) =
        baselineFree facts ∧
      modelServedLabel (loadedFacts facts modelName measurement backend quantization) =
        modelServedLabel facts ∧
      free (loadedFacts facts modelName measurement backend quantization) =
        .int measurement.freeBytes := by
  simp [loadedFacts, Dict.update, Value.item, Dict.get?_set]

/-- Deriving the static figure keeps the readings, and stores the figure only as the difference to a
baseline that is not labelled model-served. -/
theorem deriveStatic_fields (facts : Dict Value) (freeBytes : Int) :
    baselineFree (deriveStatic facts freeBytes) = baselineFree facts ∧
      modelServedLabel (deriveStatic facts freeBytes) = modelServedLabel facts ∧
      (static? (deriveStatic facts freeBytes) = none ∨
        (modelServedLabel facts).truthy = false ∧
          ∃ baseline, (baselineFree facts).asInt? = some baseline ∧
            static? (deriveStatic facts freeBytes) = some (.int (baseline - freeBytes))) := by
  unfold deriveStatic
  dsimp only
  by_cases hserved : (modelServedLabel facts).truthy = true
  · rw [if_pos hserved]
    simp [Value.item, Dict.get?_set, Dict.get?_pop]
  · rw [if_neg hserved]
    have hfree : (modelServedLabel facts).truthy = false := by simpa using hserved
    split
    · next baseline hbaseline =>
        split_ifs
        · refine ⟨?_, ?_, Or.inr ⟨hfree, baseline, hbaseline, ?_⟩⟩
          all_goals simp [Value.item, Dict.get?_set, Dict.get?_pop]
        · simp [Value.item, Dict.get?_set, Dict.get?_pop]
    · simp [Value.item, Dict.get?_set, Dict.get?_pop]

/-- **What recording a load changes**: nothing, when the reading failed; else the reading of the load
and the static figure, which is present only over a baseline that is not labelled model-served, as the
difference to it. -/
theorem record_loaded_cases (file : File) (modelName : String) (measurement : GpuMemoryMeasurement)
    (backend quantization : String) :
    record file (.loaded modelName measurement backend quantization) = file ∨
      ∃ facts, stored (record file (.loaded modelName measurement backend quantization)) = facts ∧
        baselineFree facts = baselineFree (stored file) ∧
        modelServedLabel facts = modelServedLabel (stored file) ∧
        free facts = .int measurement.freeBytes ∧
        (static? facts = none ∨
          (modelServedLabel (stored file)).truthy = false ∧
            ∃ baseline, (baselineFree (stored file)).asInt? = some baseline ∧
              static? facts = some (.int (baseline - measurement.freeBytes))) := by
  unfold record recordModelLoaded
  dsimp only
  by_cases hok : measurement.ok = false
  · rw [if_pos hok]
    exact Or.inl rfl
  · rw [if_neg hok]
    obtain ⟨hbaseline, hlabel, hloaded⟩ :=
      loadedFacts_fields (stored file) modelName measurement backend quantization
    obtain ⟨hbaseline', hlabel', hstatic⟩ := deriveStatic_fields
      (loadedFacts (stored file) modelName measurement backend quantization) measurement.freeBytes
    rw [hbaseline, hlabel] at hstatic
    refine Or.inr ⟨_, rfl, ?_⟩
    rw [stored_write]
    exact ⟨hbaseline'.trans hbaseline, hlabel'.trans hlabel, (free_deriveStatic _ _).trans hloaded,
      hstatic⟩

/-- A recording keeps a baseline and its label together. -/
theorem labelled_record (h : Labelled (stored file)) (op : Recording) :
    Labelled (stored (record file op)) := by
  cases op with
  | baseline measurement services modelServed =>
      rcases record_baseline_cases file measurement services modelServed with
        ⟨hsame, -⟩ | ⟨facts, hfacts, -, -, hbaseline, hlabel, -⟩
      · rw [hsame]
        exact h
      · rw [hfacts]
        exact Or.inr ⟨modelServed, measurement.freeBytes, hlabel, hbaseline⟩
  | loaded modelName measurement backend quantization =>
      rcases record_loaded_cases file modelName measurement backend quantization with
        hsame | ⟨facts, hfacts, hbaseline, hlabel, -⟩
      · rw [hsame]
        exact h
      · unfold Labelled
        rw [hfacts, hbaseline, hlabel]
        exact h

/-- **A model-free label is kept**: no recording replaces a model-free baseline by a model-served
one. -/
theorem label_kept (h : modelServedLabel (stored file) = .bool false) (op : Recording) :
    modelServedLabel (stored (record file op)) = .bool false := by
  cases op with
  | baseline measurement services modelServed =>
      rcases record_baseline_cases file measurement services modelServed with
        ⟨hsame, -⟩ | ⟨facts, hfacts, -, hnot, -, hlabel, -⟩
      · rw [hsame]
        exact h
      · have hserved : modelServed = false := by
          by_contra hne
          exact hnot ⟨by simpa using hne, h⟩
        rw [hfacts, hlabel, hserved]
  | loaded modelName measurement backend quantization =>
      rcases record_loaded_cases file modelName measurement backend quantization with
        hsame | ⟨facts, hfacts, -, hlabel, -⟩
      · rw [hsame]
        exact h
      · rw [hfacts, hlabel]
        exact h

/-- A load leaves the figure consistent. -/
theorem staticConsistent_loaded (hlabelled : Labelled (stored file))
    (hconsistent : StaticConsistent (stored file)) :
    StaticConsistent (stored (record file (.loaded modelName measurement backend quantization))) := by
  rcases record_loaded_cases file modelName measurement backend quantization with
    hsame | ⟨facts, hfacts, hbaseline, hlabel, hloaded, hstatic⟩
  · rw [hsame]
    exact hconsistent
  · rw [hfacts]
    intro figure hfigure
    rcases hstatic with hnone | ⟨htruthy, baseline, hint, hsome⟩
    · rw [hnone] at hfigure
      cases hfigure
    · rw [hsome] at hfigure
      rw [hbaseline, hlabel, hloaded]
      rcases hlabelled with ⟨-, hno⟩ | ⟨served, bytes, hserved, hbytes⟩
      · rw [hno] at hint
        cases hint
      · rw [hserved] at htruthy ⊢
        rw [hbytes] at hint ⊢
        have hfalse : served = false := htruthy
        cases hint
        exact ⟨by rw [hfalse], _, measurement.freeBytes, rfl, rfl, (Option.some.inj hfigure).symm⟩

/-- A baseline leaves the figure consistent exactly when it agrees with it. -/
theorem staticConsistent_baseline_iff (hconsistent : StaticConsistent (stored file)) :
    StaticConsistent (stored (record file (.baseline measurement services modelServed))) ↔
      KeepsFigure file (.baseline measurement services modelServed) := by
  rcases record_baseline_cases file measurement services modelServed with
    ⟨hsame, hwhy⟩ | ⟨facts, hfacts, hok, hnot, hbaseline, hlabel, hloaded, hstatic⟩
  · rw [hsame]
    refine iff_of_true hconsistent ?_
    intro hok hserved
    rcases hwhy with hfailed | ⟨hmodel, -⟩
    · rw [hok] at hfailed
      cases hfailed
    · rw [hserved] at hmodel
      cases hmodel
  · rw [hfacts]
    constructor
    · intro hafter _ hserved hpresent
      obtain ⟨figure, hfigure⟩ := Option.isSome_iff_exists.mp hpresent
      obtain ⟨-, before, loaded, hbefore, hread, rfl⟩ := hconsistent figure hfigure
      obtain ⟨-, after, loaded', hafter, hread', heq⟩ := hafter _ (hstatic.trans hfigure)
      rw [hbaseline] at hafter
      rw [hloaded, hread] at hread'
      cases hafter
      cases hread'
      rw [hbefore]
      have hdiff : before - loaded = measurement.freeBytes - loaded := Value.int.inj heq
      have hsame : before = measurement.freeBytes := by omega
      rw [hsame]
    · intro hkeeps figure hfigure
      rw [hstatic] at hfigure
      obtain ⟨hfree, before, loaded, hbefore, hread, rfl⟩ := hconsistent figure hfigure
      have hserved : modelServed = false := by
        by_contra hne
        exact hnot ⟨by simpa using hne, hfree⟩
      have hagrees := hkeeps hok hserved (by simp [hfigure])
      refine ⟨by rw [hlabel, hserved], measurement.freeBytes, loaded, hbaseline,
        hloaded.trans hread, ?_⟩
      rw [hbefore] at hagrees
      cases hagrees
      rfl

/-- **One recording leaves the figure consistent exactly when it keeps it.** -/
theorem staticConsistent_record_iff (hlabelled : Labelled (stored file))
    (hconsistent : StaticConsistent (stored file)) (op : Recording) :
    StaticConsistent (stored (record file op)) ↔ KeepsFigure file op := by
  cases op with
  | baseline measurement services modelServed => exact staticConsistent_baseline_iff hconsistent
  | loaded modelName measurement backend quantization =>
      exact iff_of_true (staticConsistent_loaded hlabelled hconsistent) trivial

end recordings

end VramFactsStore

open VramFactsStore

/-- **When the stored figure is the difference of the stored readings.** For every run of recordings on
a store that starts empty: a baseline labelled model-free is never replaced by a model-served one; and
in every state of the run a present static figure is the difference of a model-free baseline and the
reading of a load of the same mapping, exactly when every model-free baseline recorded over a figure
reads what the stored baseline reads. -/
theorem static_consistent_iff (ops : List Recording) :
    (∀ p op, p ++ [op] <+: ops →
        modelServedLabel (stored (runAll record none p)) = .bool false →
        modelServedLabel (stored (runAll record none (p ++ [op]))) = .bool false) ∧
      ((∀ p, p <+: ops → StaticConsistent (stored (runAll record none p))) ↔
        ∀ p op, p ++ [op] <+: ops → KeepsFigure (runAll record none p) op) := by
  constructor
  · intro p op _ hlabel
    rw [runAll_concat]
    exact label_kept hlabel op
  · have hempty : StaticConsistent (stored none) := by
      intro figure hfigure
      cases hfigure
    have hlabelled : Labelled (stored none) := Or.inl ⟨rfl, rfl⟩
    apply always_iff_guarded (J := fun file => Labelled (stored file))
      (P := fun file => StaticConsistent (stored file)) hlabelled hempty
    · exact fun file op hlabelled => labelled_record hlabelled op
    · exact fun file op hlabelled hconsistent =>
        staticConsistent_record_iff hlabelled hconsistent op

/-- A reading of a GPU of 1000 bytes. -/
def reading (free : Int) : GpuMemoryMeasurement := { ok := true, totalBytes := 1000, freeBytes := free }

/-- **A stored figure that is not the difference of the stored readings**: the service starts beside an
empty runtime, a model is loaded, and at a later start beside an empty runtime less VRAM is free. -/
theorem static_stale_after_baseline :
    ¬ ∀ ops : List Recording, StaticConsistent (stored (runAll record none ops)) := by
  intro h
  have hconsistent := h [.baseline (reading 1000) [] false, .loaded "m" (reading 400) "vllm" "",
    .baseline (reading 900) [] false]
  obtain ⟨-, baseline, loaded, hbaseline, hloaded, hfigure⟩ := hconsistent (.int 600) rfl
  have hbaseline' : Value.int 900 = .int baseline := hbaseline
  have hloaded' : Value.int 400 = .int loaded := hloaded
  cases hbaseline'
  cases hloaded'
  exact absurd (Value.int.inj hfigure) (by decide)

end Lmrs
