import Lmrs.Adapter.Registration
import Lmrs.VramFacts

/-!
# The service baseline and the weights in the runtime

Source: `lmrs/adapter/runtime.py`, `record_service_baseline_vram`; `lmrs/adapter/registration.py`,
`vram_payload`; `lmrs/vram.py`, `VramFactsStore.record_service_baseline`.

A `Host` is the adapter beside a runtime that holds the weights of some models. Its `baselineWeights`
are not in the program: they are the weights that were held when the stored baseline was measured. The
model list of the runtime is asked after the GPU is read; it answers what the runtime holds by then, or
does not answer.

* `AdapterState.step_label`: which commands label the stored baseline, and how.
* `modelFree_step_iff`: what one event must meet for the label to stay true.
* `baseline_model_free_iff`: a baseline labelled model-free was measured without weights, all along a
  run, exactly when no silent or late probe follows a reading taken beside weights.
-/

namespace Lmrs

open Python Transition VramFactsStore

/-! ## What a command does to the label -/

namespace VramFactsStore

/-- The label of the baseline a file holds. -/
def label (file : File) : Value := modelServedLabel (stored file)

/-- A reading becomes the stored baseline: it was taken, the write succeeds, and it does not replace a
model-free baseline by a model-served one. -/
def storesBaseline (access : Access) (file : File) (measurement : GpuMemoryMeasurement)
    (modelServed : Bool) : Bool :=
  measurement.ok && access.writeFault.isNone && !keepsModelFree modelServed (read access file)

/-- What a write that fails leaves. -/
theorem write_of_fault {access : Access} (file : File) (facts : Dict Value)
    (h : access.writeFault ≠ none) :
    (write access file facts).2 = file ∨ (write access file facts).2 = none := by
  unfold write
  split
  · next hnone => exact absurd hnone h
  · next truncated _ =>
      cases truncated
      · exact Or.inl rfl
      · exact Or.inr rfl

/-- A write that succeeds is what any readable store holds. -/
theorem stored_write_of_ok {access : Access} (file : File) (facts : Dict Value)
    (h : access.writeFault = none) : stored (write access file facts).2 = facts := by
  unfold write
  rw [h]
  rfl

/-- **Recording a baseline** labels the file when the reading is stored, and else leaves the file as it
was or truncated. -/
theorem label_recordServiceBaseline (access : Access) (file : File)
    (measurement : GpuMemoryMeasurement) (services : List String) (modelServed : Bool) :
    (storesBaseline access file measurement modelServed = true ∧
        label (recordServiceBaseline access file measurement services modelServed).2 =
          .bool modelServed) ∨
      (storesBaseline access file measurement modelServed = false ∧
        ((recordServiceBaseline access file measurement services modelServed).2 = file ∨
          (recordServiceBaseline access file measurement services modelServed).2 = none)) := by
  rw [recordServiceBaseline_eq]
  unfold storesBaseline
  by_cases hok : measurement.ok = false
  · rw [if_pos hok]
    exact Or.inr ⟨by simp [hok], Or.inl rfl⟩
  · rw [if_neg hok]
    by_cases hkeeps : keepsModelFree modelServed (read access file) = true
    · rw [if_pos hkeeps]
      exact Or.inr ⟨by simp [hkeeps], Or.inl rfl⟩
    · rw [if_neg hkeeps]
      by_cases hfault : access.writeFault = none
      · refine Or.inl ⟨by simp_all, ?_⟩
        unfold label
        rw [stored_write_of_ok file _ hfault]
        exact (baselineFacts_fields _ _ _ _).2.1
      · refine Or.inr ⟨?_, write_of_fault file _ hfault⟩
        have hsome : access.writeFault.isNone = false := by
          rw [← Bool.not_eq_true, Option.isNone_iff_eq_none]
          exact hfault
        simp [hsome]

/-- **Recording a load** never labels a baseline: the label is kept, or the stored facts are lost. -/
theorem label_recordModelLoaded (access : Access) (file : File) (modelName : String)
    (measurement : GpuMemoryMeasurement) (backend quantization : String) :
    label (recordModelLoaded access file modelName measurement backend quantization).2 = label file ∨
      label (recordModelLoaded access file modelName measurement backend quantization).2 = .none := by
  unfold recordModelLoaded
  dsimp only
  by_cases hok : measurement.ok = false
  · rw [if_pos hok]
    exact Or.inl rfl
  · rw [if_neg hok]
    by_cases hfault : access.writeFault = none
    · have hlabel : label (write access file (deriveStatic
          (loadedFacts (read access file) modelName measurement backend quantization)
          measurement.freeBytes)).2 = modelServedLabel (read access file) := by
        unfold label
        rw [stored_write_of_ok file _ hfault, (deriveStatic_fields _ _).2.1,
          (loadedFacts_fields _ _ _ _ _).2.1]
      rw [hlabel]
      -- a file that cannot be read counts as empty
      cases hread : access.readable with
      | false =>
          right
          simp [read, hread, Value.item, Dict.get?]
      | true =>
          have hsame : read access file = stored file := by
            unfold stored read
            rw [hread]
          exact Or.inl (congrArg modelServedLabel hsame)
    · rcases write_of_fault file (deriveStatic
          (loadedFacts (read access file) modelName measurement backend quantization)
          measurement.freeBytes) hfault with hsame | hlost
      · rw [hsame]
        exact Or.inl rfl
      · rw [hlost]
        exact Or.inr rfl

end VramFactsStore

namespace AdapterState

/-- The label a reading taken now would get: the runtime answered, and names a model. -/
def modelServedNow (r : Readings) : Bool :=
  let probe := r.vllm.listModels r.baselineProbe
  probe.ok && !probe.servedModels.isEmpty

/-- The command computes the capacity payload. -/
def readsCapacity (s : AdapterState) (r : Readings) : Command → Bool
  | .capacity => true
  | .chat params =>
      match ChatCommand.plan r params with
      | .ok (.inr _) => true
      | _ => false
  | .estimate params =>
      match (Value.item params "message").asStr? with
      | none | some "" => false
      | some _ =>
          match resolveTargetModel s r params with
          | none | some "" => false
          | some modelName =>
              match modelKvProfile r modelName, maxTokensParam params with
              | .ok (some _), .ok _ => true
              | _, _ => false
  | _ => false

/-- The command stores the GPU reading it takes as the service baseline: a restart, unless a model-free
baseline is kept; or a capacity payload with no baseline stored and no model recorded resident. -/
def takesBaseline (s : AdapterState) (r : Readings) (c : Command) : Bool :=
  match c with
  | .restart => storesBaseline r.store s.facts r.gpu (modelServedNow r)
  | c =>
      s.readsCapacity r c && s.residency.isNone &&
        (baselineFree (read r.store s.facts)).asInt?.isNone &&
        storesBaseline r.store s.facts r.gpu (modelServedNow r)

section label

variable {s : AdapterState} {r : Readings}

/-- The label after a command: the one of its probe, when it stores its reading; else the one before,
or none. -/
def LabelStep (s : AdapterState) (r : Readings) (takes : Bool) (file : File) : Prop :=
  (takes = true ∧ label file = .bool (modelServedNow r)) ∨
    (takes = false ∧ (label file = label s.facts ∨ label file = .none))

/-- A command that leaves the facts as they were. -/
theorem labelStep_of_same (s : AdapterState) (r : Readings) : s.LabelStep r false s.facts :=
  Or.inr ⟨rfl, Or.inl rfl⟩

/-- A recording of the present reading as the baseline. -/
theorem labelStep_of_record (s : AdapterState) (r : Readings) :
    s.LabelStep r (storesBaseline r.store s.facts r.gpu (modelServedNow r))
      (recordServiceBaseline r.store s.facts r.gpu (residentServices r) (modelServedNow r)).2 := by
  rcases label_recordServiceBaseline r.store s.facts r.gpu (residentServices r) (modelServedNow r) with
    ⟨hstores, hlabel⟩ | ⟨hstores, hsame | hlost⟩
  · exact Or.inl ⟨hstores, hlabel⟩
  · rw [hsame]
    exact Or.inr ⟨hstores, Or.inl rfl⟩
  · rw [hlost]
    exact Or.inr ⟨hstores, Or.inr rfl⟩

/-- A restart records its reading as the baseline. -/
theorem recordServiceBaselineVram_eq (s : AdapterState) (r : Readings) :
    recordServiceBaselineVram s r =
      (recordServiceBaseline r.store s.facts r.gpu (residentServices r) (modelServedNow r)).2 := by
  unfold recordServiceBaselineVram
  by_cases hok : r.gpu.ok = false
  · rw [if_pos hok, recordServiceBaseline_eq, if_pos hok]
  · rw [if_neg hok]
    rfl

/-- A capacity payload. -/
theorem labelStep_refreshBaseline (s : AdapterState) (r : Readings) :
    s.LabelStep r
      (s.residency.isNone && (baselineFree (read r.store s.facts)).asInt?.isNone &&
        storesBaseline r.store s.facts r.gpu (modelServedNow r))
      (refreshBaseline s r).2 := by
  unfold refreshBaseline
  dsimp only
  by_cases hrefresh : r.gpu.ok = true ∧ s.residency.isNone = true ∧
      (Value.item (read r.store s.facts) "service_baseline_free_vram_bytes").asInt? = none
  · rw [if_pos hrefresh]
    obtain ⟨-, hresidency, hbaseline⟩ := hrefresh
    have hnone : (baselineFree (read r.store s.facts)).asInt?.isNone = true := by
      rw [Option.isNone_iff_eq_none]
      exact hbaseline
    rw [hresidency, hnone]
    exact labelStep_of_record s r
  · rw [if_neg hrefresh]
    have hnot : (s.residency.isNone && (baselineFree (read r.store s.facts)).asInt?.isNone &&
        storesBaseline r.store s.facts r.gpu (modelServedNow r)) = false := by
      by_contra htakes
      apply hrefresh
      have htrue := Bool.eq_true_of_not_eq_false htakes
      simp only [Bool.and_eq_true, storesBaseline, Option.isNone_iff_eq_none] at htrue
      exact ⟨htrue.2.1.1, by simp [htrue.1.1], htrue.1.2⟩
    rw [hnot]
    exact labelStep_of_same s r

/-- A lifecycle command. -/
theorem labelStep_of_recorder {facts : File}
    (h : (lifecycle r).RecorderStep s.facts facts) : s.LabelStep r false facts := by
  rcases h with rfl | ⟨record, modelName, stored, hrecord, hfacts⟩
  · exact labelStep_of_same s r
  · cases hrecord
    unfold recordModelLoadMeasurement at hfacts
    split_ifs at hfacts
    · cases hfacts
      exact labelStep_of_same s r
    · obtain ⟨status, -, hfacts⟩ := bind_eq_ok.mp hfacts
      obtain rfl : _ = facts := congrArg Prod.snd (Except.ok.inj hfacts)
      exact Or.inr ⟨rfl, label_recordModelLoaded ..⟩

/-- A command that computes a capacity payload leaves the facts the payload left; one that does not,
and is no lifecycle command, leaves them as they were. -/
theorem labelStep_of_payload {c : Command} {facts : File} (hc : c ≠ .restart)
    (hfacts : facts = if s.readsCapacity r c = true then (refreshBaseline s r).2 else s.facts) :
    s.LabelStep r (s.takesBaseline r c) facts := by
  have htakes : s.takesBaseline r c = (s.readsCapacity r c &&
      (s.residency.isNone && (baselineFree (read r.store s.facts)).asInt?.isNone &&
        storesBaseline r.store s.facts r.gpu (modelServedNow r))) := by
    unfold takesBaseline
    split
    · exact absurd rfl hc
    · simp only [Bool.and_assoc]
  rw [htakes, hfacts]
  cases s.readsCapacity r c with
  | true =>
      rw [if_pos rfl, Bool.true_and]
      exact labelStep_refreshBaseline s r
  | false =>
      rw [if_neg Bool.false_ne_true, Bool.false_and]
      exact labelStep_of_same s r

/-- The facts a chat leaves. -/
theorem chat_facts (s : AdapterState) (r : Readings) (params : Dict Value) :
    (ChatCommand.delegate s r params).state.facts =
      if s.readsCapacity r (.chat params) = true then (refreshBaseline s r).2 else s.facts := by
  unfold ChatCommand.delegate
  cases hplan : ChatCommand.plan r params with
  | error exc => simp [readsCapacity, hplan]
  | ok planned =>
      cases planned with
      | inl refusal => simp [readsCapacity, hplan]
      | inr plan =>
          have hreads : s.readsCapacity r (.chat params) = true := by simp [readsCapacity, hplan]
          rw [if_pos hreads]
          dsimp only
          split
          · rfl
          · split
            · rfl
            · rfl

/-- The facts a dry run leaves. -/
theorem estimate_facts (s : AdapterState) (r : Readings) (params : Dict Value) :
    (EstimateCommand.delegate s r params).state.facts =
      if s.readsCapacity r (.estimate params) = true then (refreshBaseline s r).2 else s.facts := by
  unfold EstimateCommand.delegate
  split
  · next hmessage => simp [readsCapacity, hmessage]
  · next hmessage => simp [readsCapacity, hmessage]
  · next message hne hmessage =>
      unfold EstimateCommand.textModeEstimate
      split
      · next htarget => simp [readsCapacity, hmessage, htarget]
      · next htarget => simp [readsCapacity, hmessage, htarget]
      · next modelName hmodel htarget =>
          cases hprofile : modelKvProfile r modelName with
          | error exc => simp [readsCapacity, hmessage, htarget, hprofile]
          | ok profile? =>
              cases profile? with
              | none => simp [readsCapacity, hmessage, htarget, hprofile]
              | some profile =>
                  cases hmax : maxTokensParam params with
                  | error exc => simp [readsCapacity, hmessage, htarget, hprofile, hmax]
                  | ok maxTokens =>
                      have hreads : s.readsCapacity r (.estimate params) = true := by
                        simp [readsCapacity, hmessage, htarget, hprofile, hmax]
                      rw [if_pos hreads]
                      rfl

/-- A command that reads no capacity and is no restart takes no baseline. -/
theorem labelStep_of_unread {c : Command} {facts : File} (hc : c ≠ .restart)
    (hreads : s.readsCapacity r c = false) (h : s.LabelStep r false facts) :
    s.LabelStep r (s.takesBaseline r c) facts := by
  have htakes : s.takesBaseline r c = false := by
    unfold takesBaseline
    split
    · exact absurd rfl hc
    · simp [hreads]
  rw [htakes]
  exact h

/-- A cancellation leaves the facts as they were. -/
theorem cancel_facts (s : AdapterState) (params : Dict Value) :
    (CancelCommand.delegate s params).state.facts = s.facts := by
  unfold CancelCommand.delegate
  split <;> rfl

/-- An unload leaves the facts as they were. -/
theorem unload_facts (s : AdapterState) (r : Readings) (params : Dict Value) :
    (LocalModelUnloadCommand.delegate s r params).state.facts = s.facts := by
  unfold LocalModelUnloadCommand.delegate
  split <;> rfl

/-- The facts a load or a reload leaves. -/
theorem labelStep_adopt (s : AdapterState) (r : Readings)
    (out : Except PyException (ModelMemoryLifecycle.Outcome File))
    (h : ∀ o, out = .ok o → (lifecycle r).RecorderStep s.facts o.recorder) :
    s.LabelStep r false (s.adopt out).state.facts := by
  cases out with
  | error exc => exact labelStep_of_same s r
  | ok o => exact labelStep_of_recorder (h o rfl)

/-- The facts a switch leaves. -/
theorem labelStep_switch (s : AdapterState) (r : Readings) (params : Dict Value) :
    s.LabelStep r false (LocalModelSwitchCommand.delegate s r params).state.facts := by
  unfold LocalModelSwitchCommand.delegate
  split
  · exact labelStep_of_same s r
  · exact labelStep_of_recorder (ModelMemoryLifecycle.switchModel_recorder ..)

/-- **What a command does to the label of the stored baseline**: one that stores its reading labels it
by its probe; any other keeps the label, or loses the stored facts. -/
theorem step_label (s : AdapterState) (r : Readings) (c : Command) :
    s.LabelStep r (s.takesBaseline r c) (s.step r c).1.facts := by
  cases c with
  | chat params => exact labelStep_of_payload nofun (chat_facts s r params)
  | estimate params => exact labelStep_of_payload nofun (estimate_facts s r params)
  | capacity => exact labelStep_of_payload nofun (if_pos rfl).symm
  | queueStatus => exact labelStep_of_unread nofun rfl (labelStep_of_same s r)
  | cancel params =>
      apply labelStep_of_unread (c := .cancel params) nofun rfl
      show s.LabelStep r false (CancelCommand.delegate s params).state.facts
      rw [cancel_facts]
      exact labelStep_of_same s r
  | modelLoad params =>
      apply labelStep_of_unread (c := .modelLoad params) nofun rfl
      apply labelStep_adopt
      intro out hout
      obtain ⟨modelName, -, hload⟩ := bind_eq_ok.mp hout
      exact ModelMemoryLifecycle.loadModel_recorder hload
  | modelReload params =>
      apply labelStep_of_unread (c := .modelReload params) nofun rfl
      apply labelStep_adopt
      intro out hout
      obtain ⟨modelName, -, hload⟩ := bind_eq_ok.mp hout
      exact ModelMemoryLifecycle.reloadModel_recorder hload
  | modelUnload params =>
      apply labelStep_of_unread (c := .modelUnload params) nofun rfl
      show s.LabelStep r false (LocalModelUnloadCommand.delegate s r params).state.facts
      rw [unload_facts]
      exact labelStep_of_same s r
  | modelSwitch params => exact labelStep_of_unread nofun rfl (labelStep_switch s r params)
  | restart =>
      have hfacts : (s.step r .restart).1.facts = _ := recordServiceBaselineVram_eq s r
      rw [hfacts]
      exact labelStep_of_record s r

end label

end AdapterState

/-! ## The adapter beside the runtime -/

/-- Readings whose model list, where the runtime answers, is what the runtime holds. -/
structure TruthfulReadings (weights : List String) where
  readings : Readings
  truthful : (readings.vllm.listModels readings.baselineProbe).ok = true →
    (readings.vllm.listModels readings.baselineProbe).servedModels = weights

/-- The adapter, the models whose weights the runtime holds, and those it held when the stored
baseline was measured. -/
structure Host where
  adapter : AdapterState := {}
  weights : List String
  baselineWeights : List String := []

/-- What happens to the host. -/
inductive HostEvent where
  /-- A command or a restart of the adapter; `weights` is what the runtime holds once the GPU has
  been read. -/
  | command (c : Command) (weights : List String) (r : TruthfulReadings weights)
  /-- The runtime loads or drops weights, starts or stops. -/
  | runtime (weights : List String)

namespace Host

/-- One event. -/
def step (h : Host) : HostEvent → Host
  | .command c weights r =>
      { adapter := (h.adapter.step r.readings c).1
        weights
        baselineWeights :=
          if h.adapter.takesBaseline r.readings c then h.weights else h.baselineWeights }
  | .runtime weights => { h with weights }

/-- An adapter with nothing stored beside a runtime. -/
def start (weights : List String) : Host := { weights }

/-- A stored baseline labelled model-free was measured with no weights in the runtime. -/
def ModelFree (h : Host) : Prop := label h.adapter.facts = .bool false → h.baselineWeights = []

/-- A baseline reading taken beside weights is followed by an answer of a runtime that holds weights
still. -/
def ProbeTells (h : Host) : HostEvent → Prop
  | .command c weights r =>
      h.adapter.takesBaseline r.readings c = true → h.weights ≠ [] →
        (r.readings.vllm.listModels r.readings.baselineProbe).ok = true ∧ weights ≠ []
  | .runtime _ => True

/-- When a truthful reading is labelled model-served. -/
theorem modelServedNow_iff {weights : List String} (r : TruthfulReadings weights) :
    AdapterState.modelServedNow r.readings = true ↔
      (r.readings.vllm.listModels r.readings.baselineProbe).ok = true ∧ weights ≠ [] := by
  unfold AdapterState.modelServedNow
  simp only [Bool.and_eq_true, Bool.not_eq_true', List.isEmpty_eq_false_iff]
  constructor
  · intro ⟨hok, hserved⟩
    rw [r.truthful hok] at hserved
    exact ⟨hok, hserved⟩
  · intro ⟨hok, hweights⟩
    rw [r.truthful hok]
    exact ⟨hok, hweights⟩

/-- **One event keeps the label true** exactly when the probe tells. -/
theorem modelFree_step_iff {h : Host} (hfree : h.ModelFree) (e : HostEvent) :
    (h.step e).ModelFree ↔ h.ProbeTells e := by
  cases e with
  | runtime weights => exact iff_of_true hfree trivial
  | command c weights r =>
      simp only [ModelFree, ProbeTells, step]
      rcases AdapterState.step_label h.adapter r.readings c with ⟨htakes, hlabel⟩ |
        ⟨htakes, hkept⟩
      · rw [htakes, hlabel, if_pos rfl, ← modelServedNow_iff r]
        cases AdapterState.modelServedNow r.readings with
        | true => simp
        | false => simp
      · rw [htakes, if_neg Bool.false_ne_true]
        refine iff_of_true ?_ fun htrue => absurd htrue Bool.false_ne_true
        intro hlabel
        rcases hkept with hsame | hlost
        · rw [hsame] at hlabel
          exact hfree hlabel
        · rw [hlost] at hlabel
          cases hlabel

end Host

open Host

/-- **When a model-free label is true.** For every run of restarts, commands, loads and runtime events,
from an adapter with nothing stored beside a runtime holding any weights, whose model list is what it
holds or is not answered: in every state of the run a stored baseline labelled model-free was measured
with no weights resident, exactly when every baseline reading taken beside weights is followed by an
answer of a runtime that still holds some. -/
theorem baseline_model_free_iff (weights : List String) (events : List HostEvent) :
    (∀ p, p <+: events → (runAll step (start weights) p).ModelFree) ↔
      ∀ p e, p ++ [e] <+: events → (runAll step (start weights) p).ProbeTells e := by
  have hempty : (start weights).ModelFree := by
    intro hlabel
    cases hlabel
  apply always_iff_guarded (J := fun _ => True) (P := ModelFree) trivial hempty
  · exact fun _ _ _ => trivial
  · exact fun h e _ hfree => modelFree_step_iff hfree e

/-- Readings of a GPU of 1000 bytes with 400 free, beside a runtime that does not answer yet. -/
def startingRuntime (weights : List String) : TruthfulReadings weights where
  readings := { gpu := reading 400 }
  truthful := nofun

/-- **A reading taken beside weights is labelled model-free**: the service restarts while the runtime
holds a model and does not answer. -/
theorem baseline_labelled_free_beside_weights :
    ¬ ∀ (weights : List String) (events : List HostEvent),
        (runAll step (start weights) events).ModelFree := by
  intro h
  have hfree := h ["m"] [.command .restart ["m"] (startingRuntime ["m"])] rfl
  exact absurd hfree (List.cons_ne_nil _ _)

end Lmrs
