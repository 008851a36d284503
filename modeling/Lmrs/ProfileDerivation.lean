import Lmrs.Configuration
import Lmrs.Lib.Dicts
import Lmrs.Lib.Untyped

/-!
# What a derived KV profile depends on

Source: `lmrs/configuration.py`, `derive_kv_cache_profile`.

The entries of a configuration are of any type. The derivation guards every operation with a type check;
written over untyped values, with each operation raising where the language raises, it is the derivation of
`Configuration`. Its figures are read from keys that are not the weight quantization, and the dtype of the
cache enters them as one factor.

* `deriveKvCacheProfileUntyped_eq`: no configuration makes the derivation raise.
* `derive_figures_congr`: the figures are read from the other entries of the merged configuration.
* `kvBytesPerToken_derived`: the dtype is one factor of the cost of a token.
* `kv_profile_law`: the three together.
-/

namespace Lmrs

open Python

/-! ## The derivation over untyped values -/

/-- The dimension of one head, as a value: `head_dim` where it is a positive integer. -/
def untypedHeadDim (headDim hiddenSize attentionHeads : Value) : Except PyException Value := do
  if ← headDim.notPositiveInt then
    if hiddenSize.asInt?.isSome then
      if ← attentionHeads.positiveInt then hiddenSize.floorDiv attentionHeads else .ok (.int 0)
    else .ok (.int 0)
  else .ok headDim

/-- The first value under the keys that is a positive integer, or zero. -/
def untypedContextWindow (merged : Dict Value) : List String → Except PyException Value
  | [] => .ok (.int 0)
  | key :: keys => do
      if ← (Value.item merged key).positiveInt then .ok (Value.item merged key)
      else untypedContextWindow merged keys

/-- The name of the dtype a profile is made for: the configured one, or that of the model. -/
def requestedDtype (merged : Dict Value) (kvCacheDtype : Option String) : String :=
  let modelDtype := ((Value.item merged "torch_dtype").or (Value.item merged "dtype")).or (.str "bfloat16")
  match kvCacheDtype with
  | some dtype => if dtype ≠ "" ∧ lower dtype.toList ≠ "auto".toList then dtype else modelDtype.text
  | none => modelDtype.text

/-- The name of the weight quantization: only a section that is a mapping is asked for its method. -/
def untypedQuantization (merged : Dict Value) : Except PyException (Option String) :=
  if (Value.item merged "quantization_config").asDict?.isSome then do
    let method ← (Value.item merged "quantization_config").getAttr "quant_method"
    return some method.text
  else .ok none

/-- The number an integer is; a `bool` is one. -/
def numberOf (v : Value) : Int := v.asInt?.getD 0

/-- Source: `configuration.py`, `derive_kv_cache_profile`, over untyped values: each comparison, quotient and
attribute raises where its operands have none. -/
def deriveKvCacheProfileUntyped (modelConfig : Dict Value) (kvCacheDtype : Option String := none) :
    Except PyException (Option KVCacheProfile) := do
  let merged := mergedConfig modelConfig
  let layers := (Value.item merged "num_hidden_layers").or (Value.item merged "n_layer")
  let attentionHeads := (Value.item merged "num_attention_heads").or (Value.item merged "n_head")
  let kvHeads := (Value.item merged "num_key_value_heads").or attentionHeads
  let hiddenSize := (Value.item merged "hidden_size").or (Value.item merged "n_embd")
  let headDim ← untypedHeadDim (Value.item merged "head_dim") hiddenSize attentionHeads
  let contextWindow ← untypedContextWindow merged contextWindowKeys
  if ← layers.notPositiveInt then return none
  else if ← kvHeads.notPositiveInt then return none
  else if ← headDim.leZero then return none
  else if ← contextWindow.leZero then return none
  else
    let requested := requestedDtype merged kvCacheDtype
    let quantizationProfile ← untypedQuantization merged
    return some
      { layers := numberOf layers, kvHeads := numberOf kvHeads, headDim := numberOf headDim,
        kvElementBytes := kvElementBytesForDtype requested, declaredContextWindow := numberOf contextWindow,
        runtimeKvDtype := requested, quantizationProfile }

/-- The derivation from a merged configuration. -/
def deriveMerged (merged : Dict Value) (kvCacheDtype : Option String) :
    Option {p : KVCacheProfile // p.Positive} :=
  let layers := (Value.item merged "num_hidden_layers").or (Value.item merged "n_layer")
  let attentionHeads := (Value.item merged "num_attention_heads").or (Value.item merged "n_head")
  let kvHeads := (Value.item merged "num_key_value_heads").or attentionHeads
  let hiddenSize := (Value.item merged "hidden_size").or (Value.item merged "n_embd")
  let headDim := headDimension (Value.item merged "head_dim") hiddenSize attentionHeads
  match layers.asInt?, kvHeads.asInt? with
  | some layers, some kvHeads =>
      if h : 0 < layers ∧ 0 < kvHeads ∧ 0 < headDim ∧ 0 < contextWindow merged then
        some (positiveProfile layers kvHeads headDim (contextWindow merged) (requestedDtype merged kvCacheDtype)
          ((Value.item merged "quantization_config").asDict?.map fun config =>
            (Value.item config "quant_method").text) h)
      else none
  | _, _ => none

section untyped

variable {headDim hiddenSize attentionHeads : Value} {merged config : Dict Value}

/-- A dimension that is not a positive integer is derived from the hidden size. -/
theorem headDimension_of_not_pos (h : ∀ dim, headDim.asInt? = some dim → dim ≤ 0) :
    headDimension headDim hiddenSize attentionHeads = headDimension .none hiddenSize attentionHeads := by
  unfold headDimension
  cases hdim : headDim.asInt? with
  | none => rfl
  | some dim => exact if_neg (not_lt.mpr (h dim hdim))

/-- The derived dimension raises nothing: a quotient is taken of integers, by a positive one. -/
theorem derivedHeadDim_eq :
    ∃ v, untypedHeadDim .none hiddenSize attentionHeads = .ok v ∧
      v.asInt? = some (headDimension .none hiddenSize attentionHeads) := by
  unfold untypedHeadDim headDimension
  rw [Value.notPositiveInt_eq, Value.positiveInt_eq]
  cases hhidden : hiddenSize.asInt? with
  | none => exact ⟨_, rfl, rfl⟩
  | some hidden =>
      cases hheads : attentionHeads.asInt? with
      | none => exact ⟨_, rfl, rfl⟩
      | some heads =>
          by_cases hpos : 0 < heads
          · refine ⟨.int (hidden / heads), ?_, by simp [hpos, Value.asInt?]⟩
            simp [bind, Except.bind, Value.asInt?, hpos, Value.floorDiv_eq_ok hhidden hheads hpos]
          · exact ⟨.int 0, by simp [bind, Except.bind, Value.asInt?, hpos], by simp [hpos, Value.asInt?]⟩

/-- The dimension of a head raises nothing. -/
theorem untypedHeadDim_eq (headDim hiddenSize attentionHeads : Value) :
    ∃ v, untypedHeadDim headDim hiddenSize attentionHeads = .ok v ∧
      v.asInt? = some (headDimension headDim hiddenSize attentionHeads) := by
  by_cases hpos : ∃ dim, headDim.asInt? = some dim ∧ 0 < dim
  · obtain ⟨dim, hdim, hpos⟩ := hpos
    refine ⟨headDim, ?_, ?_⟩
    · unfold untypedHeadDim
      rw [Value.notPositiveInt_eq, hdim]
      simp [bind, Except.bind, hpos]
    · unfold headDimension
      rw [hdim]
      simp [hpos]
  · simp only [not_exists, not_and, not_lt] at hpos
    have hderived : untypedHeadDim headDim hiddenSize attentionHeads =
        untypedHeadDim .none hiddenSize attentionHeads := by
      unfold untypedHeadDim
      rw [Value.notPositiveInt_eq, Value.notPositiveInt_eq]
      have hall : (headDim.asInt?.all fun n => decide (n ≤ 0)) = true := by
        cases hdim : headDim.asInt? with
        | none => rfl
        | some dim => exact decide_eq_true (hpos dim hdim)
      rw [hall]
      rfl
    rw [hderived, headDimension_of_not_pos hpos]
    exact derivedHeadDim_eq

/-- The window raises nothing. -/
theorem untypedContextWindow_eq (merged : Dict Value) (keys : List String) :
    ∃ v, untypedContextWindow merged keys = .ok v ∧
      v.asInt? = some (((keys.filterMap fun key => (Value.item merged key).asInt?).find?
        fun n => decide (0 < n)).getD 0) := by
  induction keys with
  | nil => exact ⟨_, rfl, rfl⟩
  | cons key keys ih =>
      unfold untypedContextWindow
      rw [Value.positiveInt_eq, List.filterMap_cons]
      cases hkey : (Value.item merged key).asInt? with
      | none => exact ih
      | some n =>
          by_cases hpos : 0 < n
          · refine ⟨Value.item merged key, ?_, by simp [hkey, hpos]⟩
            simp [bind, Except.bind, hpos]
          · simpa [bind, Except.bind, hpos] using ih

/-- The name of the quantization raises nothing. -/
theorem untypedQuantization_eq :
    untypedQuantization merged = .ok ((Value.item merged "quantization_config").asDict?.map fun section' =>
      (Value.item section' "quant_method").text) := by
  unfold untypedQuantization Value.getAttr
  cases (Value.item merged "quantization_config").asDict? <;> rfl

/-- The derivation reads the merged configuration alone. -/
theorem deriveKvCacheProfile_eq (config : Dict Value) (kvCacheDtype : Option String) :
    deriveKvCacheProfile config kvCacheDtype = deriveMerged (mergedConfig config) kvCacheDtype := rfl

/-- **No configuration makes the derivation raise**: over untyped values it is the derivation. -/
theorem deriveKvCacheProfileUntyped_eq (kvCacheDtype : Option String) :
    deriveKvCacheProfileUntyped config kvCacheDtype =
      .ok ((deriveKvCacheProfile config kvCacheDtype).map Subtype.val) := by
  rw [deriveKvCacheProfile_eq]
  unfold deriveKvCacheProfileUntyped deriveMerged
  dsimp only
  generalize mergedConfig config = merged
  generalize (Value.item merged "num_hidden_layers").or (Value.item merged "n_layer") = layers
  generalize (Value.item merged "num_attention_heads").or (Value.item merged "n_head") = attentionHeads
  generalize (Value.item merged "num_key_value_heads").or attentionHeads = kvHeads
  generalize (Value.item merged "hidden_size").or (Value.item merged "n_embd") = hiddenSize
  obtain ⟨dim, hdim, hdim'⟩ := untypedHeadDim_eq (Value.item merged "head_dim") hiddenSize attentionHeads
  obtain ⟨window, hwindow, hwindow'⟩ := untypedContextWindow_eq merged contextWindowKeys
  generalize headDimension (Value.item merged "head_dim") hiddenSize attentionHeads = dimension at hdim' ⊢
  change window.asInt? = some (contextWindow merged) at hwindow'
  rw [hdim, hwindow, Value.notPositiveInt_eq, Value.notPositiveInt_eq, untypedQuantization_eq]
  simp only [bind, Except.bind, Value.leZero_of_asInt? hdim', Value.leZero_of_asInt? hwindow']
  cases hlayers : layers.asInt? with
  | none => rfl
  | some n =>
      cases hkvHeads : kvHeads.asInt? with
      | none => cases hn : decide (n ≤ 0) <;> simp [hn, pure, Except.pure]
      | some m =>
          dsimp only
          by_cases h : 0 < n ∧ 0 < m ∧ 0 < dimension ∧ 0 < contextWindow merged
          · obtain ⟨hn, hm, hdimension, hcontext⟩ := h
            simp [hn, hm, hdimension, hcontext, not_le.mpr, numberOf, hlayers, hkvHeads, hdim', hwindow',
              positiveProfile, pure, Except.pure]
          · rw [dif_neg h]
            simp only [not_and_or, not_lt] at h
            rcases h with h | h | h | h
            all_goals simp [h, pure, Except.pure]

end untyped

/-! ## What the figures depend on -/

/-- The figures of a profile: the dimensions, the element size and the window. -/
def KVCacheProfile.figures (p : KVCacheProfile) : Int × Int × Int × Int × Int :=
  (p.layers, p.kvHeads, p.headDim, p.kvElementBytes, p.declaredContextWindow)

/-- A configuration with another quantization section, or with none. -/
def requantize (config : Dict Value) : Option Value → Dict Value
  | some quantization => Dict.set config "quantization_config" quantization
  | none => Dict.pop config "quantization_config"

/-- A configuration whose text section has another quantization section, or none. -/
def requantizeText (config : Dict Value) (quantization : Option Value) : Dict Value :=
  match (Value.item config "text_config").asDict? with
  | some textConfig => Dict.set config "text_config" (.dict (requantize textConfig quantization))
  | none => config

section dependence

variable {merged merged' config : Dict Value} {kvCacheDtype kvCacheDtype' : Option String}

/-- **The figures are read from other entries** than the quantization section and the text section. -/
theorem derive_figures_congr
    (h : ∀ key, key ∉ ["quantization_config", "text_config"] → Value.item merged key = Value.item merged' key) :
    (deriveMerged merged kvCacheDtype).map (fun p => p.1.figures) =
      (deriveMerged merged' kvCacheDtype).map fun p => p.1.figures := by
  have hwindow : contextWindow merged = contextWindow merged' := by
    have hkeys : ∀ key ∈ contextWindowKeys, key ∉ ["quantization_config", "text_config"] := by decide
    unfold contextWindow
    rw [List.filterMap_congr fun key hkey => by rw [h key (hkeys key hkey)]]
  have hdtype : requestedDtype merged kvCacheDtype = requestedDtype merged' kvCacheDtype := by
    simp only [requestedDtype, h "torch_dtype" (by decide), h "dtype" (by decide)]
  unfold deriveMerged
  simp only [h "num_hidden_layers" (by decide), h "n_layer" (by decide), h "num_attention_heads" (by decide),
    h "n_head" (by decide), h "num_key_value_heads" (by decide), h "hidden_size" (by decide),
    h "n_embd" (by decide), h "head_dim" (by decide), hwindow, hdtype]
  split
  · split_ifs <;> rfl
  · rfl

/-- The quantization section is the one entry that changes. -/
theorem item_requantize (config : Dict Value) (quantization : Option Value) {key : String}
    (h : key ≠ "quantization_config") :
    Value.item (requantize config quantization) key = Value.item config key := by
  unfold Value.item
  cases quantization with
  | some v => rw [requantize, Dict.get?_set_of_ne config v h]
  | none => rw [requantize, Dict.get?_pop_of_ne config h]

/-- Without its quantization section, a configuration is what it was without it. -/
theorem pop_requantize (config : Dict Value) (quantization : Option Value) :
    Dict.pop (requantize config quantization) "quantization_config" = Dict.pop config "quantization_config" := by
  cases quantization with
  | some v => exact Dict.pop_set_self config _ v
  | none => exact Dict.pop_pop_self config _

/-- A section laid over a configuration reads the same, whatever its quantization. -/
theorem item_update_requantize (config textConfig : Dict Value) (quantization : Option Value) {key : String}
    (h : key ≠ "quantization_config") :
    Value.item (Dict.update config (requantize textConfig quantization)) key =
      Value.item (Dict.update config textConfig) key := by
  unfold Value.item
  rw [← Dict.get?_update_pop config _ h, pop_requantize, Dict.get?_update_pop config _ h]

/-- What the merged configuration reads, whatever the quantization. -/
theorem item_mergedConfig_requantize (quantization : Option Value) {key : String}
    (h : key ≠ "quantization_config") :
    Value.item (mergedConfig (requantize config quantization)) key = Value.item (mergedConfig config) key := by
  unfold mergedConfig
  rw [item_requantize config quantization (by decide)]
  cases (Value.item config "text_config").asDict? with
  | none => exact item_requantize config quantization h
  | some textConfig =>
      have hitem := item_requantize config quantization h
      unfold Value.item at hitem ⊢
      dsimp only
      rw [Dict.get?_update, Dict.get?_update]
      cases Dict.get? textConfig.reverse key with
      | some v => rfl
      | none => exact hitem

/-- What the merged configuration reads, whatever the quantization of its text section. -/
theorem item_mergedConfig_requantizeText (quantization : Option Value) {key : String}
    (h : key ∉ ["quantization_config", "text_config"]) :
    Value.item (mergedConfig (requantizeText config quantization)) key = Value.item (mergedConfig config) key := by
  simp only [List.mem_cons, List.not_mem_nil, or_false, not_or] at h
  unfold requantizeText
  cases htext : (Value.item config "text_config").asDict? with
  | none => rfl
  | some textConfig =>
      have hset : (Value.item (Dict.set config "text_config" (.dict (requantize textConfig quantization)))
          "text_config").asDict? = some (requantize textConfig quantization) := by
        simp [Value.item, Value.asDict?]
      unfold mergedConfig
      dsimp only
      rw [hset, htext]
      dsimp only
      rw [item_update_requantize _ _ _ h.1]
      unfold Value.item
      rw [Dict.get?_update, Dict.get?_update, Dict.get?_set_of_ne _ _ h.2]

/-- **The dtype is one factor of the cost of a token.** -/
theorem kvBytesPerToken_derived (merged : Dict Value) (kvCacheDtype kvCacheDtype' : Option String) :
    (deriveMerged merged kvCacheDtype).map (fun p =>
      p.1.kvBytesPerToken * kvElementBytesForDtype (requestedDtype merged kvCacheDtype')) =
    (deriveMerged merged kvCacheDtype').map fun p =>
      p.1.kvBytesPerToken * kvElementBytesForDtype (requestedDtype merged kvCacheDtype) := by
  unfold deriveMerged
  dsimp only
  split
  · split_ifs
    · simp only [Option.map_some, positiveProfile, KVCacheProfile.kvBytesPerToken, Option.some.injEq]
      -- one element size stands in each cost, the other beside it
      generalize kvElementBytesForDtype (requestedDtype merged kvCacheDtype) = size
      generalize kvElementBytesForDtype (requestedDtype merged kvCacheDtype') = size'
      exact mul_right_comm _ size size'
    · simp only [Option.map_none]
  · simp only [Option.map_none]

end dependence

/-- **What is derived from a configuration**, of whatever values: nothing is raised; a profile has positive
figures only; they are the same whatever quantization is stated, at the top or in the text section; and at one
byte an element a token costs half of what it costs at two. -/
theorem kv_profile_law (config : Dict Value) (kvCacheDtype : Option String) :
    (∃ answer, deriveKvCacheProfileUntyped config kvCacheDtype = .ok answer ∧
      (∀ p, answer = some p → p.Positive) ∧
      ∀ quantization, ∃ answer' answer'',
        deriveKvCacheProfileUntyped (requantize config quantization) kvCacheDtype = .ok answer' ∧
        deriveKvCacheProfileUntyped (requantizeText config quantization) kvCacheDtype = .ok answer'' ∧
        answer'.map KVCacheProfile.figures = answer.map KVCacheProfile.figures ∧
        answer''.map KVCacheProfile.figures = answer.map KVCacheProfile.figures) ∧
    (∀ kvCacheDtype', kvElementBytesForDtype (requestedDtype (mergedConfig config) kvCacheDtype) = 1 →
      kvElementBytesForDtype (requestedDtype (mergedConfig config) kvCacheDtype') = 2 →
      ∃ one two, deriveKvCacheProfileUntyped config kvCacheDtype = .ok one ∧
        deriveKvCacheProfileUntyped config kvCacheDtype' = .ok two ∧
        two.map KVCacheProfile.kvBytesPerToken = one.map fun p => 2 * p.kvBytesPerToken) := by
  constructor
  · refine ⟨_, deriveKvCacheProfileUntyped_eq kvCacheDtype, ?_, fun quantization => ⟨_, _,
      deriveKvCacheProfileUntyped_eq kvCacheDtype, deriveKvCacheProfileUntyped_eq kvCacheDtype, ?_, ?_⟩⟩
    · intro p hp
      obtain ⟨profile, -, rfl⟩ := Option.map_eq_some_iff.mp hp
      exact profile.2
    · rw [Option.map_map, Option.map_map]
      refine derive_figures_congr fun key hkey => item_mergedConfig_requantize quantization ?_
      rintro rfl
      exact hkey (by decide)
    · rw [Option.map_map, Option.map_map]
      exact derive_figures_congr fun key hkey => item_mergedConfig_requantizeText quantization hkey
  · intro kvCacheDtype' hone htwo
    refine ⟨_, _, deriveKvCacheProfileUntyped_eq kvCacheDtype, deriveKvCacheProfileUntyped_eq kvCacheDtype', ?_⟩
    have hfactor := kvBytesPerToken_derived (mergedConfig config) kvCacheDtype' kvCacheDtype
    rw [hone, htwo] at hfactor
    simpa [Option.map_map, Function.comp_def, deriveKvCacheProfile_eq, mul_comm] using hfactor

/-- A model of two layers and two heads of its cache, of dimension eight. -/
def twoLayerConfig : Dict Value :=
  [("num_hidden_layers", .int 2), ("num_attention_heads", .int 4), ("n_embd", .int 32),
    ("num_key_value_heads", .int 2), ("n_positions", .int 16)]

/-- There is a profile of it, and a token costs sixty-four bytes in eight-bit floats, a hundred and twenty-eight in
sixteen-bit ones. -/
theorem kv_profile_law_small :
    (deriveKvCacheProfileUntyped twoLayerConfig (some "fp8")).map (Option.map KVCacheProfile.figures) =
        .ok (some (2, 2, 8, 1, 16)) ∧
      (deriveKvCacheProfileUntyped twoLayerConfig (some "fp8")).map (Option.map KVCacheProfile.kvBytesPerToken) =
        .ok (some 64) ∧
      ∃ one two, deriveKvCacheProfileUntyped twoLayerConfig (some "fp8") = .ok one ∧
        deriveKvCacheProfileUntyped twoLayerConfig (some "fp16") = .ok two ∧
        two.map KVCacheProfile.kvBytesPerToken = one.map fun p => 2 * p.kvBytesPerToken :=
  ⟨by rfl, by rfl, (kv_profile_law twoLayerConfig (some "fp8")).2 (some "fp16") (by decide) (by decide)⟩

end Lmrs
