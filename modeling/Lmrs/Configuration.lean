import Lmrs.Lib.Python

/-!
# Model profiles derived from a cached configuration

Source: `lmrs/configuration.py`.

`deriveKvCacheProfile` reads the KV parameters of a model out of its own `config.json`. A profile
that is derived states every parameter of the formula: it is returned together with the proof that
its dimensions, its element size and its window are positive (`KVCacheProfile.Positive`).
-/

namespace Lmrs

open Python

/-- Source: `configuration.py`, `KVCacheProfile`. -/
structure KVCacheProfile where
  layers : Int
  kvHeads : Int
  headDim : Int
  kvElementBytes : Int
  declaredContextWindow : Int
  runtimeKvDtype : String := "fp16"
  quantizationProfile : Option String := none
  deriving DecidableEq, Repr

/-- Source: `configuration.py`, `KVCacheProfile.kv_bytes_per_token`. -/
def KVCacheProfile.kvBytesPerToken (p : KVCacheProfile) : Int :=
  p.layers * 2 * p.kvHeads * p.headDim * p.kvElementBytes

/-- A profile every figure of which is positive. -/
structure KVCacheProfile.Positive (p : KVCacheProfile) : Prop where
  layers : 0 < p.layers
  kvHeads : 0 < p.kvHeads
  headDim : 0 < p.headDim
  kvElementBytes : 0 < p.kvElementBytes
  declaredContextWindow : 0 < p.declaredContextWindow

/-- Source: `configuration.py`, `_DTYPE_ELEMENT_BYTES`. -/
def dtypeElementBytes : Dict Int :=
  [("float32", 4), ("float", 4), ("fp32", 4), ("float16", 2), ("half", 2), ("fp16", 2),
   ("bfloat16", 2), ("bf16", 2), ("float8", 1), ("fp8", 1), ("fp8_e4m3", 1), ("fp8_e5m2", 1),
   ("float8_e4m3fn", 1), ("float8_e5m2", 1), ("int8", 1)]

/-- `text.lower()` as far as the ASCII names it is compared with can tell: no character outside
ASCII becomes one of their letters. -/
def lower (cs : List Char) : List Char := cs.map Char.toLower

/-- `text.removeprefix(start)`. -/
def removePrefix (start cs : List Char) : List Char :=
  if start.isPrefixOf cs then cs.drop start.length else cs

/-- Source: `configuration.py`, `kv_element_bytes_for_dtype`. -/
def kvElementBytesForDtype (dtypeName : String) : Int :=
  let normalized := removePrefix "torch.".toList (lower (strip dtypeName.toList))
  (Dict.get? dtypeElementBytes (String.ofList normalized)).getD 2

/-- The element size of a known name is positive. -/
theorem dtypeElementBytes_pos {name : String} {n : Int}
    (h : Dict.get? dtypeElementBytes name = some n) : 0 < n := by
  have hall : ∀ kv ∈ dtypeElementBytes, 0 < kv.2 := by decide
  obtain ⟨l₁, l₂, heq, -⟩ := List.lookup_eq_some_iff.mp h
  exact hall (name, n) (by simp [heq])

/-- Every element size is positive. -/
theorem kvElementBytesForDtype_pos (dtypeName : String) : 0 < kvElementBytesForDtype dtypeName := by
  unfold kvElementBytesForDtype
  dsimp only
  generalize String.ofList (removePrefix "torch.".toList (lower (strip dtypeName.toList))) = name
  cases h : Dict.get? dtypeElementBytes name with
  | none => decide
  | some n => exact dtypeElementBytes_pos h

/-- The profile of positive dimensions, a positive window and a named element type. -/
def positiveProfile (layers kvHeads headDim contextWindow : Int) (requested : String)
    (quantizationProfile : Option String)
    (h : 0 < layers ∧ 0 < kvHeads ∧ 0 < headDim ∧ 0 < contextWindow) :
    {p : KVCacheProfile // p.Positive} where
  val := ⟨layers, kvHeads, headDim, kvElementBytesForDtype requested, contextWindow, requested,
    quantizationProfile⟩
  property := by
    obtain ⟨hlayers, hheads, hdim, hwindow⟩ := h
    have hbytes := kvElementBytesForDtype_pos requested
    generalize kvElementBytesForDtype requested = bytes at hbytes ⊢
    exact ⟨hlayers, hheads, hdim, hbytes, hwindow⟩

/-- The keys a context window is read from, in order. -/
def contextWindowKeys : List String :=
  ["max_position_embeddings", "max_sequence_length", "n_positions", "model_max_length"]

/-- The first positive integer under one of the context-window keys, or zero. -/
def contextWindow (merged : Dict Value) : Int :=
  ((contextWindowKeys.filterMap fun key => (Value.item merged key).asInt?).find?
    fun n => decide (0 < n)).getD 0

/-- The dimension of one head: stated, or the hidden size over the attention heads. -/
def headDimension (headDim hiddenSize attentionHeads : Value) : Int :=
  let derived : Int :=
    match hiddenSize.asInt?, attentionHeads.asInt? with
    | some hidden, some heads => if 0 < heads then hidden / heads else 0
    | _, _ => 0
  match headDim.asInt? with
  | some dim => if 0 < dim then dim else derived
  | none => derived

/-- The configuration of the text part laid over the whole. -/
def mergedConfig (modelConfig : Dict Value) : Dict Value :=
  match (Value.item modelConfig "text_config").asDict? with
  | some textConfig => Dict.update modelConfig textConfig
  | none => modelConfig

/-- Source: `configuration.py`, `derive_kv_cache_profile`. -/
def deriveKvCacheProfile (modelConfig : Dict Value) (kvCacheDtype : Option String := none) :
    Option {p : KVCacheProfile // p.Positive} :=
  let merged := mergedConfig modelConfig
  let layers := (Value.item merged "num_hidden_layers").or (Value.item merged "n_layer")
  let attentionHeads := (Value.item merged "num_attention_heads").or (Value.item merged "n_head")
  let kvHeads := (Value.item merged "num_key_value_heads").or attentionHeads
  let hiddenSize := (Value.item merged "hidden_size").or (Value.item merged "n_embd")
  let headDim := headDimension (Value.item merged "head_dim") hiddenSize attentionHeads
  let modelDtype := ((Value.item merged "torch_dtype").or (Value.item merged "dtype")).or
    (.str "bfloat16")
  let requested : String :=
    match kvCacheDtype with
    | some dtype =>
        if dtype ≠ "" ∧ lower dtype.toList ≠ "auto".toList then dtype else modelDtype.text
    | none => modelDtype.text
  match layers.asInt?, kvHeads.asInt? with
  | some layers, some kvHeads =>
      if h : 0 < layers ∧ 0 < kvHeads ∧ 0 < headDim ∧ 0 < contextWindow merged then
        some (positiveProfile layers kvHeads headDim (contextWindow merged) requested
          ((Value.item merged "quantization_config").asDict?.map fun config =>
            (Value.item config "quant_method").text) h)
      else none
  | _, _ => none

/-- The KV cost of a token is positive for a positive profile. -/
theorem KVCacheProfile.Positive.kvBytesPerToken_pos {p : KVCacheProfile} (h : p.Positive) :
    0 < p.kvBytesPerToken := by
  unfold KVCacheProfile.kvBytesPerToken
  have hlayers : 0 < p.layers * 2 := Int.mul_pos h.layers (by decide)
  have hheads : 0 < p.layers * 2 * p.kvHeads := Int.mul_pos hlayers h.kvHeads
  have hdim : 0 < p.layers * 2 * p.kvHeads * p.headDim := Int.mul_pos hheads h.headDim
  exact Int.mul_pos hdim h.kvElementBytes

end Lmrs
