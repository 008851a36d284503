import Lmrs.Lib.Json.RoundTrip
import Lmrs.Lib.Posix
import Lmrs.ModelCache
import Lmrs.VramFacts

/-!
# Stored mappings on disk

Source: `lmrs/vram.py`, `VramFactsStore.read`, `VramFactsStore._write`; `lmrs/model_cache.py`,
`_read_json`, `DiskModelCache._stored_metadata`, `DiskModelCache.update_metadata`.

The measurements of a host and the operator metadata of a model are each one JSON file that is written
in place: the file is truncated and the new text follows. A write that fails after that leaves a
beginning of the text.

* `writeJson_cases`: what a write reports and leaves in the file.
* `read_completed`: what is read after a write that completes.
* `recordOnDisk_refines`: over the text, a recording that fails before its text is complete does what
  the store over parsed mappings does with that fault.
* `failed_write_reads`: what is read after a failing write.
-/

namespace Lmrs

open Python Json

/-- What a path holds: the text of a file, or nothing that can be read as text. -/
abbrev StoredText := Option (List Char)

/-- How the filesystem answers one write. -/
inductive WriteOutcome where
  | done
  /-- The directory cannot be created. -/
  | noDirectory (message : String)
  /-- The file cannot be opened for writing, and is not truncated. -/
  | notOpened (message : String)
  /-- The file is truncated, and the write raises after that many characters. -/
  | stopped (message : String) (written : Nat)

/-- The text of the `OSError` raised. -/
def WriteOutcome.error? : WriteOutcome → Option String
  | .done => none
  | .noDirectory message => some message
  | .notOpened message => some message
  | .stopped message _ => some message

/-- Source: `model_cache.py`, `_read_json`; `vram.py`, `VramFactsStore.read`. -/
def readJson (F : FloatText) (file : StoredText) : Dict Value :=
  match file.bind (loads F) with
  | some (.dict items) => items
  | _ => []

/-- Writing a mapping over a file, in a directory that is created first: the error reported, and what
the path holds afterwards. -/
def writeJson (F : FloatText) (outcome : WriteOutcome) (file : StoredText) (facts : Dict Value) :
    Except PyException (Option String × StoredText) :=
  match outcome with
  | .noDirectory message => .ok (some message, file)
  | .notOpened message => (dumps F (.dict facts)).map fun _ => (some message, file)
  | .stopped message written =>
      (dumps F (.dict facts)).map fun text => (some message, some (text.take written))
  | .done => (dumps F (.dict facts)).map fun text => (none, some text)

/-! ## The facts file -/

namespace VramFactsStore

/-- Source: `vram.py`, `VramFactsStore._write`. -/
def writeText (F : FloatText) (outcome : WriteOutcome) (file : StoredText) (facts : Dict Value) :
    Except PyException (Dict Value × StoredText) := do
  let (error, file') ← writeJson F outcome file facts
  match error with
  | none => return (facts, file')
  | some message => return (Dict.set facts "write_error" (.str message), file')

/-- The mapping a recording writes, when it writes one. -/
def toWrite (facts : Dict Value) : Recording → Option (Dict Value)
  | .baseline measurement services modelServed =>
      if measurement.ok = false then none
      else if keepsModelFree modelServed facts = true then none
      else some (baselineFacts facts measurement services modelServed)
  | .loaded modelName measurement backend quantization =>
      if measurement.ok = false then none
      else
        some (deriveStatic (loadedFacts facts modelName measurement backend quantization)
          measurement.freeBytes)

/-- A recording, over the text of the file. -/
def recordOnDisk (F : FloatText) (outcome : WriteOutcome) (file : StoredText) (op : Recording) :
    Except PyException (Dict Value × StoredText) :=
  match toWrite (readJson F file) op with
  | none => .ok (readJson F file, file)
  | some facts => writeText F outcome file facts

/-- A recording, over the parsed mapping: the facts returned and the file. -/
def recordWith (access : Access) (file : File) : Recording → Dict Value × File
  | .baseline measurement services modelServed =>
      recordServiceBaseline access file measurement services modelServed
  | .loaded modelName measurement backend quantization =>
      recordModelLoaded access file modelName measurement backend quantization

/-- A recording reads the stored mapping and writes at most one. -/
theorem recordWith_eq (access : Access) (file : File) (op : Recording) :
    recordWith access file op =
      match toWrite (read access file) op with
      | none => (read access file, file)
      | some facts => write access file facts := by
  cases op with
  | baseline measurement services modelServed =>
      simp only [recordWith, toWrite]
      rw [recordServiceBaseline_eq]
      split_ifs <;> rfl
  | loaded modelName measurement backend quantization =>
      simp only [recordWith, toWrite, recordModelLoaded]
      split_ifs <;> rfl

end VramFactsStore

/-! ## The operator metadata of a model -/

/-- Source: `model_cache.py`, `repo_directory_name`. -/
def repoDirectoryName (modelName : String) : String :=
  let isSlash (c : Char) : Bool := c = '/'
  let stripped := ((modelName.toList.dropWhile isSlash).reverse.dropWhile isSlash).reverse
  "models--" ++ String.ofList (stripped.map fun c => if c = '/' then ['-', '-'] else [c]).flatten

namespace DiskModelCache

/-- The path of the metadata of a model. Source: `model_cache.py`, `DiskModelCache._state_directory`. -/
def metadataPath (cache : DiskModelCache) (modelName : String) : String :=
  ((((Posix.RawPath.parse cache.cacheRoot).join (Posix.RawPath.parse ".lmrs")).join
    (Posix.RawPath.parse (repoDirectoryName modelName))).join
      (Posix.RawPath.parse "metadata.json")).text

/-- Source: `model_cache.py`, `DiskModelCache.update_metadata`, on the file at the metadata path. -/
def updateMetadata (F : FloatText) (outcome : WriteOutcome) (cache : DiskModelCache)
    (file : StoredText) (modelName : String) (metadata : Dict Value) :
    Except PyException (CacheCommandResult × StoredText) := do
  match ← cache.record modelName with
  | none =>
      return ({ command := "update_metadata", modelName, status := .notCached, success := false
                reasonCode := some .modelNotCached }, file)
  | some record =>
      let merged := Dict.update (readJson F file) metadata
      let path : Value := .str (cache.metadataPath modelName)
      let (error, file') ← writeJson F outcome file merged
      match error with
      | some message =>
          return ({ command := "update_metadata", modelName, status := record.cacheStatus
                    success := false, reasonCode := some .modelCacheMetadataWriteFailed
                    record := some record
                    metadata := [("error", .str message), ("metadata_path", path)] }, file')
      | none =>
          return ({ command := "update_metadata", modelName, status := record.cacheStatus
                    success := true, record := some record
                    metadata := [("metadata", .dict merged), ("metadata_path", path)] }, file')

example : metadataPath { cacheRoot := "/var/cache", record := fun _ => .ok none } "/Qwen/Qwen3-8B" =
    "/var/cache/.lmrs/models--Qwen--Qwen3-8B/metadata.json" := by decide

end DiskModelCache

/-! ## What a failing write leaves -/

/-- What is read after a failing write of `facts`: before the file is truncated, what was read before
it; once the file is truncated nothing, unless all of the text was written. -/
def ReadsAfterFailure (F : FloatText) (outcome : WriteOutcome) (file file' : StoredText)
    (facts : Dict Value) : Prop :=
  match outcome with
  | .stopped _ written =>
      ∃ text, writeJson F .done file facts = .ok (none, some text) ∧
        readJson F file' = if written < text.length then [] else readJson F (some text)
  | _ => readJson F file' = readJson F file

section failure

variable {F : FloatText} {outcome : WriteOutcome} {file file' : StoredText} {facts : Dict Value}
  {message : String} {error : Option String}

/-- A text cut short is not read. -/
theorem loads_take {text : List Char} {written : Nat} (h : dumps F (.dict facts) = .ok text)
    (hshort : written < text.length) : loads F (text.take written) = none := by
  apply loads_beginning h (List.take_prefix written text)
  intro heq
  have hlength := congrArg List.length heq
  rw [List.length_take] at hlength
  omega

/-- What a path holds after a write that returns. -/
def LeftBy (F : FloatText) (outcome : WriteOutcome) (file file' : StoredText) (facts : Dict Value) :
    Prop :=
  match outcome with
  | .done => ∃ text, dumps F (.dict facts) = .ok text ∧ file' = some text
  | .stopped _ written =>
      ∃ text, dumps F (.dict facts) = .ok text ∧ file' = some (text.take written)
  | _ => file' = file

/-- **What a write does**: it reports the error it met, and leaves the file as it was, its text or a
beginning of that. -/
theorem writeJson_cases (h : writeJson F outcome file facts = .ok (error, file')) :
    error = outcome.error? ∧ LeftBy F outcome file file' facts := by
  cases outcome with
  | noDirectory m =>
      cases h
      exact ⟨rfl, rfl⟩
  | notOpened m =>
      obtain ⟨text, -, heq⟩ := map_eq_ok.mp h
      cases heq
      exact ⟨rfl, rfl⟩
  | stopped m written =>
      obtain ⟨text, htext, heq⟩ := map_eq_ok.mp h
      cases heq
      exact ⟨rfl, text, htext, rfl⟩
  | done =>
      obtain ⟨text, htext, heq⟩ := map_eq_ok.mp h
      cases heq
      exact ⟨rfl, text, htext, rfl⟩

/-- **What a completed write leaves to be read**: every key has the value written, with the members of
mappings inside it in the order they were written. -/
theorem read_completed (hfacts : Writable F (.dict facts))
    (h : writeJson F .done file facts = .ok (error, file')) (key : String) :
    Dict.get? (readJson F file') key = (Dict.get? facts key).map canonical := by
  obtain ⟨-, text, htext, rfl⟩ := writeJson_cases h
  obtain ⟨text', htext', hloads⟩ := loads_dumps hfacts
  rw [htext] at htext'
  cases htext'
  have hread : readJson F (some text) = (facts.map fun kv => (kv.1, canonical kv.2)).insertionSort byKey := by
    unfold readJson
    rw [Option.bind_some, hloads, canonical, canonicalMembers_eq_map]
  have hkeys : ((facts.map fun kv => (kv.1, canonical kv.2)).map Prod.fst).Nodup := by
    rw [List.map_map]
    exact hfacts.1
  rw [hread, ← Dict.get?_perm (List.perm_insertionSort byKey _).symm hkeys, Dict.get?_map]

/-- What a failing write leaves to be read. -/
theorem readsAfterFailure (hfails : outcome.error? = some message)
    (h : LeftBy F outcome file file' facts) : ReadsAfterFailure F outcome file file' facts := by
  cases outcome with
  | done => cases hfails
  | noDirectory m => exact congrArg (readJson F) h
  | notOpened m => exact congrArg (readJson F) h
  | stopped m written =>
      obtain ⟨text, htext, rfl⟩ := h
      refine ⟨text, by rw [writeJson, htext]; rfl, ?_⟩
      by_cases hshort : written < text.length
      · rw [if_pos hshort]
        show (match loads F (text.take written) with
          | some (.dict items) => items
          | _ => []) = []
        rw [loads_take htext hshort]
      · rw [if_neg hshort, List.take_of_length_le (by omega)]

end failure

namespace VramFactsStore

/-! ### The store over parsed mappings -/

/-- The file as the store over parsed mappings has it. -/
def parsed (F : FloatText) (file : StoredText) : File := file.bind (loads F)

/-- A failing write as that store has it: the error, and whether the file is truncated. -/
def accessOf : WriteOutcome → Access
  | .done => {}
  | .noDirectory message => { writeFault := some (message, false) }
  | .notOpened message => { writeFault := some (message, false) }
  | .stopped message _ => { writeFault := some (message, true) }

/-- The write fails before all of the text is written. -/
def Incomplete (F : FloatText) (facts : Dict Value) : WriteOutcome → Prop
  | .done => False
  | .stopped _ written => ∀ text, dumps F (.dict facts) = .ok text → written < text.length
  | _ => True

section refinement

variable {F : FloatText} {outcome : WriteOutcome} {file file' : StoredText} {facts : Dict Value}
  {result : Dict Value}

theorem read_parsed (F : FloatText) (outcome : WriteOutcome) (file : StoredText) :
    read (accessOf outcome) (parsed F file) = readJson F file := by
  have hreadable : (accessOf outcome).readable = true := by cases outcome <;> rfl
  unfold read readJson parsed
  rw [hreadable]
  cases file.bind (loads F) with
  | none => rfl
  | some value => cases value <;> rfl

/-- A write that fails early does what the store over parsed mappings does with its fault. -/
theorem write_refines (hincomplete : Incomplete F facts outcome)
    (h : writeText F outcome file facts = .ok (result, file')) :
    write (accessOf outcome) (parsed F file) facts = (result, parsed F file') := by
  obtain ⟨⟨error, left⟩, hwrite, hresult⟩ := bind_eq_ok.mp h
  obtain ⟨rfl, hleft⟩ := writeJson_cases hwrite
  cases outcome with
  | done => cases hincomplete
  | noDirectory m =>
      cases hresult
      rw [show file' = file from hleft]
      rfl
  | notOpened m =>
      cases hresult
      rw [show file' = file from hleft]
      rfl
  | stopped m written =>
      cases hresult
      obtain ⟨text, htext, rfl⟩ := hleft
      have hnone : parsed F (some (text.take written)) = none :=
        loads_take htext (hincomplete text htext)
      rw [hnone]
      rfl

/-- **A recording that fails early** does, over the text, what the store over parsed mappings does
with its fault. -/
theorem recordOnDisk_refines {op : Recording}
    (hincomplete : ∀ facts, toWrite (readJson F file) op = some facts → Incomplete F facts outcome)
    (h : recordOnDisk F outcome file op = .ok (result, file')) :
    recordWith (accessOf outcome) (parsed F file) op = (result, parsed F file') := by
  rw [recordWith_eq, read_parsed]
  unfold recordOnDisk at h
  split at h
  · next hnone =>
      cases h
      rfl
  · next facts hfacts =>
      exact write_refines (hincomplete facts hfacts) h

end refinement

end VramFactsStore

open VramFactsStore

/-- **What is read after a failing write.** For every stored text and every failing write: when a
recording of the facts store is to write a mapping and returns, it reports the error, and when an update
of the metadata of a model reports that its write failed, what is read afterwards is the mapping stored
before when the file was not truncated, the empty mapping when the write stopped short of its text, and
what the completed write leaves to be read when it stopped after it. -/
theorem failed_write_reads (F : FloatText) {outcome : WriteOutcome} {message : String}
    (hfails : outcome.error? = some message) (file : StoredText) :
    (∀ op facts result file', toWrite (readJson F file) op = some facts →
        recordOnDisk F outcome file op = .ok (result, file') →
          Dict.get? result "write_error" = some (.str message) ∧
            ReadsAfterFailure F outcome file file' facts) ∧
      ∀ (cache : DiskModelCache) modelName metadata result file',
        cache.updateMetadata F outcome file modelName metadata = .ok (result, file') →
          result.reasonCode = some .modelCacheMetadataWriteFailed →
            Dict.get? result.metadata "error" = some (.str message) ∧
              ReadsAfterFailure F outcome file file' (Dict.update (readJson F file) metadata) := by
  constructor
  · intro op facts result file' hfacts h
    unfold recordOnDisk at h
    rw [hfacts] at h
    obtain ⟨⟨error, written⟩, hwrite, hresult⟩ := bind_eq_ok.mp h
    obtain ⟨rfl, hleft⟩ := writeJson_cases hwrite
    rw [hfails] at hresult
    cases hresult
    exact ⟨Dict.get?_set_self .., readsAfterFailure hfails hleft⟩
  · intro cache modelName metadata result file' h hreason
    obtain ⟨record?, hrecord, h⟩ := bind_eq_ok.mp h
    cases record? with
    | none =>
        cases h
        cases hreason
    | some record =>
        obtain ⟨⟨error, written⟩, hwrite, hresult⟩ := bind_eq_ok.mp h
        obtain ⟨rfl, hleft⟩ := writeJson_cases hwrite
        rw [hfails] at hresult
        cases hresult
        exact ⟨rfl, readsAfterFailure hfails hleft⟩

/-- Floats that are whole numbers below the exponent notation. -/
def wholeFloats : FloatText where
  repr q := intText q.num ++ ['.', '0']
  parse text :=
    match intOfString (String.ofList (text.takeWhile fun c => c ≠ '.')) with
    | .ok n => .finite n
    | .error _ => .nan
  repr_number := by
    intro q c hc
    rcases List.mem_append.mp hc with hint | hpoint
    · exact intText_number q.num c hint
    · simp only [List.mem_cons, List.not_mem_nil, or_false] at hpoint
      rcases hpoint with rfl | rfl <;> simp [numberChars]

/-- A file that holds a model-free baseline of 1000 bytes. -/
def baselineText : List Char :=
  "\x7b\n  \"baseline_model_served\": false,\n  \"service_baseline_free_vram_bytes\": 1000\n\x7d".toList

/-- A device that is full as soon as the file is truncated. -/
def diskFull : WriteOutcome := .stopped "[Errno 28] No space left on device" 0

/-- A load that leaves 400 bytes free. -/
def loadReading : Recording := .loaded "m" (reading 400) "vllm" ""

/-- The mapping that load writes over the baseline. -/
def loadFacts : Dict Value :=
  deriveStatic (loadedFacts (readJson wholeFloats (some baselineText)) "m" (reading 400) "vllm" "") 400

/-- The recording returns, and leaves an empty file. -/
theorem load_on_full_disk :
    recordOnDisk wholeFloats diskFull (some baselineText) loadReading =
      .ok (Dict.set loadFacts "write_error" (.str "[Errno 28] No space left on device"), some []) := by
  have hprintable : printable (.dict loadFacts) = true := by decide +kernel
  have htext : dumps wholeFloats (.dict loadFacts) = .ok (render wholeFloats 0 (.dict loadFacts)) :=
    if_pos hprintable
  have hwrite : writeJson wholeFloats diskFull (some baselineText) loadFacts =
      .ok (some "[Errno 28] No space left on device", some []) := by
    simp only [writeJson, diskFull, htext, Except.map, List.take_zero]
  show writeText wholeFloats diskFull (some baselineText) loadFacts = _
  unfold writeText
  rw [hwrite]
  rfl

/-- A cache that finds one model. -/
def oneModelCache : DiskModelCache where
  record modelName :=
    .ok (some { modelName, runtimeBackend := "vllm", modelPath := "/m", quantizationProfile := ""
                declaredContextWindow := 0, tokenizerProfile := "", checksumOrRevision := ""
                sizeBytes := 0, downloadedAt := "", cacheStatus := .cachedOnDisk })

/-- The stored mapping with an operator's note. -/
def noteFacts : Dict Value :=
  Dict.update (readJson wholeFloats (some baselineText)) [("note", .none)]

/-- An update that meets the full disk reports it, and leaves an empty file. -/
theorem note_on_full_disk : ∃ result,
    oneModelCache.updateMetadata wholeFloats diskFull (some baselineText) "m" [("note", .none)] =
        .ok (result, some []) ∧
      result.reasonCode = some .modelCacheMetadataWriteFailed := by
  have hprintable : printable (.dict noteFacts) = true := by decide +kernel
  have hwrite : writeJson wholeFloats diskFull (some baselineText) noteFacts =
      .ok (some "[Errno 28] No space left on device", some []) := by
    simp only [writeJson, diskFull, dumps, hprintable, if_true, Except.map, List.take_zero]
  unfold noteFacts at hwrite
  simp only [DiskModelCache.updateMetadata, oneModelCache, bind, Except.bind, hwrite]
  exact ⟨_, rfl, rfl⟩

/-- The statement at a recording and an update that meet a full disk. -/
theorem failed_write_reads_small :
    ReadsAfterFailure wholeFloats diskFull (some baselineText) (some []) loadFacts ∧
      ReadsAfterFailure wholeFloats diskFull (some baselineText) (some []) noteFacts := by
  obtain ⟨result, hupdate, hreason⟩ := note_on_full_disk
  have hfails : diskFull.error? = some "[Errno 28] No space left on device" := rfl
  have h := failed_write_reads wholeFloats hfails (some baselineText)
  exact ⟨(h.1 loadReading loadFacts _ _ rfl load_on_full_disk).2,
    (h.2 oneModelCache "m" _ result _ hupdate hreason).2⟩

/-- **A baseline lost by a failing write**: the load that meets a full disk leaves an empty file, and
the stored baseline is not read any more. -/
theorem baseline_lost_by_failed_write :
    ¬ ∀ (outcome : WriteOutcome) (message : String) (file : StoredText) (op : Recording)
        (facts result : Dict Value) (file' : StoredText),
      outcome.error? = some message → toWrite (readJson wholeFloats file) op = some facts →
        recordOnDisk wholeFloats outcome file op = .ok (result, file') →
          readJson wholeFloats file' = readJson wholeFloats file := by
  intro h
  have hsame := h diskFull _ (some baselineText) loadReading loadFacts _ _ rfl rfl load_on_full_disk
  have hbefore : (Value.item (readJson wholeFloats (some baselineText))
      "service_baseline_free_vram_bytes").asInt? = some 1000 := by decide +kernel
  rw [← hsame] at hbefore
  have hafter : (Value.item (readJson wholeFloats (some []))
      "service_baseline_free_vram_bytes").asInt? = none := by decide +kernel
  rw [hafter] at hbefore
  cases hbefore

end Lmrs
