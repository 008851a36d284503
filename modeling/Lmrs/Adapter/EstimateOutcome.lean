import Lmrs.Adapter.EstimateChat

/-!
# The outcome of an estimate

Source: `lmrs/adapter/registration.py`, `EstimateCommand`; `lmrs/commands.py`, `estimate_result`,
`failure_result`.

The results of the handler use the words of a dry run. The two results the text mode builds before it asks
the handler are made by `failure_result`, and use the word of an execution.

* `dry_run_words_iff`: an estimate uses the words of a dry run exactly when it is not in text mode or its
  model can be sized.
-/

namespace Lmrs

open Python

/-- The outcome is that of a dry run, and the success says whether it is a rejection. -/
structure CommandResult.DryRun (result : CommandResult) : Prop where
  outcome : result.outcome ∈ [CommandOutcome.wouldExecute, .wouldQueue, .wouldReject]
  success : result.success = false ↔ result.outcome = .wouldReject

/-- The text mode has no model to size the request against: none is named, resident or served, or the KV
parameters of the one there is are not known. -/
def EstimateCommand.Unsizable (s : AdapterState) (r : Readings) (params : Dict Value) : Prop :=
  (∃ message, Value.item params "message" = .str message ∧ message ≠ "") ∧
    match resolveTargetModel s r params with
    | none => True
    | some modelName => modelName = "" ∨ modelKvProfile r modelName = .ok none

/-- The results of the dry run of a decision. -/
theorem estimateResult_dryRun (decision : Decision) (reasonCode : Option ReasonCode)
    (tokenBreakdown : Option TokenBreakdown) (capacity : Option CapacitySnapshot) :
    (PublicCommandExecutor.estimateResult decision reasonCode tokenBreakdown capacity).DryRun := by
  constructor
  · simp only [PublicCommandExecutor.estimateResult, PublicCommandExecutor.dryRunOutcome]
    cases canonicalDecision decision <;> decide
  · simp [PublicCommandExecutor.estimateResult]

/-- A failure result does not use the words of a dry run. -/
theorem failureResult_not_dryRun (command : CommandName) (reasonCode : ReasonCode) (payload : Option Payload)
    (metadata : Dict Value) :
    ¬ (PublicCommandExecutor.failureResult command reasonCode payload metadata).DryRun := by
  intro h
  exact absurd h.outcome (by simp [PublicCommandExecutor.failureResult])

/-- The handler's results use the words of a dry run. -/
theorem CanonicalChatHandler.estimate_dryRun {handler : CanonicalChatHandler} {request : AdmissionRequest}
    {result : CommandResult} (h : handler.estimate request = .ok result) : result.DryRun := by
  unfold CanonicalChatHandler.estimate at h
  split at h
  · cases h
    exact estimateResult_dryRun ..
  · obtain ⟨both, -, h⟩ := bind_eq_ok.mp h
    cases h
    exact estimateResult_dryRun ..

namespace EstimateCommand

variable {s : AdapterState} {r : Readings} {params : Dict Value} {result : CommandResult}

/-- A dry run on raw inputs uses the words of a dry run. -/
theorem rawEstimate_dryRun (h : rawEstimate s r params = .ok result) : result.DryRun := by
  rcases rawEstimate_cases h with ⟨tokenBreakdown, capacity, -, rfl⟩ | ⟨decision, reasonCode, _, _, -, rfl⟩
  · have hrefusal := estimateResult_dryRun .reject (some .modelSwitching) tokenBreakdown.domain? capacity.domain?
    exact ⟨hrefusal.outcome, hrefusal.success⟩
  · exact estimateResult_dryRun ..

/-- The text mode uses the words of a dry run exactly for a model it can size. -/
theorem textModeEstimate_dryRun_iff {message : String} (hmessage : Value.item params "message" = .str message)
    (hne : message ≠ "") (h : (textModeEstimate s r params message).result = .ok result) :
    result.DryRun ↔ ¬ Unsizable s r params := by
  have htext : ∃ message, Value.item params "message" = .str message ∧ message ≠ "" :=
    ⟨message, hmessage, hne⟩
  unfold textModeEstimate at h
  unfold Unsizable
  split at h
  · rename_i hnone
    cases h
    simp [hnone, htext, failureResult_not_dryRun]
  · rename_i hempty
    cases h
    simp [hempty, htext, failureResult_not_dryRun]
  · rename_i modelName hnonempty hmodel
    have hname : modelName ≠ "" := hnonempty
    split at h
    · cases h
    · rename_i hprofile
      cases h
      simp [hmodel, htext, hprofile, unsizedResult, failureResult_not_dryRun]
    · rename_i profile hprofile
      split at h
      · cases h
      · obtain ⟨capacity, -, h⟩ := bind_eq_ok.mp h
        have hdry := CanonicalChatHandler.estimate_dryRun h
        simp [hmodel, hprofile, hname, hdry]

end EstimateCommand

/-- **The words of an estimate**: for every state, all readings and every mapping of parameters, whenever
the command returns a result, it has the outcome of a dry run, and its success is false exactly for a
rejection, if and only if the request is not one in text mode whose model cannot be sized. -/
theorem dry_run_words_iff (s : AdapterState) (r : Readings) (params : Dict Value) {result : CommandResult}
    (h : (EstimateCommand.delegate s r params).result = .ok result) :
    result.DryRun ↔ ¬ EstimateCommand.Unsizable s r params := by
  unfold EstimateCommand.delegate at h
  split at h
  · rename_i hnone
    refine iff_of_true (EstimateCommand.rawEstimate_dryRun h) ?_
    rintro ⟨⟨message, hmessage, -⟩, -⟩
    rw [hmessage] at hnone
    cases hnone
  · rename_i hempty
    refine iff_of_true (EstimateCommand.rawEstimate_dryRun h) ?_
    rintro ⟨⟨message, hmessage, hne⟩, -⟩
    rw [hmessage] at hempty
    exact hne (Option.some.inj hempty)
  · rename_i message hnonempty hmessage
    refine EstimateCommand.textModeEstimate_dryRun_iff ?_ hnonempty h
    cases hitem : Value.item params "message" with
    | str text =>
        rw [hitem] at hmessage
        exact congrArg Value.str (Option.some.inj hmessage)
    | _ =>
        rw [hitem] at hmessage
        cases hmessage

/-- A request in text mode, for a model that is not cached. -/
def uncachedParams : Dict Value := [("message", .str "hi"), ("model_name", .str "acme/tiny-model")]

theorem dry_run_words_uncached :
    (unsizedResult .estimate "acme/tiny-model").DryRun ↔ ¬ EstimateCommand.Unsizable {} {} uncachedParams :=
  dry_run_words_iff {} {} uncachedParams (by rfl)

/-- **An estimate for a model that cannot be sized is not a dry run**: it reports `rejected`. -/
theorem estimate_rejects :
    ¬ ∀ (s : AdapterState) (r : Readings) (params : Dict Value) (result : CommandResult),
        (EstimateCommand.delegate s r params).result = .ok result → result.DryRun := by
  intro h
  exact failureResult_not_dryRun _ _ _ _ (h {} {} uncachedParams (unsizedResult .estimate "acme/tiny-model") (by rfl))

end Lmrs
