import SanTanHeights.Listing.LiveAuthority
import SanTanHeights.Listing.Verification

/-!
# What a verification observed

A receipt is verified, or found to mismatch, where its side effect was
attempted and an independent observation of the scope of the request was
compared.  Where verifications are accumulated, a receipt has at most one.
-/

namespace SanTanHeights.Listing

open Foundation Foundation.Json Foundation.Outcome Shared
open Foundation.Runs
open Community (FromIsoformat texts)

variable {fromisoformat : FromIsoformat} {registry : VerificationRegistry}
  {call : VerificationCall} {receipt : ExecutionReceipt}

/-! ## One verification -/

theorem verifyExecution_eq_ok {verification : VerificationReceipt} :
    verifyExecution fromisoformat registry call = .ok verification ↔
      (∃ time, fromisoformat call.verifiedAt = some (some time)) ∧
        call.request.receiptFingerprint = call.receipt.receiptFingerprint ∧
          (∀ prior ∈ call.priorVerifications,
            prior.executionReceiptFingerprint ≠ call.receipt.receiptFingerprint) ∧
            ∃ finding, call.finding = .ok finding ∧
              finding.state.code ∈ registry.states ∧
                ∃ fingerprint, hash (call.draft finding).payload =
                    .ok fingerprint ∧
                  { call.draft finding with
                    verificationFingerprint := fingerprint } =
                      verification := by
  simp only [verifyExecution, bind_eq_ok, require_eq_ok, exists_const,
    parseTs_eq_ok, pure_eq_ok, exists_and_right]

/-- A verification that compared states. -/
def VerificationState.compared (state : VerificationState) : Prop :=
  state = .verified ∨ state = .mismatch

/-- What a verification that compared states observed. -/
structure Observed (call : VerificationCall) (verification : VerificationReceipt)
    (observation : ObservedStateEvidence) : Prop where
  given : call.observation = some observation
  listing : observation.listingId = call.request.listingId
  actionType : observation.actionType = call.request.actionType
  independent : observation.independent = true
  named : verification.observationFingerprint = some observation.observationFingerprint
  code : verification.observedStateCode = some observation.stateCode
  expected : ∃ expected, call.expectedStateCode = some expected ∧
    (verification.verificationState = .verified ↔ observation.stateCode = expected)

/-- A finding that compared states found its receipt not suppressed, and an
observation of the scope of the request. -/
theorem observed_of_finding {finding : Finding} (found : call.finding = .ok finding)
    (compared : finding.state.compared) :
    call.receipt.suppressed = false ∧ ∃ observation, ∀ fingerprint,
      Observed call { call.draft finding with
        verificationFingerprint := fingerprint } observation := by
  unfold VerificationCall.finding at found
  split_ifs at found with suppressed unknown duplicate
  · cases found
    rcases compared with state | state <;> cases state
  · cases found
    rcases compared with state | state <;> cases state
  · cases found
    rcases compared with state | state <;> cases state
  · cases given : call.observation with
    | none =>
        rw [given] at found
        cases found
        rcases compared with state | state <;> cases state
    | some observation =>
        rw [given] at found
        simp only [bind_eq_ok, require_eq_ok, exists_const, pure_eq_ok] at found
        obtain ⟨scope, independent, rfl⟩ := found
        refine ⟨by simpa using suppressed, observation, fun fingerprint => ?_⟩
        cases wanted : call.expectedStateCode with
        | none =>
            rw [wanted] at compared
            rcases compared with state | state <;> cases state
        | some expected =>
            exact
              { given := given
                listing := scope.1
                actionType := scope.2
                independent := independent
                named := by simp [VerificationCall.draft, given]
                code := by
                  dsimp only [VerificationCall.draft, compareStates]
                  split_ifs <;> rfl
                expected := by
                  refine ⟨expected, wanted, ?_⟩
                  dsimp only [VerificationCall.draft, compareStates]
                  split_ifs with same
                  · simp [same]
                  · simp [same] }

/-! ## Runs -/

/-- A verification is made, or raises.  Every verification so far is among its
prior ones. -/
def VerificationStep (fromisoformat : FromIsoformat) (registry : VerificationRegistry)
    (verifications : List VerificationReceipt) (call : VerificationCall)
    (next : List VerificationReceipt) : Prop :=
  (∀ prior ∈ verifications, prior ∈ call.priorVerifications) ∧
    ((∃ verification, verifyExecution fromisoformat registry call =
          .ok verification ∧ next = verifications ++ [verification]) ∨
      (∃ message, verifyExecution fromisoformat registry call =
          .error message) ∧ next = verifications)

/-- A receipt that `execute_authorized_action` made. -/
def ExecutionReceipt.Produced (fromisoformat : FromIsoformat) (registry : ExecutionRegistry)
    (receipt : ExecutionReceipt) : Prop :=
  ∃ call execution, executeAuthorizedAction fromisoformat registry call =
    .ok execution ∧ execution.receipt = receipt

/-- A produced receipt that is not suppressed is of an attempt. -/
theorem ExecutionReceipt.Produced.attempted {registry : ExecutionRegistry}
    (produced : receipt.Produced fromisoformat registry)
    (notSuppressed : receipt.suppressed = false) :
    receipt.sideEffectAttempted = true := by
  obtain ⟨call, execution, executed, rfl⟩ := produced
  obtain ⟨_, made, _⟩ := executeAuthorizedAction_eq_ok.mp executed
  obtain ⟨_, _, receiptIs⟩ := makeReceipt_eq_ok.mp made
  rw [← receiptIs] at notSuppressed ⊢
  split_ifs at notSuppressed ⊢ with fresh
  · exact call.sideEffectAttempted_attempted
  · exfalso
    revert notSuppressed
    simp only [suppressed, draftReceipt, ExecutionCall.suppressed]
    split_ifs <;> decide

/-- What holds of the verifications that some calls accumulated. -/
structure VerificationsSound (fromisoformat : FromIsoformat) (registry : VerificationRegistry)
    (calls : List VerificationCall) (verifications : List VerificationReceipt) : Prop where
  distinct : (verifications.map VerificationReceipt.executionReceiptFingerprint).Nodup
  made : ∀ verification ∈ verifications, ∃ call ∈ calls,
    verifyExecution fromisoformat registry call = .ok verification

theorem VerificationsSound.step {calls : List VerificationCall}
    {verifications next : List VerificationReceipt}
    (sound : VerificationsSound fromisoformat registry calls verifications)
    (taken : VerificationStep fromisoformat registry verifications call next) :
    VerificationsSound fromisoformat registry (calls ++ [call]) next := by
  have earlier : ∀ verification ∈ verifications, ∃ made ∈ calls ++ [call],
      verifyExecution fromisoformat registry made = .ok verification := by
    intro verification listed
    obtain ⟨made, present, verified⟩ := sound.made verification listed
    exact ⟨made, List.mem_append_left _ present, verified⟩
  obtain ⟨prior, ⟨verification, verified, rfl⟩ | ⟨_, rfl⟩⟩ := taken
  · obtain ⟨_, _, fresh, finding, _, _, _, _, made⟩ := verifyExecution_eq_ok.mp verified
    have receipt : verification.executionReceiptFingerprint =
        call.receipt.receiptFingerprint := by
      rw [← made]
      rfl
    constructor
    · rw [List.map_append, List.nodup_append]
      refine ⟨sound.distinct, List.nodup_singleton _, ?_⟩
      intro left leftListed right rightListed
      obtain ⟨old, oldListed, rfl⟩ := List.mem_map.mp leftListed
      rw [List.map_singleton, List.mem_singleton] at rightListed
      rw [rightListed, receipt]
      exact fresh old (prior old oldListed)
    · intro other listed
      rcases List.mem_append.mp listed with old | new
      · exact earlier other old
      · rw [List.mem_singleton.mp new]
        exact ⟨call, by simp, verified⟩
  · exact ⟨sound.distinct, earlier⟩

theorem verificationsSound_of_run
    {calls : List VerificationCall} {verifications : List VerificationReceipt}
    (run : Exec (VerificationStep fromisoformat registry) [] calls verifications) :
    VerificationsSound fromisoformat registry calls verifications := by
  apply run.history_invariant
  · exact ⟨List.nodup_nil, fun _ listed => absurd listed List.not_mem_nil⟩
  · exact fun _ _ _ _ sound taken => sound.step taken

/-- Over every run, a receipt has at most one verification, and one that
compared states is of an attempted side effect and an observation of the scope
of its request. -/
theorem verified_means_observed
    {fromisoformat : FromIsoformat} {registry : VerificationRegistry}
    {executionRegistry : ExecutionRegistry} {calls : List VerificationCall}
    {verifications : List VerificationReceipt}
    (produced : ∀ call ∈ calls,
      call.receipt.Produced fromisoformat executionRegistry)
    (run : Exec (VerificationStep fromisoformat registry) [] calls
      verifications) :
    (verifications.map VerificationReceipt.executionReceiptFingerprint).Nodup ∧
      ∀ verification ∈ verifications, verification.verificationState.compared →
          ∃ call ∈ calls, verifyExecution fromisoformat registry call =
                .ok verification ∧
              call.request.receiptFingerprint =
                  call.receipt.receiptFingerprint ∧
                verification.executionReceiptFingerprint =
                    call.receipt.receiptFingerprint ∧
                  call.receipt.sideEffectAttempted = true ∧ ∃ observation,
                      Observed call verification observation := by
  have sound := verificationsSound_of_run run
  refine ⟨sound.distinct, fun verification listed compared => ?_⟩
  obtain ⟨call, present, verified⟩ := sound.made verification listed
  obtain ⟨_, bound, _, finding, found, _, _, _, made⟩ :=
    verifyExecution_eq_ok.mp verified
  subst made
  obtain ⟨notSuppressed, observation, observed⟩ :=
    observed_of_finding found compared
  exact ⟨call, present, verified, bound, rfl,
    (produced call present).attempted notSuppressed, observation,
    observed _⟩

/-! ## An observation of another listing -/

theorem VerificationRequest.textual_payload (request : VerificationRequest) :
    Textual request.payload := by
  simp [payload, textual_obj, IsTagged]

theorem textual_verificationKeyPayload (receiptFingerprint listingId actionType : String) :
    Textual (verificationKeyPayload receiptFingerprint listingId actionType) := by
  simp [verificationKeyPayload, textual_obj, IsTagged]

theorem ObservedStateEvidence.textual_payload (observation : ObservedStateEvidence) :
    Textual observation.payload := by
  simp [payload, textual_obj, IsTagged]

theorem VerificationReceipt.textual_payload (verification : VerificationReceipt) :
    Textual verification.payload := by
  simp [payload, textual_obj, IsTagged, texts]

/-- A receipt of an attempt through the sample adapter reports success. -/
theorem succeeded_of_sampleAdapter {registry : ExecutionRegistry} {call : ExecutionCall}
    {execution : Execution} (adapter : call.adapter = sampleAdapter)
    (executed : executeAuthorizedAction fromisoformat registry call = .ok execution)
    (invoked : execution.invoked = true) :
    execution.receipt.outcome = "SUCCEEDED" := by
  obtain ⟨_, made, fresh⟩ := executeAuthorizedAction_eq_ok.mp executed
  rw [invoked] at fresh
  rw [if_pos (of_decide_eq_true fresh.symm)] at made
  obtain ⟨_, _, receipt⟩ := makeReceipt_eq_ok.mp made
  rw [← receipt]
  simp [draftReceipt, ExecutionCall.attempted, adapter, sampleAdapter, truthy]

theorem isHex64_receiptFingerprint {registry : ExecutionRegistry}
    (produced : receipt.Produced fromisoformat registry) :
    Sha256.isHex64 receipt.receiptFingerprint = true := by
  obtain ⟨call, execution, executed, rfl⟩ := produced
  obtain ⟨_, made, _⟩ := executeAuthorizedAction_eq_ok.mp executed
  obtain ⟨_, hashed, receipt⟩ := makeReceipt_eq_ok.mp made
  obtain ⟨text, _, rfl⟩ := sha256Dumps_eq_ok.mp hashed
  rw [← receipt]
  exact Sha256.isHex64_hexdigest _

/-- A request to verify a receipt, about a listing. -/
theorem exists_sampleVerificationRequest (listingId : String)
    (shape : Sha256.isHex64 receipt.receiptFingerprint = true) :
    ∃ request, makeVerificationRequest Community.sampleFromisoformat
        "VERIFICATION" receipt listingId "PUBLISH" "2026-02-01T00:00:00+00:00" = .ok request ∧
      request.receiptFingerprint = receipt.receiptFingerprint ∧
        request.listingId = listingId ∧ request.actionType = "PUBLISH" := by
  obtain ⟨key, keyHashed⟩ := exists_hash_of_textual
    (textual_verificationKeyPayload receipt.receiptFingerprint listingId "PUBLISH")
  let draft : VerificationRequest :=
    { verificationId := "VERIFICATION"
      receiptFingerprint := receipt.receiptFingerprint
      listingId := listingId
      actionType := "PUBLISH"
      requestedAt := "2026-02-01T00:00:00+00:00"
      verificationKey := key
      requestFingerprint := "" }
  obtain ⟨fingerprint, hashed⟩ := exists_hash_of_textual draft.textual_payload
  have identified : Text.isBlank "VERIFICATION" = false := by decide
  refine ⟨{ draft with requestFingerprint := fingerprint }, ?_, rfl, rfl, rfl⟩
  simp only [makeVerificationRequest, bind_eq_ok, require_eq_ok,
    exists_const, validateFp, parseTs_eq_ok, pure_eq_ok]
  exact ⟨identified, shape, 1769904000, rfl, key, keyHashed, fingerprint, hashed, rfl⟩

/-- What was observed of a listing on the first of January. -/
def sampleObservation (listingId : String) : ObservedStateEvidence where
  observationId := "OBSERVATION"
  listingId := listingId
  actionType := "PUBLISH"
  observedAt := "2026-01-01T00:00:00+00:00"
  stateCode := "PUBLISHED"
  sourceFingerprint := Community.snapshotRegistry.certificationRoot
  independent := true
  observationFingerprint := ""

theorem exists_sampleObservation (listingId : String) :
    ∃ fingerprint, makeObservedStateEvidence Community.sampleFromisoformat
        (sampleObservation listingId) =
      .ok { sampleObservation listingId with
        observationFingerprint := fingerprint } := by
  obtain ⟨fingerprint, hashed⟩ :=
    exists_hash_of_textual (sampleObservation listingId).textual_payload
  have identified : Text.isBlank "OBSERVATION" = false ∧
      Text.isBlank "PUBLISHED" = false := by decide
  have shape : Sha256.isHex64
      Community.snapshotRegistry.certificationRoot = true :=
    Sha256.isHex64_ofList rfl rfl
  refine ⟨fingerprint, ?_⟩
  simp only [makeObservedStateEvidence, bind_eq_ok, require_eq_ok,
    exists_const, validateFp, parseTs_eq_ok, pure_eq_ok]
  exact ⟨identified, 1767225600, rfl, shape, rfl, fingerprint, hashed, rfl⟩

/-- A verification of a produced receipt of success, about a listing and under
an expectation. -/
structure SampleVerification
    (listingId expected : String) (attempt : Attempt) (execution : Execution)
    (call : VerificationCall) (verification : VerificationReceipt) :
    Prop where
  attempted : SampleAttempt "LISTING" "2026-01-01T00:00:00+00:00"
    "2026-02-01T00:00:00+00:00" attempt
  executed : executeAuthorizedAction Community.sampleFromisoformat
    executionRegistry attempt.call = .ok execution
  invoked : execution.invoked = true
  receipt : call.receipt = execution.receipt
  requested : makeVerificationRequest Community.sampleFromisoformat
    "VERIFICATION" execution.receipt listingId "PUBLISH"
      "2026-02-01T00:00:00+00:00" = .ok call.request
  observation : ∃ observation,
    makeObservedStateEvidence Community.sampleFromisoformat
        (sampleObservation listingId) = .ok observation ∧
      call.observation = some observation ∧ observation.listingId = listingId ∧
          observation.observedAt = "2026-01-01T00:00:00+00:00"
  verified : verifyExecution Community.sampleFromisoformat
    verificationRegistry call = .ok verification
  state : verification.verificationState = (compareStates "PUBLISHED" (some expected)).state
  fresh : call.priorVerifications = []

theorem exists_sampleVerification (listingId expected : String) :
    ∃ attempt execution call verification, SampleVerification listingId
      expected attempt execution call verification := by
  obtain ⟨attempt, sample⟩ := @exists_sampleAttempt "LISTING"
    "2026-01-01T00:00:00+00:00" "2026-02-01T00:00:00+00:00" 1767225600
    1769904000 (by decide) rfl rfl
  obtain ⟨execution, executed, invoked⟩ := sample.executes
  have succeeded := succeeded_of_sampleAdapter sample.adapter executed invoked
  obtain ⟨request, requested, bound, listing, actionType⟩ :=
    exists_sampleVerificationRequest listingId (isHex64_receiptFingerprint ⟨_, _, executed, rfl⟩)
  obtain ⟨observationFingerprint, observed⟩ := exists_sampleObservation listingId
  let observation := { sampleObservation listingId with
    observationFingerprint := observationFingerprint }
  let call : VerificationCall :=
    { request := request
      receipt := execution.receipt
      observation := some observation
      expectedStateCode := some expected
      verifiedAt := "2026-01-01T00:00:00+00:00"
      priorVerifications := [] }
  let finding := compareStates "PUBLISHED" (some expected)
  have found : call.finding = .ok finding := by
    have notSuppressed : execution.receipt.suppressed = false := by
      rw [ExecutionReceipt.suppressed, succeeded]
      rfl
    have scope : observation.listingId = request.listingId ∧
        observation.actionType = request.actionType :=
      ⟨listing.symm, actionType.symm⟩
    rw [VerificationCall.finding, if_neg (by rw [notSuppressed]; decide),
      if_neg (by rw [succeeded]; decide)]
    simp only [call, require, if_pos scope]
    rfl
  have supported : finding.state.code ∈ verificationRegistry.states := by
    dsimp only [finding, compareStates]
    split_ifs <;> decide
  obtain ⟨fingerprint, hashed⟩ := exists_hash_of_textual (call.draft finding).textual_payload
  have verified : verifyExecution Community.sampleFromisoformat
      verificationRegistry call = .ok { call.draft finding with
        verificationFingerprint := fingerprint } :=
    verifyExecution_eq_ok.mpr ⟨⟨1767225600, rfl⟩, bound,
      fun _ listed => absurd listed List.not_mem_nil, _, found, supported,
      fingerprint, hashed, rfl⟩
  exact ⟨attempt, execution, call, _,
    { attempted := sample
      executed := executed
      invoked := invoked
      receipt := rfl
      requested := requested
      observation := ⟨observation, observed, rfl, rfl, rfl⟩
      verified := verified
      state := rfl
      fresh := rfl }⟩

theorem verified_means_observed_sample :
    ∃ (call : VerificationCall) (verification : VerificationReceipt),
      verifyExecution Community.sampleFromisoformat verificationRegistry
          call = .ok verification ∧
        verification.verificationState = .verified ∧
          call.receipt.sideEffectAttempted = true := by
  obtain ⟨attempt, execution, call, verification, sample⟩ :=
    exists_sampleVerification "LISTING" "PUBLISHED"
  have produced : ∀ made ∈ [call],
      made.receipt.Produced Community.sampleFromisoformat
        executionRegistry := by
    rw [List.forall_mem_singleton, sample.receipt]
    exact ⟨_, _, sample.executed, rfl⟩
  have run : Exec (VerificationStep Community.sampleFromisoformat
      verificationRegistry) [] [call] [verification] :=
    .single ⟨fun _ listed => absurd listed List.not_mem_nil,
      .inl ⟨verification, sample.verified, rfl⟩⟩
  obtain ⟨made, present, verified, _, _, attempted, _⟩ :=
    (verified_means_observed produced run).2 verification
      List.mem_cons_self (.inl sample.state)
  exact ⟨made, verification, verified, sample.state, attempted⟩

/-- A receipt of February for one listing is verified by what was observed of
another listing in January, and is verified as of January. -/
theorem verified_by_other_listing :
    ∃ (attempt : Attempt) (execution : Execution) (call : VerificationCall)
        (verification : VerificationReceipt),
      attempt.Made Community.sampleFromisoformat executionRegistry ∧
        executeAuthorizedAction Community.sampleFromisoformat
            executionRegistry attempt.call = .ok execution ∧
          call.receipt = execution.receipt ∧
            makeVerificationRequest Community.sampleFromisoformat
                "VERIFICATION" execution.receipt "OTHER" "PUBLISH"
                  "2026-02-01T00:00:00+00:00" = .ok call.request ∧
              verifyExecution Community.sampleFromisoformat
                  verificationRegistry call = .ok verification ∧
                verification.verificationState = .verified ∧ ∃ observation,
                    makeObservedStateEvidence Community.sampleFromisoformat
                        (sampleObservation "OTHER") = .ok observation ∧
                      call.observation = some observation ∧
                        observation.listingId ≠ attempt.call.request.listingId ∧
                          observation.observedAt = "2026-01-01T00:00:00+00:00" ∧
                            execution.receipt.recordedAt =
                              "2026-02-01T00:00:00+00:00" := by
  obtain ⟨attempt, execution, call, verification, sample⟩ :=
    exists_sampleVerification "OTHER" "PUBLISHED"
  obtain ⟨observation, made, given, listing, observedAt⟩ :=
    sample.observation
  have live := side_effect_inside_authority sample.attempted.made
    sample.attempted.free sample.executed
  have recorded : execution.receipt.recordedAt =
      "2026-02-01T00:00:00+00:00" := by
    obtain ⟨_, receiptMade, _⟩ :=
      executeAuthorizedAction_eq_ok.mp sample.executed
    obtain ⟨_, _, receipt⟩ := makeReceipt_eq_ok.mp receiptMade
    rw [← receipt, ← sample.attempted.executed]
    rfl
  refine ⟨attempt, execution, call, verification, sample.attempted.made,
    sample.executed, sample.receipt, sample.requested, sample.verified,
    sample.state, observation, made, given, ?_, observedAt, recorded⟩
  rw [listing, live.listing, sample.attempted.listing]
  decide

end SanTanHeights.Listing
