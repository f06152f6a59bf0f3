import SanTanHeights.Listing.Execution

/-!
# Verification, reconciliation and rollback

A receipt is verified against an independent observation.  A mismatch or an
unknown outcome opens a reconciliation case, and a case may be rolled back
under an approval and an authority of its own.
-/

namespace SanTanHeights.Listing

open Foundation Foundation.Json Foundation.Outcome
open Community (FromIsoformat texts)

/-! ## Requests and observations -/

structure VerificationRequest where
  verificationId : String
  receiptFingerprint : String
  listingId : String
  actionType : String
  requestedAt : String
  verificationKey : String
  requestFingerprint : String
  deriving DecidableEq, Repr

/-- What the key of a verification request covers. -/
def verificationKeyPayload (receiptFingerprint listingId actionType : String) : Json :=
  .obj [("execution_receipt_fingerprint", .str receiptFingerprint),
      ("listing_id", .str listingId), ("action_type", .str actionType)]

/-- What the fingerprint of a verification request covers. -/
def VerificationRequest.payload (request : VerificationRequest) : Json :=
  .obj [("verification_id", .str request.verificationId),
      ("receipt_fingerprint", .str request.receiptFingerprint),
      ("listing_id", .str request.listingId), ("action_type", .str request.actionType),
      ("requested_at", .str request.requestedAt),
      ("verification_key", .str request.verificationKey)]

/-- `make_verification_request`. -/
def makeVerificationRequest (fromisoformat : FromIsoformat) (verificationId : String)
    (receipt : ExecutionReceipt) (listingId actionType requestedAt : String) :
    Except String VerificationRequest := do
  require (Text.isBlank verificationId = false) "verification_id required"
  validateFp receipt.receiptFingerprint "execution receipt fingerprint"
  let _ ← parseTs fromisoformat requestedAt "verification requested_at"
  let verificationKey ← hash (verificationKeyPayload
    receipt.receiptFingerprint listingId actionType)
  let request : VerificationRequest :=
    { verificationId
      receiptFingerprint := receipt.receiptFingerprint
      listingId, actionType, requestedAt, verificationKey
      requestFingerprint := "" }
  let fingerprint ← hash request.payload
  return { request with requestFingerprint := fingerprint }

structure ObservedStateEvidence where
  observationId : String
  listingId : String
  actionType : String
  observedAt : String
  stateCode : String
  sourceFingerprint : String
  independent : Bool
  observationFingerprint : String
  deriving DecidableEq, Repr

/-- What the fingerprint of an observation covers. -/
def ObservedStateEvidence.payload (observation : ObservedStateEvidence) : Json :=
  .obj [("observation_id", .str observation.observationId),
      ("listing_id", .str observation.listingId),
      ("action_type", .str observation.actionType),
      ("observed_at", .str observation.observedAt),
      ("state_code", .str observation.stateCode),
      ("source_fingerprint", .str observation.sourceFingerprint),
      ("independent", .bool true)]

/-- `make_observed_state_evidence`; the fingerprint of the argument is not
read. -/
def makeObservedStateEvidence (fromisoformat : FromIsoformat) (given : ObservedStateEvidence) :
    Except String ObservedStateEvidence := do
  require (Text.isBlank given.observationId = false ∧ Text.isBlank given.stateCode = false)
    "observation_id and state_code required"
  let _ ← parseTs fromisoformat given.observedAt "observed_at"
  validateFp given.sourceFingerprint "observation source_fingerprint"
  require (given.independent = true)
    "verification observation must be independently sourced"
  let fingerprint ← hash given.payload
  return { given with observationFingerprint := fingerprint }

/-! ## Verification -/

inductive VerificationState where
  | verified
  | mismatch
  | outcomeUnknown
  | notApplicable
  deriving DecidableEq, Repr

def VerificationState.code : VerificationState → String
  | verified => "VERIFIED"
  | mismatch => "MISMATCH"
  | outcomeUnknown => "OUTCOME_UNKNOWN"
  | notApplicable => "NOT_APPLICABLE"

structure VerificationReceipt where
  verificationId : String
  executionReceiptFingerprint : String
  observationFingerprint : Option String
  verificationState : VerificationState
  expectedOutcome : String
  observedStateCode : Option String
  reasonCodes : List String
  verifiedAt : String
  immutable : Bool
  verificationFingerprint : String
  deriving DecidableEq, Repr

/-- What the fingerprint of a verification covers. -/
def VerificationReceipt.payload (verification : VerificationReceipt) : Json :=
  .obj [("verification_id", .str verification.verificationId),
      ("execution_receipt_fingerprint", .str verification.executionReceiptFingerprint),
      ("observation_fingerprint", .ofOptional verification.observationFingerprint),
      ("verification_state", .str verification.verificationState.code),
      ("expected_outcome", .str verification.expectedOutcome),
      ("observed_state_code", .ofOptional verification.observedStateCode),
      ("reason_codes", texts verification.reasonCodes),
      ("verified_at", .str verification.verifiedAt),
      ("immutable", .bool verification.immutable)]

/-- What is read of a verification registry. -/
structure VerificationRegistry where
  states : List String

/-- `m12-003-verification-reconciliation-v1.0.yaml`. -/
def verificationRegistry : VerificationRegistry where
  states := ["VERIFIED", "MISMATCH", "OUTCOME_UNKNOWN", "NOT_APPLICABLE"]

/-- The arguments of `verify_execution`. -/
structure VerificationCall where
  request : VerificationRequest
  receipt : ExecutionReceipt
  observation : Option ObservedStateEvidence
  expectedStateCode : Option String
  verifiedAt : String
  priorVerifications : List VerificationReceipt

/-- What a verification finds. -/
structure Finding where
  state : VerificationState
  observedStateCode : Option String
  reason : String
  deriving DecidableEq, Repr

/-- What an observed state code says of an expected one. -/
def compareStates (observed : String) : Option String → Finding
  | none => ⟨.outcomeUnknown, some observed, "EXPECTED_STATE_UNSPECIFIED"⟩
  | some expected =>
      if observed = expected then
        ⟨.verified, some observed, "OBSERVED_STATE_MATCH"⟩
      else ⟨.mismatch, some observed, "OBSERVED_STATE_MISMATCH"⟩

/-- A receipt of an execution that was not attempted. -/
def ExecutionReceipt.suppressed (receipt : ExecutionReceipt) : Bool :=
  decide (receipt.outcome ∈
    ["DUPLICATE_SUPPRESSED", "BLOCKED_OUTCOME_UNKNOWN"]) && !receipt.sideEffectAttempted

/-- The finding of a verification. -/
def VerificationCall.finding (call : VerificationCall) : Except String Finding :=
  if call.receipt.suppressed = true then
    .ok ⟨if call.receipt.outcome = "DUPLICATE_SUPPRESSED" then .notApplicable
      else .outcomeUnknown, none, call.receipt.outcome⟩
  else if call.receipt.outcome = "OUTCOME_UNKNOWN" then
    .ok ⟨.outcomeUnknown, none, "EXECUTION_OUTCOME_UNKNOWN"⟩
  else
    match call.observation with
    | none => .ok ⟨.outcomeUnknown, none, "OBSERVED_STATE_MISSING"⟩
    | some observation => do
        require (observation.listingId = call.request.listingId ∧
          observation.actionType = call.request.actionType)
          "observation scope mismatch"
        require (observation.independent = true)
          "observation is not independent"
        return compareStates observation.stateCode call.expectedStateCode

/-- The verification of a finding, before it has a fingerprint. -/
def VerificationCall.draft (call : VerificationCall) (finding : Finding) :
    VerificationReceipt where
  verificationId := call.request.verificationId
  executionReceiptFingerprint := call.receipt.receiptFingerprint
  observationFingerprint := call.observation.map ObservedStateEvidence.observationFingerprint
  verificationState := finding.state
  expectedOutcome := call.receipt.outcome
  observedStateCode := finding.observedStateCode
  reasonCodes := [finding.reason]
  verifiedAt := call.verifiedAt
  immutable := true
  verificationFingerprint := ""

/-- `verify_execution`. -/
def verifyExecution (fromisoformat : FromIsoformat) (registry : VerificationRegistry)
    (call : VerificationCall) : Except String VerificationReceipt := do
  let _ ← parseTs fromisoformat call.verifiedAt "verified_at"
  require (call.request.receiptFingerprint = call.receipt.receiptFingerprint)
    "verification request receipt binding mismatch"
  require (∀ prior ∈ call.priorVerifications,
    prior.executionReceiptFingerprint ≠ call.receipt.receiptFingerprint)
    "execution receipt already independently verified"
  let finding ← call.finding
  require (finding.state.code ∈ registry.states)
    "unsupported verification state"
  let verification := call.draft finding
  let fingerprint ← hash verification.payload
  return { verification with verificationFingerprint := fingerprint }

/-! ## Reconciliation -/

structure ReconciliationCase where
  reconciliationCaseId : String
  executionReceiptFingerprint : String
  verificationFingerprint : String
  state : String
  reasonCodes : List String
  correctiveActionEligible : Bool
  rollbackEligibility : String
  openedAt : String
  caseFingerprint : String
  deriving DecidableEq, Repr

/-- What the fingerprint of a case covers. -/
def ReconciliationCase.payload (case_ : ReconciliationCase) : Json :=
  .obj [("reconciliation_case_id", .str case_.reconciliationCaseId),
      ("execution_receipt_fingerprint", .str case_.executionReceiptFingerprint),
      ("verification_fingerprint", .str case_.verificationFingerprint),
      ("state", .str case_.state), ("reason_codes", texts case_.reasonCodes),
      ("corrective_action_eligible", .bool case_.correctiveActionEligible),
      ("rollback_eligibility", .str case_.rollbackEligibility),
      ("opened_at", .str case_.openedAt)]

/-- The case of a verification, before it has a fingerprint. -/
def draftCase (reconciliationCaseId : String) (receipt : ExecutionReceipt)
    (verification : VerificationReceipt) (openedAt : String) :
    ReconciliationCase where
  reconciliationCaseId := reconciliationCaseId
  executionReceiptFingerprint := receipt.receiptFingerprint
  verificationFingerprint := verification.verificationFingerprint
  state := "OPEN"
  reasonCodes := sortedSet verification.reasonCodes
  correctiveActionEligible := true
  rollbackEligibility :=
    if verification.verificationState = .mismatch ∧
        receipt.sideEffectAttempted = true then "ELIGIBLE"
    else "NOT_ELIGIBLE"
  openedAt := openedAt
  caseFingerprint := ""

/-- `build_reconciliation_case`. -/
def buildReconciliationCase (fromisoformat : FromIsoformat) (reconciliationCaseId : String)
    (receipt : ExecutionReceipt) (verification : VerificationReceipt)
    (openedAt : String) : Except String (Option ReconciliationCase) := do
  let _ ← parseTs fromisoformat openedAt "reconciliation opened_at"
  require (verification.executionReceiptFingerprint =
    receipt.receiptFingerprint) "verification/receipt binding mismatch"
  if verification.verificationState ∈
      [VerificationState.mismatch, .outcomeUnknown] then
    let case_ := draftCase reconciliationCaseId receipt verification openedAt
    let fingerprint ← hash case_.payload
    return some { case_ with caseFingerprint := fingerprint }
  else return none

end SanTanHeights.Listing
