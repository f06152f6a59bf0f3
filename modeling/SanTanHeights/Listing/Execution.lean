import SanTanHeights.Community.Snapshots
import SanTanHeights.Shared.Dumps

/-!
# Authorized execution of listing actions

A proposal is authorized by a human approval and an execution authority.  Its
execution calls an adapter unless a receipt with the same idempotency key is
among the prior ones.
-/

namespace SanTanHeights.Listing

open Foundation Foundation.Json Foundation.Sorting Foundation.Outcome Shared
open Community (FromIsoformat texts)

/-! ## Texts -/

/-- `_hash`. -/
def hash (value : Json) : Except String String :=
  sha256Dumps value

/-- `_validate_fp`. -/
def validateFp (value label : String) : Except String Unit :=
  require (Sha256.isHex64 value = true) (label ++ " must be lowercase sha256")

/-- `_parse_ts`. -/
def parseTs (fromisoformat : FromIsoformat) (value label : String) :
    Except String Int := do
  let parsed ← orRaise (fromisoformat value) (label ++ " must be ISO-8601")
  orRaise parsed (label ++ " must include timezone")

@[simp] theorem parseTs_eq_ok
    {fromisoformat : FromIsoformat} {value label : String} {instant : Int} :
    parseTs fromisoformat value label = .ok instant ↔
      fromisoformat value = some (some instant) := by
  rw [parseTs, bind_eq_ok]
  simp

/-- `tuple(sorted(set(values)))`. -/
def sortedSet (values : List String) : List String :=
  sortedBy id values.dedup

/-! ## Records -/

/-- What is read of a proposal. -/
structure GovernedActionProposal where
  proposalId : String
  subjectPropertyId : String
  listingId : String
  actionType : String
  proposalStatus : String
  approvalState : String
  authorizationState : String
  executionState : String
  publicEligible : Bool
  externalActionCapability : String
  proposalFingerprint : String
  deriving DecidableEq, Repr

/-- What is read of a human approval. -/
structure HumanApproval where
  approvalId : String
  proposalFingerprint : String
  decision : String
  rationaleFingerprint : String
  approvalFingerprint : String
  deriving DecidableEq, Repr

/-- What is read of an execution authority. -/
structure ExecutionAuthority where
  authorityId : String
  listingId : String
  allowedActionTypes : List String
  status : String
  validFrom : String
  validUntil : String
  sourceFingerprint : String
  authorityFingerprint : String
  deriving DecidableEq, Repr

structure AuthorizedAction where
  authorizedActionId : String
  proposalId : String
  proposalFingerprint : String
  listingId : String
  subjectPropertyId : String
  actionType : String
  approvalId : String
  approvalFingerprint : String
  authorityId : String
  authorityFingerprint : String
  authorizationState : String
  executionState : String
  authorizedAt : String
  lineageFingerprints : List String
  publicEligible : Bool
  authorizedActionFingerprint : String
  deriving DecidableEq, Repr

/-- What the fingerprint of an authorized action covers. -/
def AuthorizedAction.payload (action : AuthorizedAction) : Json :=
  .obj [("authorized_action_id", .str action.authorizedActionId),
      ("proposal_id", .str action.proposalId),
      ("proposal_fingerprint", .str action.proposalFingerprint),
      ("listing_id", .str action.listingId),
      ("subject_property_id", .str action.subjectPropertyId),
      ("action_type", .str action.actionType), ("approval_id", .str action.approvalId),
      ("approval_fingerprint", .str action.approvalFingerprint),
      ("authority_id", .str action.authorityId),
      ("authority_fingerprint", .str action.authorityFingerprint),
      ("authorization_state", .str action.authorizationState),
      ("execution_state", .str action.executionState),
      ("authorized_at", .str action.authorizedAt),
      ("lineage_fingerprints", texts action.lineageFingerprints),
      ("public_eligible", .bool action.publicEligible)]

structure ExecutionRequest where
  requestId : String
  authorizedActionFingerprint : String
  proposalFingerprint : String
  listingId : String
  actionType : String
  adapterId : String
  requestedAt : String
  idempotencyKey : String
  requestFingerprint : String
  deriving DecidableEq, Repr

/-- What the fingerprint of a request covers. -/
def ExecutionRequest.payload (request : ExecutionRequest) : Json :=
  .obj [("request_id", .str request.requestId),
      ("authorized_action_fingerprint", .str request.authorizedActionFingerprint),
      ("proposal_fingerprint", .str request.proposalFingerprint),
      ("listing_id", .str request.listingId), ("action_type", .str request.actionType),
      ("adapter_id", .str request.adapterId), ("requested_at", .str request.requestedAt),
      ("idempotency_key", .str request.idempotencyKey)]

structure AdapterResponse where
  adapterId : String
  requestFingerprint : String
  outcome : String
  externalReceiptId : Option String
  responseFingerprint : String
  deriving DecidableEq, Repr

structure ExecutionReceipt where
  receiptId : String
  requestId : String
  requestFingerprint : String
  idempotencyKey : String
  proposalFingerprint : String
  authorizedActionFingerprint : String
  approvalFingerprint : String
  authorityFingerprint : String
  adapterId : String
  adapterResponseFingerprint : Option String
  outcome : String
  externalReceiptId : Option String
  sideEffectAttempted : Bool
  duplicateSuppressed : Bool
  outcomeUnknown : Bool
  recordedAt : String
  lineageFingerprints : List String
  immutable : Bool
  publicEligible : Bool
  receiptFingerprint : String
  deriving DecidableEq, Repr

/-- What the fingerprint of a receipt covers. -/
def ExecutionReceipt.payload (receipt : ExecutionReceipt) : Json :=
  .obj [("receipt_id", .str receipt.receiptId), ("request_id", .str receipt.requestId),
      ("request_fingerprint", .str receipt.requestFingerprint),
      ("idempotency_key", .str receipt.idempotencyKey),
      ("proposal_fingerprint", .str receipt.proposalFingerprint),
      ("authorized_action_fingerprint", .str receipt.authorizedActionFingerprint),
      ("approval_fingerprint", .str receipt.approvalFingerprint),
      ("authority_fingerprint", .str receipt.authorityFingerprint),
      ("adapter_id", .str receipt.adapterId),
      ("adapter_response_fingerprint", .ofOptional receipt.adapterResponseFingerprint),
      ("outcome", .str receipt.outcome),
      ("external_receipt_id", .ofOptional receipt.externalReceiptId),
      ("side_effect_attempted", .bool receipt.sideEffectAttempted),
      ("duplicate_suppressed", .bool receipt.duplicateSuppressed),
      ("outcome_unknown", .bool receipt.outcomeUnknown),
      ("recorded_at", .str receipt.recordedAt),
      ("lineage_fingerprints", texts receipt.lineageFingerprints),
      ("immutable", .bool receipt.immutable),
      ("public_eligible", .bool receipt.publicEligible)]

/-- What is read of an execution registry. -/
structure ExecutionRegistry where
  requiredForAuthorization : String
  requiredStatus : String
  authorizedState : String
  readyState : String

/-- `m12-002-authorized-execution-v1.0.yaml`. -/
def executionRegistry : ExecutionRegistry where
  requiredForAuthorization := "APPROVED"
  requiredStatus := "VALID"
  authorizedState := "AUTHORIZED"
  readyState := "READY_FOR_EXECUTION"

/-! ## Authorization -/

/-- `_validate_proposal`. -/
def validateProposal (proposal : GovernedActionProposal) :
    Except String Unit := do
  validateFp proposal.proposalFingerprint "proposal fingerprint"
  require (proposal.proposalStatus = "PROPOSED")
    "M12-002 requires current PROPOSED action"
  require (proposal.approvalState = "NOT_APPROVED" ∧
      proposal.authorizationState = "NOT_AUTHORIZED")
    "M12-001 proposal authority state is not pristine"
  require (proposal.executionState = "NOT_EXECUTABLE")
    "M12-001 proposal execution state is not pristine"
  require (proposal.publicEligible = false ∧ proposal.externalActionCapability = "NONE")
    "M12-001 proposal boundary violated"

/-- `_validate_authority`. -/
def validateAuthority (fromisoformat : FromIsoformat) (registry : ExecutionRegistry)
    (proposal : GovernedActionProposal) (approval : HumanApproval)
    (authority : ExecutionAuthority) (at_ : String) :
    Except String Int := do
  let when ← parseTs fromisoformat at_ "authority validation timestamp"
  require (approval.proposalFingerprint = proposal.proposalFingerprint)
    "approval is not bound to exact proposal"
  require (approval.decision = registry.requiredForAuthorization)
    "explicit APPROVED human approval required"
  require (authority.status = registry.requiredStatus)
    "execution authority is not VALID"
  require (authority.listingId = proposal.listingId)
    "execution authority listing scope mismatch"
  require (proposal.actionType ∈ authority.allowedActionTypes)
    "execution authority action scope mismatch"
  let start ← parseTs fromisoformat authority.validFrom "authority valid_from"
  let until_ ← parseTs fromisoformat authority.validUntil "authority valid_until"
  require (start ≤ when ∧ when ≤ until_)
    "execution authority is not valid at requested time"
  return when

/-- The action that an approval and an authority authorize, before it has a
fingerprint. -/
def draftAction (registry : ExecutionRegistry) (authorizedActionId : String)
    (proposal : GovernedActionProposal) (approval : HumanApproval)
    (authority : ExecutionAuthority) (authorizedAt : String) :
    AuthorizedAction where
  authorizedActionId := authorizedActionId
  proposalId := proposal.proposalId
  proposalFingerprint := proposal.proposalFingerprint
  listingId := proposal.listingId
  subjectPropertyId := proposal.subjectPropertyId
  actionType := proposal.actionType
  approvalId := approval.approvalId
  approvalFingerprint := approval.approvalFingerprint
  authorityId := authority.authorityId
  authorityFingerprint := authority.authorityFingerprint
  authorizationState := registry.authorizedState
  executionState := registry.readyState
  authorizedAt := authorizedAt
  lineageFingerprints := sortedSet
    [proposal.proposalFingerprint, approval.approvalFingerprint,
      approval.rationaleFingerprint, authority.authorityFingerprint,
      authority.sourceFingerprint]
  publicEligible := false
  authorizedActionFingerprint := ""

/-- `authorize_action`. -/
def authorizeAction (fromisoformat : FromIsoformat) (registry : ExecutionRegistry)
    (authorizedActionId : String) (proposal : GovernedActionProposal)
    (approval : HumanApproval) (authority : ExecutionAuthority)
    (authorizedAt : String) : Except String AuthorizedAction := do
  require (Text.isBlank authorizedActionId = false)
    "authorized_action_id required"
  validateProposal proposal
  let _ ← validateAuthority fromisoformat registry proposal approval authority
    authorizedAt
  let action := draftAction registry authorizedActionId proposal approval
    authority authorizedAt
  let fingerprint ← hash action.payload
  return { action with authorizedActionFingerprint := fingerprint }

/-! ## Requests -/

/-- What the idempotency key of a request covers. -/
def keyPayload
    (proposalFingerprint approvalFingerprint authorityFingerprint actionType
      listingId adapterId : String) : Json :=
  .obj [("proposal_fingerprint", .str proposalFingerprint),
      ("approval_fingerprint", .str approvalFingerprint),
      ("authority_fingerprint", .str authorityFingerprint),
      ("action_type", .str actionType), ("listing_id", .str listingId),
      ("adapter_id", .str adapterId)]

/-- `build_execution_request`. -/
def buildExecutionRequest (fromisoformat : FromIsoformat) (requestId : String)
    (action : AuthorizedAction) (adapterId requestedAt : String) :
    Except String ExecutionRequest := do
  require (Text.isBlank requestId = false ∧ Text.isBlank adapterId = false)
    "request_id and adapter_id required"
  let _ ← parseTs fromisoformat requestedAt "execution request requested_at"
  let idempotencyKey ← hash (keyPayload action.proposalFingerprint
    action.approvalFingerprint action.authorityFingerprint action.actionType
    action.listingId adapterId)
  let request : ExecutionRequest :=
    { requestId
      authorizedActionFingerprint := action.authorizedActionFingerprint
      proposalFingerprint := action.proposalFingerprint
      listingId := action.listingId
      actionType := action.actionType
      adapterId, requestedAt, idempotencyKey
      requestFingerprint := "" }
  let fingerprint ← hash request.payload
  return { request with requestFingerprint := fingerprint }

/-! ## Execution -/

/-- The arguments of `execute_authorized_action`; an adapter that raises gives
nothing. -/
structure ExecutionCall where
  receiptId : String
  proposal : GovernedActionProposal
  approval : HumanApproval
  authority : ExecutionAuthority
  authorizedAction : AuthorizedAction
  request : ExecutionRequest
  adapter : ExecutionRequest → Option AdapterResponse
  priorReceipts : List ExecutionReceipt
  executionAt : String

/-- What a receipt says of the outcome. -/
structure Verdict where
  outcome : String
  externalReceiptId : Option String
  adapterResponseFingerprint : Option String
  sideEffectAttempted : Bool
  duplicateSuppressed : Bool
  deriving DecidableEq, Repr

/-- The outcomes after which nothing is known of the side effect. -/
def unknownOutcomes : List String :=
  ["OUTCOME_UNKNOWN", "BLOCKED_OUTCOME_UNKNOWN"]

/-- An optional text that is neither missing nor empty. -/
def truthy (value : Option String) : Bool :=
  value.any fun text => text ≠ ""

/-- The receipt of a verdict, before it has a fingerprint. -/
def draftReceipt (call : ExecutionCall) (verdict : Verdict) : ExecutionReceipt where
  receiptId := call.receiptId
  requestId := call.request.requestId
  requestFingerprint := call.request.requestFingerprint
  idempotencyKey := call.request.idempotencyKey
  proposalFingerprint := call.authorizedAction.proposalFingerprint
  authorizedActionFingerprint := call.authorizedAction.authorizedActionFingerprint
  approvalFingerprint := call.approval.approvalFingerprint
  authorityFingerprint := call.authority.authorityFingerprint
  adapterId := call.request.adapterId
  adapterResponseFingerprint := verdict.adapterResponseFingerprint
  outcome := verdict.outcome
  externalReceiptId := verdict.externalReceiptId
  sideEffectAttempted := verdict.sideEffectAttempted
  duplicateSuppressed := verdict.duplicateSuppressed
  outcomeUnknown := decide (verdict.outcome ∈ unknownOutcomes)
  recordedAt := call.executionAt
  lineageFingerprints := sortedSet ([call.request.requestFingerprint,
      call.authorizedAction.authorizedActionFingerprint,
      call.authorizedAction.proposalFingerprint, call.approval.approvalFingerprint,
      call.authority.authorityFingerprint] ++
      (verdict.adapterResponseFingerprint.filter fun text => text ≠ "").toList)
  immutable := true
  publicEligible := false
  receiptFingerprint := ""

/-- `_receipt`. -/
def makeReceipt (call : ExecutionCall) (verdict : Verdict) :
    Except String ExecutionReceipt := do
  let receipt := draftReceipt call verdict
  let fingerprint ← hash receipt.payload
  return { receipt with receiptFingerprint := fingerprint }

namespace ExecutionCall

/-- The prior receipts under the key of the request. -/
def previous (call : ExecutionCall) : List ExecutionReceipt :=
  sortedBy (fun receipt => toLex (receipt.recordedAt, receipt.receiptId))
    (call.priorReceipts.filter fun receipt =>
      receipt.idempotencyKey = call.request.idempotencyKey)

/-- The verdict where there are previous receipts. -/
def suppressed (call : ExecutionCall) : Verdict where
  outcome :=
    if ∃ receipt ∈ call.previous, receipt.outcome ∈ unknownOutcomes then
      "BLOCKED_OUTCOME_UNKNOWN"
    else "DUPLICATE_SUPPRESSED"
  externalReceiptId := none
  adapterResponseFingerprint := none
  sideEffectAttempted := false
  duplicateSuppressed := true

/-- The verdict once the adapter is called. -/
def attempted (call : ExecutionCall) : Verdict :=
  match call.adapter call.request with
  | none =>
      { outcome := "OUTCOME_UNKNOWN"
        externalReceiptId := none
        adapterResponseFingerprint := none
        sideEffectAttempted := true
        duplicateSuppressed := false }
  | some response =>
      if response.adapterId ≠ call.request.adapterId ∨
          response.requestFingerprint ≠ call.request.requestFingerprint then
        { outcome := "OUTCOME_UNKNOWN"
          externalReceiptId := none
          adapterResponseFingerprint := some response.responseFingerprint
          sideEffectAttempted := true
          duplicateSuppressed := false }
      else
        let outcome :=
          if response.outcome = "SUCCEEDED" ∧
              truthy response.externalReceiptId = false then
            "OUTCOME_UNKNOWN"
          else response.outcome
        { outcome
          externalReceiptId :=
            if outcome = "OUTCOME_UNKNOWN" then none
            else response.externalReceiptId
          adapterResponseFingerprint := some response.responseFingerprint
          sideEffectAttempted := true
          duplicateSuppressed := false }

end ExecutionCall

/-- What an execution leaves: its receipt, and whether it called the
adapter. -/
structure Execution where
  invoked : Bool
  receipt : ExecutionReceipt
  deriving DecidableEq, Repr

/-- The bindings between the arguments of an execution. -/
def checkBindings (call : ExecutionCall) : Except String Unit := do
  require (call.authorizedAction.proposalFingerprint = call.proposal.proposalFingerprint)
    "authorized action proposal binding mismatch"
  require (call.authorizedAction.approvalFingerprint = call.approval.approvalFingerprint)
    "authorized action approval binding mismatch"
  require (call.authorizedAction.authorityFingerprint = call.authority.authorityFingerprint)
    "authorized action authority binding mismatch"
  require (call.request.authorizedActionFingerprint =
      call.authorizedAction.authorizedActionFingerprint)
    "request authorized-action binding mismatch"
  require (call.request.proposalFingerprint = call.proposal.proposalFingerprint)
    "request proposal binding mismatch"

/-- `execute_authorized_action`. -/
def executeAuthorizedAction (fromisoformat : FromIsoformat) (registry : ExecutionRegistry)
    (call : ExecutionCall) : Except String Execution := do
  require (Text.isBlank call.receiptId = false) "receipt_id required"
  validateProposal call.proposal
  checkBindings call
  let _ ← validateAuthority fromisoformat registry call.proposal call.approval
    call.authority call.executionAt
  if call.previous = [] then
    let receipt ← makeReceipt call call.attempted
    return { invoked := true, receipt }
  else
    let receipt ← makeReceipt call call.suppressed
    return { invoked := false, receipt }

end SanTanHeights.Listing
