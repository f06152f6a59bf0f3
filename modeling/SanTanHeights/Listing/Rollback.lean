import SanTanHeights.Listing.Observation

/-!
# Rollback

A reconciliation case that is eligible may be rolled back under an approval of
the case and an authority for its listing.  The execution of a rollback calls
its adapter unless a receipt with the same idempotency key is among the prior
ones.
-/

namespace SanTanHeights.Listing

open Foundation Foundation.Json Foundation.Outcome
open Community (FromIsoformat texts)

/-! ## Approvals and authorities -/

structure RollbackApproval where
  rollbackApprovalId : String
  reconciliationCaseFingerprint : String
  actorId : String
  decision : String
  approvedAt : String
  rationaleFingerprint : String
  approvalFingerprint : String
  deriving DecidableEq, Repr

/-- What the fingerprint of a rollback approval covers. -/
def RollbackApproval.payload (approval : RollbackApproval) : Json :=
  .obj [("rollback_approval_id", .str approval.rollbackApprovalId),
      ("reconciliation_case_fingerprint", .str approval.reconciliationCaseFingerprint),
      ("actor_id", .str approval.actorId), ("decision", .str approval.decision),
      ("approved_at", .str approval.approvedAt),
      ("rationale_fingerprint", .str approval.rationaleFingerprint)]

/-- `make_rollback_approval`; the fingerprint of the argument is not read. -/
def makeRollbackApproval (fromisoformat : FromIsoformat) (given : RollbackApproval) :
    Except String RollbackApproval := do
  require (given.decision ∈ ["APPROVED", "REJECTED"])
    "unsupported rollback approval decision"
  validateFp given.reconciliationCaseFingerprint "reconciliation case fingerprint"
  validateFp given.rationaleFingerprint "rollback rationale_fingerprint"
  let _ ← parseTs fromisoformat given.approvedAt "rollback approved_at"
  let fingerprint ← hash given.payload
  return { given with approvalFingerprint := fingerprint }

structure RollbackAuthority where
  rollbackAuthorityId : String
  principalId : String
  listingId : String
  allowedOriginalActionTypes : List String
  status : String
  validFrom : String
  validUntil : String
  sourceFingerprint : String
  authorityFingerprint : String
  deriving DecidableEq, Repr

/-- What the fingerprint of a rollback authority covers. -/
def RollbackAuthority.payload (authority : RollbackAuthority) : Json :=
  .obj [("rollback_authority_id", .str authority.rollbackAuthorityId),
      ("principal_id", .str authority.principalId),
      ("listing_id", .str authority.listingId),
      ("allowed_original_action_types", texts authority.allowedOriginalActionTypes),
      ("status", .str authority.status), ("valid_from", .str authority.validFrom),
      ("valid_until", .str authority.validUntil),
      ("source_fingerprint", .str authority.sourceFingerprint)]

/-- `make_rollback_authority`; the fingerprint of the argument is not read. -/
def makeRollbackAuthority (fromisoformat : FromIsoformat) (given : RollbackAuthority) :
    Except String RollbackAuthority := do
  let start ← parseTs fromisoformat given.validFrom "rollback authority valid_from"
  let end_ ← parseTs fromisoformat given.validUntil "rollback authority valid_until"
  require (start < end_)
    "rollback authority valid_until must be after valid_from"
  validateFp given.sourceFingerprint "rollback authority source_fingerprint"
  let actions := sortedSet given.allowedOriginalActionTypes
  require (actions ≠ []) "rollback authority action scope required"
  let authority := { given with allowedOriginalActionTypes := actions }
  let fingerprint ← hash authority.payload
  return { authority with authorityFingerprint := fingerprint }

/-! ## Requests -/

structure RollbackRequest where
  rollbackRequestId : String
  reconciliationCaseFingerprint : String
  originalProposalFingerprint : String
  originalAuthorizedActionFingerprint : String
  originalExecutionReceiptFingerprint : String
  verificationFingerprint : String
  rollbackApprovalFingerprint : String
  rollbackAuthorityFingerprint : String
  listingId : String
  originalActionType : String
  adapterId : String
  requestedAt : String
  idempotencyKey : String
  requestFingerprint : String
  deriving DecidableEq, Repr

/-- What the fingerprint of a rollback request covers. -/
def RollbackRequest.payload (request : RollbackRequest) : Json :=
  .obj [("rollback_request_id", .str request.rollbackRequestId),
      ("reconciliation_case_fingerprint", .str request.reconciliationCaseFingerprint),
      ("original_proposal_fingerprint", .str request.originalProposalFingerprint),
      ("original_authorized_action_fingerprint", .str request.originalAuthorizedActionFingerprint),
      ("original_execution_receipt_fingerprint", .str request.originalExecutionReceiptFingerprint),
      ("verification_fingerprint", .str request.verificationFingerprint),
      ("rollback_approval_fingerprint", .str request.rollbackApprovalFingerprint),
      ("rollback_authority_fingerprint", .str request.rollbackAuthorityFingerprint),
      ("listing_id", .str request.listingId),
      ("original_action_type", .str request.originalActionType),
      ("adapter_id", .str request.adapterId), ("requested_at", .str request.requestedAt),
      ("idempotency_key", .str request.idempotencyKey)]

/-- The arguments of `build_rollback_request`. -/
structure RollbackOrder where
  rollbackRequestId : String
  reconciliationCase : ReconciliationCase
  originalAction : AuthorizedAction
  originalReceipt : ExecutionReceipt
  verification : VerificationReceipt
  rollbackApproval : RollbackApproval
  rollbackAuthority : RollbackAuthority
  adapterId : String
  requestedAt : String

namespace RollbackOrder

/-- What the idempotency key of a rollback covers. -/
def keyPayload (order : RollbackOrder) : Json :=
  .obj [("original_proposal_fingerprint", .str order.originalAction.proposalFingerprint),
      ("original_authorized_action_fingerprint",
        .str order.originalAction.authorizedActionFingerprint),
      ("original_execution_receipt_fingerprint", .str order.originalReceipt.receiptFingerprint),
      ("verification_fingerprint", .str order.verification.verificationFingerprint),
      ("reconciliation_case_fingerprint", .str order.reconciliationCase.caseFingerprint),
      ("rollback_approval_fingerprint", .str order.rollbackApproval.approvalFingerprint),
      ("rollback_authority_fingerprint", .str order.rollbackAuthority.authorityFingerprint),
      ("adapter_id", .str order.adapterId)]

/-- The request of an order under a key, before it has a fingerprint. -/
def draft (order : RollbackOrder) (idempotencyKey : String) : RollbackRequest where
  rollbackRequestId := order.rollbackRequestId
  reconciliationCaseFingerprint := order.reconciliationCase.caseFingerprint
  originalProposalFingerprint := order.originalAction.proposalFingerprint
  originalAuthorizedActionFingerprint := order.originalAction.authorizedActionFingerprint
  originalExecutionReceiptFingerprint := order.originalReceipt.receiptFingerprint
  verificationFingerprint := order.verification.verificationFingerprint
  rollbackApprovalFingerprint := order.rollbackApproval.approvalFingerprint
  rollbackAuthorityFingerprint := order.rollbackAuthority.authorityFingerprint
  listingId := order.originalAction.listingId
  originalActionType := order.originalAction.actionType
  adapterId := order.adapterId
  requestedAt := order.requestedAt
  idempotencyKey := idempotencyKey
  requestFingerprint := ""

end RollbackOrder

/-- `build_rollback_request`. -/
def buildRollbackRequest (fromisoformat : FromIsoformat) (order : RollbackOrder) :
    Except String RollbackRequest := do
  require (order.reconciliationCase.rollbackEligibility = "ELIGIBLE")
    "reconciliation case is not rollback eligible"
  require (order.reconciliationCase.state = "OPEN")
    "reconciliation case is not open"
  require (order.reconciliationCase.executionReceiptFingerprint =
    order.originalReceipt.receiptFingerprint)
    "rollback original receipt lineage mismatch"
  require (order.reconciliationCase.verificationFingerprint =
    order.verification.verificationFingerprint)
    "rollback verification lineage mismatch"
  require (order.rollbackApproval.reconciliationCaseFingerprint =
    order.reconciliationCase.caseFingerprint)
    "rollback approval case binding mismatch"
  require (order.rollbackApproval.decision = "APPROVED")
    "explicit rollback approval required"
  require (order.rollbackAuthority.status = "VALID")
    "rollback authority is not VALID"
  require (order.rollbackAuthority.listingId = order.originalAction.listingId)
    "rollback authority listing scope mismatch"
  require (order.originalAction.actionType ∈
    order.rollbackAuthority.allowedOriginalActionTypes)
    "rollback authority action scope mismatch"
  let when ← parseTs fromisoformat order.requestedAt "rollback requested_at"
  let start ← parseTs fromisoformat order.rollbackAuthority.validFrom
    "rollback authority valid_from"
  let end_ ← parseTs fromisoformat order.rollbackAuthority.validUntil
    "rollback authority valid_until"
  require (start ≤ when ∧ when ≤ end_)
    "rollback authority is not valid at request time"
  let idempotencyKey ← hash order.keyPayload
  let request := order.draft idempotencyKey
  let fingerprint ← hash request.payload
  return { request with requestFingerprint := fingerprint }

/-! ## Execution -/

structure RollbackAdapterResponse where
  adapterId : String
  requestFingerprint : String
  outcome : String
  externalReceiptId : Option String
  responseFingerprint : String
  deriving DecidableEq, Repr

structure RollbackReceipt where
  rollbackReceiptId : String
  rollbackRequestFingerprint : String
  idempotencyKey : String
  reconciliationCaseFingerprint : String
  originalExecutionReceiptFingerprint : String
  verificationFingerprint : String
  rollbackApprovalFingerprint : String
  rollbackAuthorityFingerprint : String
  outcome : String
  externalReceiptId : Option String
  sideEffectAttempted : Bool
  duplicateSuppressed : Bool
  outcomeUnknown : Bool
  recordedAt : String
  immutable : Bool
  receiptFingerprint : String
  deriving DecidableEq, Repr

/-- What the fingerprint of a rollback receipt covers. -/
def RollbackReceipt.payload (receipt : RollbackReceipt) : Json :=
  .obj [("rollback_receipt_id", .str receipt.rollbackReceiptId),
      ("rollback_request_fingerprint", .str receipt.rollbackRequestFingerprint),
      ("idempotency_key", .str receipt.idempotencyKey),
      ("reconciliation_case_fingerprint", .str receipt.reconciliationCaseFingerprint),
      ("original_execution_receipt_fingerprint", .str receipt.originalExecutionReceiptFingerprint),
      ("verification_fingerprint", .str receipt.verificationFingerprint),
      ("rollback_approval_fingerprint", .str receipt.rollbackApprovalFingerprint),
      ("rollback_authority_fingerprint", .str receipt.rollbackAuthorityFingerprint),
      ("outcome", .str receipt.outcome),
      ("external_receipt_id", .ofOptional receipt.externalReceiptId),
      ("side_effect_attempted", .bool receipt.sideEffectAttempted),
      ("duplicate_suppressed", .bool receipt.duplicateSuppressed),
      ("outcome_unknown", .bool receipt.outcomeUnknown),
      ("recorded_at", .str receipt.recordedAt), ("immutable", .bool receipt.immutable)]

/-- What a rollback receipt says of the outcome. -/
structure RollbackVerdict where
  outcome : String
  externalReceiptId : Option String
  sideEffectAttempted : Bool
  duplicateSuppressed : Bool
  deriving DecidableEq, Repr

/-- The arguments of `execute_rollback`; an adapter that raises gives
nothing. -/
structure RollbackCall where
  rollbackReceiptId : String
  request : RollbackRequest
  reconciliationCase : ReconciliationCase
  rollbackApproval : RollbackApproval
  rollbackAuthority : RollbackAuthority
  adapter : RollbackRequest → Option RollbackAdapterResponse
  priorReceipts : List RollbackReceipt
  executionAt : String

namespace RollbackCall

/-- The receipt of a verdict, before it has a fingerprint. -/
def draft (call : RollbackCall) (verdict : RollbackVerdict) : RollbackReceipt where
  rollbackReceiptId := call.rollbackReceiptId
  rollbackRequestFingerprint := call.request.requestFingerprint
  idempotencyKey := call.request.idempotencyKey
  reconciliationCaseFingerprint := call.request.reconciliationCaseFingerprint
  originalExecutionReceiptFingerprint := call.request.originalExecutionReceiptFingerprint
  verificationFingerprint := call.request.verificationFingerprint
  rollbackApprovalFingerprint := call.request.rollbackApprovalFingerprint
  rollbackAuthorityFingerprint := call.request.rollbackAuthorityFingerprint
  outcome := verdict.outcome
  externalReceiptId := verdict.externalReceiptId
  sideEffectAttempted := verdict.sideEffectAttempted
  duplicateSuppressed := verdict.duplicateSuppressed
  outcomeUnknown := decide (verdict.outcome ∈ unknownOutcomes)
  recordedAt := call.executionAt
  immutable := true
  receiptFingerprint := ""

/-- The prior receipts under the key of the request. -/
def previous (call : RollbackCall) : List RollbackReceipt :=
  call.priorReceipts.filter fun receipt =>
    receipt.idempotencyKey = call.request.idempotencyKey

/-- The verdict where there are previous receipts. -/
def suppressed (call : RollbackCall) : RollbackVerdict where
  outcome :=
    if ∃ receipt ∈ call.previous, receipt.outcome = "OUTCOME_UNKNOWN" then
      "BLOCKED_OUTCOME_UNKNOWN"
    else "DUPLICATE_SUPPRESSED"
  externalReceiptId := none
  sideEffectAttempted := false
  duplicateSuppressed := true

/-- The verdict once the adapter is called. -/
def attempted (call : RollbackCall) : RollbackVerdict :=
  match call.adapter call.request with
  | none => ⟨"OUTCOME_UNKNOWN", none, true, false⟩
  | some response =>
      if response.adapterId ≠ call.request.adapterId ∨
          response.requestFingerprint ≠ call.request.requestFingerprint then
        ⟨"OUTCOME_UNKNOWN", none, true, false⟩
      else if response.outcome = "SUCCEEDED" ∧
          truthy response.externalReceiptId = false then
        ⟨"OUTCOME_UNKNOWN", none, true, false⟩
      else ⟨response.outcome, response.externalReceiptId, true, false⟩

end RollbackCall

/-- `_rollback_receipt`. -/
def rollbackReceipt (call : RollbackCall) (verdict : RollbackVerdict) :
    Except String RollbackReceipt := do
  let receipt := call.draft verdict
  let fingerprint ← hash receipt.payload
  return { receipt with receiptFingerprint := fingerprint }

/-- What the execution of a rollback leaves: its receipt, and whether it called
the adapter. -/
structure RollbackExecution where
  invoked : Bool
  receipt : RollbackReceipt
  deriving DecidableEq, Repr

/-- `execute_rollback`. -/
def executeRollback (fromisoformat : FromIsoformat) (call : RollbackCall) :
    Except String RollbackExecution := do
  require (call.request.reconciliationCaseFingerprint =
    call.reconciliationCase.caseFingerprint)
    "rollback request case binding mismatch"
  require (call.request.rollbackApprovalFingerprint =
    call.rollbackApproval.approvalFingerprint)
    "rollback request approval binding mismatch"
  require (call.request.rollbackAuthorityFingerprint =
    call.rollbackAuthority.authorityFingerprint)
    "rollback request authority binding mismatch"
  require (call.rollbackApproval.decision = "APPROVED")
    "explicit rollback approval required"
  let when ← parseTs fromisoformat call.executionAt "rollback execution_at"
  let start ← parseTs fromisoformat call.rollbackAuthority.validFrom
    "rollback authority valid_from"
  let end_ ← parseTs fromisoformat call.rollbackAuthority.validUntil
    "rollback authority valid_until"
  require (call.rollbackAuthority.status = "VALID" ∧ start ≤ when ∧
    when ≤ end_) "rollback authority is not valid at execution time"
  if call.previous = [] then
    let receipt ← rollbackReceipt call call.attempted
    return { invoked := true, receipt }
  else
    let receipt ← rollbackReceipt call call.suppressed
    return { invoked := false, receipt }

/-! ## What the functions return -/

theorem hash_of_makeRollbackApproval
    {fromisoformat : FromIsoformat} {given approval : RollbackApproval}
    (made : makeRollbackApproval fromisoformat given = .ok approval) :
    hash approval.payload = .ok approval.approvalFingerprint := by
  simp only [makeRollbackApproval, bind_eq_ok, require_eq_ok, exists_const, pure_eq_ok] at made
  obtain ⟨_, _, _, _, _, _, _, fingerprint, hashed, rfl⟩ := made
  exact hashed

theorem hash_of_makeRollbackAuthority
    {fromisoformat : FromIsoformat} {given authority : RollbackAuthority}
    (made : makeRollbackAuthority fromisoformat given = .ok authority) :
    hash authority.payload = .ok authority.authorityFingerprint := by
  simp only [makeRollbackAuthority, bind_eq_ok, require_eq_ok, exists_const, pure_eq_ok] at made
  obtain ⟨_, _, _, _, _, _, _, _, fingerprint, hashed, rfl⟩ := made
  exact hashed

theorem hash_of_verifyExecution
    {fromisoformat : FromIsoformat} {registry : VerificationRegistry}
    {call : VerificationCall} {verification : VerificationReceipt}
    (verified : verifyExecution fromisoformat registry call = .ok verification) :
    hash verification.payload = .ok verification.verificationFingerprint := by
  obtain ⟨_, _, _, _, _, _, _, hashed, rfl⟩ := verifyExecution_eq_ok.mp verified
  exact hashed

theorem ExecutionReceipt.Produced.hashed
    {fromisoformat : FromIsoformat} {registry : ExecutionRegistry}
    {receipt : ExecutionReceipt} (produced : receipt.Produced fromisoformat registry) :
    hash receipt.payload = .ok receipt.receiptFingerprint := by
  obtain ⟨call, execution, executed, rfl⟩ := produced
  obtain ⟨_, made, _⟩ := executeAuthorizedAction_eq_ok.mp executed
  obtain ⟨_, hashed, receipt⟩ := makeReceipt_eq_ok.mp made
  rw [← receipt]
  exact hashed

theorem buildReconciliationCase_eq_some
    {fromisoformat : FromIsoformat} {reconciliationCaseId openedAt : String}
    {receipt : ExecutionReceipt} {verification : VerificationReceipt}
    {case_ : ReconciliationCase} :
    buildReconciliationCase fromisoformat reconciliationCaseId receipt
        verification openedAt = .ok (some case_) ↔
      (∃ time, fromisoformat openedAt = some (some time)) ∧
        verification.executionReceiptFingerprint = receipt.receiptFingerprint ∧
          verification.verificationState ∈
              [VerificationState.mismatch, .outcomeUnknown] ∧
            ∃ fingerprint, hash (draftCase reconciliationCaseId receipt
                verification openedAt).payload = .ok fingerprint ∧
              { draftCase reconciliationCaseId receipt verification
                  openedAt with caseFingerprint := fingerprint } = case_ := by
  simp only [buildReconciliationCase, bind_eq_ok, require_eq_ok,
    exists_const, parseTs_eq_ok, exists_and_right]
  refine and_congr_right fun _ => and_congr_right fun _ => ?_
  split_ifs with opens
  · constructor
    · intro ran
      obtain ⟨fingerprint, hashed, made⟩ := bind_eq_ok.mp ran
      exact ⟨opens, fingerprint, hashed, Option.some.inj (pure_eq_ok.mp made)⟩
    · rintro ⟨_, fingerprint, hashed, rfl⟩
      exact bind_eq_ok.mpr ⟨fingerprint, hashed, rfl⟩
  · simp [opens]

/-- What `build_rollback_request` asks of its arguments. -/
structure RollbackOrder.Acceptable
    (fromisoformat : FromIsoformat) (order : RollbackOrder) : Prop where
  eligible : order.reconciliationCase.rollbackEligibility = "ELIGIBLE"
  isOpen : order.reconciliationCase.state = "OPEN"
  receipt : order.reconciliationCase.executionReceiptFingerprint =
    order.originalReceipt.receiptFingerprint
  verification : order.reconciliationCase.verificationFingerprint =
    order.verification.verificationFingerprint
  approvalCase : order.rollbackApproval.reconciliationCaseFingerprint =
    order.reconciliationCase.caseFingerprint
  approved : order.rollbackApproval.decision = "APPROVED"
  status : order.rollbackAuthority.status = "VALID"
  listing : order.rollbackAuthority.listingId = order.originalAction.listingId
  actionType : order.originalAction.actionType ∈ order.rollbackAuthority.allowedOriginalActionTypes
  times : ∃ start when end_,
    fromisoformat order.rollbackAuthority.validFrom = some (some start) ∧
      fromisoformat order.requestedAt = some (some when) ∧
        fromisoformat order.rollbackAuthority.validUntil = some (some end_) ∧
          start ≤ when ∧ when ≤ end_

theorem buildRollbackRequest_eq_ok {fromisoformat : FromIsoformat} {order : RollbackOrder}
    {request : RollbackRequest} :
    buildRollbackRequest fromisoformat order = .ok request ↔
      order.Acceptable fromisoformat ∧ ∃ key, hash order.keyPayload = .ok key ∧
          ∃ fingerprint, hash (order.draft key).payload = .ok fingerprint ∧
            { order.draft key with requestFingerprint := fingerprint } = request := by
  simp only [buildRollbackRequest, bind_eq_ok, require_eq_ok, exists_const,
    parseTs_eq_ok, pure_eq_ok]
  constructor
  · rintro ⟨eligible, isOpen, receipt, verification, approvalCase, approved,
      status, listing, actionType, when, whenParsed, start, startParsed, end_,
      endParsed, inOrder, made⟩
    exact ⟨⟨eligible, isOpen, receipt, verification, approvalCase, approved,
      status, listing, actionType, start, when, end_, startParsed, whenParsed,
      endParsed, inOrder⟩, made⟩
  · rintro ⟨⟨eligible, isOpen, receipt, verification, approvalCase, approved,
      status, listing, actionType, start, when, end_, startParsed, whenParsed,
      endParsed, inOrder⟩, made⟩
    exact ⟨eligible, isOpen, receipt, verification, approvalCase, approved,
      status, listing, actionType, when, whenParsed, start, startParsed, end_,
      endParsed, inOrder, made⟩

/-- What `execute_rollback` asks of its arguments. -/
structure RollbackCall.Cleared
    (fromisoformat : FromIsoformat) (call : RollbackCall) : Prop where
  reconciliationCase : call.request.reconciliationCaseFingerprint =
    call.reconciliationCase.caseFingerprint
  approval : call.request.rollbackApprovalFingerprint = call.rollbackApproval.approvalFingerprint
  authority : call.request.rollbackAuthorityFingerprint =
    call.rollbackAuthority.authorityFingerprint
  approved : call.rollbackApproval.decision = "APPROVED"
  times : ∃ start when end_,
    fromisoformat call.rollbackAuthority.validFrom = some (some start) ∧
      fromisoformat call.executionAt = some (some when) ∧
        fromisoformat call.rollbackAuthority.validUntil = some (some end_) ∧
          call.rollbackAuthority.status = "VALID" ∧ start ≤ when ∧ when ≤ end_

theorem rollbackReceipt_eq_ok {call : RollbackCall} {verdict : RollbackVerdict}
    {receipt : RollbackReceipt} :
    rollbackReceipt call verdict = .ok receipt ↔
      ∃ fingerprint, hash (call.draft verdict).payload = .ok fingerprint ∧
        { call.draft verdict with receiptFingerprint := fingerprint } = receipt := by
  simp only [rollbackReceipt, bind_eq_ok, pure_eq_ok]

theorem executeRollback_eq_ok {fromisoformat : FromIsoformat} {call : RollbackCall}
    {execution : RollbackExecution} :
    executeRollback fromisoformat call = .ok execution ↔
      call.Cleared fromisoformat ∧
        rollbackReceipt call (if call.previous = [] then call.attempted
            else call.suppressed) = .ok execution.receipt ∧
          execution.invoked = decide (call.previous = []) := by
  simp only [executeRollback, bind_eq_ok, require_eq_ok, exists_const, parseTs_eq_ok]
  constructor
  · rintro ⟨case_, approval, authority, approved, when, whenParsed, start,
      startParsed, end_, endParsed, valid, executed⟩
    refine ⟨⟨case_, approval, authority, approved, start, when, end_,
      startParsed, whenParsed, endParsed, valid⟩, ?_⟩
    split_ifs at executed with fresh
    · obtain ⟨receipt, made, result⟩ := bind_eq_ok.mp executed
      obtain rfl := pure_eq_ok.mp result
      rw [if_pos fresh, decide_eq_true fresh]
      exact ⟨made, rfl⟩
    · obtain ⟨receipt, made, result⟩ := bind_eq_ok.mp executed
      obtain rfl := pure_eq_ok.mp result
      rw [if_neg fresh, decide_eq_false fresh]
      exact ⟨made, rfl⟩
  · rintro ⟨⟨case_, approval, authority, approved, start, when, end_,
      startParsed, whenParsed, endParsed, valid⟩, made, invoked⟩
    refine ⟨case_, approval, authority, approved, when, whenParsed, start,
      startParsed, end_, endParsed, valid, ?_⟩
    cases execution
    dsimp only at made invoked
    split_ifs at made ⊢ with fresh
    · rw [invoked, decide_eq_true fresh]
      exact bind_eq_ok.mpr ⟨_, made, rfl⟩
    · rw [invoked, decide_eq_false fresh]
      exact bind_eq_ok.mpr ⟨_, made, rfl⟩

theorem RollbackCall.previous_eq_nil_iff {call : RollbackCall} :
    call.previous = [] ↔ ∀ receipt ∈ call.priorReceipts,
      receipt.idempotencyKey ≠ call.request.idempotencyKey := by
  simp [previous, List.filter_eq_nil_iff]

section Executed

variable {fromisoformat : FromIsoformat} {call : RollbackCall}
  {execution : RollbackExecution}

theorem idempotencyKey_of_executeRollback
    (executed : executeRollback fromisoformat call = .ok execution) :
    execution.receipt.idempotencyKey = call.request.idempotencyKey := by
  obtain ⟨_, made, _⟩ := executeRollback_eq_ok.mp executed
  obtain ⟨_, _, receipt⟩ := rollbackReceipt_eq_ok.mp made
  rw [← receipt]
  rfl

/-- The rollback adapter is called just where no prior receipt has the key. -/
theorem rollback_invoked_iff (executed : executeRollback fromisoformat call = .ok execution) :
    execution.invoked = true ↔ ∀ receipt ∈ call.priorReceipts,
      receipt.idempotencyKey ≠ call.request.idempotencyKey := by
  rw [(executeRollback_eq_ok.mp executed).2.2, decide_eq_true_eq, call.previous_eq_nil_iff]

/-- Under the key of a prior receipt a rollback is suppressed, and blocked
where the outcome is unknown. -/
theorem rollback_suppressed_of_prior {receipt : RollbackReceipt}
    (executed : executeRollback fromisoformat call = .ok execution)
    (prior : receipt ∈ call.priorReceipts)
    (same : receipt.idempotencyKey = call.request.idempotencyKey) :
    execution.invoked = false ∧ execution.receipt.sideEffectAttempted = false ∧
        execution.receipt.outcome ∈
            ["BLOCKED_OUTCOME_UNKNOWN", "DUPLICATE_SUPPRESSED"] ∧
          (receipt.outcome = "OUTCOME_UNKNOWN" →
            execution.receipt.outcome = "BLOCKED_OUTCOME_UNKNOWN") := by
  obtain ⟨_, made, invoked⟩ := executeRollback_eq_ok.mp executed
  have present : receipt ∈ call.previous := by
    simpa [RollbackCall.previous] using ⟨prior, same⟩
  have repeated : call.previous ≠ [] := List.ne_nil_of_mem present
  rw [if_neg repeated] at made
  obtain ⟨_, _, made⟩ := rollbackReceipt_eq_ok.mp made
  rw [invoked, ← made]
  refine ⟨decide_eq_false repeated, rfl, ?_, ?_⟩
  · dsimp only [RollbackCall.draft, RollbackCall.suppressed]
    split_ifs <;> simp
  · intro unknown
    exact if_pos ⟨receipt, present, unknown⟩

end Executed

end SanTanHeights.Listing
