import SanTanHeights.Listing.RollbackOnce
import SanTanHeights.Shared.PyValue

/-!
# Receipts of attempts

An adapter may raise, or return any object.  What is read of the object is
copied into the receipt, so that the receipt of an attempt is as truthful as
the object is well formed.
-/

namespace SanTanHeights.Listing

open Foundation Foundation.Json Foundation.Outcome Shared
open Community (FromIsoformat)

variable {F : Type}

/-! ## What an adapter does -/

/-- The value of an attribute: plain data, or an object that `json.dumps`
refuses, which counts as true or not and can be hashed or not. -/
inductive Attribute (F : Type) where
  | plain (value : PyValue F)
  | foreign (truthy hashable : Bool)

/-- A returned object.  An attribute whose reading raises is missing, and
`None` has none of them. -/
structure ResponseObject (F : Type) where
  adapterId : Option (Attribute F)
  requestFingerprint : Option (Attribute F)
  outcome : Option (Attribute F)
  externalReceiptId : Option (Attribute F)
  responseFingerprint : Option (Attribute F)

inductive AdapterBehaviour (F : Type) where
  /-- An `Exception` is raised. -/
  | raises
  /-- Something is raised that is no `Exception`. -/
  | interrupts
  | returns (object : ResponseObject F)

namespace Attribute

def text (value : String) : Attribute F :=
  .plain (.str value)

def missing : Attribute F :=
  .plain .none

def ofOptional (value : Option String) : Attribute F :=
  .plain (.ofOptional value)

/-- Whether the value is a text. -/
def isText (value : String) : Attribute F → Bool
  | plain (.str other) => other == value
  | _ => false

def hashable : Attribute F → Bool
  | plain value => value.hashable
  | foreign _ hashable => hashable

/-- `bool(value)`. -/
def truthy [PyFloat F] : Attribute F → Bool
  | plain .none => false
  | plain (.bool value) => value
  | plain (.int value) => value != 0
  | plain (.float value) => !PyFloat.eq value PyFloat.zero
  | plain (.str value) => value != ""
  | plain (.list items) => !items.isEmpty
  | plain (.tuple items) => !items.isEmpty
  | plain (.dict members) => !members.isEmpty
  | foreign truthy _ => truthy

/-- The value that is written. -/
def value : Attribute F → Except String (PyValue F)
  | plain value => .ok value
  | foreign _ _ => .error "TypeError: object is not JSON serializable"

end Attribute

/-- The object `None`. -/
def noneObject : ResponseObject F :=
  ⟨none, none, none, none, none⟩

/-- Read an attribute. -/
def readAttribute (held : Option (Attribute F)) : Except String (Attribute F) :=
  orRaise held "AttributeError"

/-- Whether a response is to the request of an adapter; the fingerprint of the
request is read where the adapter is the same. -/
def ResponseObject.answers (object : ResponseObject F) (adapterId requestFingerprint : String) :
    Except String Bool := do
  let own ← readAttribute object.adapterId
  if own.isText adapterId = true then
    let request ← readAttribute object.requestFingerprint
    return request.isText requestFingerprint
  else return false

/-! ## Execution -/

/-- What a receipt says of an attempt. -/
structure OpenVerdict (F : Type) where
  outcome : Attribute F
  externalReceiptId : Attribute F
  adapterResponseFingerprint : Attribute F
  sideEffectAttempted : Bool
  duplicateSuppressed : Bool

def Verdict.toOpen (verdict : Verdict) : OpenVerdict F where
  outcome := .text verdict.outcome
  externalReceiptId := .ofOptional verdict.externalReceiptId
  adapterResponseFingerprint := .ofOptional verdict.adapterResponseFingerprint
  sideEffectAttempted := verdict.sideEffectAttempted
  duplicateSuppressed := verdict.duplicateSuppressed

variable [PyFloat F]

/-- The outcome and the external identifier of a response to the request. -/
def settle (outcome external : Attribute F) : Attribute F × Attribute F :=
  let outcome :=
    if outcome.isText "SUCCEEDED" = true ∧ external.truthy = false then
      .text "OUTCOME_UNKNOWN"
    else outcome
  (outcome,
    if outcome.isText "OUTCOME_UNKNOWN" = true then .missing else external)

/-- What is made of a returned object. -/
def inspectResponse (request : ExecutionRequest) (object : ResponseObject F) :
    Except String (OpenVerdict F) := do
  let answers ← object.answers request.adapterId request.requestFingerprint
  if answers = true then
    let outcome ← readAttribute object.outcome
    let external ← readAttribute object.externalReceiptId
    let fingerprint ← readAttribute object.responseFingerprint
    let settled := settle outcome external
    return ⟨settled.1, settled.2, fingerprint, true, false⟩
  else
    let fingerprint ← readAttribute object.responseFingerprint
    return ⟨.text "OUTCOME_UNKNOWN", .missing, fingerprint, true, false⟩

/-- What is made of what an adapter does. -/
def judge (request : ExecutionRequest) :
    AdapterBehaviour F → Except String (OpenVerdict F)
  | .raises =>
      .ok ⟨.text "OUTCOME_UNKNOWN", .missing, .missing, true, false⟩
  | .interrupts => .error "BaseException"
  | .returns object => inspectResponse request object

/-- A receipt, whatever was copied into it. -/
structure OpenReceipt (F : Type) where
  receiptId : String
  requestId : String
  requestFingerprint : String
  idempotencyKey : String
  proposalFingerprint : String
  authorizedActionFingerprint : String
  approvalFingerprint : String
  authorityFingerprint : String
  adapterId : String
  adapterResponseFingerprint : PyValue F
  outcome : PyValue F
  externalReceiptId : PyValue F
  sideEffectAttempted : Bool
  duplicateSuppressed : Bool
  outcomeUnknown : Bool
  recordedAt : String
  lineageFingerprints : List String
  immutable : Bool
  publicEligible : Bool
  receiptFingerprint : String

omit [PyFloat F] in
/-- What the fingerprint of a receipt covers. -/
def OpenReceipt.payload (receipt : OpenReceipt F) : PyValue F :=
  .dict [("receipt_id", .str receipt.receiptId), ("request_id", .str receipt.requestId),
      ("request_fingerprint", .str receipt.requestFingerprint),
      ("idempotency_key", .str receipt.idempotencyKey),
      ("proposal_fingerprint", .str receipt.proposalFingerprint),
      ("authorized_action_fingerprint", .str receipt.authorizedActionFingerprint),
      ("approval_fingerprint", .str receipt.approvalFingerprint),
      ("authority_fingerprint", .str receipt.authorityFingerprint),
      ("adapter_id", .str receipt.adapterId),
      ("adapter_response_fingerprint", receipt.adapterResponseFingerprint),
      ("outcome", receipt.outcome), ("external_receipt_id", receipt.externalReceiptId),
      ("side_effect_attempted", .bool receipt.sideEffectAttempted),
      ("duplicate_suppressed", .bool receipt.duplicateSuppressed),
      ("outcome_unknown", .bool receipt.outcomeUnknown),
      ("recorded_at", .str receipt.recordedAt),
      ("lineage_fingerprints", .texts receipt.lineageFingerprints),
      ("immutable", .bool receipt.immutable),
      ("public_eligible", .bool receipt.publicEligible)]

/-- What a response adds to the lineage.  A set of texts cannot be sorted with
anything else in it. -/
def lineageOf (fingerprint : Attribute F) : Except String (List String) :=
  if fingerprint.truthy = true then
    match fingerprint with
    | .plain (.str text) => .ok [text]
    | _ => .error "TypeError"
  else .ok []

/-- `outcome in {"OUTCOME_UNKNOWN", "BLOCKED_OUTCOME_UNKNOWN"}`. -/
def isUnknown (outcome : Attribute F) : Except String Bool := do
  require (outcome.hashable = true) "TypeError: unhashable type"
  return unknownOutcomes.any fun text => outcome.isText text

omit [PyFloat F] in
/-- The receipt of a verdict whose values are written, before it has a
fingerprint. -/
def draftOpenReceipt (call : ExecutionCall) (verdict : OpenVerdict F) (added : List String)
    (unknown : Bool) (fingerprint outcome external : PyValue F) :
    OpenReceipt F where
  receiptId := call.receiptId
  requestId := call.request.requestId
  requestFingerprint := call.request.requestFingerprint
  idempotencyKey := call.request.idempotencyKey
  proposalFingerprint := call.authorizedAction.proposalFingerprint
  authorizedActionFingerprint := call.authorizedAction.authorizedActionFingerprint
  approvalFingerprint := call.approval.approvalFingerprint
  authorityFingerprint := call.authority.authorityFingerprint
  adapterId := call.request.adapterId
  adapterResponseFingerprint := fingerprint
  outcome := outcome
  externalReceiptId := external
  sideEffectAttempted := verdict.sideEffectAttempted
  duplicateSuppressed := verdict.duplicateSuppressed
  outcomeUnknown := unknown
  recordedAt := call.executionAt
  lineageFingerprints := sortedSet ([call.request.requestFingerprint,
      call.authorizedAction.authorizedActionFingerprint,
      call.authorizedAction.proposalFingerprint, call.approval.approvalFingerprint,
      call.authority.authorityFingerprint] ++ added)
  immutable := true
  publicEligible := false
  receiptFingerprint := ""

/-- `_receipt`. -/
def openReceipt (call : ExecutionCall) (verdict : OpenVerdict F) :
    Except String (OpenReceipt F) := do
  let added ← lineageOf verdict.adapterResponseFingerprint
  let unknown ← isUnknown verdict.outcome
  let fingerprint ← verdict.adapterResponseFingerprint.value
  let outcome ← verdict.outcome.value
  let external ← verdict.externalReceiptId.value
  let receipt := draftOpenReceipt call verdict added unknown fingerprint
    outcome external
  let receiptFingerprint ← receipt.payload.sha256
  return { receipt with receiptFingerprint := receiptFingerprint }

/-- `execute_authorized_action` with an adapter that may do anything, in the
place of the adapter of the call. -/
def executeWith (fromisoformat : FromIsoformat) (registry : ExecutionRegistry)
    (call : ExecutionCall) (adapter : ExecutionRequest → AdapterBehaviour F) :
    Except String (OpenReceipt F) := do
  require (Text.isBlank call.receiptId = false) "receipt_id required"
  validateProposal call.proposal
  checkBindings call
  let _ ← validateAuthority fromisoformat registry call.proposal call.approval
    call.authority call.executionAt
  if call.previous = [] then
    let verdict ← judge call.request (adapter call.request)
    openReceipt call verdict
  else openReceipt call call.suppressed.toOpen

/-! ## Rollback -/

/-- A rollback receipt, whatever was copied into it. -/
structure OpenRollbackReceipt (F : Type) where
  rollbackReceiptId : String
  rollbackRequestFingerprint : String
  idempotencyKey : String
  reconciliationCaseFingerprint : String
  originalExecutionReceiptFingerprint : String
  verificationFingerprint : String
  rollbackApprovalFingerprint : String
  rollbackAuthorityFingerprint : String
  outcome : PyValue F
  externalReceiptId : PyValue F
  sideEffectAttempted : Bool
  duplicateSuppressed : Bool
  outcomeUnknown : Bool
  recordedAt : String
  immutable : Bool
  receiptFingerprint : String

omit [PyFloat F] in
/-- What the fingerprint of a rollback receipt covers. -/
def OpenRollbackReceipt.payload (receipt : OpenRollbackReceipt F) : PyValue F :=
  .dict [("rollback_receipt_id", .str receipt.rollbackReceiptId),
      ("rollback_request_fingerprint", .str receipt.rollbackRequestFingerprint),
      ("idempotency_key", .str receipt.idempotencyKey),
      ("reconciliation_case_fingerprint", .str receipt.reconciliationCaseFingerprint),
      ("original_execution_receipt_fingerprint", .str receipt.originalExecutionReceiptFingerprint),
      ("verification_fingerprint", .str receipt.verificationFingerprint),
      ("rollback_approval_fingerprint", .str receipt.rollbackApprovalFingerprint),
      ("rollback_authority_fingerprint", .str receipt.rollbackAuthorityFingerprint),
      ("outcome", receipt.outcome), ("external_receipt_id", receipt.externalReceiptId),
      ("side_effect_attempted", .bool receipt.sideEffectAttempted),
      ("duplicate_suppressed", .bool receipt.duplicateSuppressed),
      ("outcome_unknown", .bool receipt.outcomeUnknown),
      ("recorded_at", .str receipt.recordedAt), ("immutable", .bool receipt.immutable)]

/-- What a rollback receipt says of an attempt. -/
structure OpenRollbackVerdict (F : Type) where
  outcome : Attribute F
  externalReceiptId : Attribute F
  sideEffectAttempted : Bool
  duplicateSuppressed : Bool

omit [PyFloat F] in
def RollbackVerdict.toOpen (verdict : RollbackVerdict) : OpenRollbackVerdict F where
  outcome := .text verdict.outcome
  externalReceiptId := .ofOptional verdict.externalReceiptId
  sideEffectAttempted := verdict.sideEffectAttempted
  duplicateSuppressed := verdict.duplicateSuppressed

/-- What is made of an object that a rollback adapter returned. -/
def inspectRollbackResponse (request : RollbackRequest) (object : ResponseObject F) :
    Except String (OpenRollbackVerdict F) := do
  let outcome ← readAttribute object.outcome
  let external ← readAttribute object.externalReceiptId
  let answers ← object.answers request.adapterId request.requestFingerprint
  if answers = false then
    return ⟨.text "OUTCOME_UNKNOWN", .missing, true, false⟩
  else if outcome.isText "SUCCEEDED" = true ∧ external.truthy = false then
    return ⟨.text "OUTCOME_UNKNOWN", .missing, true, false⟩
  else return ⟨outcome, external, true, false⟩

/-- What is made of what a rollback adapter does. -/
def judgeRollback (request : RollbackRequest) :
    AdapterBehaviour F → Except String (OpenRollbackVerdict F)
  | .raises => .ok ⟨.text "OUTCOME_UNKNOWN", .missing, true, false⟩
  | .interrupts => .error "BaseException"
  | .returns object => inspectRollbackResponse request object

omit [PyFloat F] in
/-- The rollback receipt of a verdict whose values are written, before it has a
fingerprint. -/
def draftOpenRollbackReceipt
    (call : RollbackCall) (verdict : OpenRollbackVerdict F) (unknown : Bool)
    (outcome external : PyValue F) : OpenRollbackReceipt F where
  rollbackReceiptId := call.rollbackReceiptId
  rollbackRequestFingerprint := call.request.requestFingerprint
  idempotencyKey := call.request.idempotencyKey
  reconciliationCaseFingerprint := call.request.reconciliationCaseFingerprint
  originalExecutionReceiptFingerprint := call.request.originalExecutionReceiptFingerprint
  verificationFingerprint := call.request.verificationFingerprint
  rollbackApprovalFingerprint := call.request.rollbackApprovalFingerprint
  rollbackAuthorityFingerprint := call.request.rollbackAuthorityFingerprint
  outcome := outcome
  externalReceiptId := external
  sideEffectAttempted := verdict.sideEffectAttempted
  duplicateSuppressed := verdict.duplicateSuppressed
  outcomeUnknown := unknown
  recordedAt := call.executionAt
  immutable := true
  receiptFingerprint := ""

/-- `_rollback_receipt`. -/
def openRollbackReceipt (call : RollbackCall) (verdict : OpenRollbackVerdict F) :
    Except String (OpenRollbackReceipt F) := do
  let unknown ← isUnknown verdict.outcome
  let outcome ← verdict.outcome.value
  let external ← verdict.externalReceiptId.value
  let receipt := draftOpenRollbackReceipt call verdict unknown outcome external
  let receiptFingerprint ← receipt.payload.sha256
  return { receipt with receiptFingerprint := receiptFingerprint }

/-- `execute_rollback` with an adapter that may do anything, in the place of
the adapter of the call. -/
def rollbackWith (fromisoformat : FromIsoformat) (call : RollbackCall)
    (adapter : RollbackRequest → AdapterBehaviour F) :
    Except String (OpenRollbackReceipt F) := do
  require (call.request.reconciliationCaseFingerprint =
    call.reconciliationCase.caseFingerprint)
    "rollback request case binding mismatch"
  require (call.request.rollbackApprovalFingerprint =
    call.rollbackApproval.approvalFingerprint)
    "rollback request approval binding mismatch"
  require (call.request.rollbackAuthorityFingerprint =
    call.rollbackAuthority.authorityFingerprint)
    "rollback request authority binding mismatch"
  require (call.rollbackApproval.decision = "APPROVED")
    "explicit rollback approval required"
  let when ← parseTs fromisoformat call.executionAt "rollback execution_at"
  let start ← parseTs fromisoformat call.rollbackAuthority.validFrom
    "rollback authority valid_from"
  let end_ ← parseTs fromisoformat call.rollbackAuthority.validUntil
    "rollback authority valid_until"
  require (call.rollbackAuthority.status = "VALID" ∧ start ≤ when ∧
    when ≤ end_) "rollback authority is not valid at execution time"
  if call.previous = [] then
    let verdict ← judgeRollback call.request (adapter call.request)
    openRollbackReceipt call verdict
  else openRollbackReceipt call call.suppressed.toOpen

/-! ## Well-formed responses -/

/-- What an adapter may report. -/
def adapterOutcomes : List String :=
  ["SUCCEEDED", "FAILED", "OUTCOME_UNKNOWN"]

omit [PyFloat F] in
@[simp] theorem isText_iff {held : Attribute F} {value : String} :
    held.isText value = true ↔ held = .text value := by
  cases held with
  | foreign truthy hashable => simp [Attribute.isText, Attribute.text]
  | plain found => cases found <;> simp [Attribute.isText, Attribute.text]

omit [PyFloat F] in
theorem isText_text {left right : String} :
    (Attribute.text left : Attribute F).isText right = true ↔ left = right := by
  simp [Attribute.text]

omit [PyFloat F] in
@[simp] theorem value_eq_ok {held : Attribute F} {value : PyValue F} :
    held.value = .ok value ↔ held = .plain value := by
  cases held <;> simp [Attribute.value]

/-- A value that can be written into a receipt. -/
def Attribute.Recordable (held : Attribute F) : Prop :=
  ∃ value, held = .plain value ∧ value.Writable

/-- A response fingerprint that a receipt can record and, where it counts as
true, put into its lineage. -/
structure Attribute.Traceable (fingerprint : Attribute F) : Prop where
  recordable : fingerprint.Recordable
  textual : fingerprint.truthy = true → ∃ value, fingerprint = .text value

theorem recordable_text (value : String) : (Attribute.text value : Attribute F).Recordable :=
  ⟨_, rfl, PyValue.writable_str value⟩

theorem recordable_missing : (Attribute.missing : Attribute F).Recordable :=
  ⟨_, rfl, PyValue.writable_none⟩

theorem traceable_missing : (Attribute.missing : Attribute F).Traceable where
  recordable := recordable_missing
  textual := fun counts => absurd counts (by simp [Attribute.missing, Attribute.truthy])

namespace ResponseObject

omit [PyFloat F] in
/-- The response is to the request of the adapter. -/
structure Answers (adapterId requestFingerprint : String) (object : ResponseObject F) :
    Prop where
  adapter : object.adapterId = some (.text adapterId)
  request : object.requestFingerprint = some (.text requestFingerprint)

omit [PyFloat F] in
/-- The response is of another adapter, or to another request. -/
def Differs (adapterId requestFingerprint : String) (object : ResponseObject F) : Prop :=
  (∃ own, object.adapterId = some own ∧ own ≠ .text adapterId) ∨
    object.adapterId = some (.text adapterId) ∧
      ∃ request, object.requestFingerprint = some request ∧ request ≠ .text requestFingerprint

variable {object : ResponseObject F} {adapterId requestFingerprint : String}

omit [PyFloat F] in
theorem answers_eq_true :
    object.answers adapterId requestFingerprint = .ok true ↔
      object.Answers adapterId requestFingerprint := by
  simp only [answers, readAttribute, bind_eq_ok, orRaise_eq_ok]
  constructor
  · rintro ⟨own, held, rest⟩
    split_ifs at rest with same
    · obtain ⟨request, requestHeld, matched⟩ := bind_eq_ok.mp rest
      rw [pure_eq_ok, isText_iff] at matched
      exact ⟨held.trans (congrArg some (isText_iff.mp same)),
        (orRaise_eq_ok.mp requestHeld).trans (congrArg some matched)⟩
    · cases rest
  · rintro ⟨adapter, request⟩
    refine ⟨_, adapter, ?_⟩
    rw [if_pos (isText_iff.mpr rfl)]
    exact bind_eq_ok.mpr ⟨_, orRaise_eq_ok.mpr request, pure_eq_ok.mpr (isText_iff.mpr rfl)⟩

omit [PyFloat F] in
theorem answers_eq_false :
    object.answers adapterId requestFingerprint = .ok false ↔
      object.Differs adapterId requestFingerprint := by
  simp only [answers, readAttribute, bind_eq_ok, orRaise_eq_ok]
  constructor
  · rintro ⟨own, held, rest⟩
    split_ifs at rest with same
    · obtain ⟨request, requestHeld, differs⟩ := bind_eq_ok.mp rest
      rw [pure_eq_ok, Bool.eq_false_iff, ne_eq, isText_iff] at differs
      exact .inr ⟨held.trans (congrArg some (isText_iff.mp same)), request,
        orRaise_eq_ok.mp requestHeld, differs⟩
    · rw [isText_iff] at same
      exact .inl ⟨own, held, same⟩
  · rintro (⟨own, held, differs⟩ | ⟨held, request, requestHeld, differs⟩)
    · refine ⟨own, held, ?_⟩
      rw [if_neg (mt isText_iff.mp differs)]
      rfl
    · refine ⟨_, held, ?_⟩
      rw [if_pos (isText_iff.mpr rfl)]
      refine bind_eq_ok.mpr ⟨request, orRaise_eq_ok.mpr requestHeld, ?_⟩
      rw [pure_eq_ok, Bool.eq_false_iff, ne_eq, isText_iff]
      exact differs

end ResponseObject

/-- An adapter that keeps to what a receipt can record: it raises, or returns
a response with a text for its fingerprint, that is not to the request, or
reports one of the outcomes with an identifier that can be written. -/
def AdapterBehaviour.Sound (adapterId requestFingerprint : String) :
    AdapterBehaviour F → Prop
  | raises => True
  | interrupts => False
  | returns object => ∃ fingerprint,
      object.responseFingerprint = some fingerprint ∧ fingerprint.Traceable ∧
          (object.Differs adapterId requestFingerprint ∨
            object.Answers adapterId requestFingerprint ∧ ∃ outcome ∈ adapterOutcomes,
                object.outcome = some (.text outcome) ∧
                  ∃ external, object.externalReceiptId = some external ∧
                    (outcome = "OUTCOME_UNKNOWN" ∨
                      outcome = "SUCCEEDED" ∧ external.truthy = false ∨ external.Recordable))

/-- A rollback adapter that keeps to what a receipt can record; an unknown
outcome comes without an identifier. -/
def AdapterBehaviour.RollbackSound (adapterId requestFingerprint : String) :
    AdapterBehaviour F → Prop
  | raises => True
  | interrupts => False
  | returns object => ∃ outcome external,
      object.outcome = some outcome ∧ object.externalReceiptId = some external ∧
          (object.Differs adapterId requestFingerprint ∨
            object.Answers adapterId requestFingerprint ∧
              ∃ value ∈ adapterOutcomes, outcome = .text value ∧
                (value = "SUCCEEDED" ∧ external.truthy = false ∨
                  external.Recordable ∧ (value = "OUTCOME_UNKNOWN" → external = .missing)))

/-- What a receipt tells of an attempt is true. -/
structure Truthful (adapterId requestFingerprint : String) (behaviour : AdapterBehaviour F)
    (outcome external : PyValue F) (attempted : Bool) : Prop where
  attempted : attempted = true
  governed : ∃ value ∈ adapterOutcomes, outcome = .str value
  succeeded : outcome = .str "SUCCEEDED" →
    ∃ object, behaviour = .returns object ∧
      object.Answers adapterId requestFingerprint ∧
        object.outcome = some (.text "SUCCEEDED") ∧
          object.externalReceiptId = some (.plain external) ∧
            (Attribute.plain external).truthy = true
  unknown : outcome = .str "OUTCOME_UNKNOWN" → external = .none

/-- A receipt of an unknown outcome without an identifier is truthful. -/
theorem truthful_unknown (adapterId requestFingerprint : String)
    (behaviour : AdapterBehaviour F) :
    Truthful adapterId requestFingerprint behaviour (.str "OUTCOME_UNKNOWN") .none true where
  attempted := rfl
  governed := ⟨_, by simp [adapterOutcomes], rfl⟩
  succeeded same := by simp at same
  unknown _ := rfl

/-! ## Receipts that can be made -/

theorem exists_lineageOf_iff {fingerprint : Attribute F} :
    (∃ added, lineageOf fingerprint = .ok added) ↔
      (fingerprint.truthy = true → ∃ value, fingerprint = .text value) := by
  unfold lineageOf
  split_ifs with counts
  · rw [forall_prop_of_true counts]
    constructor
    · rintro ⟨added, made⟩
      split at made
      · exact ⟨_, rfl⟩
      · cases made
    · rintro ⟨value, rfl⟩
      exact ⟨[value], rfl⟩
  · exact ⟨fun _ holds => absurd holds counts, fun _ => ⟨[], rfl⟩⟩

omit [PyFloat F] in
theorem exists_isUnknown_iff {outcome : Attribute F} :
    (∃ unknown, isUnknown outcome = .ok unknown) ↔ outcome.hashable = true := by
  simp only [isUnknown, require_bind_eq_ok, pure_eq_ok, exists_and_left, exists_eq', and_true]

theorem writable_draftOpenReceipt_iff
    {call : ExecutionCall} {verdict : OpenVerdict F} {added : List String}
    {unknown : Bool} {fingerprint outcome external : PyValue F} :
    (draftOpenReceipt call verdict added unknown fingerprint outcome
        external).payload.Writable ↔
      fingerprint.Writable ∧ outcome.Writable ∧ external.Writable := by
  simp [OpenReceipt.payload, draftOpenReceipt]

theorem writable_draftOpenRollbackReceipt_iff
    {call : RollbackCall} {verdict : OpenRollbackVerdict F} {unknown : Bool}
    {outcome external : PyValue F} :
    (draftOpenRollbackReceipt call verdict unknown outcome external).payload.Writable ↔
      outcome.Writable ∧ external.Writable := by
  simp [OpenRollbackReceipt.payload, draftOpenRollbackReceipt]

/-- A receipt is made where what is copied into it can be recorded. -/
theorem exists_openReceipt_iff {call : ExecutionCall} {verdict : OpenVerdict F}
    {holds : PyValue F → PyValue F → Bool → Prop} :
    (∃ receipt, openReceipt call verdict = .ok receipt ∧
        holds receipt.outcome receipt.externalReceiptId receipt.sideEffectAttempted) ↔
      verdict.adapterResponseFingerprint.Traceable ∧
        verdict.outcome.hashable = true ∧
          ∃ outcome external, verdict.outcome = .plain outcome ∧
            outcome.Writable ∧ verdict.externalReceiptId = .plain external ∧
              external.Writable ∧ holds outcome external verdict.sideEffectAttempted := by
  constructor
  · rintro ⟨receipt, made, held⟩
    obtain ⟨added, lineage, made⟩ := bind_eq_ok.mp made
    obtain ⟨unknown, hashed, made⟩ := bind_eq_ok.mp made
    obtain ⟨fingerprint, fingerprintHeld, made⟩ := bind_eq_ok.mp made
    obtain ⟨outcome, outcomeHeld, made⟩ := bind_eq_ok.mp made
    obtain ⟨external, externalHeld, made⟩ := bind_eq_ok.mp made
    obtain ⟨receiptFingerprint, written, made⟩ := bind_eq_ok.mp made
    obtain ⟨fingerprintWritable, outcomeWritable, externalWritable⟩ :=
      writable_draftOpenReceipt_iff.mp (PyValue.exists_sha256_iff.mp ⟨_, written⟩)
    cases made
    exact ⟨⟨⟨fingerprint, value_eq_ok.mp fingerprintHeld,
        fingerprintWritable⟩, exists_lineageOf_iff.mp ⟨added, lineage⟩⟩,
      exists_isUnknown_iff.mp ⟨unknown, hashed⟩, outcome, external,
      value_eq_ok.mp outcomeHeld, outcomeWritable,
      value_eq_ok.mp externalHeld, externalWritable, held⟩
  · rintro ⟨⟨⟨fingerprint, fingerprintHeld, fingerprintWritable⟩, textual⟩,
      hashable, outcome, external, outcomeHeld, outcomeWritable, externalHeld,
      externalWritable, held⟩
    obtain ⟨added, lineage⟩ := exists_lineageOf_iff.mpr textual
    obtain ⟨unknown, hashed⟩ := exists_isUnknown_iff.mpr hashable
    obtain ⟨receiptFingerprint, written⟩ := PyValue.exists_sha256_iff.mpr
      (@writable_draftOpenReceipt_iff _ _ call verdict added unknown
        fingerprint outcome external |>.mpr
          ⟨fingerprintWritable, outcomeWritable, externalWritable⟩)
    exact ⟨_, bind_eq_ok.mpr ⟨added, lineage, bind_eq_ok.mpr ⟨unknown, hashed, bind_eq_ok.mpr
        ⟨fingerprint, value_eq_ok.mpr fingerprintHeld, bind_eq_ok.mpr
          ⟨outcome, value_eq_ok.mpr outcomeHeld, bind_eq_ok.mpr
            ⟨external, value_eq_ok.mpr externalHeld, bind_eq_ok.mpr
              ⟨receiptFingerprint, written, rfl⟩⟩⟩⟩⟩⟩, held⟩

/-- A rollback receipt is made where what is copied into it can be
recorded. -/
theorem exists_openRollbackReceipt_iff {call : RollbackCall} {verdict : OpenRollbackVerdict F}
    {holds : PyValue F → PyValue F → Bool → Prop} :
    (∃ receipt, openRollbackReceipt call verdict = .ok receipt ∧
        holds receipt.outcome receipt.externalReceiptId receipt.sideEffectAttempted) ↔
      verdict.outcome.hashable = true ∧
        ∃ outcome external, verdict.outcome = .plain outcome ∧
          outcome.Writable ∧ verdict.externalReceiptId = .plain external ∧
            external.Writable ∧ holds outcome external verdict.sideEffectAttempted := by
  constructor
  · rintro ⟨receipt, made, held⟩
    obtain ⟨unknown, hashed, made⟩ := bind_eq_ok.mp made
    obtain ⟨outcome, outcomeHeld, made⟩ := bind_eq_ok.mp made
    obtain ⟨external, externalHeld, made⟩ := bind_eq_ok.mp made
    obtain ⟨receiptFingerprint, written, made⟩ := bind_eq_ok.mp made
    obtain ⟨outcomeWritable, externalWritable⟩ :=
      writable_draftOpenRollbackReceipt_iff.mp (PyValue.exists_sha256_iff.mp ⟨_, written⟩)
    cases made
    exact ⟨exists_isUnknown_iff.mp ⟨unknown, hashed⟩, outcome, external,
      value_eq_ok.mp outcomeHeld, outcomeWritable,
      value_eq_ok.mp externalHeld, externalWritable, held⟩
  · rintro ⟨hashable, outcome, external, outcomeHeld, outcomeWritable,
      externalHeld, externalWritable, held⟩
    obtain ⟨unknown, hashed⟩ := exists_isUnknown_iff.mpr hashable
    obtain ⟨receiptFingerprint, written⟩ := PyValue.exists_sha256_iff.mpr
      (@writable_draftOpenRollbackReceipt_iff _ _ call verdict unknown outcome
        external |>.mpr ⟨outcomeWritable, externalWritable⟩)
    exact ⟨_, bind_eq_ok.mpr ⟨unknown, hashed, bind_eq_ok.mpr
      ⟨outcome, value_eq_ok.mpr outcomeHeld, bind_eq_ok.mpr
        ⟨external, value_eq_ok.mpr externalHeld, bind_eq_ok.mpr
          ⟨receiptFingerprint, written, rfl⟩⟩⟩⟩, held⟩

/-! ## What attempts leave -/

/-- A reported outcome is kept unless it is unknown, or a success without an
identifier. -/
theorem settle_text (outcome : String) (external : Attribute F) :
    settle (.text outcome) external =
      if outcome = "OUTCOME_UNKNOWN" ∨
          outcome = "SUCCEEDED" ∧ external.truthy = false then
        (.text "OUTCOME_UNKNOWN", .missing)
      else (.text outcome, external) := by
  simp only [settle, isText_text]
  by_cases empty : outcome = "SUCCEEDED" ∧ external.truthy = false
  · rw [if_pos empty, if_pos (isText_text.mpr rfl), if_pos (.inr empty)]
  · rw [if_neg empty]
    by_cases unknown : outcome = "OUTCOME_UNKNOWN"
    · rw [if_pos (isText_text.mpr unknown), if_pos (.inl unknown), unknown]
    · rw [if_neg (mt isText_text.mp unknown), if_neg (not_or.mpr ⟨unknown, empty⟩)]

/-- A text for the outcome was one before. -/
theorem text_of_settle {outcome external : Attribute F} {value : String}
    (settled : (settle outcome external).1 = .text value) :
    outcome = .text "SUCCEEDED" ∧ external.truthy = false ∨ outcome = .text value := by
  unfold settle at settled
  dsimp only at settled
  split_ifs at settled with empty
  · exact .inl ⟨isText_iff.mp empty.1, empty.2⟩
  · exact .inr settled

theorem inspectResponse_eq_ok {request : ExecutionRequest} {object : ResponseObject F}
    {verdict : OpenVerdict F} :
    inspectResponse request object = .ok verdict ↔
      ∃ fingerprint, object.responseFingerprint = some fingerprint ∧
        (object.Differs request.adapterId request.requestFingerprint ∧ verdict =
              ⟨.text "OUTCOME_UNKNOWN", .missing, fingerprint, true, false⟩ ∨
          object.Answers request.adapterId request.requestFingerprint ∧
            ∃ outcome external, object.outcome = some outcome ∧
              object.externalReceiptId = some external ∧ verdict = ⟨(settle outcome external).1,
                  (settle outcome external).2, fingerprint, true,
                  false⟩) := by
  simp only [inspectResponse, readAttribute, bind_eq_ok]
  constructor
  · rintro ⟨answers, found, rest⟩
    cases answers with
    | true =>
        rw [if_pos rfl] at rest
        simp only [bind_eq_ok, orRaise_eq_ok, pure_eq_ok] at rest
        obtain ⟨outcome, outcomeHeld, external, externalHeld, fingerprint,
          fingerprintHeld, rfl⟩ := rest
        exact ⟨fingerprint, fingerprintHeld, .inr
          ⟨ResponseObject.answers_eq_true.mp found, outcome, external,
            outcomeHeld, externalHeld, rfl⟩⟩
    | false =>
        rw [if_neg Bool.false_ne_true] at rest
        simp only [bind_eq_ok, orRaise_eq_ok, pure_eq_ok] at rest
        obtain ⟨fingerprint, fingerprintHeld, rfl⟩ := rest
        exact ⟨fingerprint, fingerprintHeld, .inl ⟨ResponseObject.answers_eq_false.mp found, rfl⟩⟩
  · rintro ⟨fingerprint, fingerprintHeld, ⟨differs, rfl⟩ | ⟨answers, outcome,
      external, outcomeHeld, externalHeld, rfl⟩⟩
    · refine ⟨false, ResponseObject.answers_eq_false.mpr differs, ?_⟩
      rw [if_neg Bool.false_ne_true]
      simp only [bind_eq_ok, orRaise_eq_ok, pure_eq_ok]
      exact ⟨fingerprint, fingerprintHeld, rfl⟩
    · refine ⟨true, ResponseObject.answers_eq_true.mpr answers, ?_⟩
      rw [if_pos rfl]
      simp only [bind_eq_ok, orRaise_eq_ok, pure_eq_ok]
      exact ⟨outcome, outcomeHeld, external, externalHeld, fingerprint, fingerprintHeld, rfl⟩

/-- What an attempt leaves where the adapter does something: a truthful
receipt. -/
def AttemptTold (call : ExecutionCall) (behaviour : AdapterBehaviour F) : Prop :=
  ∃ verdict, judge call.request behaviour = .ok verdict ∧
    ∃ receipt, openReceipt call verdict = .ok receipt ∧
      Truthful call.request.adapterId call.request.requestFingerprint
        behaviour receipt.outcome receipt.externalReceiptId
        receipt.sideEffectAttempted

variable {behaviour : AdapterBehaviour F}
  {adapter : ExecutionRequest → AdapterBehaviour F}

/-- An unknown outcome without an identifier is told truthfully. -/
theorem exists_receipt_unknown {call : ExecutionCall} {fingerprint : Attribute F}
    (traceable : fingerprint.Traceable) :
    ∃ receipt, openReceipt call
        ⟨.text "OUTCOME_UNKNOWN", .missing, fingerprint, true, false⟩ = .ok receipt ∧
      Truthful call.request.adapterId call.request.requestFingerprint
        behaviour receipt.outcome receipt.externalReceiptId
        receipt.sideEffectAttempted :=
  exists_openReceipt_iff.mpr ⟨traceable, rfl, _, _, rfl,
    PyValue.writable_str _, rfl, PyValue.writable_none, truthful_unknown _ _ _⟩

/-- An attempt is told truthfully just where the adapter is sound. -/
theorem attemptTold_iff {call : ExecutionCall} :
    AttemptTold call behaviour ↔ behaviour.Sound call.request.adapterId
        call.request.requestFingerprint := by
  cases behaviour with
  | raises =>
      refine iff_of_true ⟨_, rfl, ?_⟩ trivial
      exact exists_receipt_unknown traceable_missing
  | interrupts =>
      refine iff_of_false ?_ id
      rintro ⟨verdict, judged, -⟩
      cases judged
  | returns object =>
      constructor
      · rintro ⟨verdict, judged, told⟩
        obtain ⟨fingerprint, fingerprintHeld, cases_⟩ := inspectResponse_eq_ok.mp judged
        obtain ⟨traceable, -, outcome, external, outcomeHeld, -, externalHeld,
          externalWritable, truthful⟩ := exists_openReceipt_iff.mp told
        refine ⟨fingerprint, fingerprintHeld, ?_⟩
        rcases cases_ with ⟨differs, rfl⟩ | ⟨answers, reported, identifier,
          reportedHeld, identifierHeld, rfl⟩
        · exact ⟨traceable, .inl differs⟩
        · refine ⟨traceable, .inr ⟨answers, ?_⟩⟩
          obtain ⟨value, governed, rfl⟩ := truthful.governed
          rcases text_of_settle outcomeHeld with ⟨rfl, empty⟩ | rfl
          · exact ⟨"SUCCEEDED", by simp [adapterOutcomes], reportedHeld,
              identifier, identifierHeld, .inr (.inl ⟨rfl, empty⟩)⟩
          · refine ⟨value, governed, reportedHeld, identifier, identifierHeld, ?_⟩
            dsimp only at externalHeld
            rw [settle_text] at externalHeld
            split_ifs at externalHeld with unknown
            · rcases unknown with unknown | empty
              · exact .inl unknown
              · exact .inr (.inl empty)
            · exact .inr (.inr ⟨external, externalHeld, externalWritable⟩)
      · rintro ⟨fingerprint, fingerprintHeld, traceable, differs | ⟨answers,
          outcome, governed, outcomeHeld, external, externalHeld, kept⟩⟩
        · exact ⟨_, inspectResponse_eq_ok.mpr
            ⟨fingerprint, fingerprintHeld, .inl ⟨differs, rfl⟩⟩,
            exists_receipt_unknown traceable⟩
        · refine ⟨_, inspectResponse_eq_ok.mpr ⟨fingerprint, fingerprintHeld,
            .inr ⟨answers, _, _, outcomeHeld, externalHeld, rfl⟩⟩, ?_⟩
          rw [settle_text]
          split_ifs with unknown
          · exact exists_receipt_unknown traceable
          · rw [not_or] at unknown
            obtain unknown_ | empty | ⟨value, rfl, writable⟩ := kept
            · exact absurd unknown_ unknown.1
            · exact absurd empty unknown.2
            refine exists_openReceipt_iff.mpr ⟨traceable, rfl, _, value, rfl,
              PyValue.writable_str _, rfl, writable, ?_⟩
            exact
              { attempted := rfl
                governed := ⟨outcome, governed, rfl⟩
                succeeded := fun same => by
                  cases same
                  refine ⟨object, rfl, answers, outcomeHeld, externalHeld, ?_⟩
                  exact (Bool.not_eq_false _).mp fun empty =>
                    unknown.2 ⟨rfl, empty⟩
                unknown := fun same => by
                  cases same
                  exact absurd rfl unknown.1 }

theorem inspectRollbackResponse_eq_ok {request : RollbackRequest} {object : ResponseObject F}
    {verdict : OpenRollbackVerdict F} :
    inspectRollbackResponse request object = .ok verdict ↔
      ∃ outcome external, object.outcome = some outcome ∧
        object.externalReceiptId = some external ∧
          (object.Differs request.adapterId request.requestFingerprint ∧
              verdict = ⟨.text "OUTCOME_UNKNOWN", .missing, true, false⟩ ∨
            object.Answers request.adapterId request.requestFingerprint ∧ verdict =
                if outcome.isText "SUCCEEDED" = true ∧
                    external.truthy = false then
                  ⟨.text "OUTCOME_UNKNOWN", .missing, true, false⟩
                else ⟨outcome, external, true, false⟩) := by
  simp only [inspectRollbackResponse, readAttribute, bind_eq_ok, orRaise_eq_ok]
  constructor
  · rintro ⟨outcome, outcomeHeld, external, externalHeld, answers, found, rest⟩
    refine ⟨outcome, external, outcomeHeld, externalHeld, ?_⟩
    cases answers with
    | true =>
        rw [if_neg (Bool.false_ne_true ·.symm)] at rest
        refine .inr ⟨ResponseObject.answers_eq_true.mp found, ?_⟩
        split_ifs at rest ⊢ with empty
        · exact (pure_eq_ok.mp rest).symm
        · exact (pure_eq_ok.mp rest).symm
    | false =>
        rw [if_pos rfl] at rest
        exact .inl ⟨ResponseObject.answers_eq_false.mp found, (pure_eq_ok.mp rest).symm⟩
  · rintro ⟨outcome, external, outcomeHeld, externalHeld, ⟨differs, rfl⟩ | ⟨answers, rfl⟩⟩
    · refine ⟨outcome, outcomeHeld, external, externalHeld, false,
        ResponseObject.answers_eq_false.mpr differs, ?_⟩
      rw [if_pos rfl]
      rfl
    · refine ⟨outcome, outcomeHeld, external, externalHeld, true,
        ResponseObject.answers_eq_true.mpr answers, ?_⟩
      rw [if_neg (Bool.false_ne_true ·.symm)]
      split_ifs with empty
      · rfl
      · rfl

/-- What the attempt of a rollback leaves: a truthful receipt. -/
def RollbackTold (call : RollbackCall) (behaviour : AdapterBehaviour F) : Prop :=
  ∃ verdict, judgeRollback call.request behaviour = .ok verdict ∧
    ∃ receipt, openRollbackReceipt call verdict = .ok receipt ∧
      Truthful call.request.adapterId call.request.requestFingerprint
        behaviour receipt.outcome receipt.externalReceiptId
        receipt.sideEffectAttempted

theorem exists_rollbackReceipt_unknown {call : RollbackCall} :
    ∃ receipt, openRollbackReceipt call
        ⟨.text "OUTCOME_UNKNOWN", .missing, true, false⟩ = .ok receipt ∧
      Truthful call.request.adapterId call.request.requestFingerprint
        behaviour receipt.outcome receipt.externalReceiptId
        receipt.sideEffectAttempted :=
  exists_openRollbackReceipt_iff.mpr ⟨rfl, _, _, rfl,
    PyValue.writable_str _, rfl, PyValue.writable_none, truthful_unknown _ _ _⟩

/-- The attempt of a rollback is told truthfully just where its adapter is
sound. -/
theorem rollbackTold_iff {call : RollbackCall} :
    RollbackTold call behaviour ↔ behaviour.RollbackSound call.request.adapterId
        call.request.requestFingerprint := by
  cases behaviour with
  | raises =>
      exact iff_of_true ⟨_, rfl, exists_rollbackReceipt_unknown⟩ trivial
  | interrupts =>
      refine iff_of_false ?_ id
      rintro ⟨verdict, judged, -⟩
      cases judged
  | returns object =>
      constructor
      · rintro ⟨verdict, judged, told⟩
        obtain ⟨reported, identifier, reportedHeld, identifierHeld, cases_⟩ :=
          inspectRollbackResponse_eq_ok.mp judged
        refine ⟨reported, identifier, reportedHeld, identifierHeld, ?_⟩
        rcases cases_ with ⟨differs, -⟩ | ⟨answers, rfl⟩
        · exact .inl differs
        · refine .inr ⟨answers, ?_⟩
          split_ifs at told with empty
          · exact ⟨"SUCCEEDED", by simp [adapterOutcomes],
              isText_iff.mp empty.1, .inl ⟨rfl, empty.2⟩⟩
          · obtain ⟨-, outcome, external, rfl, -, rfl, writable, truthful⟩ :=
              exists_openRollbackReceipt_iff.mp told
            obtain ⟨value, governed, rfl⟩ := truthful.governed
            refine ⟨value, governed, rfl, .inr ⟨⟨external, rfl, writable⟩, ?_⟩⟩
            rintro rfl
            rw [truthful.unknown rfl]
            rfl
      · rintro ⟨reported, identifier, reportedHeld, identifierHeld, differs |
          ⟨answers, value, governed, rfl, kept⟩⟩
        · exact ⟨_, inspectRollbackResponse_eq_ok.mpr ⟨reported, identifier,
            reportedHeld, identifierHeld, .inl ⟨differs, rfl⟩⟩, exists_rollbackReceipt_unknown⟩
        · refine ⟨_, inspectRollbackResponse_eq_ok.mpr ⟨_, identifier,
            reportedHeld, identifierHeld, .inr ⟨answers, rfl⟩⟩, ?_⟩
          split_ifs with empty
          · exact exists_rollbackReceipt_unknown
          · obtain ⟨rfl, falsy⟩ | ⟨⟨external, rfl, writable⟩, unknown⟩ := kept
            · exact absurd ⟨isText_iff.mpr rfl, falsy⟩ empty
            refine exists_openRollbackReceipt_iff.mpr ⟨rfl, _, external, rfl,
              PyValue.writable_str _, rfl, writable, ?_⟩
            exact
              { attempted := rfl
                governed := ⟨value, governed, rfl⟩
                succeeded := fun same => by
                  cases same
                  refine ⟨object, rfl, answers, reportedHeld, identifierHeld, ?_⟩
                  exact (Bool.not_eq_false _).mp fun falsy =>
                    empty ⟨isText_iff.mpr rfl, falsy⟩
                unknown := fun same => by
                  cases same
                  exact Attribute.plain.inj (unknown rfl) }

/-! ## Calls -/

theorem sideEffectAttempted_of_openReceipt
    {call : ExecutionCall} {verdict : OpenVerdict F} {receipt : OpenReceipt F}
    (made : openReceipt call verdict = .ok receipt) :
    receipt.sideEffectAttempted = verdict.sideEffectAttempted := by
  obtain ⟨-, -, outcome, external, -, -, -, -, same⟩ :=
    (@exists_openReceipt_iff _ _ call verdict fun _ _ attempted =>
      attempted = receipt.sideEffectAttempted).mp ⟨receipt, made, rfl⟩
  exact same.symm

theorem sideEffectAttempted_of_openRollbackReceipt
    {call : RollbackCall} {verdict : OpenRollbackVerdict F} {receipt : OpenRollbackReceipt F}
    (made : openRollbackReceipt call verdict = .ok receipt) :
    receipt.sideEffectAttempted = verdict.sideEffectAttempted := by
  obtain ⟨-, outcome, external, -, -, -, -, same⟩ :=
    (@exists_openRollbackReceipt_iff _ _ call verdict fun _ _ attempted =>
      attempted = receipt.sideEffectAttempted).mp ⟨receipt, made, rfl⟩
  exact same.symm

/-- The call passes its checks, and there is no receipt under its key. -/
structure ExecutionCall.Reaches (fromisoformat : FromIsoformat) (registry : ExecutionRegistry)
    (call : ExecutionCall) : Prop where
  cleared : call.Cleared fromisoformat registry
  fresh : call.previous = []

/-- The rollback passes its checks, and there is no receipt under its key. -/
structure RollbackCall.Reaches
    (fromisoformat : FromIsoformat) (call : RollbackCall) : Prop where
  cleared : call.Cleared fromisoformat
  fresh : call.previous = []

section Calls

variable {fromisoformat : FromIsoformat} {registry : ExecutionRegistry}

theorem executeWith_eq_ok {call : ExecutionCall} {receipt : OpenReceipt F} :
    executeWith fromisoformat registry call adapter = .ok receipt ↔
      call.Cleared fromisoformat registry ∧
        if call.previous = [] then
          ∃ verdict, judge call.request (adapter call.request) = .ok verdict ∧
            openReceipt call verdict = .ok receipt
        else openReceipt call call.suppressed.toOpen = .ok receipt := by
  simp only [executeWith, bind_eq_ok, require_eq_ok, exists_const]
  constructor
  · rintro ⟨identified, _, proposed, _, bound, time, authorized, rest⟩
    refine ⟨⟨identified, proposed, bound, time, authorized⟩, ?_⟩
    split_ifs at rest ⊢ with fresh
    · exact bind_eq_ok.mp rest
    · exact rest
  · rintro ⟨cleared, rest⟩
    obtain ⟨time, authorized⟩ := cleared.authorized
    refine ⟨cleared.identified, (), cleared.proposed, (), cleared.bound, time, authorized, ?_⟩
    split_ifs at rest ⊢ with fresh
    · exact bind_eq_ok.mpr rest
    · exact rest

theorem rollbackWith_eq_ok
    {call : RollbackCall} {adapter : RollbackRequest → AdapterBehaviour F}
    {receipt : OpenRollbackReceipt F} :
    rollbackWith fromisoformat call adapter = .ok receipt ↔
      call.Cleared fromisoformat ∧
        if call.previous = [] then
          ∃ verdict,
            judgeRollback call.request (adapter call.request) = .ok verdict ∧
              openRollbackReceipt call verdict = .ok receipt
        else openRollbackReceipt call call.suppressed.toOpen = .ok receipt := by
  simp only [rollbackWith, bind_eq_ok, require_eq_ok, exists_const, parseTs_eq_ok]
  constructor
  · rintro ⟨case_, approval, authority, approved, when, whenParsed, start,
      startParsed, end_, endParsed, valid, rest⟩
    refine ⟨⟨case_, approval, authority, approved, start, when, end_,
      startParsed, whenParsed, endParsed, valid⟩, ?_⟩
    split_ifs at rest ⊢ with fresh
    · exact bind_eq_ok.mp rest
    · exact rest
  · rintro ⟨⟨case_, approval, authority, approved, start, when, end_,
      startParsed, whenParsed, endParsed, valid⟩, rest⟩
    refine ⟨case_, approval, authority, approved, when, whenParsed, start,
      startParsed, end_, endParsed, valid, ?_⟩
    split_ifs at rest ⊢ with fresh
    · exact bind_eq_ok.mpr rest
    · exact rest

/-- A receipt that the call returns, and that is truthful. -/
def ExecutionCall.Told (fromisoformat : FromIsoformat) (registry : ExecutionRegistry)
    (call : ExecutionCall) (adapter : ExecutionRequest → AdapterBehaviour F) : Prop :=
  ∃ receipt, executeWith fromisoformat registry call adapter = .ok receipt ∧
    Truthful call.request.adapterId call.request.requestFingerprint
      (adapter call.request) receipt.outcome receipt.externalReceiptId
      receipt.sideEffectAttempted

/-- A receipt that the rollback returns, and that is truthful. -/
def RollbackCall.Told (fromisoformat : FromIsoformat) (call : RollbackCall)
    (adapter : RollbackRequest → AdapterBehaviour F) : Prop :=
  ∃ receipt, rollbackWith fromisoformat call adapter = .ok receipt ∧
    Truthful call.request.adapterId call.request.requestFingerprint
      (adapter call.request) receipt.outcome receipt.externalReceiptId
      receipt.sideEffectAttempted

theorem ExecutionCall.told_iff
    {call : ExecutionCall} (reaches : call.Reaches fromisoformat registry) :
    call.Told fromisoformat registry adapter ↔ AttemptTold call (adapter call.request) := by
  simp only [Told, AttemptTold, executeWith_eq_ok, reaches.cleared, true_and,
    reaches.fresh, if_true]
  constructor
  · rintro ⟨receipt, ⟨verdict, judged, made⟩, truthful⟩
    exact ⟨verdict, judged, receipt, made, truthful⟩
  · rintro ⟨verdict, judged, receipt, made, truthful⟩
    exact ⟨receipt, ⟨verdict, judged, made⟩, truthful⟩

theorem RollbackCall.told_iff {call : RollbackCall} (reaches : call.Reaches fromisoformat)
    {adapter : RollbackRequest → AdapterBehaviour F} :
    call.Told fromisoformat adapter ↔ RollbackTold call (adapter call.request) := by
  simp only [Told, RollbackTold, rollbackWith_eq_ok, reaches.cleared,
    true_and, reaches.fresh, if_true]
  constructor
  · rintro ⟨receipt, ⟨verdict, judged, made⟩, truthful⟩
    exact ⟨verdict, judged, receipt, made, truthful⟩
  · rintro ⟨verdict, judged, receipt, made, truthful⟩
    exact ⟨receipt, ⟨verdict, judged, made⟩, truthful⟩

theorem sideEffectAttempted_of_not_reaches
    {call : ExecutionCall} (stops : ¬call.Reaches fromisoformat registry)
    {receipt : OpenReceipt F}
    (executed : executeWith fromisoformat registry call adapter = .ok receipt) :
    receipt.sideEffectAttempted = false := by
  obtain ⟨cleared, rest⟩ := executeWith_eq_ok.mp executed
  rw [if_neg fun fresh => stops ⟨cleared, fresh⟩] at rest
  exact sideEffectAttempted_of_openReceipt rest

theorem rollback_sideEffectAttempted_of_not_reaches
    {call : RollbackCall} (stops : ¬call.Reaches fromisoformat)
    {adapter : RollbackRequest → AdapterBehaviour F} {receipt : OpenRollbackReceipt F}
    (executed : rollbackWith fromisoformat call adapter = .ok receipt) :
    receipt.sideEffectAttempted = false := by
  obtain ⟨cleared, rest⟩ := rollbackWith_eq_ok.mp executed
  rw [if_neg fun fresh => stops ⟨cleared, fresh⟩] at rest
  exact sideEffectAttempted_of_openRollbackReceipt rest

end Calls

/-- A call that reaches its adapter leaves a truthful receipt just where the
adapter is sound; a call that does not leaves none of an attempt. -/
theorem attempts_told_iff (fromisoformat : FromIsoformat) (registry : ExecutionRegistry) :
    (∀ (call : ExecutionCall) (adapter : ExecutionRequest → AdapterBehaviour F),
      (call.Reaches fromisoformat registry →
        (call.Told fromisoformat registry adapter ↔
          (adapter call.request).Sound call.request.adapterId
            call.request.requestFingerprint)) ∧
      (¬call.Reaches fromisoformat registry → ∀ receipt,
        executeWith fromisoformat registry call adapter = .ok receipt →
          receipt.sideEffectAttempted = false)) ∧
    (∀ (call : RollbackCall) (adapter : RollbackRequest → AdapterBehaviour F),
      (call.Reaches fromisoformat →
        (call.Told fromisoformat adapter ↔
          (adapter call.request).RollbackSound call.request.adapterId
            call.request.requestFingerprint)) ∧
      (¬call.Reaches fromisoformat → ∀ receipt,
        rollbackWith fromisoformat call adapter = .ok receipt →
          receipt.sideEffectAttempted = false)) := by
  refine ⟨fun call adapter => ⟨fun reaches => ?_, fun stops receipt => ?_⟩,
    fun call adapter => ⟨fun reaches => ?_, fun stops receipt => ?_⟩⟩
  · rw [ExecutionCall.told_iff reaches]
    exact attemptTold_iff
  · exact sideEffectAttempted_of_not_reaches stops
  · rw [RollbackCall.told_iff reaches]
    exact rollbackTold_iff
  · exact rollback_sideEffectAttempted_of_not_reaches stops

/-! ## Adapters of the typed calls -/

section Typed

variable {adapterId requestFingerprint own request : String}
  {outcome external fingerprint : Option (Attribute F)}

omit [PyFloat F] in
theorem answers_text_iff :
    (ResponseObject.mk (some (.text own)) (some (.text request)) outcome
        external fingerprint).Answers adapterId requestFingerprint ↔
      own = adapterId ∧ request = requestFingerprint := by
  constructor
  · rintro ⟨adapter, requested⟩
    exact ⟨isText_text.mp (isText_iff.mpr (Option.some.inj adapter)),
      isText_text.mp (isText_iff.mpr (Option.some.inj requested))⟩
  · rintro ⟨rfl, rfl⟩
    exact ⟨rfl, rfl⟩

end Typed

/-- The object that a response is. -/
def AdapterResponse.object (response : AdapterResponse) : ResponseObject F where
  adapterId := some (.text response.adapterId)
  requestFingerprint := some (.text response.requestFingerprint)
  outcome := some (.text response.outcome)
  externalReceiptId := some (.ofOptional response.externalReceiptId)
  responseFingerprint := some (.text response.responseFingerprint)

/-! ## Attempts without a truthful receipt -/

/-- The call of a submission of the sample action. -/
def sampleCall (action : AuthorizedAction) (request : ExecutionRequest) : ExecutionCall :=
  (sampleSubmission action request []).call

theorem exists_reaches_sample :
    ∃ action request, (sampleCall action request).Reaches
      Community.sampleFromisoformat executionRegistry := by
  obtain ⟨action, authorizes⟩ := exists_sampleAction
  obtain ⟨request, requests⟩ := @exists_sampleRequest action "REQUEST" "ADAPTER" (by decide)
  obtain ⟨execution, executed, -⟩ := exists_sampleStep authorizes requests .empty
  exact ⟨action, request, (executeAuthorizedAction_eq_ok.mp executed).1, rfl⟩

/-- A response to a request with an outcome that is none. -/
def pendingResponse (request : ExecutionRequest) : AdapterResponse where
  adapterId := request.adapterId
  requestFingerprint := request.requestFingerprint
  outcome := "PENDING"
  externalReceiptId := none
  responseFingerprint := "RESPONSE"

/-- An adapter returns `None`, and there is no receipt; another reports an
outcome of its own, which the receipt copies. -/
theorem attempts_not_told :
    ∃ call : ExecutionCall,
      call.Reaches Community.sampleFromisoformat executionRegistry ∧
        (∀ receipt : OpenReceipt ℚ,
          executeWith Community.sampleFromisoformat executionRegistry call
            (fun _ => .returns noneObject) ≠ .ok receipt) ∧
        ∃ receipt : OpenReceipt ℚ,
          executeWith Community.sampleFromisoformat executionRegistry call
              (fun request => .returns (pendingResponse request).object) =
            .ok receipt ∧
          receipt.sideEffectAttempted = true ∧
            receipt.outcome = .str "PENDING" := by
  obtain ⟨action, request, reaches⟩ := exists_reaches_sample
  refine ⟨_, reaches, fun receipt executed => ?_, ?_⟩
  · obtain ⟨-, rest⟩ := executeWith_eq_ok.mp executed
    rw [if_pos reaches.fresh] at rest
    obtain ⟨verdict, judged, -⟩ := rest
    cases judged
  · have judged : inspectResponse (F := ℚ) request
        (pendingResponse request).object =
          .ok ⟨.text "PENDING", .missing, .text "RESPONSE", true, false⟩ :=
      inspectResponse_eq_ok.mpr ⟨_, rfl, .inr
        ⟨answers_text_iff.mpr ⟨rfl, rfl⟩, _, _, rfl, rfl, rfl⟩⟩
    obtain ⟨receipt, made, told⟩ :=
      (@exists_openReceipt_iff ℚ _ (sampleCall action request)
        ⟨.text "PENDING", .missing, .text "RESPONSE", true, false⟩
        fun outcome _ attempted =>
          attempted = true ∧ outcome = .str "PENDING").mpr
        ⟨⟨recordable_text _, fun _ => ⟨_, rfl⟩⟩, rfl, _, _, rfl,
          PyValue.writable_str _, rfl, PyValue.writable_none, rfl, rfl⟩
    refine ⟨receipt, executeWith_eq_ok.mpr ⟨reaches.cleared, ?_⟩, told⟩
    rw [if_pos reaches.fresh]
    exact ⟨_, judged, made⟩

end SanTanHeights.Listing
