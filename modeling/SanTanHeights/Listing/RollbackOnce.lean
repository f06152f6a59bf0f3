import SanTanHeights.Listing.Rollback

/-!
# One rollback for one chain

A rollback request is of the receipt and the verification that its case is
about, and its authority covers the listing and the action type it names.
However rollbacks are ordered, the adapter is called at most once under one
idempotency key, which stands for the whole chain of what is rolled back.
-/

namespace SanTanHeights.Listing

open Foundation Foundation.Json Foundation.Outcome Shared
open Foundation.Runs
open Community (FromIsoformat texts)
open Community.History (distinctKeys_obj distinctKeys_texts texts_injective sortKeys_texts)

/-! ## What fingerprints determine -/

theorem ExecutionReceipt.distinctKeys_payload (receipt : ExecutionReceipt) :
    receipt.payload.DistinctKeys := by
  simp [payload, distinctKeys_obj]

theorem ExecutionReceipt.eq_of_payload (left right : ExecutionReceipt)
    (same : sortKeys left.payload = sortKeys right.payload)
    (fingerprint : left.receiptFingerprint = right.receiptFingerprint) :
    left = right := by
  have parts := forall₂_of_sortKeys_obj_eq same rfl (by simp)
  simp only [List.forall₂_cons, sortKeys_str, sortKeys_texts,
    sortKeys_ofOptional, Json.str.injEq, texts_injective.eq_iff,
    ofOptional_injective.eq_iff] at parts
  obtain ⟨receiptId, requestId, request, key, proposal, action, approval,
    authority, adapter, response, outcome, external, attempted, suppressed,
    unknown, recordedAt, lineage, immutable, eligible, _⟩ := parts
  exact (mk.injEq ..).mpr ⟨receiptId, requestId, request, key, proposal,
    action, approval, authority, adapter, response, outcome, external,
    Json.bool.inj attempted, Json.bool.inj suppressed,
    Json.bool.inj unknown, recordedAt, lineage, Json.bool.inj immutable,
    Json.bool.inj eligible, fingerprint⟩

theorem VerificationState.code_injective : Function.Injective VerificationState.code := by
  intro left right same
  cases left <;> cases right <;> simp_all [code]

theorem VerificationReceipt.distinctKeys_payload (verification : VerificationReceipt) :
    verification.payload.DistinctKeys := by
  simp [payload, distinctKeys_obj]

theorem VerificationReceipt.eq_of_payload (left right : VerificationReceipt)
    (same : sortKeys left.payload = sortKeys right.payload)
    (fingerprint : left.verificationFingerprint = right.verificationFingerprint) :
    left = right := by
  have parts := forall₂_of_sortKeys_obj_eq same rfl (by simp)
  simp only [List.forall₂_cons, sortKeys_str, sortKeys_texts,
    sortKeys_ofOptional, Json.str.injEq, texts_injective.eq_iff, ofOptional_injective.eq_iff,
    VerificationState.code_injective.eq_iff] at parts
  obtain ⟨verificationId, receipt, observation, state, expected, observed,
    reasons, verifiedAt, immutable, _⟩ := parts
  exact (mk.injEq ..).mpr ⟨verificationId, receipt, observation, state,
    expected, observed, reasons, verifiedAt, Json.bool.inj immutable, fingerprint⟩

theorem ReconciliationCase.distinctKeys_payload
    (case_ : ReconciliationCase) : case_.payload.DistinctKeys := by
  simp [payload, distinctKeys_obj]

theorem ReconciliationCase.eq_of_payload (left right : ReconciliationCase)
    (same : sortKeys left.payload = sortKeys right.payload)
    (fingerprint : left.caseFingerprint = right.caseFingerprint) :
    left = right := by
  have parts := forall₂_of_sortKeys_obj_eq same rfl (by simp)
  simp only [List.forall₂_cons, sortKeys_str, sortKeys_texts,
    Json.str.injEq, texts_injective.eq_iff] at parts
  obtain ⟨caseId, receipt, verification, state, reasons, corrective,
    eligibility, openedAt, _⟩ := parts
  exact (mk.injEq ..).mpr ⟨caseId, receipt, verification, state, reasons,
    Json.bool.inj corrective, eligibility, openedAt, fingerprint⟩

theorem RollbackApproval.distinctKeys_payload
    (approval : RollbackApproval) : approval.payload.DistinctKeys := by
  simp [payload, distinctKeys_obj]

theorem RollbackApproval.eq_of_payload (left right : RollbackApproval)
    (same : sortKeys left.payload = sortKeys right.payload)
    (fingerprint : left.approvalFingerprint = right.approvalFingerprint) :
    left = right := by
  have parts := forall₂_of_sortKeys_obj_eq same rfl (by simp)
  simp only [List.forall₂_cons, sortKeys_str, Json.str.injEq] at parts
  obtain ⟨approvalId, case_, actorId, decision, approvedAt, rationale, _⟩ := parts
  exact (mk.injEq ..).mpr ⟨approvalId, case_, actorId, decision, approvedAt, rationale, fingerprint⟩

theorem RollbackAuthority.distinctKeys_payload
    (authority : RollbackAuthority) : authority.payload.DistinctKeys := by
  simp [payload, distinctKeys_obj]

theorem RollbackAuthority.eq_of_payload (left right : RollbackAuthority)
    (same : sortKeys left.payload = sortKeys right.payload)
    (fingerprint : left.authorityFingerprint = right.authorityFingerprint) :
    left = right := by
  have parts := forall₂_of_sortKeys_obj_eq same rfl (by simp)
  simp only [List.forall₂_cons, sortKeys_str, sortKeys_texts,
    Json.str.injEq, texts_injective.eq_iff] at parts
  obtain ⟨authorityId, principalId, listing, actions, status, validFrom,
    validUntil, source, _⟩ := parts
  exact (mk.injEq ..).mpr ⟨authorityId, principalId, listing, actions, status,
    validFrom, validUntil, source, fingerprint⟩

/-! ## Rollbacks -/

/-- The execution of a rollback, with the order that its request was built of,
and the receipt and the verification that its case was opened for. -/
structure Rollback where
  call : RollbackCall
  order : RollbackOrder
  receipt : ExecutionReceipt
  verification : VerificationReceipt

/-- A verification that `verify_execution` made. -/
def VerificationReceipt.Produced
    (fromisoformat : FromIsoformat) (registry : VerificationRegistry)
    (verification : VerificationReceipt) : Prop :=
  ∃ call, verifyExecution fromisoformat registry call = .ok verification

/-- An action that `authorize_action` authorized. -/
def AuthorizedAction.Produced (fromisoformat : FromIsoformat) (registry : ExecutionRegistry)
    (action : AuthorizedAction) : Prop :=
  ∃ authorization : Authorization,
    authorization.Made fromisoformat registry ∧ authorization.action = action

/-- A case that was opened for some receipt. -/
def ReconciliationCase.Produced
    (fromisoformat : FromIsoformat) (case_ : ReconciliationCase) : Prop :=
  ∃ reconciliationCaseId receipt verification openedAt,
    buildReconciliationCase fromisoformat reconciliationCaseId receipt
      verification openedAt = .ok (some case_)

theorem ReconciliationCase.Produced.hashed
    {fromisoformat : FromIsoformat} {case_ : ReconciliationCase}
    (produced : case_.Produced fromisoformat) :
    hash case_.payload = .ok case_.caseFingerprint := by
  obtain ⟨_, _, _, _, built⟩ := produced
  obtain ⟨_, _, _, fingerprint, hashed, rfl⟩ := buildReconciliationCase_eq_some.mp built
  exact hashed

namespace Rollback

/-- The arguments of a rollback were made by their constructors. -/
structure Issued (fromisoformat : FromIsoformat) (execution : ExecutionRegistry)
    (registry : VerificationRegistry) (rollback : Rollback) : Prop where
  receipt : rollback.receipt.Produced fromisoformat execution
  originalReceipt : rollback.order.originalReceipt.Produced fromisoformat execution
  verification : rollback.verification.Produced fromisoformat registry
  orderVerification : rollback.order.verification.Produced fromisoformat registry
  action : rollback.order.originalAction.Produced fromisoformat execution
  opened : ∃ reconciliationCaseId openedAt,
    buildReconciliationCase fromisoformat reconciliationCaseId
      rollback.receipt rollback.verification openedAt = .ok (some rollback.order.reconciliationCase)
  callCase : rollback.call.reconciliationCase.Produced fromisoformat
  approval : ∃ given, makeRollbackApproval fromisoformat given = .ok rollback.order.rollbackApproval
  callApproval : ∃ given, makeRollbackApproval fromisoformat given =
    .ok rollback.call.rollbackApproval
  authority : ∃ given, makeRollbackAuthority fromisoformat given =
    .ok rollback.order.rollbackAuthority
  callAuthority : ∃ given, makeRollbackAuthority fromisoformat given =
    .ok rollback.call.rollbackAuthority
  built : buildRollbackRequest fromisoformat rollback.order = .ok rollback.call.request

/-- The records of a rollback have no collisions. -/
structure CollisionFree (rollback : Rollback) : Prop where
  receipts : Sha256.CollisionFree (textsOf
    {rollback.order.originalReceipt.payload, rollback.receipt.payload})
  verifications : Sha256.CollisionFree (textsOf
    {rollback.order.verification.payload, rollback.verification.payload})
  cases : Sha256.CollisionFree (textsOf {rollback.call.reconciliationCase.payload,
      rollback.order.reconciliationCase.payload})
  approvals : Sha256.CollisionFree (textsOf {rollback.call.rollbackApproval.payload,
      rollback.order.rollbackApproval.payload})
  authorities : Sha256.CollisionFree (textsOf {rollback.call.rollbackAuthority.payload,
      rollback.order.rollbackAuthority.payload})

/-- What the keys of some rollbacks cover. -/
def keyPayloads (rollbacks : List Rollback) : Set Json :=
  {value | ∃ rollback ∈ rollbacks, value = rollback.order.keyPayload}

/-- What a rollback undoes and what it does so under. -/
def chain (rollback : Rollback) : List String :=
  [rollback.order.originalAction.proposalFingerprint,
    rollback.order.originalAction.authorizedActionFingerprint,
    rollback.order.originalReceipt.receiptFingerprint,
    rollback.order.verification.verificationFingerprint,
    rollback.order.reconciliationCase.caseFingerprint,
    rollback.order.rollbackApproval.approvalFingerprint,
    rollback.order.rollbackAuthority.authorityFingerprint, rollback.order.adapterId]

/-- The request of a rollback is of the receipt and the verification of its
case, under an approval of the case and an authority for its scope. -/
structure Exact (fromisoformat : FromIsoformat) (rollback : Rollback) : Prop where
  receipt : rollback.order.originalReceipt = rollback.receipt
  verification : rollback.order.verification = rollback.verification
  verified : rollback.verification.executionReceiptFingerprint = rollback.receipt.receiptFingerprint
  mismatch : rollback.verification.verificationState = .mismatch
  attempted : rollback.receipt.sideEffectAttempted = true
  namesReceipt : rollback.call.request.originalExecutionReceiptFingerprint =
    rollback.receipt.receiptFingerprint
  namesAction :
    rollback.call.request.originalProposalFingerprint =
        rollback.order.originalAction.proposalFingerprint ∧
      rollback.call.request.originalAuthorizedActionFingerprint =
          rollback.order.originalAction.authorizedActionFingerprint ∧
        rollback.call.request.listingId =
            rollback.order.originalAction.listingId ∧
          rollback.call.request.originalActionType = rollback.order.originalAction.actionType
  acceptable : rollback.order.Acceptable fromisoformat

/-- An executed rollback was ordered on its case, approval and authority. -/
structure Executed (fromisoformat : FromIsoformat) (rollback : Rollback) : Prop where
  reconciliationCase : rollback.call.reconciliationCase = rollback.order.reconciliationCase
  approval : rollback.call.rollbackApproval = rollback.order.rollbackApproval
  authority : rollback.call.rollbackAuthority = rollback.order.rollbackAuthority
  cleared : rollback.call.Cleared fromisoformat

end Rollback

section Exact

variable {fromisoformat : FromIsoformat} {execution : ExecutionRegistry}
  {registry : VerificationRegistry} {rollbacks : List Rollback}
  {rollback : Rollback}

theorem Rollback.Issued.exact (issued : rollback.Issued fromisoformat execution registry)
    (collisionFree : rollback.CollisionFree) :
    rollback.Exact fromisoformat := by
  obtain ⟨acceptable, key, keyHashed, fingerprint, hashed, request⟩ :=
    buildRollbackRequest_eq_ok.mp issued.built
  obtain ⟨caseId, openedAt, opened⟩ := issued.opened
  obtain ⟨_, bound, _, caseFingerprint, caseHashed, drafted⟩ :=
    buildReconciliationCase_eq_some.mp opened
  have receipt : rollback.order.originalReceipt = rollback.receipt := by
    refine eq_of_fingerprints_eq ExecutionReceipt.distinctKeys_payload
      ExecutionReceipt.eq_of_payload collisionFree.receipts (.inl rfl)
      (.inr rfl)
      issued.originalReceipt.hashed issued.receipt.hashed ?_
    rw [← acceptable.receipt, ← drafted]
    rfl
  have verification :
      rollback.order.verification = rollback.verification := by
    obtain ⟨_, verified⟩ := issued.verification
    obtain ⟨_, orderVerified⟩ := issued.orderVerification
    refine eq_of_fingerprints_eq VerificationReceipt.distinctKeys_payload
      VerificationReceipt.eq_of_payload collisionFree.verifications (.inl rfl)
      (.inr rfl)
      (hash_of_verifyExecution orderVerified)
      (hash_of_verifyExecution verified) ?_
    rw [← acceptable.verification, ← drafted]
    rfl
  have eligible : rollback.verification.verificationState = .mismatch ∧
      rollback.receipt.sideEffectAttempted = true := by
    have eligible := acceptable.eligible
    rw [← drafted] at eligible
    by_contra ineligible
    simp [draftCase, ineligible] at eligible
  exact
    { receipt := receipt
      verification := verification
      verified := bound
      mismatch := eligible.1
      attempted := eligible.2
      namesReceipt := by
        rw [← request, ← receipt]
        rfl
      namesAction := by
        rw [← request]
        exact ⟨rfl, rfl, rfl, rfl⟩
      acceptable := acceptable }

theorem Rollback.Issued.executed {outcome : RollbackExecution}
    (issued : rollback.Issued fromisoformat execution registry)
    (collisionFree : rollback.CollisionFree)
    (executes : executeRollback fromisoformat rollback.call = .ok outcome) :
    rollback.Executed fromisoformat := by
  have cleared := (executeRollback_eq_ok.mp executes).1
  obtain ⟨_, key, _, fingerprint, _, request⟩ := buildRollbackRequest_eq_ok.mp issued.built
  obtain ⟨caseId, openedAt, opened⟩ := issued.opened
  have orderCase : rollback.order.reconciliationCase.Produced fromisoformat := ⟨_, _, _, _, opened⟩
  obtain ⟨_, approval⟩ := issued.approval
  obtain ⟨_, callApproval⟩ := issued.callApproval
  obtain ⟨_, authority⟩ := issued.authority
  obtain ⟨_, callAuthority⟩ := issued.callAuthority
  refine ⟨?_, ?_, ?_, cleared⟩
  · refine eq_of_fingerprints_eq ReconciliationCase.distinctKeys_payload
      ReconciliationCase.eq_of_payload collisionFree.cases (.inl rfl)
      (.inr rfl)
      issued.callCase.hashed orderCase.hashed ?_
    rw [← cleared.reconciliationCase, ← request]
    rfl
  · refine eq_of_fingerprints_eq RollbackApproval.distinctKeys_payload
      RollbackApproval.eq_of_payload collisionFree.approvals (.inl rfl)
      (.inr rfl)
      (hash_of_makeRollbackApproval callApproval)
      (hash_of_makeRollbackApproval approval) ?_
    rw [← cleared.approval, ← request]
    rfl
  · refine eq_of_fingerprints_eq RollbackAuthority.distinctKeys_payload
      RollbackAuthority.eq_of_payload collisionFree.authorities (.inl rfl)
      (.inr rfl)
      (hash_of_makeRollbackAuthority callAuthority)
      (hash_of_makeRollbackAuthority authority) ?_
    rw [← cleared.authority, ← request]
    rfl

theorem RollbackOrder.distinctKeys_keyPayload (order : RollbackOrder) :
    order.keyPayload.DistinctKeys := by
  simp [keyPayload, distinctKeys_obj]

theorem Rollback.Issued.hash_keyPayload
    (issued : rollback.Issued fromisoformat execution registry) :
    hash rollback.order.keyPayload = .ok rollback.call.request.idempotencyKey := by
  obtain ⟨_, key, keyHashed, _, _, request⟩ := buildRollbackRequest_eq_ok.mp issued.built
  rw [← request]
  exact keyHashed

/-- Rollbacks have one key just where they are of one chain. -/
theorem rollback_idempotencyKey_eq_iff {left right : Rollback}
    (leftIssued : left.Issued fromisoformat execution registry)
    (rightIssued : right.Issued fromisoformat execution registry)
    (leftListed : left ∈ rollbacks) (rightListed : right ∈ rollbacks)
    (collisionFree : Sha256.CollisionFree (textsOf (Rollback.keyPayloads rollbacks))) :
    left.call.request.idempotencyKey = right.call.request.idempotencyKey ↔
      left.chain = right.chain := by
  have leftHashed := leftIssued.hash_keyPayload
  have rightHashed := rightIssued.hash_keyPayload
  constructor
  · intro same
    rw [same] at leftHashed
    have covered : sortKeys left.order.keyPayload =
        sortKeys right.order.keyPayload :=
      sortKeys_eq_of_sha256Dumps_eq collisionFree
        ⟨left, leftListed, rfl⟩ ⟨right, rightListed, rfl⟩
        left.order.distinctKeys_keyPayload
        right.order.distinctKeys_keyPayload leftHashed rightHashed
    have parts := forall₂_of_sortKeys_obj_eq covered rfl (by simp)
    simp only [List.forall₂_cons, sortKeys_str, Json.str.injEq] at parts
    obtain ⟨proposal, action, receipt, verification, case_, approval,
      authority, adapter, _⟩ := parts
    rw [Rollback.chain, Rollback.chain, proposal, action, receipt,
      verification, case_, approval, authority, adapter]
  · intro same
    simp only [Rollback.chain, List.cons.injEq, and_true] at same
    obtain ⟨proposal, action, receipt, verification, case_, approval, authority, adapter⟩ := same
    rw [RollbackOrder.keyPayload, proposal, action, receipt, verification,
      case_, approval, authority, adapter] at leftHashed
    exact Except.ok.inj (leftHashed.symm.trans rightHashed)

end Exact

/-! ## Runs -/

/-- The rollback receipts that were returned, and the requests the adapter was
called with. -/
structure RollbackJournal where
  receipts : List RollbackReceipt
  invocations : List RollbackRequest

def RollbackJournal.empty : RollbackJournal := ⟨[], []⟩

/-- What the execution of a rollback adds to the journal. -/
def RollbackJournal.record (journal : RollbackJournal) (rollback : Rollback)
    (outcome : RollbackExecution) : RollbackJournal where
  receipts := journal.receipts ++ [outcome.receipt]
  invocations :=
    if outcome.invoked = true then
      journal.invocations ++ [rollback.call.request]
    else journal.invocations

/-- A rollback is executed, or its execution raises.  Every receipt so far is
among its prior receipts. -/
def RollbackStep (fromisoformat : FromIsoformat) (execution : ExecutionRegistry)
    (registry : VerificationRegistry) (journal : RollbackJournal)
    (rollback : Rollback) (next : RollbackJournal) : Prop :=
  rollback.Issued fromisoformat execution registry ∧
    (∀ receipt ∈ journal.receipts, receipt ∈ rollback.call.priorReceipts) ∧
      ((∃ outcome, executeRollback fromisoformat rollback.call =
            .ok outcome ∧ next = journal.record rollback outcome) ∨
        (∃ message, executeRollback fromisoformat rollback.call = .error message) ∧ next = journal)

section Runs

variable {fromisoformat : FromIsoformat} {execution : ExecutionRegistry}
  {registry : VerificationRegistry}

/-- What holds of the journal after some rollbacks. -/
structure RollbackJournal.Sound
    (history : List Rollback) (journal : RollbackJournal) : Prop where
  once : OncePerKey RollbackReceipt.idempotencyKey
    RollbackRequest.idempotencyKey journal.receipts journal.invocations
  ordered : ∀ request ∈ journal.invocations, ∃ rollback ∈ history, rollback.call.request = request

theorem RollbackJournal.Sound.step
    {history : List Rollback} {journal next : RollbackJournal} {rollback : Rollback}
    (sound : journal.Sound history)
    (taken : RollbackStep fromisoformat execution registry journal rollback next) :
    next.Sound (history ++ [rollback]) := by
  have ordered : ∀ request ∈ journal.invocations,
      ∃ earlier ∈ history ++ [rollback], earlier.call.request = request := by
    intro request listed
    obtain ⟨earlier, present, same⟩ := sound.ordered request listed
    exact ⟨earlier, List.mem_append_left _ present, same⟩
  obtain ⟨_, prior, ⟨outcome, executed, rfl⟩ | ⟨_, rfl⟩⟩ := taken
  · by_cases invoked : outcome.invoked = true
    · have fresh := (rollback_invoked_iff executed).mp invoked
      have record : (journal.record rollback outcome).invocations =
          journal.invocations ++ [rollback.call.request] := if_pos invoked
      constructor
      · rw [record]
        exact sound.once.carryOut (idempotencyKey_of_executeRollback executed)
          fun receipt listed => fresh receipt (prior receipt listed)
      · rw [record]
        intro request listed
        rcases List.mem_append.mp listed with earlier | now
        · exact ordered request earlier
        · exact ⟨rollback, List.mem_concat_self, (List.mem_singleton.mp now).symm⟩
    · have record : (journal.record rollback outcome).invocations =
          journal.invocations := if_neg invoked
      constructor
      · rw [record]
        exact sound.once.record outcome.receipt
      · rw [record]
        exact ordered
  · exact ⟨sound.once, ordered⟩

theorem RollbackJournal.sound_of_run {rollbacks : List Rollback} {journal : RollbackJournal}
    (ran : Exec (RollbackStep fromisoformat execution registry) .empty rollbacks journal) :
    journal.Sound rollbacks := by
  apply ran.history_invariant
  · exact ⟨OncePerKey.nil, fun _ listed => absurd listed List.not_mem_nil⟩
  · exact fun _ _ _ _ sound taken => sound.step taken

/-- However rollbacks are ordered, each is of the receipt its case is about
under an authority for its scope, and the adapter is called at most once for a
chain; once a receipt has the key of a rollback, it attempts no side effect. -/
theorem rolled_back_once_per_chain {rollbacks : List Rollback} {journal : RollbackJournal}
    (ran : Exec (RollbackStep fromisoformat execution registry) .empty
      rollbacks journal)
    (collisionFree : ∀ rollback ∈ rollbacks, rollback.CollisionFree)
    (keysFree :
      Sha256.CollisionFree (textsOf (Rollback.keyPayloads rollbacks))) :
    (∀ rollback ∈ rollbacks, rollback.Exact fromisoformat ∧
      ∀ outcome, executeRollback fromisoformat rollback.call = .ok outcome →
        rollback.Executed fromisoformat) ∧
    (journal.invocations.map RollbackRequest.idempotencyKey).Nodup ∧
    (∀ left ∈ rollbacks, ∀ right ∈ rollbacks,
      left.call.request.idempotencyKey =
          right.call.request.idempotencyKey ↔ left.chain = right.chain) ∧
    (∀ rollback next, RollbackStep fromisoformat execution registry journal
      rollback next →
      ∀ outcome, executeRollback fromisoformat rollback.call = .ok outcome →
      ∀ receipt ∈ journal.receipts,
        receipt.idempotencyKey = rollback.call.request.idempotencyKey →
        outcome.invoked = false ∧ outcome.receipt.sideEffectAttempted = false ∧
          outcome.receipt.outcome ∈
            ["BLOCKED_OUTCOME_UNKNOWN", "DUPLICATE_SUPPRESSED"] ∧
          (receipt.outcome = "OUTCOME_UNKNOWN" →
            outcome.receipt.outcome = "BLOCKED_OUTCOME_UNKNOWN")) ∧
    ((∀ left ∈ rollbacks, ∀ right ∈ rollbacks, left.chain = right.chain) →
      journal.invocations.length ≤ 1) := by
  have sound := RollbackJournal.sound_of_run ran
  have keys : ∀ left ∈ rollbacks, ∀ right ∈ rollbacks,
      left.call.request.idempotencyKey =
        right.call.request.idempotencyKey ↔ left.chain = right.chain := by
    intro left leftListed right rightListed
    obtain ⟨_, _, leftIssued, _⟩ := ran.step_of_mem leftListed
    obtain ⟨_, _, rightIssued, _⟩ := ran.step_of_mem rightListed
    exact rollback_idempotencyKey_eq_iff leftIssued rightIssued leftListed
      rightListed keysFree
  refine ⟨?_, sound.once.distinct, keys, ?_, ?_⟩
  · intro rollback listed
    obtain ⟨_, _, issued, _⟩ := ran.step_of_mem listed
    exact ⟨issued.exact (collisionFree rollback listed), fun _ executes =>
      issued.executed (collisionFree rollback listed) executes⟩
  · rintro rollback next ⟨_, prior, _⟩ outcome executed receipt listed same
    exact rollback_suppressed_of_prior executed (prior receipt listed) same
  · intro oneChain
    apply sound.once.length_le_one
    intro first firstListed second secondListed
    obtain ⟨left, leftListed, rfl⟩ := sound.ordered first firstListed
    obtain ⟨right, rightListed, rfl⟩ := sound.ordered second secondListed
    exact (keys left leftListed right rightListed).mpr
      (oneChain left leftListed right rightListed)

end Runs

/-! ## Samples -/

theorem isHex64_of_hash {value : Json} {fingerprint : String}
    (hashed : hash value = .ok fingerprint) :
    Sha256.isHex64 fingerprint = true := by
  obtain ⟨text, _, rfl⟩ := sha256Dumps_eq_ok.mp hashed
  exact Sha256.isHex64_hexdigest _

theorem ReconciliationCase.textual_payload (case_ : ReconciliationCase) :
    Textual case_.payload := by
  simp [payload, textual_obj, IsTagged, texts]

theorem RollbackApproval.textual_payload (approval : RollbackApproval) :
    Textual approval.payload := by
  simp [payload, textual_obj, IsTagged]

theorem RollbackAuthority.textual_payload (authority : RollbackAuthority) :
    Textual authority.payload := by
  simp [payload, textual_obj, IsTagged, texts]

theorem RollbackOrder.textual_keyPayload (order : RollbackOrder) :
    Textual order.keyPayload := by
  simp [keyPayload, textual_obj, IsTagged]

theorem RollbackRequest.textual_payload (request : RollbackRequest) :
    Textual request.payload := by
  simp [payload, textual_obj, IsTagged]

theorem RollbackReceipt.textual_payload (receipt : RollbackReceipt) :
    Textual receipt.payload := by
  simp [payload, textual_obj, IsTagged]

/-- A rollback that passes its checks returns. -/
theorem RollbackCall.Cleared.exists_outcome
    {fromisoformat : FromIsoformat} {call : RollbackCall}
    (cleared : call.Cleared fromisoformat) :
    ∃ outcome, executeRollback fromisoformat call = .ok outcome := by
  obtain ⟨fingerprint, hashed⟩ := exists_hash_of_textual
    (call.draft (if call.previous = [] then call.attempted
      else call.suppressed)).textual_payload
  exact ⟨⟨decide (call.previous = []), _⟩, executeRollback_eq_ok.mpr
    ⟨cleared, rollbackReceipt_eq_ok.mpr ⟨fingerprint, hashed, rfl⟩, rfl⟩⟩

/-- What sample rollbacks share. -/
structure SampleChain where
  receipt : ExecutionReceipt
  verification : VerificationReceipt
  reconciliationCase : ReconciliationCase
  approval : RollbackApproval
  authority : RollbackAuthority
  action : AuthorizedAction

namespace SampleChain

/-- The order of a rollback through an adapter. -/
def order (chain : SampleChain) (adapterId : String) : RollbackOrder where
  rollbackRequestId := "ROLLBACK"
  reconciliationCase := chain.reconciliationCase
  originalAction := chain.action
  originalReceipt := chain.receipt
  verification := chain.verification
  rollbackApproval := chain.approval
  rollbackAuthority := chain.authority
  adapterId := adapterId
  requestedAt := "2026-02-01T00:00:00+00:00"

/-- The rollback of a request, by an adapter that raises. -/
def rollback (chain : SampleChain) (adapterId : String) (request : RollbackRequest)
    (priorReceipts : List RollbackReceipt) : Rollback where
  call :=
    { rollbackReceiptId := "RECEIPT"
      request := request
      reconciliationCase := chain.reconciliationCase
      rollbackApproval := chain.approval
      rollbackAuthority := chain.authority
      adapter := fun _ => none
      priorReceipts := priorReceipts
      executionAt := "2026-02-01T00:00:00+00:00" }
  order := chain.order adapterId
  receipt := chain.receipt
  verification := chain.verification

/-- The parts of a chain were made by their constructors. -/
structure Made (chain : SampleChain) : Prop where
  receipt : chain.receipt.Produced Community.sampleFromisoformat executionRegistry
  verification : chain.verification.Produced Community.sampleFromisoformat verificationRegistry
  action : chain.action.Produced Community.sampleFromisoformat executionRegistry
  opened : ∃ reconciliationCaseId openedAt,
    buildReconciliationCase Community.sampleFromisoformat
      reconciliationCaseId chain.receipt chain.verification openedAt =
        .ok (some chain.reconciliationCase)
  approval : ∃ given, makeRollbackApproval Community.sampleFromisoformat given = .ok chain.approval
  authority : ∃ given, makeRollbackAuthority Community.sampleFromisoformat
    given = .ok chain.authority
  acceptable : ∀ adapterId, (chain.order adapterId).Acceptable Community.sampleFromisoformat

theorem collisionFree_rollback
    (chain : SampleChain) (adapterId : String) (request : RollbackRequest)
    (priorReceipts : List RollbackReceipt) :
    (chain.rollback adapterId request priorReceipts).CollisionFree where
  receipts := collisionFree_textsOf_pair _
  verifications := collisionFree_textsOf_pair _
  cases := collisionFree_textsOf_pair _
  approvals := collisionFree_textsOf_pair _
  authorities := collisionFree_textsOf_pair _

/-- A chain is rolled back through any adapter. -/
theorem Made.exists_step {chain : SampleChain} (made : chain.Made) (adapterId : String)
    (journal : RollbackJournal) :
    ∃ request outcome, buildRollbackRequest Community.sampleFromisoformat
          (chain.order adapterId) = .ok request ∧
        executeRollback Community.sampleFromisoformat
            (chain.rollback adapterId request journal.receipts).call = .ok outcome ∧
          RollbackStep Community.sampleFromisoformat executionRegistry
            verificationRegistry journal
            (chain.rollback adapterId request journal.receipts)
            (journal.record (chain.rollback adapterId request journal.receipts) outcome) := by
  obtain ⟨key, keyHashed⟩ := exists_hash_of_textual (chain.order adapterId).textual_keyPayload
  obtain ⟨fingerprint, hashed⟩ := exists_hash_of_textual
    ((chain.order adapterId).draft key).textual_payload
  let request := { (chain.order adapterId).draft key with
    requestFingerprint := fingerprint }
  have built : buildRollbackRequest Community.sampleFromisoformat
      (chain.order adapterId) = .ok request :=
    buildRollbackRequest_eq_ok.mpr ⟨made.acceptable adapterId, key, keyHashed,
      fingerprint, hashed, rfl⟩
  obtain ⟨start, when, end_, startParsed, whenParsed, endParsed, inOrder⟩ :=
    (made.acceptable adapterId).times
  have cleared : (chain.rollback adapterId request
      journal.receipts).call.Cleared Community.sampleFromisoformat :=
    { reconciliationCase := rfl
      approval := rfl
      authority := rfl
      approved := (made.acceptable adapterId).approved
      times := ⟨start, when, end_, startParsed, whenParsed, endParsed,
        (made.acceptable adapterId).status, inOrder⟩ }
  obtain ⟨outcome, executed⟩ := cleared.exists_outcome
  obtain ⟨caseId, openedAt, opened⟩ := made.opened
  refine ⟨request, outcome, built, executed, ?_, fun _ listed => listed,
    .inl ⟨outcome, executed, rfl⟩⟩
  exact
    { receipt := made.receipt
      originalReceipt := made.receipt
      verification := made.verification
      orderVerification := made.verification
      action := made.action
      opened := made.opened
      callCase := ⟨_, _, _, _, opened⟩
      approval := made.approval
      callApproval := made.approval
      authority := made.authority
      callAuthority := made.authority
      built := built }

end SampleChain

/-- A chain about a receipt of the sample listing, under an action for a
listing. -/
structure SampleChain.About (listingId : String) (attempt : Attempt) (execution : Execution)
    (chain : SampleChain) : Prop where
  made : chain.Made
  attempted : attempt.Made Community.sampleFromisoformat executionRegistry
  executed : executeAuthorizedAction Community.sampleFromisoformat
    executionRegistry attempt.call = .ok execution
  receipt : chain.receipt = execution.receipt
  listing : attempt.call.authorizedAction.listingId = "LISTING"
  action : chain.action.listingId = listingId

theorem SampleAttempt.authorizedAction
    {listingId approvedAt requestedAt : String} {attempt : Attempt}
    (sample : SampleAttempt listingId approvedAt requestedAt attempt) :
    attempt.call.authorizedAction.listingId = listingId ∧
      attempt.call.authorizedAction.actionType = attempt.authorization.proposal.actionType := by
  have of : attempt.call.authorizedAction.Of
      attempt.authorization.proposal := by
    rw [← sample.made.action]
    exact AuthorizedFor.of ⟨_, _, _, _, sample.made.authorizationMade.authorized⟩
  exact ⟨of.listingId.trans sample.listing, of.actionType⟩

/-- An approval of the rollback of a case. -/
def sampleRollbackApproval (caseFingerprint : String) : RollbackApproval where
  rollbackApprovalId := "APPROVAL"
  reconciliationCaseFingerprint := caseFingerprint
  actorId := "ACTOR"
  decision := "APPROVED"
  approvedAt := "2026-02-01T00:00:00+00:00"
  rationaleFingerprint := Community.snapshotRegistry.certificationRoot
  approvalFingerprint := ""

/-- An authority to roll a listing back. -/
def sampleRollbackAuthority (listingId : String) : RollbackAuthority where
  rollbackAuthorityId := "AUTHORITY"
  principalId := "PRINCIPAL"
  listingId := listingId
  allowedOriginalActionTypes := ["PUBLISH"]
  status := "VALID"
  validFrom := "2026-01-01T00:00:00+00:00"
  validUntil := "2026-03-01T00:00:00+00:00"
  sourceFingerprint := Community.snapshotRegistry.certificationRoot
  authorityFingerprint := ""

theorem exists_sampleRollbackApproval {caseFingerprint : String}
    (shape : Sha256.isHex64 caseFingerprint = true) :
    ∃ fingerprint, makeRollbackApproval Community.sampleFromisoformat
        (sampleRollbackApproval caseFingerprint) =
      .ok { sampleRollbackApproval caseFingerprint with
        approvalFingerprint := fingerprint } := by
  obtain ⟨fingerprint, hashed⟩ := exists_hash_of_textual
    (sampleRollbackApproval caseFingerprint).textual_payload
  have root : Sha256.isHex64
      Community.snapshotRegistry.certificationRoot = true :=
    Sha256.isHex64_ofList rfl rfl
  refine ⟨fingerprint, ?_⟩
  simp only [makeRollbackApproval, bind_eq_ok, require_eq_ok, exists_const,
    validateFp, parseTs_eq_ok, pure_eq_ok]
  exact ⟨List.mem_cons_self, shape, root, 1769904000, rfl, fingerprint, hashed, rfl⟩

theorem exists_sampleRollbackAuthority (listingId : String) :
    ∃ fingerprint, makeRollbackAuthority Community.sampleFromisoformat
        (sampleRollbackAuthority listingId) =
      .ok { sampleRollbackAuthority listingId with
        authorityFingerprint := fingerprint } := by
  obtain ⟨fingerprint, hashed⟩ := exists_hash_of_textual
    (sampleRollbackAuthority listingId).textual_payload
  have root : Sha256.isHex64
      Community.snapshotRegistry.certificationRoot = true :=
    Sha256.isHex64_ofList rfl rfl
  refine ⟨fingerprint, ?_⟩
  simp only [makeRollbackAuthority, bind_eq_ok, require_eq_ok, exists_const,
    validateFp, parseTs_eq_ok, pure_eq_ok]
  exact ⟨1767225600, rfl, 1772323200, rfl, by omega, root,
    List.cons_ne_nil _ _, fingerprint, hashed, rfl⟩

theorem exists_sampleChain {listingId : String} (named : Text.isBlank listingId = false) :
    ∃ attempt execution chain, SampleChain.About listingId attempt execution chain := by
  obtain ⟨attempt, execution, verifying, verification, sample⟩ :=
    exists_sampleVerification "LISTING" "EXPECTED"
  obtain ⟨other, otherSample⟩ := @exists_sampleAttempt listingId
    "2026-01-01T00:00:00+00:00" "2026-02-01T00:00:00+00:00" 1767225600
    1769904000 named rfl rfl
  have attempted : execution.receipt.sideEffectAttempted = true := by
    rw [sideEffectAttempted_of_execute sample.executed, sample.invoked]
  have bound : verification.executionReceiptFingerprint =
      execution.receipt.receiptFingerprint := by
    obtain ⟨_, _, _, _, _, _, _, _, made⟩ := verifyExecution_eq_ok.mp sample.verified
    rw [← made, ← sample.receipt]
    rfl
  have mismatch : verification.verificationState = .mismatch := sample.state
  obtain ⟨caseFingerprint, caseHashed⟩ := exists_hash_of_textual
    (draftCase "CASE" execution.receipt verification "2026-02-01T00:00:00+00:00").textual_payload
  let case_ := { draftCase "CASE" execution.receipt verification
    "2026-02-01T00:00:00+00:00" with caseFingerprint := caseFingerprint }
  have opened : buildReconciliationCase Community.sampleFromisoformat "CASE"
      execution.receipt verification "2026-02-01T00:00:00+00:00" = .ok (some case_) :=
    buildReconciliationCase_eq_some.mpr ⟨⟨1769904000, rfl⟩, bound,
      by simp [mismatch], caseFingerprint, caseHashed, rfl⟩
  obtain ⟨approvalFingerprint, approvalMade⟩ :=
    exists_sampleRollbackApproval (isHex64_of_hash caseHashed)
  obtain ⟨authorityFingerprint, authorityMade⟩ := exists_sampleRollbackAuthority listingId
  obtain ⟨listing, actionType⟩ := otherSample.authorizedAction
  refine ⟨attempt, execution, ⟨execution.receipt, verification, case_,
    { sampleRollbackApproval caseFingerprint with
      approvalFingerprint := approvalFingerprint },
    { sampleRollbackAuthority listingId with
      authorityFingerprint := authorityFingerprint },
    other.call.authorizedAction⟩, ?_⟩
  exact
    { made :=
        { receipt := ⟨_, _, sample.executed, rfl⟩
          verification := ⟨_, sample.verified⟩
          action := ⟨_, otherSample.made.authorizationMade, otherSample.made.action⟩
          opened := ⟨_, _, opened⟩
          approval := ⟨_, approvalMade⟩
          authority := ⟨_, authorityMade⟩
          acceptable := fun adapterId =>
            { eligible := if_pos ⟨mismatch, attempted⟩
              isOpen := rfl
              receipt := rfl
              verification := rfl
              approvalCase := rfl
              approved := rfl
              status := rfl
              listing := listing.symm
              actionType := by
                dsimp only [SampleChain.order]
                rw [actionType, otherSample.actionType]
                exact List.mem_cons_self
              times := ⟨1767225600, 1769904000, 1772323200, rfl, rfl, rfl,
                by omega, by omega⟩ } }
      attempted := sample.attempted.made
      executed := sample.executed
      receipt := rfl
      listing := sample.attempted.authorizedAction.1
      action := listing }

/-- A sample chain is rolled back once. -/
theorem rolled_back_once_per_chain_sample :
    ∃ (rollback : Rollback) (journal : RollbackJournal),
      Exec (RollbackStep Community.sampleFromisoformat executionRegistry
        verificationRegistry) .empty [rollback] journal ∧
        rollback.Exact Community.sampleFromisoformat ∧
          journal.receipts.length = 1 ∧ journal.invocations.length ≤ 1 := by
  obtain ⟨_, _, chain, about⟩ :=
    @exists_sampleChain "LISTING" (by decide)
  obtain ⟨request, outcome, _, _, taken⟩ :=
    about.made.exists_step "ADAPTER" .empty
  have ran := Exec.single taken
  have keysFree : Sha256.CollisionFree (textsOf (Rollback.keyPayloads
      [chain.rollback "ADAPTER" request []])) := by
    refine collisionFree_textsOf ?_
    rintro _ ⟨_, leftListed, rfl⟩ _ ⟨_, rightListed, rfl⟩
    rw [List.mem_singleton.mp leftListed, List.mem_singleton.mp rightListed]
  obtain ⟨exact_, _, _, _, once⟩ := rolled_back_once_per_chain ran
    (List.forall_mem_singleton.mpr
      (chain.collisionFree_rollback "ADAPTER" request [])) keysFree
  refine ⟨_, _, ran, (exact_ _ List.mem_cons_self).1, rfl, once ?_⟩
  intro left leftListed right rightListed
  rw [List.mem_singleton.mp leftListed, List.mem_singleton.mp rightListed]

/-- A receipt of one listing is rolled back for another listing, and where the
keys of two adapters do not collide, through both. -/
theorem rolled_back_for_other_listing :
    ∃ (attempt : Attempt) (execution : Execution) (first second : Rollback)
        (journal : RollbackJournal),
      attempt.Made Community.sampleFromisoformat executionRegistry ∧
        executeAuthorizedAction Community.sampleFromisoformat
            executionRegistry attempt.call = .ok execution ∧
          Exec (RollbackStep Community.sampleFromisoformat executionRegistry
            verificationRegistry) .empty [first, second] journal ∧
            first.receipt = execution.receipt ∧
              second.receipt = execution.receipt ∧ journal.receipts.length = 2 ∧
                  first.call.request.listingId ≠
                      attempt.call.authorizedAction.listingId ∧
                    (Sha256.CollisionFree
                        (textsOf (Rollback.keyPayloads [first, second])) →
                      journal.invocations.length = 2) := by
  obtain ⟨attempt, execution, chain, about⟩ :=
    @exists_sampleChain "OTHER" (by decide)
  obtain ⟨request, outcome, built, executed, taken⟩ :=
    about.made.exists_step "FIRST" .empty
  set middle := RollbackJournal.empty.record (chain.rollback "FIRST" request
    RollbackJournal.empty.receipts) outcome
  obtain ⟨otherRequest, otherOutcome, _, otherExecuted, otherTaken⟩ :=
    about.made.exists_step "SECOND" middle
  refine ⟨attempt, execution, _, _, _, about.attempted, about.executed,
    .cons taken (.cons otherTaken (.nil _)), about.receipt, about.receipt,
    rfl, ?_, ?_⟩
  · obtain ⟨_, _, _, _, _, requestIs⟩ := buildRollbackRequest_eq_ok.mp built
    have listing : request.listingId = "OTHER" := by
      rw [← requestIs, ← about.action]
      rfl
    rw [about.listing]
    change request.listingId ≠ "LISTING"
    rw [listing]
    decide
  · intro keysFree
    have differ : request.idempotencyKey ≠ otherRequest.idempotencyKey := by
      intro same
      have chains := (rollback_idempotencyKey_eq_iff taken.1 otherTaken.1
        List.mem_cons_self (by simp) keysFree).mp same
      simp [Rollback.chain, SampleChain.rollback, SampleChain.order] at chains
    have invoked : outcome.invoked = true :=
      (rollback_invoked_iff executed).mpr fun _ listed =>
        absurd listed List.not_mem_nil
    have otherInvoked : otherOutcome.invoked = true := by
      refine (rollback_invoked_iff otherExecuted).mpr ?_
      intro receipt listed same
      change receipt ∈ [outcome.receipt] at listed
      rw [List.mem_singleton.mp listed,
        idempotencyKey_of_executeRollback executed] at same
      exact differ same
    simp [RollbackJournal.record, RollbackJournal.empty, middle, invoked,
      otherInvoked]

end SanTanHeights.Listing
