import SanTanHeights.Community.Sealing
import SanTanHeights.Foundation.Runs
import SanTanHeights.Listing.Execution
import SanTanHeights.Shared.Spelling

/-!
# One side effect for one issue

An idempotency key stands for a proposal, an approval, an authority and an
adapter.  However the executions of a proposal are submitted, the adapter is
called at most once under one key.
-/

namespace SanTanHeights.Listing

open Foundation Foundation.Json Foundation.Outcome Shared
open Foundation.Runs
open Community (FromIsoformat texts)
open Community.History (distinctKeys_obj distinctKeys_texts)

/-! ## What an execution does -/

/-- The checks of an execution pass. -/
structure ExecutionCall.Cleared (fromisoformat : FromIsoformat) (registry : ExecutionRegistry)
    (call : ExecutionCall) : Prop where
  identified : Text.isBlank call.receiptId = false
  proposed : validateProposal call.proposal = .ok ()
  bound : checkBindings call = .ok ()
  authorized : ∃ time, validateAuthority fromisoformat registry call.proposal
    call.approval call.authority call.executionAt = .ok time

theorem makeReceipt_eq_ok
    {call : ExecutionCall} {verdict : Verdict} {receipt : ExecutionReceipt} :
    makeReceipt call verdict = .ok receipt ↔
      ∃ fingerprint, hash (draftReceipt call verdict).payload =
          .ok fingerprint ∧
        { draftReceipt call verdict with receiptFingerprint := fingerprint } = receipt := by
  simp only [makeReceipt, bind_eq_ok, pure_eq_ok]

theorem executeAuthorizedAction_eq_ok
    {fromisoformat : FromIsoformat} {registry : ExecutionRegistry}
    {call : ExecutionCall} {execution : Execution} :
    executeAuthorizedAction fromisoformat registry call = .ok execution ↔
      call.Cleared fromisoformat registry ∧
        makeReceipt call (if call.previous = [] then call.attempted
            else call.suppressed) = .ok execution.receipt ∧
          execution.invoked = decide (call.previous = []) := by
  simp only [executeAuthorizedAction, bind_eq_ok, require_eq_ok, exists_const]
  constructor
  · rintro ⟨identified, _, proposed, _, bound, time, authorized, executed⟩
    refine ⟨⟨identified, proposed, bound, time, authorized⟩, ?_⟩
    split_ifs at executed with fresh
    · obtain ⟨receipt, made, result⟩ := bind_eq_ok.mp executed
      obtain rfl := pure_eq_ok.mp result
      rw [if_pos fresh, decide_eq_true fresh]
      exact ⟨made, rfl⟩
    · obtain ⟨receipt, made, result⟩ := bind_eq_ok.mp executed
      obtain rfl := pure_eq_ok.mp result
      rw [if_neg fresh, decide_eq_false fresh]
      exact ⟨made, rfl⟩
  · rintro ⟨cleared, made, invoked⟩
    obtain ⟨time, authorized⟩ := cleared.authorized
    refine ⟨cleared.identified, (), cleared.proposed, (), cleared.bound, time, authorized, ?_⟩
    cases execution
    dsimp only at made invoked
    split_ifs at made ⊢ with fresh
    · rw [invoked, decide_eq_true fresh]
      exact bind_eq_ok.mpr ⟨_, made, rfl⟩
    · rw [invoked, decide_eq_false fresh]
      exact bind_eq_ok.mpr ⟨_, made, rfl⟩

theorem ExecutionCall.previous_eq_nil_iff {call : ExecutionCall} :
    call.previous = [] ↔ ∀ receipt ∈ call.priorReceipts,
      receipt.idempotencyKey ≠ call.request.idempotencyKey := by
  simp [List.eq_nil_iff_forall_not_mem, previous]

theorem ExecutionCall.sideEffectAttempted_attempted (call : ExecutionCall) :
    call.attempted.sideEffectAttempted = true := by
  unfold attempted
  split
  · rfl
  · split_ifs <;> rfl

section Executed

variable {fromisoformat : FromIsoformat} {registry : ExecutionRegistry}
  {call : ExecutionCall} {execution : Execution}

/-- A receipt carries the key of its request. -/
theorem idempotencyKey_of_execute
    (executed : executeAuthorizedAction fromisoformat registry call = .ok execution) :
    execution.receipt.idempotencyKey = call.request.idempotencyKey := by
  obtain ⟨_, made, _⟩ := executeAuthorizedAction_eq_ok.mp executed
  obtain ⟨_, _, made⟩ := makeReceipt_eq_ok.mp made
  rw [← made]
  rfl

/-- The side effect is attempted just where the adapter is called. -/
theorem sideEffectAttempted_of_execute
    (executed : executeAuthorizedAction fromisoformat registry call = .ok execution) :
    execution.receipt.sideEffectAttempted = execution.invoked := by
  obtain ⟨_, made, invoked⟩ := executeAuthorizedAction_eq_ok.mp executed
  obtain ⟨_, _, made⟩ := makeReceipt_eq_ok.mp made
  rw [invoked, ← made]
  split_ifs with fresh
  · rw [decide_eq_true fresh]
    exact call.sideEffectAttempted_attempted
  · rw [decide_eq_false fresh]
    rfl

/-- The adapter is called just where no prior receipt has the key. -/
theorem invoked_iff
    (executed : executeAuthorizedAction fromisoformat registry call = .ok execution) :
    execution.invoked = true ↔ ∀ receipt ∈ call.priorReceipts,
      receipt.idempotencyKey ≠ call.request.idempotencyKey := by
  rw [(executeAuthorizedAction_eq_ok.mp executed).2.2, decide_eq_true_eq, call.previous_eq_nil_iff]

/-- Under the key of a prior receipt an execution is suppressed, and blocked
where the outcome is unknown. -/
theorem suppressed_of_prior {receipt : ExecutionReceipt}
    (executed : executeAuthorizedAction fromisoformat registry call = .ok execution)
    (prior : receipt ∈ call.priorReceipts)
    (same : receipt.idempotencyKey = call.request.idempotencyKey) :
    execution.invoked = false ∧ execution.receipt.outcome ∈
          ["BLOCKED_OUTCOME_UNKNOWN", "DUPLICATE_SUPPRESSED"] ∧
        (receipt.outcome ∈ unknownOutcomes →
          execution.receipt.outcome = "BLOCKED_OUTCOME_UNKNOWN") := by
  obtain ⟨_, made, invoked⟩ := executeAuthorizedAction_eq_ok.mp executed
  have present : receipt ∈ call.previous := by
    simpa [ExecutionCall.previous] using ⟨prior, same⟩
  have repeated : call.previous ≠ [] := List.ne_nil_of_mem present
  rw [if_neg repeated] at made
  obtain ⟨_, _, made⟩ := makeReceipt_eq_ok.mp made
  rw [invoked, ← made]
  refine ⟨decide_eq_false repeated, ?_, ?_⟩
  · simp only [draftReceipt, ExecutionCall.suppressed]
    split_ifs <;> simp
  · intro unknown
    exact if_pos ⟨receipt, present, unknown⟩

end Executed

/-! ## Submissions of one proposal -/

/-- An execution, with the authorized action that its request was built of. -/
structure Submission where
  call : ExecutionCall
  requested : AuthorizedAction

/-- An action that was authorized for a proposal. -/
def AuthorizedFor (fromisoformat : FromIsoformat) (registry : ExecutionRegistry)
    (proposal : GovernedActionProposal) (action : AuthorizedAction) : Prop :=
  ∃ authorizedActionId approval authority authorizedAt,
    authorizeAction fromisoformat registry authorizedActionId proposal
      approval authority authorizedAt = .ok action

namespace Submission

/-- The arguments of a submission were made by the functions for the
proposal. -/
structure Issued (fromisoformat : FromIsoformat) (registry : ExecutionRegistry)
    (proposal : GovernedActionProposal) (submission : Submission) :
    Prop where
  about : submission.call.proposal = proposal
  authorized : AuthorizedFor fromisoformat registry proposal submission.call.authorizedAction
  requested : AuthorizedFor fromisoformat registry proposal submission.requested
  built : ∃ requestId adapterId requestedAt,
    buildExecutionRequest fromisoformat requestId submission.requested
      adapterId requestedAt = .ok submission.call.request

/-- The execution of a submission returns. -/
def Executes (fromisoformat : FromIsoformat) (registry : ExecutionRegistry)
    (submission : Submission) (execution : Execution) : Prop :=
  executeAuthorizedAction fromisoformat registry submission.call = .ok execution

/-- What a submission is issued under: an approval, an authority and an
adapter. -/
def issue (submission : Submission) : String × String × String :=
  (submission.call.approval.approvalFingerprint,
    submission.call.authority.authorityFingerprint, submission.call.request.adapterId)

/-- What the key of a submission covers. -/
def keyed (proposal : GovernedActionProposal) (submission : Submission) : Json :=
  keyPayload proposal.proposalFingerprint submission.issue.1
    submission.issue.2.1 proposal.actionType proposal.listingId
    submission.issue.2.2

/-- The payloads of the authorized actions of some submissions. -/
def actionPayloads (submissions : List Submission) : Set Json :=
  {value | ∃ submission ∈ submissions,
    value = submission.call.authorizedAction.payload ∨ value = submission.requested.payload}

/-- What the keys of some submissions cover. -/
def keyPayloads (proposal : GovernedActionProposal) (submissions : List Submission) :
    Set Json :=
  {value | ∃ submission ∈ submissions, value = submission.keyed proposal}

end Submission

theorem authorizeAction_eq_ok {fromisoformat : FromIsoformat} {registry : ExecutionRegistry}
    {authorizedActionId authorizedAt : String}
    {proposal : GovernedActionProposal} {approval : HumanApproval}
    {authority : ExecutionAuthority} {action : AuthorizedAction} :
    authorizeAction fromisoformat registry authorizedActionId proposal
        approval authority authorizedAt = .ok action ↔
      Text.isBlank authorizedActionId = false ∧
        validateProposal proposal = .ok () ∧
          (∃ time, validateAuthority fromisoformat registry proposal approval
            authority authorizedAt = .ok time) ∧
            ∃ fingerprint, hash (draftAction registry authorizedActionId
                proposal approval authority authorizedAt).payload = .ok fingerprint ∧
              { draftAction registry authorizedActionId proposal approval
                  authority authorizedAt with
                authorizedActionFingerprint := fingerprint } = action := by
  simp only [authorizeAction, bind_eq_ok, require_eq_ok, exists_const, pure_eq_ok]
  constructor
  · rintro ⟨identified, _, proposed, time, authorized, made⟩
    exact ⟨identified, proposed, ⟨time, authorized⟩, made⟩
  · rintro ⟨identified, proposed, ⟨time, authorized⟩, made⟩
    exact ⟨identified, (), proposed, time, authorized, made⟩

/-- An authorized action carries what identifies its proposal. -/
structure AuthorizedAction.Of (proposal : GovernedActionProposal) (action : AuthorizedAction) :
    Prop where
  proposalFingerprint : action.proposalFingerprint = proposal.proposalFingerprint
  actionType : action.actionType = proposal.actionType
  listingId : action.listingId = proposal.listingId
  hashed : hash action.payload = .ok action.authorizedActionFingerprint

theorem AuthorizedFor.of {fromisoformat : FromIsoformat} {registry : ExecutionRegistry}
    {proposal : GovernedActionProposal} {action : AuthorizedAction}
    (authorized : AuthorizedFor fromisoformat registry proposal action) :
    action.Of proposal := by
  obtain ⟨_, _, _, _, authorizes⟩ := authorized
  obtain ⟨_, _, _, _, hashed, rfl⟩ := authorizeAction_eq_ok.mp authorizes
  exact ⟨rfl, rfl, rfl, hashed⟩

theorem AuthorizedAction.distinctKeys_payload (action : AuthorizedAction) :
    action.payload.DistinctKeys := by
  simp only [payload, distinctKeys_obj]
  refine ⟨by simp, ?_⟩
  simp only [List.forall_mem_cons]
  refine ⟨trivial, trivial, trivial, trivial, trivial, trivial, trivial,
    trivial, trivial, trivial, trivial, trivial, trivial, ?_, trivial, ?_⟩
  · exact distinctKeys_texts _
  · exact fun _ listed => absurd listed List.not_mem_nil

/-- Actions of one payload have the same approval and authority. -/
theorem AuthorizedAction.eq_of_sortKeys_eq {left right : AuthorizedAction}
    (same : sortKeys left.payload = sortKeys right.payload) :
    left.approvalFingerprint = right.approvalFingerprint ∧
      left.authorityFingerprint = right.authorityFingerprint := by
  have parts := forall₂_of_sortKeys_obj_eq same rfl (by simp)
  simp only [List.forall₂_cons, sortKeys_str, Json.str.injEq] at parts
  obtain ⟨_, _, _, _, _, _, _, approval, _, authority, _⟩ := parts
  exact ⟨approval, authority⟩

theorem keyPayload_inj {left right : Submission} {proposal : GovernedActionProposal}
    (same : sortKeys (left.keyed proposal) = sortKeys (right.keyed proposal)) :
    left.issue = right.issue := by
  have parts := forall₂_of_sortKeys_obj_eq same rfl (by simp)
  simp only [List.forall₂_cons, sortKeys_str, Json.str.injEq] at parts
  obtain ⟨_, approval, authority, _, _, adapter, _⟩ := parts
  exact Prod.ext approval (Prod.ext authority adapter)

theorem Submission.distinctKeys_keyed
    (proposal : GovernedActionProposal) (submission : Submission) :
    (submission.keyed proposal).DistinctKeys := by
  simp only [keyed, keyPayload, distinctKeys_obj]
  refine ⟨by simp, ?_⟩
  simp only [List.forall_mem_cons]
  exact ⟨trivial, trivial, trivial, trivial, trivial, trivial,
    fun _ listed => absurd listed List.not_mem_nil⟩

theorem checkBindings_eq_ok {call : ExecutionCall} :
    checkBindings call = .ok () ↔ call.authorizedAction.proposalFingerprint =
          call.proposal.proposalFingerprint ∧
        call.authorizedAction.approvalFingerprint =
            call.approval.approvalFingerprint ∧
          call.authorizedAction.authorityFingerprint =
              call.authority.authorityFingerprint ∧
            call.request.authorizedActionFingerprint =
                call.authorizedAction.authorizedActionFingerprint ∧
              call.request.proposalFingerprint = call.proposal.proposalFingerprint := by
  simp only [checkBindings, bind_eq_ok, require_eq_ok, exists_const]

theorem request_of_buildExecutionRequest
    {fromisoformat : FromIsoformat} {requestId adapterId requestedAt : String}
    {action : AuthorizedAction} {request : ExecutionRequest}
    (built : buildExecutionRequest fromisoformat requestId action adapterId
      requestedAt = .ok request) :
    request.authorizedActionFingerprint = action.authorizedActionFingerprint ∧
      request.proposalFingerprint = action.proposalFingerprint ∧
        request.adapterId = adapterId ∧
          hash (keyPayload action.proposalFingerprint
            action.approvalFingerprint action.authorityFingerprint
              action.actionType action.listingId adapterId) = .ok request.idempotencyKey := by
  simp only [buildExecutionRequest, bind_eq_ok, require_eq_ok, exists_const, pure_eq_ok] at built
  obtain ⟨_, _, _, key, keyHashed, _, _, rfl⟩ := built
  exact ⟨rfl, rfl, rfl, keyHashed⟩

variable {submissions : List Submission} {journal : Journal}

/-- The key of an issued submission is the hash of what it is issued under. -/
theorem Submission.Issued.hash_keyed
    {fromisoformat : FromIsoformat} {registry : ExecutionRegistry}
    {proposal : GovernedActionProposal} {submission : Submission}
    {execution : Execution} (issued : submission.Issued fromisoformat registry proposal)
    (executed : submission.Executes fromisoformat registry execution)
    (listed : submission ∈ submissions)
    (collisionFree : Sha256.CollisionFree (textsOf (actionPayloads submissions))) :
    hash (submission.keyed proposal) = .ok submission.call.request.idempotencyKey := by
  have cleared := (executeAuthorizedAction_eq_ok.mp executed).1
  obtain ⟨_, approval, authority, action, _⟩ := checkBindings_eq_ok.mp cleared.bound
  obtain ⟨_, _, _, built⟩ := issued.built
  obtain ⟨requested, _, adapter, key⟩ := request_of_buildExecutionRequest built
  have authorizedOf := issued.authorized.of
  have requestedOf := issued.requested.of
  have authorizedHashed := authorizedOf.hashed
  rw [← action, requested] at authorizedHashed
  have same := sortKeys_eq_of_sha256Dumps_eq collisionFree
    ⟨submission, listed, .inl rfl⟩ ⟨submission, listed, .inr rfl⟩
    submission.call.authorizedAction.distinctKeys_payload
    submission.requested.distinctKeys_payload authorizedHashed
    requestedOf.hashed
  obtain ⟨sameApproval, sameAuthority⟩ := AuthorizedAction.eq_of_sortKeys_eq same
  rw [← sameApproval, ← sameAuthority, approval, authority,
    requestedOf.proposalFingerprint, requestedOf.actionType,
    requestedOf.listingId, ← adapter] at key
  exact key

/-- Issued submissions have one key just where they are issued under the
same. -/
theorem idempotencyKey_eq_iff {fromisoformat : FromIsoformat} {registry : ExecutionRegistry}
    {proposal : GovernedActionProposal} {left right : Submission}
    {leftExecution rightExecution : Execution}
    (leftIssued : left.Issued fromisoformat registry proposal)
    (rightIssued : right.Issued fromisoformat registry proposal)
    (leftExecuted : left.Executes fromisoformat registry leftExecution)
    (rightExecuted : right.Executes fromisoformat registry rightExecution)
    (leftListed : left ∈ submissions) (rightListed : right ∈ submissions)
    (actionsFree : Sha256.CollisionFree (textsOf (Submission.actionPayloads submissions)))
    (keysFree : Sha256.CollisionFree (textsOf (Submission.keyPayloads proposal submissions))) :
    left.call.request.idempotencyKey = right.call.request.idempotencyKey ↔
      left.issue = right.issue := by
  have leftHashed := leftIssued.hash_keyed leftExecuted leftListed actionsFree
  have rightHashed := rightIssued.hash_keyed rightExecuted rightListed actionsFree
  constructor
  · intro same
    rw [same] at leftHashed
    exact keyPayload_inj (sortKeys_eq_of_sha256Dumps_eq keysFree
      ⟨left, leftListed, rfl⟩ ⟨right, rightListed, rfl⟩
      (left.distinctKeys_keyed proposal) (right.distinctKeys_keyed proposal)
      leftHashed rightHashed)
  · intro same
    rw [Submission.keyed, same] at leftHashed
    exact Except.ok.inj (leftHashed.symm.trans rightHashed)

/-! ## Runs -/

/-- The receipts that were returned, and the requests the adapter was called
with. -/
structure Journal where
  receipts : List ExecutionReceipt
  invocations : List ExecutionRequest

def Journal.empty : Journal := ⟨[], []⟩

/-- What an execution adds to the journal. -/
def Journal.record (journal : Journal) (submission : Submission) (execution : Execution) :
    Journal where
  receipts := journal.receipts ++ [execution.receipt]
  invocations :=
    if execution.invoked = true then
      journal.invocations ++ [submission.call.request]
    else journal.invocations

/-- A submission is executed, or its execution raises.  Every receipt so far is
among its prior receipts. -/
def ExecutionStep (fromisoformat : FromIsoformat) (registry : ExecutionRegistry)
    (proposal : GovernedActionProposal) (journal : Journal)
    (submission : Submission) (next : Journal) : Prop :=
  submission.Issued fromisoformat registry proposal ∧
    (∀ receipt ∈ journal.receipts, receipt ∈ submission.call.priorReceipts) ∧
      ((∃ execution, submission.Executes fromisoformat registry execution ∧
          next = journal.record submission execution) ∨
        (∃ message, executeAuthorizedAction fromisoformat registry
            submission.call = .error message) ∧ next = journal)

section Runs

variable {fromisoformat : FromIsoformat} {registry : ExecutionRegistry}
  {proposal : GovernedActionProposal}

/-- What holds of the journal after some submissions. -/
structure Journal.Sound (fromisoformat : FromIsoformat) (registry : ExecutionRegistry)
    (history : List Submission) (journal : Journal) : Prop where
  distinct : (journal.invocations.map ExecutionRequest.idempotencyKey).Nodup
  recorded : ∀ request ∈ journal.invocations, ∃ receipt ∈ journal.receipts,
      receipt.idempotencyKey = request.idempotencyKey
  submitted : ∀ request ∈ journal.invocations,
    ∃ submission ∈ history, submission.call.request = request ∧
      ∃ execution, submission.Executes fromisoformat registry execution

theorem Journal.Sound.weaken {history : List Submission}
    (sound : journal.Sound fromisoformat registry history) (submission : Submission) :
    journal.Sound fromisoformat registry (history ++ [submission]) where
  distinct := sound.distinct
  recorded := sound.recorded
  submitted request listed := by
    obtain ⟨earlier, present, rest⟩ := sound.submitted request listed
    exact ⟨earlier, List.mem_append_left _ present, rest⟩

/-- Every execution keeps the journal sound. -/
theorem Journal.Sound.record {history : List Submission} {submission : Submission}
    {execution : Execution} (sound : journal.Sound fromisoformat registry history)
    (prior : ∀ receipt ∈ journal.receipts, receipt ∈ submission.call.priorReceipts)
    (executed : submission.Executes fromisoformat registry execution) :
    (journal.record submission execution).Sound fromisoformat registry
      (history ++ [submission]) := by
  have weakened := sound.weaken submission
  have receipts : ∀ request ∈ journal.invocations,
      ∃ receipt ∈ journal.receipts ++ [execution.receipt],
        receipt.idempotencyKey = request.idempotencyKey := by
    intro request listed
    obtain ⟨receipt, present, same⟩ := sound.recorded request listed
    exact ⟨receipt, List.mem_append_left _ present, same⟩
  by_cases invoked : execution.invoked = true
  · have fresh := (invoked_iff executed).mp invoked
    have record : (journal.record submission execution).invocations =
        journal.invocations ++ [submission.call.request] := if_pos invoked
    refine ⟨?_, ?_, ?_⟩
    · rw [record, List.map_append, List.nodup_append]
      refine ⟨sound.distinct, List.nodup_singleton _, ?_⟩
      rintro key listed other single rfl
      obtain ⟨request, present, rfl⟩ := List.mem_map.mp listed
      obtain ⟨receipt, recorded, same⟩ := sound.recorded request present
      rw [List.map_singleton, List.mem_singleton] at single
      exact fresh receipt (prior receipt recorded) (same.trans single)
    · rw [record]
      intro request listed
      rcases List.mem_append.mp listed with earlier | now
      · exact receipts request earlier
      · rw [List.mem_singleton.mp now]
        exact ⟨execution.receipt, by simp [Journal.record], idempotencyKey_of_execute executed⟩
    · rw [record]
      intro request listed
      rcases List.mem_append.mp listed with earlier | now
      · exact weakened.submitted request earlier
      · exact ⟨submission, by simp, (List.mem_singleton.mp now).symm, execution, executed⟩
  · have record : (journal.record submission execution).invocations =
        journal.invocations := if_neg invoked
    refine ⟨?_, ?_, ?_⟩
    · rw [record]
      exact sound.distinct
    · rw [record]
      exact receipts
    · rw [record]
      exact weakened.submitted

theorem sound_of_run
    (ran : Exec (ExecutionStep fromisoformat registry proposal) .empty submissions journal) :
    journal.Sound fromisoformat registry submissions := by
  refine ran.history_invariant ?_ ?_
  · exact ⟨List.nodup_nil, fun _ listed => absurd listed List.not_mem_nil,
      fun _ listed => absurd listed List.not_mem_nil⟩
  · rintro history before submission after sound ⟨_, prior, outcome⟩
    rcases outcome with ⟨execution, executed, rfl⟩ | ⟨_, rfl⟩
    · exact sound.record prior executed
    · exact sound.weaken submission

/-- However the executions of a proposal are submitted, the adapter is called
at most once for an approval, an authority and an adapter; once a receipt has
the key of a submission, its execution attempts no side effect. -/
theorem adapter_called_once_per_issue {submissions : List Submission} {journal : Journal}
    (ran : Exec (ExecutionStep fromisoformat registry proposal) .empty
      submissions journal)
    (actionsFree : Sha256.CollisionFree
      (textsOf (Submission.actionPayloads submissions)))
    (keysFree : Sha256.CollisionFree
      (textsOf (Submission.keyPayloads proposal submissions))) :
    (journal.invocations.map ExecutionRequest.idempotencyKey).Nodup ∧
    (∀ left ∈ submissions, ∀ right ∈ submissions,
      (∃ execution, left.Executes fromisoformat registry execution) →
      (∃ execution, right.Executes fromisoformat registry execution) →
      (left.call.request.idempotencyKey =
          right.call.request.idempotencyKey ↔
        left.issue = right.issue)) ∧
    (∀ submission next, ExecutionStep fromisoformat registry proposal journal
      submission next →
      ∀ execution, submission.Executes fromisoformat registry execution →
      ∀ receipt ∈ journal.receipts,
        receipt.idempotencyKey = submission.call.request.idempotencyKey →
        execution.invoked = false ∧
          execution.receipt.sideEffectAttempted = false ∧
          execution.receipt.outcome ∈
            ["BLOCKED_OUTCOME_UNKNOWN", "DUPLICATE_SUPPRESSED"] ∧
          (receipt.outcome ∈ unknownOutcomes →
            execution.receipt.outcome = "BLOCKED_OUTCOME_UNKNOWN")) ∧
    ((∀ left ∈ submissions, ∀ right ∈ submissions,
      left.issue = right.issue) → journal.invocations.length ≤ 1) := by
  have sound := sound_of_run ran
  have keys : ∀ left ∈ submissions, ∀ right ∈ submissions,
      (∃ execution, left.Executes fromisoformat registry execution) →
      (∃ execution, right.Executes fromisoformat registry execution) →
      (left.call.request.idempotencyKey =
          right.call.request.idempotencyKey ↔
        left.issue = right.issue) := by
    rintro left leftListed right rightListed ⟨_, leftExecuted⟩
      ⟨_, rightExecuted⟩
    obtain ⟨_, _, leftIssued, _⟩ := ran.step_of_mem leftListed
    obtain ⟨_, _, rightIssued, _⟩ := ran.step_of_mem rightListed
    exact idempotencyKey_eq_iff leftIssued rightIssued leftExecuted
      rightExecuted leftListed rightListed actionsFree keysFree
  refine ⟨sound.distinct, keys, ?_, ?_⟩
  · rintro submission next ⟨_, prior, _⟩ execution executed receipt listed
      same
    obtain ⟨quiet, outcome, blocked⟩ :=
      suppressed_of_prior executed (prior receipt listed) same
    refine ⟨quiet, ?_, outcome, blocked⟩
    rw [sideEffectAttempted_of_execute executed, quiet]
  · intro oneIssue
    have oneKey : ∀ first ∈ journal.invocations, ∀ second ∈ journal.invocations,
          first.idempotencyKey = second.idempotencyKey := by
      intro first firstListed second secondListed
      obtain ⟨left, leftListed, rfl, leftExecuted⟩ :=
        sound.submitted first firstListed
      obtain ⟨right, rightListed, rfl, rightExecuted⟩ :=
        sound.submitted second secondListed
      exact (keys left leftListed right rightListed leftExecuted
        rightExecuted).mpr (oneIssue left leftListed right rightListed)
    have distinct := sound.distinct
    match journal.invocations, oneKey, distinct with
    | [], _, _ => simp
    | [_], _, _ => simp
    | first :: second :: rest, oneKey, distinct =>
        rw [List.map_cons, List.nodup_cons] at distinct
        exact absurd (List.mem_map.mpr ⟨second, List.mem_cons_self,
          oneKey second (by simp) first (by simp)⟩) distinct.1

end Runs

/-! ## Samples -/

theorem exists_hash_of_textual {value : Json} (textual : Textual value) :
    ∃ fingerprint, hash value = .ok fingerprint := by
  obtain ⟨fingerprint, hashed, _⟩ := textual.exists_sha256Dumps
  exact ⟨fingerprint, hashed⟩

theorem AuthorizedAction.textual_payload (action : AuthorizedAction) :
    Textual action.payload := by
  simp [payload, textual_obj, IsTagged, texts]

theorem ExecutionRequest.textual_payload (request : ExecutionRequest) :
    Textual request.payload := by
  simp [payload, textual_obj, IsTagged]

theorem ExecutionReceipt.textual_payload (receipt : ExecutionReceipt) :
    Textual receipt.payload := by
  simp [payload, textual_obj, IsTagged, texts]

theorem textual_keyPayload
    (proposalFingerprint approvalFingerprint authorityFingerprint actionType
      listingId adapterId : String) :
    Textual (keyPayload proposalFingerprint approvalFingerprint
      authorityFingerprint actionType listingId adapterId) := by
  simp [keyPayload, textual_obj, IsTagged]

/-- An execution that passes its checks returns. -/
theorem ExecutionCall.Cleared.exists_execution
    {fromisoformat : FromIsoformat} {registry : ExecutionRegistry}
    {call : ExecutionCall} (cleared : call.Cleared fromisoformat registry) :
    ∃ execution, executeAuthorizedAction fromisoformat registry call = .ok execution := by
  obtain ⟨fingerprint, hashed⟩ := exists_hash_of_textual
    (draftReceipt call (if call.previous = [] then call.attempted
      else call.suppressed)).textual_payload
  exact ⟨⟨decide (call.previous = []), _⟩, executeAuthorizedAction_eq_ok.mpr
    ⟨cleared, makeReceipt_eq_ok.mpr ⟨fingerprint, hashed, rfl⟩, rfl⟩⟩

def sampleProposal : GovernedActionProposal where
  proposalId := "PROPOSAL"
  subjectPropertyId := "PROPERTY"
  listingId := "LISTING"
  actionType := "PUBLISH"
  proposalStatus := "PROPOSED"
  approvalState := "NOT_APPROVED"
  authorizationState := "NOT_AUTHORIZED"
  executionState := "NOT_EXECUTABLE"
  publicEligible := false
  externalActionCapability := "NONE"
  proposalFingerprint := Community.snapshotRegistry.certificationRoot

def sampleApproval : HumanApproval where
  approvalId := "APPROVAL"
  proposalFingerprint := Community.snapshotRegistry.certificationRoot
  decision := "APPROVED"
  rationaleFingerprint := "RATIONALE"
  approvalFingerprint := "APPROVAL"

def sampleAuthority : ExecutionAuthority where
  authorityId := "AUTHORITY"
  listingId := "LISTING"
  allowedActionTypes := ["PUBLISH"]
  status := "VALID"
  validFrom := "2026-01-01T00:00:00+00:00"
  validUntil := "2026-03-01T00:00:00+00:00"
  sourceFingerprint := "SOURCE"
  authorityFingerprint := "AUTHORITY"

/-- An adapter that reports success. -/
def sampleAdapter (request : ExecutionRequest) : Option AdapterResponse :=
  some
    { adapterId := request.adapterId
      requestFingerprint := request.requestFingerprint
      outcome := "SUCCEEDED"
      externalReceiptId := some "RECEIPT"
      responseFingerprint := "RESPONSE" }

/-- A submission of the sample proposal. -/
def sampleSubmission (action : AuthorizedAction) (request : ExecutionRequest)
    (priorReceipts : List ExecutionReceipt) : Submission where
  call :=
    { receiptId := "RECEIPT"
      proposal := sampleProposal
      approval := sampleApproval
      authority := sampleAuthority
      authorizedAction := action
      request := request
      adapter := sampleAdapter
      priorReceipts := priorReceipts
      executionAt := "2026-02-01T00:00:00+00:00" }
  requested := action

theorem validateProposal_sample : validateProposal sampleProposal = .ok () := by
  have shape : Sha256.isHex64
      Community.snapshotRegistry.certificationRoot = true :=
    Sha256.isHex64_ofList rfl rfl
  simp only [validateProposal, bind_eq_ok, require_eq_ok, exists_const, validateFp]
  exact ⟨shape, rfl, ⟨rfl, rfl⟩, rfl, rfl, rfl⟩

theorem validateAuthority_sample :
    validateAuthority Community.sampleFromisoformat executionRegistry
      sampleProposal sampleApproval sampleAuthority
        "2026-02-01T00:00:00+00:00" = .ok 1769904000 := by
  rfl

theorem exists_sampleAction :
    ∃ action, authorizeAction Community.sampleFromisoformat executionRegistry
      "ACTION" sampleProposal sampleApproval sampleAuthority
        "2026-02-01T00:00:00+00:00" = .ok action := by
  obtain ⟨fingerprint, hashed⟩ := exists_hash_of_textual
    (draftAction executionRegistry "ACTION" sampleProposal sampleApproval
      sampleAuthority "2026-02-01T00:00:00+00:00").textual_payload
  exact ⟨_, authorizeAction_eq_ok.mpr ⟨by decide, validateProposal_sample,
    ⟨_, validateAuthority_sample⟩, fingerprint, hashed, rfl⟩⟩

theorem exists_sampleRequest {action : AuthorizedAction} {requestId adapterId : String}
    (identified : Text.isBlank requestId = false ∧ Text.isBlank adapterId = false) :
    ∃ request, buildExecutionRequest Community.sampleFromisoformat requestId
        action adapterId "2026-02-01T00:00:00+00:00" = .ok request := by
  obtain ⟨key, keyHashed⟩ := exists_hash_of_textual
    (textual_keyPayload action.proposalFingerprint action.approvalFingerprint
      action.authorityFingerprint action.actionType action.listingId adapterId)
  let request : ExecutionRequest :=
    { requestId
      authorizedActionFingerprint := action.authorizedActionFingerprint
      proposalFingerprint := action.proposalFingerprint
      listingId := action.listingId
      actionType := action.actionType
      adapterId
      requestedAt := "2026-02-01T00:00:00+00:00"
      idempotencyKey := key
      requestFingerprint := "" }
  obtain ⟨fingerprint, hashed⟩ := exists_hash_of_textual request.textual_payload
  refine ⟨{ request with requestFingerprint := fingerprint }, ?_⟩
  simp only [buildExecutionRequest, bind_eq_ok, require_eq_ok, exists_const, pure_eq_ok]
  exact ⟨identified, 1769904000, rfl, key, keyHashed, fingerprint, hashed, rfl⟩

section Sample

variable {action : AuthorizedAction} {request : ExecutionRequest}
  {requestId adapterId : String}

/-- A request for the authorized sample action is executed. -/
theorem exists_sampleStep
    (authorizes : authorizeAction Community.sampleFromisoformat
      executionRegistry "ACTION" sampleProposal sampleApproval sampleAuthority
        "2026-02-01T00:00:00+00:00" = .ok action)
    (requests : buildExecutionRequest Community.sampleFromisoformat requestId
      action adapterId "2026-02-01T00:00:00+00:00" = .ok request)
    (journal : Journal) :
    ∃ execution, (sampleSubmission action request journal.receipts).Executes
        Community.sampleFromisoformat executionRegistry execution ∧
      ExecutionStep Community.sampleFromisoformat executionRegistry
        sampleProposal journal
        (sampleSubmission action request journal.receipts)
        (journal.record (sampleSubmission action request journal.receipts) execution) := by
  have authorized : AuthorizedFor Community.sampleFromisoformat
      executionRegistry sampleProposal action := ⟨_, _, _, _, authorizes⟩
  obtain ⟨_, _, _, fingerprint, _, actionIs⟩ := authorizeAction_eq_ok.mp authorizes
  have bound : checkBindings
      (sampleSubmission action request journal.receipts).call = .ok () := by
    obtain ⟨requested, proposed, _, _⟩ := request_of_buildExecutionRequest requests
    rw [← actionIs] at requested proposed
    rw [checkBindings_eq_ok, ← actionIs]
    exact ⟨rfl, rfl, rfl, requested, proposed⟩
  have cleared : ExecutionCall.Cleared Community.sampleFromisoformat
      executionRegistry (sampleSubmission action request journal.receipts).call :=
    { identified := (by decide : Text.isBlank "RECEIPT" = false)
      proposed := validateProposal_sample
      bound := bound
      authorized := ⟨_, validateAuthority_sample⟩ }
  obtain ⟨execution, executed⟩ := cleared.exists_execution
  exact ⟨execution, executed, ⟨rfl, authorized, authorized, _, _, _, requests⟩,
    fun _ listed => listed, .inl ⟨execution, executed, rfl⟩⟩

end Sample

/-- The same execution is submitted twice, and the adapter is called once. -/
theorem adapter_called_once_per_issue_sample :
    ∃ first second journal,
      Exec (ExecutionStep Community.sampleFromisoformat executionRegistry
        sampleProposal) .empty [first, second] journal ∧
      journal.receipts.length = 2 ∧ journal.invocations.length ≤ 1 := by
  obtain ⟨action, authorizes⟩ := exists_sampleAction
  obtain ⟨request, requests⟩ := @exists_sampleRequest action "REQUEST"
    "ADAPTER" (by decide)
  obtain ⟨firstExecution, _, firstTaken⟩ :=
    exists_sampleStep authorizes requests .empty
  set middle := Journal.empty.record (sampleSubmission action request
    Journal.empty.receipts) firstExecution
  obtain ⟨secondExecution, _, secondTaken⟩ :=
    exists_sampleStep authorizes requests middle
  have ran := Exec.cons firstTaken (Exec.cons secondTaken (.nil _))
  have submissions : ∀ submission ∈ [sampleSubmission action request [],
      sampleSubmission action request middle.receipts],
      ∃ prior, submission = sampleSubmission action request prior := by
    simp only [List.forall_mem_cons, List.not_mem_nil, IsEmpty.forall_iff,
      implies_true, and_true]
    exact ⟨⟨_, rfl⟩, _, rfl⟩
  have actionsFree : Sha256.CollisionFree (textsOf
      (Submission.actionPayloads [sampleSubmission action request [],
        sampleSubmission action request middle.receipts])) := by
    refine collisionFree_textsOf ?_
    rintro _ ⟨_, leftListed, left⟩ _ ⟨_, rightListed, right⟩
    obtain ⟨_, rfl⟩ := submissions _ leftListed
    obtain ⟨_, rfl⟩ := submissions _ rightListed
    exact (or_self_iff.mp left).trans (or_self_iff.mp right).symm
  have keysFree : Sha256.CollisionFree (textsOf
      (Submission.keyPayloads sampleProposal
        [sampleSubmission action request [],
          sampleSubmission action request middle.receipts])) := by
    refine collisionFree_textsOf ?_
    rintro _ ⟨_, leftListed, rfl⟩ _ ⟨_, rightListed, rfl⟩
    obtain ⟨_, rfl⟩ := submissions _ leftListed
    obtain ⟨_, rfl⟩ := submissions _ rightListed
    rfl
  refine ⟨_, _, _, ran, rfl,
    (adapter_called_once_per_issue ran actionsFree keysFree).2.2.2 ?_⟩
  intro left leftListed right rightListed
  obtain ⟨_, rfl⟩ := submissions left leftListed
  obtain ⟨_, rfl⟩ := submissions right rightListed
  rfl

/-- What the key of a sample request to an adapter covers. -/
def sampleKeyPayload (adapterId : String) : Json :=
  keyPayload sampleProposal.proposalFingerprint
    sampleApproval.approvalFingerprint sampleAuthority.authorityFingerprint
    sampleProposal.actionType sampleProposal.listingId adapterId

/-- The keys of requests to different adapters differ. -/
theorem sampleKeys_differ {first second : List Char}
    (firstSpelled : Spelled (sampleKeyPayload "FIRST") first)
    (secondSpelled : Spelled (sampleKeyPayload "SECOND") second)
    (differ : Sha256.Unrolled.hexdigestChars first ≠ Sha256.Unrolled.hexdigestChars second) :
    (dumps (sampleKeyPayload "FIRST")).map Sha256.hexdigestChars ≠
      (dumps (sampleKeyPayload "SECOND")).map Sha256.hexdigestChars := by
  rw [writes_dumps.of_spelled firstSpelled,
    writes_dumps.of_spelled secondSpelled, Sha256.hexdigestChars_eq_unrolled]
  simpa using differ

/-- The executions of one proposal through two adapters both have their side
effect. -/
theorem adapter_called_twice :
    ∃ first second journal firstExecution secondExecution,
      Exec (ExecutionStep Community.sampleFromisoformat executionRegistry
        sampleProposal) .empty [first, second] journal ∧
      journal.receipts = [firstExecution.receipt, secondExecution.receipt] ∧
      first.Executes Community.sampleFromisoformat executionRegistry
        firstExecution ∧
      second.Executes Community.sampleFromisoformat executionRegistry
        secondExecution ∧
      firstExecution.receipt.outcome = "SUCCEEDED" ∧
      secondExecution.receipt.sideEffectAttempted = true ∧
      journal.invocations.length = 2 := by
  obtain ⟨action, authorizes⟩ := exists_sampleAction
  obtain ⟨request, requests⟩ := @exists_sampleRequest action "REQUEST"
    "FIRST" (by decide)
  obtain ⟨other, otherRequests⟩ := @exists_sampleRequest action "REQUEST"
    "SECOND" (by decide)
  obtain ⟨firstExecution, firstExecuted, firstTaken⟩ :=
    exists_sampleStep authorizes requests .empty
  set middle := Journal.empty.record (sampleSubmission action request
    Journal.empty.receipts) firstExecution
  obtain ⟨secondExecution, secondExecuted, secondTaken⟩ :=
    exists_sampleStep authorizes otherRequests middle
  have ran := Exec.cons firstTaken (Exec.cons secondTaken (.nil _))
  obtain ⟨_, _, _, fingerprint, _, actionIs⟩ :=
    authorizeAction_eq_ok.mp authorizes
  have differ : request.idempotencyKey ≠ other.idempotencyKey := by
    intro same
    have key := (request_of_buildExecutionRequest requests).2.2.2
    have otherKey := (request_of_buildExecutionRequest otherRequests).2.2.2
    rw [← actionIs] at key otherKey
    obtain ⟨text, written, hashed⟩ := sha256Dumps_eq_ok.mp key
    obtain ⟨otherText, otherWritten, otherHashed⟩ :=
      sha256Dumps_eq_ok.mp otherKey
    have digests := (Sha256.hexdigest_ofList_inj text otherText).mp
      (hashed.trans (same.trans otherHashed.symm))
    apply sampleKeys_differ (by repeat' constructor)
      (by repeat' constructor) (by decide +kernel)
    rw [show dumps (sampleKeyPayload "FIRST") = some text from written,
      show dumps (sampleKeyPayload "SECOND") = some otherText from
        otherWritten, Option.map_some, Option.map_some, digests]
  have firstInvoked : firstExecution.invoked = true :=
    (invoked_iff firstExecuted).mpr fun _ listed =>
      absurd listed List.not_mem_nil
  have secondInvoked : secondExecution.invoked = true := by
    refine (invoked_iff secondExecuted).mpr fun receipt listed same => ?_
    change receipt ∈ [firstExecution.receipt] at listed
    rw [List.mem_singleton.mp listed,
      idempotencyKey_of_execute firstExecuted] at same
    exact differ same
  have succeeded : firstExecution.receipt.outcome = "SUCCEEDED" := by
    obtain ⟨_, made, invoked⟩ :=
      executeAuthorizedAction_eq_ok.mp firstExecuted
    rw [firstInvoked] at invoked
    rw [if_pos (of_decide_eq_true invoked.symm)] at made
    obtain ⟨_, _, made⟩ := makeReceipt_eq_ok.mp made
    rw [← made]
    simp [draftReceipt, ExecutionCall.attempted, sampleSubmission,
      sampleAdapter, truthy]
  refine ⟨_, _, _, firstExecution, secondExecution, ran, rfl, firstExecuted,
    secondExecuted, succeeded, ?_, ?_⟩
  · rw [sideEffectAttempted_of_execute secondExecuted, secondInvoked]
  · simp [Journal.record, Journal.empty, middle, firstInvoked, secondInvoked]

end SanTanHeights.Listing
