import SanTanHeights.Listing.Idempotence

/-!
# Side effects inside live authority

Approvals and authorities are made by constructors of their own.  Where an
execution calls the adapter, the request, the authorized action, the approval
and the authority are tied together by their fingerprints.
-/

namespace SanTanHeights.Listing

open Foundation Foundation.Json Foundation.Outcome Shared
open Community (FromIsoformat texts)
open Community.History (distinctKeys_obj distinctKeys_texts texts_injective sortKeys_texts)

/-! ## Approvals -/

/-- The arguments of `make_human_approval`. -/
structure ApprovalIssue where
  approvalId : String
  proposalFingerprint : String
  actorId : String
  decision : String
  approvedAt : String
  rationaleFingerprint : String
  deriving DecidableEq, Repr

/-- What the fingerprint of an approval covers. -/
def ApprovalIssue.payload (issue : ApprovalIssue) : Json :=
  .obj [("approval_id", .str issue.approvalId),
      ("proposal_fingerprint", .str issue.proposalFingerprint),
      ("actor_id", .str issue.actorId), ("decision", .str issue.decision),
      ("approved_at", .str issue.approvedAt),
      ("rationale_fingerprint", .str issue.rationaleFingerprint)]

/-- `approval.allowed_decisions` of `m12-002-authorized-execution-v1.0.yaml`. -/
def allowedDecisions : List String :=
  ["APPROVED", "REJECTED"]

/-- The approval that an issue makes, before it has a fingerprint. -/
def ApprovalIssue.draft (issue : ApprovalIssue) : HumanApproval where
  approvalId := issue.approvalId
  proposalFingerprint := issue.proposalFingerprint
  decision := issue.decision
  rationaleFingerprint := issue.rationaleFingerprint
  approvalFingerprint := ""

/-- `make_human_approval`. -/
def makeHumanApproval (fromisoformat : FromIsoformat) (issue : ApprovalIssue) :
    Except String HumanApproval := do
  require (Text.isBlank issue.approvalId = false ∧
    Text.isBlank issue.actorId = false) "approval_id and actor_id required"
  validateFp issue.proposalFingerprint "proposal_fingerprint"
  validateFp issue.rationaleFingerprint "rationale_fingerprint"
  require (issue.decision ∈ allowedDecisions) "unsupported approval decision"
  let _ ← parseTs fromisoformat issue.approvedAt "approved_at"
  let fingerprint ← hash issue.payload
  return { issue.draft with approvalFingerprint := fingerprint }

/-! ## Authorities -/

/-- The arguments of `make_execution_authority`. -/
structure AuthorityIssue where
  authorityId : String
  principalId : String
  listingId : String
  allowedActionTypes : List String
  status : String
  validFrom : String
  validUntil : String
  sourceFingerprint : String
  deriving DecidableEq, Repr

/-- What the fingerprint of an authority covers. -/
def AuthorityIssue.payload (issue : AuthorityIssue) : Json :=
  .obj [("authority_id", .str issue.authorityId), ("principal_id", .str issue.principalId),
      ("listing_id", .str issue.listingId),
      ("allowed_action_types", texts (sortedSet issue.allowedActionTypes)),
      ("status", .str issue.status), ("valid_from", .str issue.validFrom),
      ("valid_until", .str issue.validUntil),
      ("source_fingerprint", .str issue.sourceFingerprint)]

/-- The authority that an issue makes, before it has a fingerprint. -/
def AuthorityIssue.draft (issue : AuthorityIssue) : ExecutionAuthority where
  authorityId := issue.authorityId
  listingId := issue.listingId
  allowedActionTypes := sortedSet issue.allowedActionTypes
  status := issue.status
  validFrom := issue.validFrom
  validUntil := issue.validUntil
  sourceFingerprint := issue.sourceFingerprint
  authorityFingerprint := ""

/-- `make_execution_authority`. -/
def makeExecutionAuthority (fromisoformat : FromIsoformat) (issue : AuthorityIssue) :
    Except String ExecutionAuthority := do
  require (Text.isBlank issue.authorityId = false ∧
    Text.isBlank issue.principalId = false ∧ Text.isBlank issue.listingId = false)
    "authority id, principal id, and listing id required"
  let start ← parseTs fromisoformat issue.validFrom "authority valid_from"
  let until_ ← parseTs fromisoformat issue.validUntil "authority valid_until"
  require (start < until_) "authority valid_until must be after valid_from"
  validateFp issue.sourceFingerprint "authority source_fingerprint"
  require (issue.draft.allowedActionTypes ≠ [])
    "authority action scope required"
  let fingerprint ← hash issue.payload
  return { issue.draft with authorityFingerprint := fingerprint }

/-! ## Proposals -/

/-- The fields of a proposal that its execution does not read. -/
structure ProposalDetails where
  origin : String
  targetReviewItemId : Option String
  reasonCodes : List String
  prerequisites : List String
  limitations : List String
  sourceCaseFingerprint : String
  listingContextFingerprint : String
  intentFingerprint : String
  agentJudgmentFingerprint : Option String
  m11ReleaseEvidenceFingerprint : String
  m11ReleaseCertificationRoot : String
  policyVersion : String
  policyFingerprint : String
  lineageFingerprints : List String
  scheduleState : String
  queueState : String
  publicationState : String
  transmissionState : String
  requiresHumanApproval : Bool
  deriving DecidableEq, Repr

/-- What the fingerprint of a proposal covers. -/
def GovernedActionProposal.payload
    (proposal : GovernedActionProposal) (details : ProposalDetails) : Json :=
  .obj [("proposal_id", .str proposal.proposalId),
      ("subject_property_id", .str proposal.subjectPropertyId),
      ("listing_id", .str proposal.listingId), ("action_type", .str proposal.actionType),
      ("origin", .str details.origin),
      ("target_review_item_id", .ofOptional details.targetReviewItemId),
      ("reason_codes", texts details.reasonCodes),
      ("prerequisites", texts details.prerequisites),
      ("limitations", texts details.limitations),
      ("source_case_fingerprint", .str details.sourceCaseFingerprint),
      ("listing_context_fingerprint", .str details.listingContextFingerprint),
      ("intent_fingerprint", .str details.intentFingerprint),
      ("agent_judgment_fingerprint", .ofOptional details.agentJudgmentFingerprint),
      ("m11_release_evidence_fingerprint", .str details.m11ReleaseEvidenceFingerprint),
      ("m11_release_certification_root", .str details.m11ReleaseCertificationRoot),
      ("policy_version", .str details.policyVersion),
      ("policy_fingerprint", .str details.policyFingerprint),
      ("lineage_fingerprints", texts details.lineageFingerprints),
      ("proposal_status", .str proposal.proposalStatus),
      ("approval_state", .str proposal.approvalState),
      ("authorization_state", .str proposal.authorizationState),
      ("schedule_state", .str details.scheduleState),
      ("queue_state", .str details.queueState),
      ("execution_state", .str proposal.executionState),
      ("publication_state", .str details.publicationState),
      ("transmission_state", .str details.transmissionState),
      ("requires_human_approval", .bool details.requiresHumanApproval),
      ("public_eligible", .bool proposal.publicEligible),
      ("external_action_capability", .str proposal.externalActionCapability)]

variable {fromisoformat : FromIsoformat} {approval : HumanApproval}
  {authority : ExecutionAuthority}

/-! ## What is made -/

theorem makeHumanApproval_eq_ok {issue : ApprovalIssue} :
    makeHumanApproval fromisoformat issue = .ok approval ↔
      (Text.isBlank issue.approvalId = false ∧ Text.isBlank issue.actorId = false) ∧
        Sha256.isHex64 issue.proposalFingerprint = true ∧
          Sha256.isHex64 issue.rationaleFingerprint = true ∧
            issue.decision ∈ allowedDecisions ∧ (∃ time,
                fromisoformat issue.approvedAt = some (some time)) ∧
                ∃ fingerprint, hash issue.payload = .ok fingerprint ∧
                  { issue.draft with
                    approvalFingerprint := fingerprint } = approval := by
  simp only [makeHumanApproval, bind_eq_ok, require_eq_ok, exists_const,
    validateFp, parseTs_eq_ok, pure_eq_ok, exists_and_right]

theorem makeExecutionAuthority_eq_ok {issue : AuthorityIssue} :
    makeExecutionAuthority fromisoformat issue = .ok authority ↔
      (Text.isBlank issue.authorityId = false ∧
          Text.isBlank issue.principalId = false ∧ Text.isBlank issue.listingId = false) ∧
        (∃ start until_, fromisoformat issue.validFrom = some (some start) ∧
            fromisoformat issue.validUntil = some (some until_) ∧ start < until_) ∧
          Sha256.isHex64 issue.sourceFingerprint = true ∧
            issue.draft.allowedActionTypes ≠ [] ∧
              ∃ fingerprint, hash issue.payload = .ok fingerprint ∧
                { issue.draft with
                  authorityFingerprint := fingerprint } = authority := by
  simp only [makeExecutionAuthority, bind_eq_ok, require_eq_ok, exists_const,
    validateFp, parseTs_eq_ok, pure_eq_ok]
  constructor
  · rintro ⟨identified, start, startParsed, until_, untilParsed, inOrder, source, scope, made⟩
    exact ⟨identified, ⟨start, until_, startParsed, untilParsed, inOrder⟩, source, scope, made⟩
  · rintro ⟨identified, ⟨start, until_, startParsed, untilParsed, inOrder⟩, source, scope, made⟩
    exact ⟨identified, start, startParsed, until_, untilParsed, inOrder, source, scope, made⟩

/-- What `_validate_authority` asks. -/
structure AuthorityValid (fromisoformat : FromIsoformat) (registry : ExecutionRegistry)
    (proposal : GovernedActionProposal) (approval : HumanApproval)
    (authority : ExecutionAuthority) (at_ : String) : Prop where
  bound : approval.proposalFingerprint = proposal.proposalFingerprint
  decision : approval.decision = registry.requiredForAuthorization
  status : authority.status = registry.requiredStatus
  listing : authority.listingId = proposal.listingId
  action : proposal.actionType ∈ authority.allowedActionTypes
  times : ∃ start when until_,
    fromisoformat authority.validFrom = some (some start) ∧
      fromisoformat at_ = some (some when) ∧
        fromisoformat authority.validUntil = some (some until_) ∧ start ≤ when ∧ when ≤ until_

theorem exists_validateAuthority_iff
    {registry : ExecutionRegistry} {proposal : GovernedActionProposal} {at_ : String} :
    (∃ time, validateAuthority fromisoformat registry proposal approval
        authority at_ = .ok time) ↔
      AuthorityValid fromisoformat registry proposal approval authority at_ := by
  simp only [validateAuthority, bind_eq_ok, require_eq_ok, exists_const, parseTs_eq_ok, pure_eq_ok]
  constructor
  · rintro ⟨_, when, whenParsed, bound, decision, status, listing, action,
      start, startParsed, until_, untilParsed, inOrder, _⟩
    exact ⟨bound, decision, status, listing, action, start, when, until_,
      startParsed, whenParsed, untilParsed, inOrder⟩
  · rintro ⟨bound, decision, status, listing, action, start, when, until_,
      startParsed, whenParsed, untilParsed, inOrder⟩
    exact ⟨when, when, whenParsed, bound, decision, status, listing, action,
      start, startParsed, until_, untilParsed, inOrder, rfl⟩

/-! ## What fingerprints determine -/

theorem ApprovalIssue.distinctKeys_payload (issue : ApprovalIssue) :
    issue.payload.DistinctKeys := by
  simp [payload, distinctKeys_obj]

theorem ApprovalIssue.eq_of_sortKeys_eq (left right : ApprovalIssue)
    (same : sortKeys left.payload = sortKeys right.payload) :
    left = right := by
  have parts := forall₂_of_sortKeys_obj_eq same rfl (by simp)
  simp only [List.forall₂_cons, sortKeys_str, Json.str.injEq,
    List.forall₂_nil_right_iff, and_true] at parts
  obtain ⟨approvalId, proposal, actorId, decision, approvedAt, rationale⟩ := parts
  exact (mk.injEq ..).mpr ⟨approvalId, proposal, actorId, decision, approvedAt, rationale⟩

theorem AuthorityIssue.distinctKeys_payload (issue : AuthorityIssue) :
    issue.payload.DistinctKeys := by
  simp [payload, distinctKeys_obj]

theorem AuthorityIssue.draft_eq_of_sortKeys_eq (left right : AuthorityIssue)
    (same : sortKeys left.payload = sortKeys right.payload) :
    left.draft = right.draft := by
  have parts := forall₂_of_sortKeys_obj_eq same rfl (by simp)
  simp only [List.forall₂_cons, sortKeys_str, sortKeys_texts,
    Json.str.injEq, texts_injective.eq_iff] at parts
  obtain ⟨authorityId, _, listingId, actions, status, validFrom, validUntil, source, _⟩ := parts
  exact (ExecutionAuthority.mk.injEq ..).mpr ⟨authorityId, listingId, actions,
    status, validFrom, validUntil, source, rfl⟩

theorem AuthorizedAction.eq_of_payload {left right : AuthorizedAction}
    (same : sortKeys left.payload = sortKeys right.payload)
    (fingerprint : left.authorizedActionFingerprint = right.authorizedActionFingerprint) :
    left = right := by
  have parts := forall₂_of_sortKeys_obj_eq same rfl (by simp)
  simp only [List.forall₂_cons, sortKeys_str, sortKeys_texts,
    Json.str.injEq, texts_injective.eq_iff] at parts
  obtain ⟨authorizedActionId, proposalId, proposal, listing, subject, type,
    approvalId, approval, authorityId, authority, authorization, execution,
    authorizedAt, lineage, eligible, _⟩ := parts
  exact (mk.injEq ..).mpr ⟨authorizedActionId, proposalId, proposal, listing,
    subject, type, approvalId, approval, authorityId, authority,
    authorization, execution, authorizedAt, lineage, Json.bool.inj eligible, fingerprint⟩

theorem GovernedActionProposal.distinctKeys_payload
    (proposal : GovernedActionProposal) (details : ProposalDetails) :
    (proposal.payload details).DistinctKeys := by
  simp [payload, distinctKeys_obj]

/-- A proposal whose payload is that of another is it. -/
theorem GovernedActionProposal.eq_of_payload {left right : GovernedActionProposal}
    {leftDetails rightDetails : ProposalDetails}
    (same : sortKeys (left.payload leftDetails) = sortKeys (right.payload rightDetails))
    (fingerprint : left.proposalFingerprint = right.proposalFingerprint) :
    left = right := by
  have parts := forall₂_of_sortKeys_obj_eq same rfl (by simp)
  simp only [List.forall₂_cons, sortKeys_str, Json.str.injEq] at parts
  obtain ⟨proposalId, subject, listing, type, _, _, _, _, _, _, _, _, _, _, _,
    _, _, _, status, approval, authorization, _, _, execution, _, _, _,
    eligible, capability, _⟩ := parts
  exact (mk.injEq ..).mpr ⟨proposalId, subject, listing, type, status,
    approval, authorization, execution, Json.bool.inj eligible, capability, fingerprint⟩

/-! ## Attempts -/

/-- An authorized action, with what it was made of. -/
structure Authorization where
  authorizedActionId : String
  proposal : GovernedActionProposal
  approvalIssue : ApprovalIssue
  approval : HumanApproval
  authorityIssue : AuthorityIssue
  authority : ExecutionAuthority
  authorizedAt : String
  action : AuthorizedAction

/-- The parts of an authorization were made by their constructors. -/
structure Authorization.Made (fromisoformat : FromIsoformat) (registry : ExecutionRegistry)
    (authorization : Authorization) : Prop where
  approvalMade : makeHumanApproval fromisoformat
    authorization.approvalIssue = .ok authorization.approval
  authorityMade : makeExecutionAuthority fromisoformat
    authorization.authorityIssue = .ok authorization.authority
  authorized : authorizeAction fromisoformat registry
    authorization.authorizedActionId authorization.proposal
    authorization.approval authorization.authority
    authorization.authorizedAt = .ok authorization.action

/-- An execution, with what its arguments were made of: its approval and
authority, its authorized action, and the action its request was built of. -/
structure Attempt where
  call : ExecutionCall
  approvalIssue : ApprovalIssue
  authorityIssue : AuthorityIssue
  authorization : Authorization
  requested : Authorization

namespace Attempt

/-- The arguments of an attempt were made by their constructors. -/
structure Made (fromisoformat : FromIsoformat) (registry : ExecutionRegistry)
    (attempt : Attempt) : Prop where
  approvalMade : makeHumanApproval fromisoformat attempt.approvalIssue = .ok attempt.call.approval
  authorityMade : makeExecutionAuthority fromisoformat
    attempt.authorityIssue = .ok attempt.call.authority
  authorizationMade : attempt.authorization.Made fromisoformat registry
  action : attempt.authorization.action = attempt.call.authorizedAction
  requestedMade : attempt.requested.Made fromisoformat registry
  requestBuilt : ∃ requestId adapterId requestedAt,
    buildExecutionRequest fromisoformat requestId attempt.requested.action
      adapterId requestedAt = .ok attempt.call.request

/-- The approvals, the authorities and the actions of an attempt have no
collisions. -/
structure CollisionFree (attempt : Attempt) : Prop where
  approvals : Sha256.CollisionFree (textsOf {attempt.authorization.approvalIssue.payload,
      attempt.approvalIssue.payload})
  authorities : Sha256.CollisionFree (textsOf {attempt.authorization.authorityIssue.payload,
      attempt.authorityIssue.payload})
  actions : Sha256.CollisionFree (textsOf
    {attempt.requested.action.payload, attempt.authorization.action.payload})

/-- The proposals of an attempt carry the fingerprints of their payloads, which
have no collisions. -/
structure GenuineProposals (attempt : Attempt) : Prop where
  hashed : ∃ details authorizedDetails,
    hash (attempt.call.proposal.payload details) =
        .ok attempt.call.proposal.proposalFingerprint ∧
      hash (attempt.authorization.proposal.payload authorizedDetails) =
          .ok attempt.authorization.proposal.proposalFingerprint ∧
        Sha256.CollisionFree (textsOf
          {attempt.authorization.proposal.payload authorizedDetails,
            attempt.call.proposal.payload details})

/-- The execution of an attempt is inside live authority. -/
structure Live (fromisoformat : FromIsoformat) (registry : ExecutionRegistry)
    (attempt : Attempt) : Prop where
  action : attempt.requested.action = attempt.call.authorizedAction
  listing : attempt.call.request.listingId = attempt.authorization.proposal.listingId
  actionType : attempt.call.request.actionType = attempt.authorization.proposal.actionType
  proposal : attempt.authorization.proposal.proposalFingerprint =
    attempt.call.proposal.proposalFingerprint
  sameProposal : attempt.GenuineProposals → attempt.authorization.proposal = attempt.call.proposal
  approvalIssue : attempt.authorization.approvalIssue = attempt.approvalIssue
  approval : attempt.authorization.approval = attempt.call.approval
  authority : attempt.authorization.authority = attempt.call.authority
  authorized : AuthorityValid fromisoformat registry
    attempt.authorization.proposal attempt.call.approval
    attempt.call.authority attempt.authorization.authorizedAt
  executed : AuthorityValid fromisoformat registry attempt.call.proposal
    attempt.call.approval attempt.call.authority attempt.call.executionAt

end Attempt

theorem HumanApproval.eq_of_fingerprint_eq
    {issue other : ApprovalIssue} {otherApproval : HumanApproval}
    (made : makeHumanApproval fromisoformat issue = .ok approval)
    (otherMade : makeHumanApproval fromisoformat other = .ok otherApproval)
    (same : approval.approvalFingerprint = otherApproval.approvalFingerprint)
    (collisionFree : Sha256.CollisionFree (textsOf {issue.payload, other.payload})) :
    issue = other ∧ approval = otherApproval := by
  obtain ⟨_, _, _, _, _, fingerprint, hashed, rfl⟩ := makeHumanApproval_eq_ok.mp made
  obtain ⟨_, _, _, _, _, otherFingerprint, otherHashed, rfl⟩ :=
    makeHumanApproval_eq_ok.mp otherMade
  dsimp only at same
  subst same
  obtain rfl := @content_eq_of_sha256Dumps_eq _ _ ApprovalIssue.payload id
    ApprovalIssue.distinctKeys_payload ApprovalIssue.eq_of_sortKeys_eq _ _ _
    collisionFree hashed otherHashed
  exact ⟨rfl, rfl⟩

theorem ExecutionAuthority.eq_of_fingerprint_eq
    {issue other : AuthorityIssue} {otherAuthority : ExecutionAuthority}
    (made : makeExecutionAuthority fromisoformat issue = .ok authority)
    (otherMade : makeExecutionAuthority fromisoformat other = .ok otherAuthority)
    (same : authority.authorityFingerprint = otherAuthority.authorityFingerprint)
    (collisionFree : Sha256.CollisionFree (textsOf {issue.payload, other.payload})) :
    authority = otherAuthority := by
  obtain ⟨_, _, _, _, fingerprint, hashed, rfl⟩ := makeExecutionAuthority_eq_ok.mp made
  obtain ⟨_, _, _, _, otherFingerprint, otherHashed, rfl⟩ :=
    makeExecutionAuthority_eq_ok.mp otherMade
  dsimp only at same
  subst same
  rw [@content_eq_of_sha256Dumps_eq _ _ AuthorityIssue.payload
    AuthorityIssue.draft AuthorityIssue.distinctKeys_payload
    AuthorityIssue.draft_eq_of_sortKeys_eq _ _ _ collisionFree hashed otherHashed]

theorem AuthorizedAction.eq_of_fingerprint_eq {left right : AuthorizedAction}
    (leftHashed : hash left.payload = .ok left.authorizedActionFingerprint)
    (rightHashed : hash right.payload = .ok right.authorizedActionFingerprint)
    (same : left.authorizedActionFingerprint = right.authorizedActionFingerprint)
    (collisionFree : Sha256.CollisionFree (textsOf {left.payload, right.payload})) :
    left = right := by
  rw [same] at leftHashed
  exact eq_of_payload (sortKeys_eq_of_sha256Dumps_eq collisionFree (.inl rfl)
    (.inr rfl) left.distinctKeys_payload right.distinctKeys_payload leftHashed rightHashed) same

/-- A request names the listing and the type of the action it is built of. -/
theorem scope_of_buildExecutionRequest
    {requestId adapterId requestedAt : String} {action : AuthorizedAction}
    {request : ExecutionRequest}
    (built : buildExecutionRequest fromisoformat requestId action adapterId
      requestedAt = .ok request) :
    request.listingId = action.listingId ∧
      request.actionType = action.actionType ∧ request.requestedAt = requestedAt := by
  simp only [buildExecutionRequest, bind_eq_ok, require_eq_ok, exists_const, pure_eq_ok] at built
  obtain ⟨_, _, _, _, _, _, _, rfl⟩ := built
  exact ⟨rfl, rfl, rfl⟩

/-- Every execution of arguments that their constructors made, so also every
call of its adapter, is inside live authority. -/
theorem side_effect_inside_authority
    {fromisoformat : FromIsoformat} {registry : ExecutionRegistry}
    {attempt : Attempt} {execution : Execution}
    (made : attempt.Made fromisoformat registry) (collisionFree : attempt.CollisionFree)
    (executes : executeAuthorizedAction fromisoformat registry attempt.call =
      .ok execution) :
    attempt.Live fromisoformat registry := by
  have cleared := (executeAuthorizedAction_eq_ok.mp executes).1
  obtain ⟨proposalBound, approvalBound, authorityBound, requestBound, _⟩ :=
    checkBindings_eq_ok.mp cleared.bound
  obtain ⟨_, _, requestedAt, built⟩ := made.requestBuilt
  have authorizedFor : AuthorizedFor fromisoformat registry
      attempt.authorization.proposal attempt.authorization.action :=
    ⟨_, _, _, _, made.authorizationMade.authorized⟩
  have requestedFor : AuthorizedFor fromisoformat registry
      attempt.requested.proposal attempt.requested.action :=
    ⟨_, _, _, _, made.requestedMade.authorized⟩
  have requested := (request_of_buildExecutionRequest built).1
  obtain ⟨listing, actionType, _⟩ := scope_of_buildExecutionRequest built
  have action : attempt.requested.action = attempt.authorization.action := by
    refine AuthorizedAction.eq_of_fingerprint_eq requestedFor.of.hashed
      authorizedFor.of.hashed ?_ collisionFree.actions
    rw [← requested, requestBound, made.action]
  obtain ⟨_, _, valid, _, _, drafted⟩ :=
    authorizeAction_eq_ok.mp made.authorizationMade.authorized
  have actionApproval : attempt.call.authorizedAction.approvalFingerprint =
      attempt.authorization.approval.approvalFingerprint := by
    rw [← made.action, ← drafted]
    rfl
  have actionAuthority : attempt.call.authorizedAction.authorityFingerprint =
      attempt.authorization.authority.authorityFingerprint := by
    rw [← made.action, ← drafted]
    rfl
  obtain ⟨issue, approval⟩ := HumanApproval.eq_of_fingerprint_eq
    made.authorizationMade.approvalMade made.approvalMade
    (actionApproval.symm.trans approvalBound) collisionFree.approvals
  have authority := ExecutionAuthority.eq_of_fingerprint_eq
    made.authorizationMade.authorityMade made.authorityMade
    (actionAuthority.symm.trans authorityBound) collisionFree.authorities
  have proposal : attempt.authorization.proposal.proposalFingerprint =
      attempt.call.proposal.proposalFingerprint := by
    rw [← authorizedFor.of.proposalFingerprint, made.action, proposalBound]
  rw [action] at listing actionType
  exact
    { action := action.trans made.action
      listing := listing.trans authorizedFor.of.listingId
      actionType := actionType.trans authorizedFor.of.actionType
      proposal := proposal
      sameProposal := by
        rintro ⟨details, authorizedDetails, hashed, authorizedHashed, free⟩
        rw [proposal] at authorizedHashed
        exact GovernedActionProposal.eq_of_payload
          (sortKeys_eq_of_sha256Dumps_eq free (.inl rfl) (.inr rfl)
            (GovernedActionProposal.distinctKeys_payload _ _)
            (GovernedActionProposal.distinctKeys_payload _ _)
            authorizedHashed hashed) proposal
      approvalIssue := issue
      approval := approval
      authority := authority
      authorized := by
        rw [← approval, ← authority]
        exact exists_validateAuthority_iff.mp valid
      executed := exists_validateAuthority_iff.mp cleared.authorized }

/-! ## An approval after the fact -/

/-- The details of a sample proposal. -/
def sampleDetails : ProposalDetails where
  origin := "AGENT_REQUEST"
  targetReviewItemId := none
  reasonCodes := []
  prerequisites := []
  limitations := []
  sourceCaseFingerprint := ""
  listingContextFingerprint := ""
  intentFingerprint := ""
  agentJudgmentFingerprint := none
  m11ReleaseEvidenceFingerprint := ""
  m11ReleaseCertificationRoot := ""
  policyVersion := "1.0.0"
  policyFingerprint := ""
  lineageFingerprints := []
  scheduleState := "NOT_SCHEDULED"
  queueState := "NOT_QUEUED"
  publicationState := "NOT_PUBLISHED"
  transmissionState := "NOT_TRANSMITTED"
  requiresHumanApproval := true

theorem GovernedActionProposal.textual_payload
    (proposal : GovernedActionProposal) (details : ProposalDetails) :
    Textual (proposal.payload details) := by
  simp [payload, textual_obj, IsTagged, texts]

theorem ApprovalIssue.textual_payload (issue : ApprovalIssue) : Textual issue.payload := by
  simp [payload, textual_obj, IsTagged]

theorem AuthorityIssue.textual_payload (issue : AuthorityIssue) : Textual issue.payload := by
  simp [payload, textual_obj, IsTagged, texts]

/-- An approval of a proposal, given at some time. -/
def sampleApprovalIssue (fingerprint approvedAt : String) : ApprovalIssue where
  approvalId := "APPROVAL"
  proposalFingerprint := fingerprint
  actorId := "ACTOR"
  decision := "APPROVED"
  approvedAt := approvedAt
  rationaleFingerprint := Community.snapshotRegistry.certificationRoot

/-- An authority for a listing. -/
def sampleAuthorityIssue (listingId : String) : AuthorityIssue where
  authorityId := "AUTHORITY"
  principalId := "PRINCIPAL"
  listingId := listingId
  allowedActionTypes := ["PUBLISH"]
  status := "VALID"
  validFrom := "2026-01-01T00:00:00+00:00"
  validUntil := "2026-03-01T00:00:00+00:00"
  sourceFingerprint := Community.snapshotRegistry.certificationRoot

theorem exists_sampleHumanApproval {fingerprint approvedAt : String} {time : Int}
    (shape : Sha256.isHex64 fingerprint = true)
    (parsed : Community.sampleFromisoformat approvedAt = some (some time)) :
    ∃ approvalFingerprint, makeHumanApproval Community.sampleFromisoformat
        (sampleApprovalIssue fingerprint approvedAt) =
      .ok { (sampleApprovalIssue fingerprint approvedAt).draft with
        approvalFingerprint := approvalFingerprint } := by
  obtain ⟨approvalFingerprint, hashed⟩ := exists_hash_of_textual
    (sampleApprovalIssue fingerprint approvedAt).textual_payload
  have root : Sha256.isHex64
      Community.snapshotRegistry.certificationRoot = true :=
    Sha256.isHex64_ofList rfl rfl
  have identified : Text.isBlank "APPROVAL" = false ∧ Text.isBlank "ACTOR" = false := by decide
  exact ⟨approvalFingerprint, makeHumanApproval_eq_ok.mpr ⟨identified, shape,
    root, List.mem_cons_self, ⟨time, parsed⟩, approvalFingerprint, hashed, rfl⟩⟩

theorem exists_sampleExecutionAuthority
    {listingId : String} (named : Text.isBlank listingId = false) :
    ∃ fingerprint, makeExecutionAuthority Community.sampleFromisoformat
        (sampleAuthorityIssue listingId) =
      .ok { (sampleAuthorityIssue listingId).draft with
        authorityFingerprint := fingerprint } := by
  obtain ⟨fingerprint, hashed⟩ :=
    exists_hash_of_textual (sampleAuthorityIssue listingId).textual_payload
  have root : Sha256.isHex64
      Community.snapshotRegistry.certificationRoot = true :=
    Sha256.isHex64_ofList rfl rfl
  have identified : Text.isBlank "AUTHORITY" = false ∧ Text.isBlank "PRINCIPAL" = false := by decide
  exact ⟨fingerprint, makeExecutionAuthority_eq_ok.mpr
    ⟨⟨identified.1, identified.2, named⟩, ⟨1767225600, 1772323200, rfl, rfl, by omega⟩, root,
    List.cons_ne_nil _ _, fingerprint, hashed, rfl⟩⟩

/-- An attempt about a listing whose authorization, action and request were
made once, and whose approval was given and request was made at some times. -/
structure SampleAttempt (listingId approvedAt requestedAt : String)
    (attempt : Attempt) : Prop where
  made : attempt.Made Community.sampleFromisoformat executionRegistry
  free : attempt.CollisionFree
  genuine : attempt.GenuineProposals
  executes : ∃ execution, executeAuthorizedAction
    Community.sampleFromisoformat executionRegistry attempt.call =
      .ok execution ∧ execution.invoked = true
  approved : attempt.approvalIssue.approvedAt = approvedAt
  authorized : attempt.authorization.authorizedAt = "2026-02-01T00:00:00+00:00"
  requested : attempt.call.request.requestedAt = requestedAt
  executed : attempt.call.executionAt = "2026-02-01T00:00:00+00:00"
  adapter : attempt.call.adapter = sampleAdapter
  listing : attempt.authorization.proposal.listingId = listingId
  actionType : attempt.authorization.proposal.actionType = "PUBLISH"

theorem collisionFree_textsOf_pair (value : Json) :
    Sha256.CollisionFree (textsOf {value, value}) :=
  collisionFree_textsOf (by simp)

theorem exists_sampleAttempt
    {listingId approvedAt requestedAt : String} {approved requested : Int}
    (named : Text.isBlank listingId = false)
    (approvedParsed : Community.sampleFromisoformat approvedAt = some (some approved))
    (requestedParsed : Community.sampleFromisoformat requestedAt = some (some requested)) :
    ∃ attempt, SampleAttempt listingId approvedAt requestedAt attempt := by
  let bare := { sampleProposal with listingId := listingId }
  obtain ⟨fingerprint, hashed, shape⟩ := (bare.textual_payload sampleDetails).exists_sha256Dumps
  obtain ⟨approvalFingerprint, approvalMade⟩ := exists_sampleHumanApproval shape approvedParsed
  obtain ⟨authorityFingerprint, authorityMade⟩ := exists_sampleExecutionAuthority named
  let proposal := { bare with proposalFingerprint := fingerprint }
  let approval :=
    { (sampleApprovalIssue fingerprint approvedAt).draft with
      approvalFingerprint := approvalFingerprint }
  let authority := { (sampleAuthorityIssue listingId).draft with
    authorityFingerprint := authorityFingerprint }
  have proposed : validateProposal proposal = .ok () := by
    simp only [validateProposal, bind_eq_ok, require_eq_ok, exists_const, validateFp]
    exact ⟨shape, rfl, ⟨rfl, rfl⟩, rfl, rfl, rfl⟩
  have valid : AuthorityValid Community.sampleFromisoformat executionRegistry
      proposal approval authority "2026-02-01T00:00:00+00:00" :=
    { bound := rfl
      decision := rfl
      status := rfl
      listing := rfl
      action := List.mem_cons_self
      times := ⟨1767225600, 1769904000, 1772323200, rfl, rfl, rfl, by omega,
        by omega⟩ }
  obtain ⟨actionFingerprint, actionHashed⟩ := exists_hash_of_textual
    (draftAction executionRegistry "ACTION" proposal approval authority
      "2026-02-01T00:00:00+00:00").textual_payload
  let action := { draftAction executionRegistry "ACTION" proposal approval
    authority "2026-02-01T00:00:00+00:00" with
      authorizedActionFingerprint := actionFingerprint }
  have authorizes : authorizeAction Community.sampleFromisoformat
      executionRegistry "ACTION" proposal approval authority
        "2026-02-01T00:00:00+00:00" = .ok action :=
    authorizeAction_eq_ok.mpr ⟨by decide, proposed,
      exists_validateAuthority_iff.mpr valid, actionFingerprint, actionHashed,
      rfl⟩
  obtain ⟨key, keyHashed⟩ := exists_hash_of_textual
    (textual_keyPayload fingerprint approvalFingerprint authorityFingerprint
      "PUBLISH" listingId "ADAPTER")
  let draft : ExecutionRequest :=
    { requestId := "REQUEST"
      authorizedActionFingerprint := actionFingerprint
      proposalFingerprint := fingerprint
      listingId := listingId
      actionType := "PUBLISH"
      adapterId := "ADAPTER"
      requestedAt := requestedAt
      idempotencyKey := key
      requestFingerprint := "" }
  obtain ⟨requestFingerprint, requestHashed⟩ := exists_hash_of_textual draft.textual_payload
  have identified : Text.isBlank "REQUEST" = false ∧ Text.isBlank "ADAPTER" = false := by decide
  have built : buildExecutionRequest Community.sampleFromisoformat "REQUEST"
      action "ADAPTER" requestedAt =
        .ok { draft with requestFingerprint := requestFingerprint } := by
    simp only [buildExecutionRequest, bind_eq_ok, require_eq_ok,
      exists_const, parseTs_eq_ok, pure_eq_ok]
    exact ⟨identified, requested, requestedParsed, key, keyHashed,
      requestFingerprint, requestHashed, rfl⟩
  let authorization : Authorization :=
    ⟨"ACTION", proposal, sampleApprovalIssue fingerprint approvedAt, approval,
      sampleAuthorityIssue listingId, authority, "2026-02-01T00:00:00+00:00", action⟩
  let call : ExecutionCall :=
    { receiptId := "RECEIPT"
      proposal := proposal
      approval := approval
      authority := authority
      authorizedAction := action
      request := { draft with requestFingerprint := requestFingerprint }
      adapter := sampleAdapter
      priorReceipts := []
      executionAt := "2026-02-01T00:00:00+00:00" }
  have authorizationMade : authorization.Made Community.sampleFromisoformat
      executionRegistry := ⟨approvalMade, authorityMade, authorizes⟩
  have cleared : call.Cleared Community.sampleFromisoformat
      executionRegistry :=
    { identified := (by decide : Text.isBlank "RECEIPT" = false)
      proposed := proposed
      bound := checkBindings_eq_ok.mpr ⟨rfl, rfl, rfl, rfl, rfl⟩
      authorized := exists_validateAuthority_iff.mpr valid }
  obtain ⟨execution, executed⟩ := cleared.exists_execution
  refine ⟨⟨call, sampleApprovalIssue fingerprint approvedAt,
    sampleAuthorityIssue listingId, authorization, authorization⟩, ?_⟩
  exact
    { made :=
        { approvalMade := approvalMade
          authorityMade := authorityMade
          authorizationMade := authorizationMade
          action := rfl
          requestedMade := authorizationMade
          requestBuilt := ⟨_, _, _, built⟩ }
      free :=
        { approvals := collisionFree_textsOf_pair _
          authorities := collisionFree_textsOf_pair _
          actions := collisionFree_textsOf_pair _ }
      genuine := ⟨sampleDetails, sampleDetails, hashed, hashed, collisionFree_textsOf_pair _⟩
      executes := ⟨execution, executed, (invoked_iff executed).mpr
        fun _ listed => absurd listed List.not_mem_nil⟩
      approved := rfl
      authorized := rfl
      requested := rfl
      executed := rfl
      adapter := rfl
      listing := rfl
      actionType := rfl }

theorem side_effect_inside_authority_sample :
    ∃ attempt : Attempt,
      attempt.Live Community.sampleFromisoformat executionRegistry ∧
        attempt.authorization.proposal = attempt.call.proposal := by
  obtain ⟨attempt, sample⟩ := @exists_sampleAttempt "LISTING"
    "2026-01-01T00:00:00+00:00" "2026-02-01T00:00:00+00:00" 1767225600
    1769904000 (by decide) rfl rfl
  obtain ⟨execution, executes, _⟩ := sample.executes
  have live :=
    side_effect_inside_authority sample.made sample.free executes
  exact ⟨attempt, live, live.sameProposal sample.genuine⟩

/-- An action is authorized and executed in February on an approval that is
given in March and a request that is made in March. -/
theorem executed_before_approval :
    ∃ (attempt : Attempt) (execution : Execution)
        (approved authorized requested executed : Int),
      attempt.Made Community.sampleFromisoformat executionRegistry ∧
        attempt.GenuineProposals ∧
          executeAuthorizedAction Community.sampleFromisoformat
              executionRegistry attempt.call = .ok execution ∧
            execution.invoked = true ∧ Community.sampleFromisoformat
                  attempt.approvalIssue.approvedAt =
                  some (some approved) ∧
                Community.sampleFromisoformat
                    attempt.authorization.authorizedAt =
                    some (some authorized) ∧
                  Community.sampleFromisoformat
                      attempt.call.request.requestedAt =
                      some (some requested) ∧
                    Community.sampleFromisoformat attempt.call.executionAt =
                        some (some executed) ∧
                      authorized < approved ∧ executed < approved ∧
                        executed < requested := by
  obtain ⟨attempt, sample⟩ := @exists_sampleAttempt "LISTING"
    "2026-03-01T00:00:00+00:00" "2026-03-01T00:00:00+00:00" 1772323200
    1772323200 (by decide) rfl rfl
  obtain ⟨execution, executes, invoked⟩ := sample.executes
  refine ⟨attempt, execution, 1772323200, 1769904000, 1772323200, 1769904000,
    sample.made, sample.genuine, executes, invoked, ?_, ?_, ?_, ?_, ?_, ?_,
    ?_⟩
  · rw [sample.approved]
    rfl
  · rw [sample.authorized]
    rfl
  · rw [sample.requested]
    rfl
  · rw [sample.executed]
    rfl
  all_goals omega

end SanTanHeights.Listing
