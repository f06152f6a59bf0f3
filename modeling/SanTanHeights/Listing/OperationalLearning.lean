import SanTanHeights.Listing.Receipts

/-!
# Operational learning

Episodes bind an execution receipt to its verification, its case and its
rollback.  The metrics count episodes, which are told apart by their
identifiers; a receipt that several episodes hold is counted with each.
-/

namespace SanTanHeights.Listing.OperationalLearning

open Foundation Foundation.Json Foundation.Sorting Foundation.Outcome Shared
open Community (FromIsoformat texts)

/-! ## Episodes and outcomes -/

structure OperationalEpisode where
  episodeId : String
  subjectPropertyId : String
  listingId : String
  actionType : String
  proposalFingerprint : String
  approvalFingerprint : String
  authorityFingerprint : String
  executionReceipt : ExecutionReceipt
  verification : VerificationReceipt
  reconciliationCase : Option ReconciliationCase
  rollbackReceipt : Option RollbackReceipt
  episodeFingerprint : String

/-- What the fingerprint of an episode covers. -/
def OperationalEpisode.payload (episode : OperationalEpisode) : Json :=
  .obj
    [("episode_id", .str episode.episodeId),
      ("subject_property_id", .str episode.subjectPropertyId),
      ("listing_id", .str episode.listingId), ("action_type", .str episode.actionType),
      ("proposal_fingerprint", .str episode.proposalFingerprint),
      ("approval_fingerprint", .str episode.approvalFingerprint),
      ("authority_fingerprint", .str episode.authorityFingerprint),
      ("execution_receipt_fingerprint", .str episode.executionReceipt.receiptFingerprint),
      ("verification_fingerprint", .str episode.verification.verificationFingerprint),
      ("reconciliation_case_fingerprint", .ofOptional
        (episode.reconciliationCase.map ReconciliationCase.caseFingerprint)),
      ("rollback_receipt_fingerprint", .ofOptional
        (episode.rollbackReceipt.map RollbackReceipt.receiptFingerprint))]

/-- The checks of a rollback receipt against the rest of its episode. -/
def checkRollbackLineage (given : OperationalEpisode) (receipt : RollbackReceipt) :
    Except String Unit := do
  let case_ ← orRaise given.reconciliationCase
    "rollback receipt requires reconciliation case"
  require (receipt.reconciliationCaseFingerprint = case_.caseFingerprint)
    "episode rollback reconciliation lineage mismatch"
  require (receipt.originalExecutionReceiptFingerprint =
    given.executionReceipt.receiptFingerprint)
    "episode rollback execution lineage mismatch"
  require (receipt.verificationFingerprint = given.verification.verificationFingerprint)
    "episode rollback verification lineage mismatch"

/-- The checks of a case against the rest of its episode. -/
def checkCaseLineage (given : OperationalEpisode) (case_ : ReconciliationCase) :
    Except String Unit := do
  require (case_.executionReceiptFingerprint = given.executionReceipt.receiptFingerprint)
    "episode reconciliation receipt lineage mismatch"
  require (case_.verificationFingerprint = given.verification.verificationFingerprint)
    "episode reconciliation verification lineage mismatch"

/-- `make_operational_episode`; a fingerprint that is given is not read. -/
def makeOperationalEpisode (given : OperationalEpisode) :
    Except String OperationalEpisode := do
  require (Text.isBlank given.episodeId = false ∧
    Text.isBlank given.subjectPropertyId = false ∧ Text.isBlank given.listingId = false ∧
    Text.isBlank given.actionType = false)
    "episode identity and action scope required"
  validateFp given.proposalFingerprint "proposal_fingerprint"
  validateFp given.approvalFingerprint "approval_fingerprint"
  validateFp given.authorityFingerprint "authority_fingerprint"
  validateFp given.executionReceipt.receiptFingerprint "execution receipt fingerprint"
  validateFp given.verification.verificationFingerprint "verification fingerprint"
  require (given.executionReceipt.proposalFingerprint =
    given.proposalFingerprint) "episode proposal lineage mismatch"
  require (given.executionReceipt.approvalFingerprint =
    given.approvalFingerprint) "episode approval lineage mismatch"
  require (given.executionReceipt.authorityFingerprint =
    given.authorityFingerprint) "episode authority lineage mismatch"
  require (given.verification.executionReceiptFingerprint =
    given.executionReceipt.receiptFingerprint)
    "episode verification lineage mismatch"
  given.reconciliationCase.toList.forM (checkCaseLineage given)
  given.rollbackReceipt.toList.forM (checkRollbackLineage given)
  let fingerprint ← hash given.payload
  return { given with episodeFingerprint := fingerprint }

structure OperationalOutcome where
  outcomeId : String
  episodeFingerprint : String
  outcomeType : String
  outcomeState : String
  observedAt : String
  sourceFingerprint : String
  notesFingerprint : String
  immutable : Bool
  outcomeFingerprint : String

/-- What is read of a learning registry; a rule gives the type of the
candidates of a trigger. -/
structure LearningRegistry where
  outcomeTypes : List String
  allowedOutcomeStates : List String
  improvementRules : List (String × String)

/-- `m12-004-operational-learning-v1.0.yaml`. -/
def learningRegistry : LearningRegistry where
  outcomeTypes :=
    ["OPERATIONAL_RESULT", "VERIFICATION_RESULT", "RECONCILIATION_RESULT", "ROLLBACK_RESULT"]
  allowedOutcomeStates :=
    ["SUCCEEDED", "FAILED", "VERIFIED", "MISMATCH", "OUTCOME_UNKNOWN",
      "NOT_APPLICABLE", "RESOLVED", "UNRESOLVED", "DUPLICATE_SUPPRESSED",
      "BLOCKED_OUTCOME_UNKNOWN"]
  improvementRules :=
    [("EXECUTION_OUTCOME_UNKNOWN", "EXECUTION_RELIABILITY_REVIEW"),
      ("VERIFICATION_MISMATCH", "VERIFICATION_POLICY_REVIEW"),
      ("VERIFICATION_OUTCOME_UNKNOWN", "VERIFICATION_COVERAGE_REVIEW"),
      ("OPEN_RECONCILIATION", "RECONCILIATION_WORKFLOW_REVIEW"),
      ("ROLLBACK_OUTCOME_UNKNOWN", "ROLLBACK_RELIABILITY_REVIEW")]

/-! ## Associations -/

structure OperationalAssociation where
  associationId : String
  outcomeId : String
  associationType : String
  sourceFingerprints : List String
  statement : String
  causalClaim : Bool
  associationFingerprint : String

def OperationalAssociation.payload (association : OperationalAssociation) : Json :=
  .obj
    [("association_id", .str association.associationId),
      ("outcome_id", .str association.outcomeId),
      ("association_type", .str association.associationType),
      ("source_fingerprints", texts association.sourceFingerprints),
      ("statement", .str association.statement),
      ("causal_claim", .bool association.causalClaim)]

/-- What every statement of an association ends with. -/
def associative : String :=
  " The linkage is associative and does not establish causation."

/-- `_association`; the statements differ in what the outcome is linked to. -/
def association (outcome : OperationalOutcome) (associationType : String)
    (sources : List String) (linkedTo : String) :
    Except String OperationalAssociation := do
  let draft : OperationalAssociation :=
    { associationId := outcome.outcomeId ++ "-" ++ associationType
      outcomeId := outcome.outcomeId
      associationType
      sourceFingerprints := sortedSet sources
      statement := "This observed operational outcome is linked to " ++
        linkedTo ++ "." ++ associative
      causalClaim := false
      associationFingerprint := "" }
  let fingerprint ← hash draft.payload
  return { draft with associationFingerprint := fingerprint }

/-- The associations of an outcome with the parts of its episode. -/
def associations (outcome : OperationalOutcome) (episode : OperationalEpisode) :
    Except String (List OperationalAssociation) := do
  let execution ← association outcome "LINKED_EXECUTION"
    [episode.proposalFingerprint, episode.approvalFingerprint, episode.authorityFingerprint,
      episode.executionReceipt.receiptFingerprint]
    "the governed execution chain"
  let verification ← association outcome "LINKED_VERIFICATION"
    [episode.verification.verificationFingerprint]
    "independent verification evidence"
  let cases ← episode.reconciliationCase.toList.mapM fun case_ =>
    association outcome "LINKED_RECONCILIATION" [case_.caseFingerprint]
      "a governed reconciliation case"
  let rollbacks ← episode.rollbackReceipt.toList.mapM fun receipt =>
    association outcome "LINKED_ROLLBACK" [receipt.receiptFingerprint] "a governed rollback receipt"
  return execution :: verification :: (cases ++ rollbacks)

/-! ## Metrics -/

structure OperationalMetrics where
  executionAttemptCount : Nat
  executionSuccessCount : Nat
  duplicateSuppressionCount : Nat
  executionOutcomeUnknownCount : Nat
  verificationCount : Nat
  verificationMismatchCount : Nat
  verificationOutcomeUnknownCount : Nat
  reconciliationCaseCount : Nat
  openReconciliationCount : Nat
  rollbackAttemptCount : Nat
  rollbackSuccessCount : Nat
  rollbackOutcomeUnknownCount : Nat
  metricsFingerprint : String

def OperationalMetrics.payload (metrics : OperationalMetrics) : Json :=
  .obj
    [("execution_attempt_count", .int metrics.executionAttemptCount),
      ("execution_success_count", .int metrics.executionSuccessCount),
      ("duplicate_suppression_count", .int metrics.duplicateSuppressionCount),
      ("execution_outcome_unknown_count", .int metrics.executionOutcomeUnknownCount),
      ("verification_count", .int metrics.verificationCount),
      ("verification_mismatch_count", .int metrics.verificationMismatchCount),
      ("verification_outcome_unknown_count", .int metrics.verificationOutcomeUnknownCount),
      ("reconciliation_case_count", .int metrics.reconciliationCaseCount),
      ("open_reconciliation_count", .int metrics.openReconciliationCount),
      ("rollback_attempt_count", .int metrics.rollbackAttemptCount),
      ("rollback_success_count", .int metrics.rollbackSuccessCount),
      ("rollback_outcome_unknown_count", .int metrics.rollbackOutcomeUnknownCount)]

/-- The counts of episodes, before they have a fingerprint. -/
def draftMetrics (episodes : List OperationalEpisode) : OperationalMetrics where
  executionAttemptCount := episodes.countP fun episode =>
    episode.executionReceipt.sideEffectAttempted
  executionSuccessCount := episodes.countP fun episode =>
    episode.executionReceipt.outcome = "SUCCEEDED"
  duplicateSuppressionCount := episodes.countP fun episode =>
    episode.executionReceipt.duplicateSuppressed
  executionOutcomeUnknownCount := episodes.countP fun episode =>
    episode.executionReceipt.outcomeUnknown
  verificationCount := episodes.length
  verificationMismatchCount := episodes.countP fun episode =>
    episode.verification.verificationState = .mismatch
  verificationOutcomeUnknownCount := episodes.countP fun episode =>
    episode.verification.verificationState = .outcomeUnknown
  reconciliationCaseCount := episodes.countP fun episode =>
    episode.reconciliationCase.isSome
  openReconciliationCount := episodes.countP fun episode =>
    episode.reconciliationCase.any fun case_ => case_.state = "OPEN"
  rollbackAttemptCount := episodes.countP fun episode =>
    episode.rollbackReceipt.any RollbackReceipt.sideEffectAttempted
  rollbackSuccessCount := episodes.countP fun episode =>
    episode.rollbackReceipt.any fun receipt => receipt.outcome = "SUCCEEDED"
  rollbackOutcomeUnknownCount := episodes.countP fun episode =>
    episode.rollbackReceipt.any RollbackReceipt.outcomeUnknown
  metricsFingerprint := ""

/-- `_metrics`. -/
def metricsOf (episodes : List OperationalEpisode) :
    Except String OperationalMetrics := do
  let fingerprint ← hash (draftMetrics episodes).payload
  return { draftMetrics episodes with metricsFingerprint := fingerprint }

/-! ## Improvement candidates -/

/-- What candidates are triggered by. -/
inductive Trigger where
  | executionOutcomeUnknown
  | verificationMismatch
  | verificationOutcomeUnknown
  | openReconciliation
  | rollbackOutcomeUnknown
  deriving DecidableEq, Repr

namespace Trigger

def code : Trigger → String
  | executionOutcomeUnknown => "EXECUTION_OUTCOME_UNKNOWN"
  | verificationMismatch => "VERIFICATION_MISMATCH"
  | verificationOutcomeUnknown => "VERIFICATION_OUTCOME_UNKNOWN"
  | openReconciliation => "OPEN_RECONCILIATION"
  | rollbackOutcomeUnknown => "ROLLBACK_OUTCOME_UNKNOWN"

/-- The triggers in the order in which they are looked for. -/
def all : List Trigger :=
  [executionOutcomeUnknown, verificationMismatch, verificationOutcomeUnknown,
    openReconciliation, rollbackOutcomeUnknown]

/-- The counter that fires a trigger. -/
def count (metrics : OperationalMetrics) : Trigger → Nat
  | executionOutcomeUnknown => metrics.executionOutcomeUnknownCount
  | verificationMismatch => metrics.verificationMismatchCount
  | verificationOutcomeUnknown => metrics.verificationOutcomeUnknownCount
  | openReconciliation => metrics.openReconciliationCount
  | rollbackOutcomeUnknown => metrics.rollbackOutcomeUnknownCount

/-- What an episode adds to the sources of a candidate. -/
def source (episode : OperationalEpisode) : Trigger → Option String
  | executionOutcomeUnknown =>
      if episode.executionReceipt.outcomeUnknown = true then
        some episode.executionReceipt.receiptFingerprint
      else none
  | verificationMismatch =>
      if episode.verification.verificationState = .mismatch then
        some episode.verification.verificationFingerprint
      else none
  | verificationOutcomeUnknown =>
      if episode.verification.verificationState = .outcomeUnknown then
        some episode.verification.verificationFingerprint
      else none
  | openReconciliation =>
      (episode.reconciliationCase.filter fun case_ =>
        case_.state = "OPEN").map ReconciliationCase.caseFingerprint
  | rollbackOutcomeUnknown =>
      (episode.rollbackReceipt.filter
        RollbackReceipt.outcomeUnknown).map RollbackReceipt.receiptFingerprint

end Trigger

structure OperationalImprovementCandidate where
  candidateId : String
  candidateType : String
  triggerCode : String
  sourceFingerprints : List String
  rationale : String
  advisoryOnly : Bool
  promotionStatus : String
  candidateFingerprint : String

def OperationalImprovementCandidate.payload
    (candidate : OperationalImprovementCandidate) : Json :=
  .obj
    [("candidate_id", .str candidate.candidateId),
      ("candidate_type", .str candidate.candidateType),
      ("trigger_code", .str candidate.triggerCode),
      ("source_fingerprints", texts candidate.sourceFingerprints),
      ("rationale", .str candidate.rationale),
      ("advisory_only", .bool candidate.advisoryOnly),
      ("promotion_status", .str candidate.promotionStatus)]

/-- The candidate of a trigger, before it has a fingerprint. -/
def draftCandidate (episodes : List OperationalEpisode) (metrics : OperationalMetrics)
    (candidateType : String) (trigger : Trigger) :
    OperationalImprovementCandidate where
  candidateId := "M12-004-" ++ trigger.code
  candidateType := candidateType
  triggerCode := trigger.code
  sourceFingerprints := sortedSet (metrics.metricsFingerprint ::
    episodes.filterMap fun episode => trigger.source episode)
  rationale := "Observed operational pattern " ++ trigger.code ++
    " warrants controlled M12-005 review. This is advisory and does not " ++
    "establish causation or change live execution policy."
  advisoryOnly := true
  promotionStatus := "NOT_PROMOTED"
  candidateFingerprint := ""

def candidate (registry : LearningRegistry) (episodes : List OperationalEpisode)
    (metrics : OperationalMetrics) (trigger : Trigger) :
    Except String OperationalImprovementCandidate := do
  let candidateType ← orRaise (registry.improvementRules.lookup trigger.code) trigger.code
  let draft := draftCandidate episodes metrics candidateType trigger
  let fingerprint ← hash draft.payload
  return { draft with candidateFingerprint := fingerprint }

/-- `_candidates`. -/
def candidates (registry : LearningRegistry) (episodes : List OperationalEpisode)
    (metrics : OperationalMetrics) :
    Except String (List OperationalImprovementCandidate) :=
  (sortedBy Trigger.code (Trigger.all.filter fun trigger =>
    trigger.count metrics ≠ 0)).mapM (candidate registry episodes metrics)

/-! ## Evaluation -/

structure OperationalLearningResult where
  episodes : List OperationalEpisode
  outcomes : List OperationalOutcome
  associations : List OperationalAssociation
  metrics : OperationalMetrics
  improvementCandidates : List OperationalImprovementCandidate
  unknownOutcomeIds : List String
  publicEligible : Bool
  externalActionCapability : String
  learningFingerprint : String

/-- The states of outcomes of which nothing is known. -/
def unknownStates : List String :=
  ["OUTCOME_UNKNOWN", "UNRESOLVED", "BLOCKED_OUTCOME_UNKNOWN"]

/-- The associations of outcomes, each of which is new and has its episode. -/
def linkOutcomes (episodes : List OperationalEpisode) :
    List String → List OperationalOutcome → Except String (List OperationalAssociation)
  | _, [] => .ok []
  | seen, outcome :: outcomes => do
      require (outcome.outcomeId ∉ seen) "duplicate operational outcome_id"
      -- of episodes with one fingerprint the last is kept
      let episode ← orRaise (episodes.reverse.find? fun episode =>
        episode.episodeFingerprint = outcome.episodeFingerprint)
        "operational outcome episode lineage mismatch"
      let own ← associations outcome episode
      let others ← linkOutcomes episodes (outcome.outcomeId :: seen) outcomes
      return own ++ others

def OperationalLearningResult.payload (result : OperationalLearningResult) : Json :=
  .obj
    [("episodes", texts (result.episodes.map OperationalEpisode.episodeFingerprint)),
      ("outcomes", texts (result.outcomes.map OperationalOutcome.outcomeFingerprint)),
      ("associations", texts (result.associations.map
        OperationalAssociation.associationFingerprint)),
      ("metrics_fingerprint", .str result.metrics.metricsFingerprint),
      ("candidates", texts (result.improvementCandidates.map
        OperationalImprovementCandidate.candidateFingerprint)),
      ("unknown_outcome_ids", texts result.unknownOutcomeIds),
      ("public_eligible", .bool result.publicEligible),
      ("external_action_capability", .str result.externalActionCapability)]

/-- What is learned of episodes and outcomes that are in order. -/
def learn (registry : LearningRegistry) (episodes : List OperationalEpisode)
    (outcomes : List OperationalOutcome) :
    Except String OperationalLearningResult := do
  require (episodes ≠ []) "at least one operational episode required"
  require (episodes.map OperationalEpisode.episodeId).Nodup
    "duplicate operational episode_id"
  let linked ← linkOutcomes episodes [] outcomes
  let metrics ← metricsOf episodes
  let improvementCandidates ← candidates registry episodes metrics
  let draft : OperationalLearningResult :=
    { episodes
      outcomes
      associations := sortedBy OperationalAssociation.associationId linked
      metrics
      improvementCandidates
      unknownOutcomeIds := sortedBy id ((outcomes.filter fun outcome =>
        outcome.outcomeState ∈ unknownStates).map OperationalOutcome.outcomeId)
      publicEligible := false
      externalActionCapability := "NONE"
      learningFingerprint := "" }
  let fingerprint ← hash draft.payload
  return { draft with learningFingerprint := fingerprint }

/-- `evaluate_operational_learning`. -/
def evaluateOperationalLearning
    (registry : LearningRegistry) (episodes : List OperationalEpisode)
    (outcomes : List OperationalOutcome) :
    Except String OperationalLearningResult :=
  learn registry (sortedBy OperationalEpisode.episodeId episodes)
    (sortedBy (fun outcome => toLex (outcome.observedAt, outcome.outcomeId)) outcomes)

/-! ## What is counted -/

/-- What a counter can count of an episode. -/
inductive Evidence where
  | execution (receipt : ExecutionReceipt)
  | verification (verification : VerificationReceipt)
  | reconciliation (case_ : ReconciliationCase)
  | rollback (receipt : RollbackReceipt)
  deriving DecidableEq

def Evidence.fingerprint : Evidence → String
  | .execution receipt => receipt.receiptFingerprint
  | .verification receipt => receipt.verificationFingerprint
  | .reconciliation case_ => case_.caseFingerprint
  | .rollback receipt => receipt.receiptFingerprint

inductive Counter where
  | executionAttempt
  | executionSuccess
  | duplicateSuppression
  | executionOutcomeUnknown
  | verification
  | verificationMismatch
  | verificationOutcomeUnknown
  | reconciliationCase
  | openReconciliation
  | rollbackAttempt
  | rollbackSuccess
  | rollbackOutcomeUnknown

namespace Counter

def count (metrics : OperationalMetrics) : Counter → Nat
  | executionAttempt => metrics.executionAttemptCount
  | executionSuccess => metrics.executionSuccessCount
  | duplicateSuppression => metrics.duplicateSuppressionCount
  | executionOutcomeUnknown => metrics.executionOutcomeUnknownCount
  | verification => metrics.verificationCount
  | verificationMismatch => metrics.verificationMismatchCount
  | verificationOutcomeUnknown => metrics.verificationOutcomeUnknownCount
  | reconciliationCase => metrics.reconciliationCaseCount
  | openReconciliation => metrics.openReconciliationCount
  | rollbackAttempt => metrics.rollbackAttemptCount
  | rollbackSuccess => metrics.rollbackSuccessCount
  | rollbackOutcomeUnknown => metrics.rollbackOutcomeUnknownCount

/-- The receipt of an episode, where it is in a class. -/
def ofReceipt (episode : OperationalEpisode)
    (inClass : ExecutionReceipt → Bool) : Option Evidence :=
  if inClass episode.executionReceipt = true then
    some (.execution episode.executionReceipt)
  else none

/-- The verification of an episode, where it is in a class. -/
def ofVerification (episode : OperationalEpisode)
    (inClass : VerificationReceipt → Bool) : Option Evidence :=
  if inClass episode.verification = true then
    some (.verification episode.verification)
  else none

/-- The case of an episode, where it is in a class. -/
def ofCase (episode : OperationalEpisode)
    (inClass : ReconciliationCase → Bool) : Option Evidence :=
  (episode.reconciliationCase.filter inClass).map .reconciliation

/-- The rollback receipt of an episode, where it is in a class. -/
def ofRollback (episode : OperationalEpisode)
    (inClass : RollbackReceipt → Bool) : Option Evidence :=
  (episode.rollbackReceipt.filter inClass).map .rollback

/-- What a counter is to count of an episode. -/
def evidence (counter : Counter) (episode : OperationalEpisode) : Option Evidence :=
  match counter with
  | executionAttempt => ofReceipt episode fun receipt =>
      receipt.sideEffectAttempted
  | executionSuccess => ofReceipt episode fun receipt =>
      receipt.outcome = "SUCCEEDED"
  | duplicateSuppression => ofReceipt episode fun receipt =>
      receipt.duplicateSuppressed
  | executionOutcomeUnknown => ofReceipt episode fun receipt =>
      receipt.outcomeUnknown
  | verification => ofVerification episode fun _ => true
  | verificationMismatch => ofVerification episode fun verification =>
      verification.verificationState = .mismatch
  | verificationOutcomeUnknown => ofVerification episode fun verification =>
      verification.verificationState = .outcomeUnknown
  | reconciliationCase => ofCase episode fun _ => true
  | openReconciliation => ofCase episode fun case_ => case_.state = "OPEN"
  | rollbackAttempt => ofRollback episode fun receipt =>
      receipt.sideEffectAttempted
  | rollbackSuccess => ofRollback episode fun receipt =>
      receipt.outcome = "SUCCEEDED"
  | rollbackOutcomeUnknown => ofRollback episode fun receipt =>
      receipt.outcomeUnknown

/-- All that a counter is to count, with every episode that holds it. -/
def counted (counter : Counter) (episodes : List OperationalEpisode) : List Evidence :=
  episodes.filterMap counter.evidence

variable {episode : OperationalEpisode}

@[simp] theorem isSome_ofReceipt {inClass : ExecutionReceipt → Bool} :
    (ofReceipt episode inClass).isSome = inClass episode.executionReceipt := by
  unfold ofReceipt
  cases inClass episode.executionReceipt <;> rfl

@[simp] theorem isSome_ofVerification {inClass : VerificationReceipt → Bool} :
    (ofVerification episode inClass).isSome = inClass episode.verification := by
  unfold ofVerification
  cases inClass episode.verification <;> rfl

@[simp] theorem isSome_ofCase {inClass : ReconciliationCase → Bool} :
    (ofCase episode inClass).isSome = episode.reconciliationCase.any inClass := by
  unfold ofCase
  cases episode.reconciliationCase with
  | none => rfl
  | some case_ => cases held : inClass case_ <;> simp [held]

@[simp] theorem isSome_ofRollback {inClass : RollbackReceipt → Bool} :
    (ofRollback episode inClass).isSome = episode.rollbackReceipt.any inClass := by
  unfold ofRollback
  cases episode.rollbackReceipt with
  | none => rfl
  | some receipt => cases held : inClass receipt <;> simp [held]

/-- Every counter is the number of episodes with something for it. -/
theorem count_draftMetrics (counter : Counter) (episodes : List OperationalEpisode) :
    counter.count (draftMetrics episodes) = (counter.counted episodes).length := by
  rw [counted, List.length_filterMap_eq_countP]
  cases counter with
  | verification =>
      simp only [count, draftMetrics, evidence, isSome_ofVerification]
      rw [List.countP_true]
  | reconciliationCase =>
      refine congrArg (List.countP · episodes) (funext fun episode => ?_)
      rw [evidence, isSome_ofCase]
      cases episode.reconciliationCase <;> rfl
  | executionAttempt | executionSuccess | duplicateSuppression
  | executionOutcomeUnknown | verificationMismatch
  | verificationOutcomeUnknown | openReconciliation | rollbackAttempt
  | rollbackSuccess | rollbackOutcomeUnknown =>
      refine congrArg (List.countP · episodes) (funext fun episode => ?_)
      simp only [evidence, isSome_ofReceipt, isSome_ofVerification,
        isSome_ofCase, isSome_ofRollback]

/-- A counter tells its evidence apart where no two episodes share any. -/
theorem length_counted_eq_iff (counter : Counter) (episodes : List OperationalEpisode) :
    (counter.counted episodes).length =
        (counter.counted episodes).dedup.length ↔
      episodes.Pairwise fun left right =>
        ∀ evidence ∈ counter.evidence left, evidence ∉ counter.evidence right := by
  have distinct : (counter.counted episodes).length =
      (counter.counted episodes).dedup.length ↔ (counter.counted episodes).Nodup := by
    rw [eq_comm, ← List.dedup_eq_self]
    constructor
    · exact (List.dedup_sublist _).eq_of_length
    · exact congrArg List.length
  rw [distinct, counted, List.Nodup, List.pairwise_filterMap]
  refine ⟨fun apart => apart.imp ?_, fun apart => apart.imp ?_⟩
  · intro left right differ evidence leftHeld rightHeld
    exact differ evidence leftHeld evidence rightHeld rfl
  · intro left right apart evidence leftHeld other rightHeld same
    exact apart evidence leftHeld (same ▸ rightHeld)

end Counter

namespace Trigger

/-- What a trigger looks at. -/
def counter : Trigger → Counter
  | executionOutcomeUnknown => .executionOutcomeUnknown
  | verificationMismatch => .verificationMismatch
  | verificationOutcomeUnknown => .verificationOutcomeUnknown
  | openReconciliation => .openReconciliation
  | rollbackOutcomeUnknown => .rollbackOutcomeUnknown

theorem count_eq (metrics : OperationalMetrics) (trigger : Trigger) :
    trigger.count metrics = trigger.counter.count metrics := by
  cases trigger <;> rfl

/-- The sources are the fingerprints of what is counted. -/
theorem source_eq (episode : OperationalEpisode) (trigger : Trigger) :
    trigger.source episode = (trigger.counter.evidence episode).map Evidence.fingerprint := by
  cases trigger with
  | executionOutcomeUnknown =>
      simp only [source, counter, Counter.evidence, Counter.ofReceipt]
      split_ifs <;> rfl
  | verificationMismatch | verificationOutcomeUnknown =>
      simp only [source, counter, Counter.evidence, Counter.ofVerification, decide_eq_true_eq]
      split_ifs <;> rfl
  | openReconciliation =>
      rw [source, counter, Counter.evidence, Counter.ofCase, Option.map_map]
      rfl
  | rollbackOutcomeUnknown =>
      rw [source, counter, Counter.evidence, Counter.ofRollback, Option.map_map]
      rfl

theorem mem_all (trigger : Trigger) : trigger ∈ all := by
  cases trigger <;> simp [all]

theorem code_injective : Function.Injective code := by
  intro left right same
  cases left <;> cases right <;> first | rfl | simp [code] at same

end Trigger

/-! ## What is learned -/

/-- The result of an evaluation, before it has a fingerprint. -/
def draftResult (episodes : List OperationalEpisode) (outcomes : List OperationalOutcome)
    (linked : List OperationalAssociation) (metrics : OperationalMetrics)
    (improvementCandidates : List OperationalImprovementCandidate) :
    OperationalLearningResult where
  episodes := episodes
  outcomes := outcomes
  associations := sortedBy OperationalAssociation.associationId linked
  metrics := metrics
  improvementCandidates := improvementCandidates
  unknownOutcomeIds := sortedBy id ((outcomes.filter fun outcome =>
    outcome.outcomeState ∈ unknownStates).map OperationalOutcome.outcomeId)
  publicEligible := false
  externalActionCapability := "NONE"
  learningFingerprint := ""

variable {episodes : List OperationalEpisode} {metrics : OperationalMetrics}
  {registry : LearningRegistry} {outcomes : List OperationalOutcome}

theorem metricsOf_eq_ok :
    metricsOf episodes = .ok metrics ↔
      ∃ fingerprint, hash (draftMetrics episodes).payload = .ok fingerprint ∧
        { draftMetrics episodes with metricsFingerprint := fingerprint } = metrics := by
  simp only [metricsOf, bind_eq_ok, pure_eq_ok]

theorem candidate_eq_ok {trigger : Trigger} {made : OperationalImprovementCandidate} :
    candidate registry episodes metrics trigger = .ok made ↔
      ∃ candidateType,
        registry.improvementRules.lookup trigger.code =
            some candidateType ∧
          ∃ fingerprint, hash (draftCandidate episodes metrics candidateType
              trigger).payload = .ok fingerprint ∧
            { draftCandidate episodes metrics candidateType trigger with
              candidateFingerprint := fingerprint } = made := by
  simp only [candidate, bind_eq_ok, orRaise_eq_ok, pure_eq_ok]

theorem learn_eq_ok {result : OperationalLearningResult} :
    learn registry episodes outcomes = .ok result ↔
      episodes ≠ [] ∧
        (episodes.map OperationalEpisode.episodeId).Nodup ∧
        ∃ linked, linkOutcomes episodes [] outcomes = .ok linked ∧
          ∃ metrics, metricsOf episodes = .ok metrics ∧
            ∃ found, candidates registry episodes metrics = .ok found ∧
              ∃ fingerprint,
                hash (draftResult episodes outcomes linked metrics
                  found).payload = .ok fingerprint ∧
                { draftResult episodes outcomes linked metrics found with
                  learningFingerprint := fingerprint } = result := by
  simp only [learn, bind_eq_ok, require_eq_ok, exists_const, pure_eq_ok, draftResult]

/-- The outcomes that are linked have distinct identifiers. -/
theorem nodup_of_linkOutcomes {seen : List String} {linked : List OperationalAssociation}
    (linking : linkOutcomes episodes seen outcomes = .ok linked) :
    (outcomes.map OperationalOutcome.outcomeId).Nodup ∧
      ∀ outcome ∈ outcomes, outcome.outcomeId ∉ seen := by
  induction outcomes generalizing seen linked with
  | nil => exact ⟨List.nodup_nil, fun _ listed => absurd listed List.not_mem_nil⟩
  | cons outcome outcomes ih =>
      simp only [linkOutcomes, bind_eq_ok, require_eq_ok, exists_const, orRaise_eq_ok] at linking
      obtain ⟨fresh, episode, -, own, -, others, later, -⟩ := linking
      obtain ⟨distinct, unseen⟩ := ih later
      refine ⟨List.nodup_cons.mpr ⟨fun listed => ?_, distinct⟩, ?_⟩
      · obtain ⟨other, present, same⟩ := List.mem_map.mp listed
        exact unseen other present (same ▸ List.mem_cons_self)
      · intro other listed
        rcases List.mem_cons.mp listed with rfl | present
        · exact fresh
        · exact fun old =>
            unseen other present (List.mem_cons_of_mem _ old)

/-- The code, and the sources of a candidate. -/
theorem mem_candidates {found : List OperationalImprovementCandidate}
    (listed : candidates registry episodes metrics = .ok found)
    {made : OperationalImprovementCandidate} (present : made ∈ found) :
    ∃ trigger : Trigger, 0 < trigger.count metrics ∧
      made.triggerCode = trigger.code ∧
        made.sourceFingerprints = sortedSet (metrics.metricsFingerprint ::
          episodes.filterMap fun episode => trigger.source episode) := by
  obtain ⟨trigger, triggered, succeeded⟩ := (mem_mapM_iff listed).mp present
  obtain ⟨candidateType, -, fingerprint, -, rfl⟩ := candidate_eq_ok.mp succeeded
  rw [mem_sortedBy, List.mem_filter, decide_eq_true_eq] at triggered
  exact ⟨trigger, Nat.pos_of_ne_zero triggered.2, rfl, rfl⟩

/-- The codes of the candidates are those of the triggers that fired. -/
theorem map_triggerCode_candidates {found : List OperationalImprovementCandidate}
    (listed : candidates registry episodes metrics = .ok found) :
    found.map OperationalImprovementCandidate.triggerCode =
      (sortedBy Trigger.code (Trigger.all.filter fun trigger =>
        trigger.count metrics ≠ 0)).map Trigger.code := by
  refine (map_eq_of_mapM listed fun trigger made succeeded => ?_).symm
  obtain ⟨candidateType, -, fingerprint, -, rfl⟩ := candidate_eq_ok.mp succeeded
  rfl

/-- A receipt of a call whose adapter reports only the outcomes that a response
may have. -/
def Reported (fromisoformat : FromIsoformat) (registry : ExecutionRegistry)
    (receipt : ExecutionReceipt) : Prop :=
  ∃ call execution,
    executeAuthorizedAction fromisoformat registry call = .ok execution ∧
      execution.receipt = receipt ∧
        ∀ request response, call.adapter request = some response →
          response.outcome ∈ adapterOutcomes

theorem outcome_attempted (call : ExecutionCall)
    (responses : ∀ request response,
      call.adapter request = some response → response.outcome ∈ adapterOutcomes) :
    call.attempted.outcome ∈ adapterOutcomes := by
  unfold ExecutionCall.attempted
  cases called : call.adapter call.request with
  | none => simp [adapterOutcomes]
  | some response =>
      by_cases differs : response.adapterId ≠ call.request.adapterId ∨
          response.requestFingerprint ≠ call.request.requestFingerprint
      · simp [differs, adapterOutcomes]
      · simp only [if_neg differs]
        split_ifs
        · simp [adapterOutcomes]
        · exact responses _ _ called

/-- What is reported was attempted, and nothing else was. -/
theorem Reported.attempted_iff {fromisoformat : FromIsoformat} {registry : ExecutionRegistry}
    {receipt : ExecutionReceipt} (reported : Reported fromisoformat registry receipt) :
    receipt.sideEffectAttempted = true ↔ receipt.outcome ∈ adapterOutcomes := by
  obtain ⟨call, execution, executed, rfl, responses⟩ := reported
  obtain ⟨-, made, -⟩ := executeAuthorizedAction_eq_ok.mp executed
  obtain ⟨fingerprint, -, receiptIs⟩ := makeReceipt_eq_ok.mp made
  rw [← receiptIs]
  dsimp only [draftReceipt]
  split_ifs with fresh
  · rw [call.sideEffectAttempted_attempted]
    exact iff_of_true rfl (outcome_attempted call responses)
  · refine iff_of_false (by simp [ExecutionCall.suppressed]) ?_
    unfold ExecutionCall.suppressed
    dsimp only
    split_ifs <;> simp [adapterOutcomes]

/-- Attempts are successes, failures, and attempts of which nothing is
known. -/
theorem countP_attempted {fromisoformat : FromIsoformat} {registry : ExecutionRegistry}
    {receipts : List ExecutionReceipt}
    (reported : ∀ receipt ∈ receipts, Reported fromisoformat registry receipt) :
    receipts.countP ExecutionReceipt.sideEffectAttempted =
      receipts.countP (fun receipt => receipt.outcome = "SUCCEEDED") +
        receipts.countP (fun receipt => receipt.outcome = "FAILED") +
          receipts.countP (fun receipt => receipt.sideEffectAttempted &&
            decide (receipt.outcome = "OUTCOME_UNKNOWN")) := by
  induction receipts with
  | nil => rfl
  | cons receipt receipts ih =>
      rw [List.forall_mem_cons] at reported
      have attempted := reported.1.attempted_iff
      have rest := ih reported.2
      simp only [adapterOutcomes, List.mem_cons, List.not_mem_nil, or_false] at attempted
      simp only [List.countP_cons]
      by_cases happened : receipt.sideEffectAttempted = true
      · rcases attempted.mp happened with same | same | same
        · simp [happened, same]
          omega
        · simp [happened, same]
          omega
        · simp [happened, same]
          omega
      · have other := mt attempted.mpr happened
        rw [not_or, not_or] at other
        simp only [Bool.not_eq_true] at happened
        simp [happened, other.1, other.2.1]
        omega

/-- What an accepted evaluation says of its episodes. -/
structure Learned (fromisoformat : FromIsoformat) (executions : ExecutionRegistry)
    (registry : LearningRegistry) (episodes : List OperationalEpisode)
    (outcomes : List OperationalOutcome) (result : OperationalLearningResult) : Prop where
  /-- A counter is the number of episodes with something for it. -/
  counts : ∀ counter : Counter, counter.count result.metrics = (counter.counted episodes).length
  /-- It is the number of distinct receipts, verifications, cases or rollbacks
  where no two episodes share one. -/
  distinct : ∀ counter : Counter,
    counter.count result.metrics =
        (counter.counted episodes).dedup.length ↔
      episodes.Pairwise fun left right =>
        ∀ evidence ∈ counter.evidence left, evidence ∉ counter.evidence right
  /-- Among all the receipts of the episodes, as among the distinct ones, the
  attempts are what succeeded, failed, or has an unknown outcome. -/
  attempts : (∀ episode ∈ episodes,
      Reported fromisoformat executions episode.executionReceipt) →
    ∀ receipts ⊆ episodes.map OperationalEpisode.executionReceipt,
      receipts.countP ExecutionReceipt.sideEffectAttempted =
        receipts.countP (fun receipt => receipt.outcome = "SUCCEEDED") +
          receipts.countP (fun receipt => receipt.outcome = "FAILED") +
            receipts.countP (fun receipt => receipt.sideEffectAttempted &&
              decide (receipt.outcome = "OUTCOME_UNKNOWN"))
  fired : ∀ trigger : Trigger,
    (∃ made ∈ result.improvementCandidates, made.triggerCode = trigger.code) ↔
      0 < trigger.counter.count result.metrics
  codes : (result.improvementCandidates.map OperationalImprovementCandidate.triggerCode).Nodup
  /-- The sources of a candidate are what was counted, and the metrics. -/
  sources : ∀ made ∈ result.improvementCandidates, ∃ trigger : Trigger,
    made.triggerCode = trigger.code ∧ ∀ fingerprint,
      fingerprint ∈ made.sourceFingerprints ↔
        fingerprint = result.metrics.metricsFingerprint ∨
          ∃ evidence ∈ trigger.counter.counted episodes, evidence.fingerprint = fingerprint
  order : ∀ otherEpisodes otherOutcomes, otherEpisodes.Perm episodes →
    otherOutcomes.Perm outcomes →
      evaluateOperationalLearning registry otherEpisodes otherOutcomes = .ok result

theorem Counter.perm_counted {others : List OperationalEpisode}
    (permuted : episodes.Perm others) (counter : Counter) :
    (counter.counted episodes).Perm (counter.counted others) :=
  permuted.filterMap counter.evidence

/-- Episodes and outcomes that are accepted are accepted in any order. -/
theorem evaluateOperationalLearning_perm {result : OperationalLearningResult}
    (evaluated : evaluateOperationalLearning registry episodes outcomes = .ok result)
    {otherEpisodes : List OperationalEpisode} {otherOutcomes : List OperationalOutcome}
    (episodesPerm : otherEpisodes.Perm episodes) (outcomesPerm : otherOutcomes.Perm outcomes) :
    evaluateOperationalLearning registry otherEpisodes otherOutcomes = .ok result := by
  obtain ⟨-, episodeIds, linked, linking, -⟩ := learn_eq_ok.mp evaluated
  have outcomeIds := (nodup_of_linkOutcomes linking).1
  rw [((sortedBy_perm _ _).map _).nodup_iff] at episodeIds outcomeIds
  have sameEpisodes := sortedBy_eq_of_perm episodesPerm
    fun left leftListed right rightListed same =>
      List.inj_on_of_nodup_map episodeIds (episodesPerm.subset leftListed)
        (episodesPerm.subset rightListed) same
  have sameOutcomes := sortedBy_eq_of_perm outcomesPerm
    fun left leftListed right rightListed (same :
        toLex (left.observedAt, left.outcomeId) = toLex (right.observedAt, right.outcomeId)) =>
      List.inj_on_of_nodup_map outcomeIds (outcomesPerm.subset leftListed)
        (outcomesPerm.subset rightListed)
        (congrArg (fun key => (ofLex key).2) same)
  rw [evaluateOperationalLearning, sameEpisodes, sameOutcomes]
  exact evaluated

/-- Whatever is accepted counts episodes: it counts executions once where no
two episodes share one. -/
theorem learned_of_evaluate (fromisoformat : FromIsoformat) (executions : ExecutionRegistry)
    {registry : LearningRegistry} {episodes : List OperationalEpisode}
    {outcomes : List OperationalOutcome} {result : OperationalLearningResult}
    (evaluated : evaluateOperationalLearning registry episodes outcomes =
      .ok result) :
    Learned fromisoformat executions registry episodes outcomes result := by
  obtain ⟨-, -, linked, -, metrics, measured, found, listed, fingerprint, -,
    rfl⟩ := learn_eq_ok.mp evaluated
  have ordered := sortedBy_perm OperationalEpisode.episodeId episodes
  have metricsIs := measured
  obtain ⟨metricsFingerprint, -, rfl⟩ := metricsOf_eq_ok.mp metricsIs
  have counts : ∀ counter : Counter, counter.count
      { draftMetrics (sortedBy OperationalEpisode.episodeId episodes) with
        metricsFingerprint := metricsFingerprint } =
        (counter.counted episodes).length := by
    intro counter
    rw [← (Counter.perm_counted ordered counter).length_eq,
      ← Counter.count_draftMetrics]
    cases counter <;> rfl
  have codes := map_triggerCode_candidates listed
  refine
    { counts := counts
      distinct := fun counter => by
        rw [← counter.length_counted_eq_iff]
        exact Eq.congr_left (counts counter)
      attempts := fun reported receipts within =>
        countP_attempted fun receipt present => by
          obtain ⟨episode, held, rfl⟩ := List.mem_map.mp (within present)
          exact reported episode held
      fired := fun trigger => ?_
      codes := ?_
      sources := fun made present => ?_
      order := fun otherEpisodes otherOutcomes =>
        evaluateOperationalLearning_perm evaluated }
  · rw [← Trigger.count_eq]
    have member : (∃ made ∈ found, made.triggerCode = trigger.code) ↔
        trigger.code ∈ found.map
          OperationalImprovementCandidate.triggerCode := List.mem_map.symm
    refine member.trans ?_
    rw [codes, List.mem_map_of_injective Trigger.code_injective,
      mem_sortedBy, List.mem_filter, decide_eq_true_eq, Nat.pos_iff_ne_zero]
    exact and_iff_right trigger.mem_all
  · refine codes ▸ List.Nodup.map Trigger.code_injective ?_
    rw [(sortedBy_perm _ _).nodup_iff]
    exact List.Nodup.filter _ (by decide)
  · obtain ⟨trigger, -, code, sources⟩ := mem_candidates listed present
    refine ⟨trigger, code, fun fingerprint => ?_⟩
    rw [sources, sortedSet, mem_sortedBy, List.mem_dedup, List.mem_cons]
    refine or_congr_right ?_
    rw [(ordered.filterMap _).mem_iff]
    simp only [List.mem_filterMap, Trigger.source_eq, Counter.counted,
      Option.map_eq_some_iff]
    constructor
    · rintro ⟨episode, held, evidence, shown, rfl⟩
      exact ⟨evidence, ⟨episode, held, shown⟩, rfl⟩
    · rintro ⟨evidence, ⟨episode, held, shown⟩, rfl⟩
      exact ⟨episode, held, evidence, shown, rfl⟩

/-! ## Samples -/

theorem OperationalEpisode.textual_payload (episode : OperationalEpisode) :
    Textual episode.payload := by
  simp [payload, textual_obj, IsTagged]

theorem OperationalImprovementCandidate.textual_payload
    (candidate : OperationalImprovementCandidate) :
    Textual candidate.payload := by
  simp [payload, textual_obj, IsTagged, texts]

theorem OperationalLearningResult.textual_payload
    (result : OperationalLearningResult) : Textual result.payload := by
  simp [payload, textual_obj, IsTagged, texts]

theorem exists_candidate (episodes : List OperationalEpisode) (metrics : OperationalMetrics)
    (trigger : Trigger) :
    ∃ made, candidate learningRegistry episodes metrics trigger = .ok made := by
  have ruled : ∃ candidateType,
      learningRegistry.improvementRules.lookup trigger.code = some candidateType := by
    cases trigger <;> exact ⟨_, rfl⟩
  obtain ⟨candidateType, found⟩ := ruled
  obtain ⟨fingerprint, hashed⟩ := exists_hash_of_textual
    (draftCandidate episodes metrics candidateType trigger).textual_payload
  exact ⟨_, candidate_eq_ok.mpr ⟨candidateType, found, fingerprint, hashed, rfl⟩⟩

/-- A few episodes under distinct identifiers are accepted. -/
theorem exists_learned {episodes : List OperationalEpisode} (present : episodes ≠ [])
    (few : episodes.length ≤ 9) (distinct : (episodes.map OperationalEpisode.episodeId).Nodup) :
    ∃ result, evaluateOperationalLearning learningRegistry episodes [] = .ok result := by
  have ordered := sortedBy_perm OperationalEpisode.episodeId episodes
  set sorted := sortedBy OperationalEpisode.episodeId episodes
  have short : ∀ number ≤ 9, ShortInt (number : Nat) := by
    intro number small
    have oneDigit : Decimal.numDigits number ≤ 1 :=
      Decimal.numDigits_le_of_lt_ten_pow one_pos (by omega)
    exact oneDigit.trans (by decide)
  have counts : ∀ inClass : OperationalEpisode → Bool,
      ShortInt (sorted.countP inClass : Nat) := by
    intro inClass
    refine short _ (List.countP_le_length.trans ?_)
    rwa [ordered.length_eq]
  have total : ShortInt (sorted.length : Nat) := short _ (by rwa [ordered.length_eq])
  have writable : Writable (draftMetrics sorted).payload := by
    simp [OperationalMetrics.payload, draftMetrics, counts, total]
  obtain ⟨metricsFingerprint, metricsHashed⟩ := writable.exists_sha256Dumps
  let metrics := { draftMetrics sorted with
    metricsFingerprint := metricsFingerprint }
  obtain ⟨found, listed⟩ := exists_mapM_ok fun trigger
    (_ : trigger ∈ sortedBy Trigger.code (Trigger.all.filter fun trigger =>
      trigger.count metrics ≠ 0)) => exists_candidate sorted metrics trigger
  obtain ⟨fingerprint, hashed⟩ := exists_hash_of_textual
    (draftResult sorted [] [] metrics found).textual_payload
  refine ⟨_, learn_eq_ok.mpr ⟨?_, ?_, [], rfl, metrics,
    metricsOf_eq_ok.mpr ⟨_, metricsHashed, rfl⟩, found, listed, fingerprint, hashed, rfl⟩⟩
  · intro none
    have empty : sorted = [] := none
    rw [empty] at ordered
    exact present (List.nil_perm.mp ordered)
  · rwa [(ordered.map _).nodup_iff]

/-- An attempted receipt and its verification, of which an episode is made
under any identifier. -/
theorem exists_sampleEpisode :
    ∃ (receipt : ExecutionReceipt) (verification : VerificationReceipt),
      receipt.Produced Community.sampleFromisoformat executionRegistry ∧
        verification.Produced Community.sampleFromisoformat verificationRegistry ∧
        receipt.sideEffectAttempted = true ∧
        ∀ episodeId, Text.isBlank episodeId = false →
          ∃ given episode, makeOperationalEpisode given = .ok episode ∧
            episode.episodeId = episodeId ∧
              episode.executionReceipt = receipt ∧ episode.verification = verification := by
  obtain ⟨attempt, execution, call, verification, sample⟩ :=
    exists_sampleVerification "LISTING" "PUBLISHED"
  obtain ⟨cleared, receiptMade, -⟩ := executeAuthorizedAction_eq_ok.mp sample.executed
  obtain ⟨_, -, receiptIs⟩ := makeReceipt_eq_ok.mp receiptMade
  obtain ⟨proposalBound, -, -, -, -⟩ := checkBindings_eq_ok.mp cleared.bound
  have made := sample.attempted.made
  obtain ⟨-, -, -, -, -, _, approvalHashed, approvalIs⟩ :=
    makeHumanApproval_eq_ok.mp made.approvalMade
  obtain ⟨-, -, -, -, _, authorityHashed, authorityIs⟩ :=
    makeExecutionAuthority_eq_ok.mp made.authorityMade
  have proposalShape : Sha256.isHex64
      execution.receipt.proposalFingerprint = true := by
    have proposed := cleared.proposed
    simp only [validateProposal, bind_eq_ok, require_eq_ok, exists_const, validateFp] at proposed
    rw [← receiptIs]
    exact (congrArg Sha256.isHex64 proposalBound).trans proposed.1
  have approvalShape : Sha256.isHex64
      execution.receipt.approvalFingerprint = true := by
    rw [← receiptIs]
    dsimp only [draftReceipt]
    rw [← approvalIs]
    exact isHex64_of_hash approvalHashed
  have authorityShape : Sha256.isHex64
      execution.receipt.authorityFingerprint = true := by
    rw [← receiptIs]
    dsimp only [draftReceipt]
    rw [← authorityIs]
    exact isHex64_of_hash authorityHashed
  have receiptShape := isHex64_receiptFingerprint ⟨_, _, sample.executed, rfl⟩
  have verificationShape := isHex64_of_hash (hash_of_verifyExecution sample.verified)
  obtain ⟨_, _, _, _, _, _, _, _, verificationIs⟩ := verifyExecution_eq_ok.mp sample.verified
  have bound : verification.executionReceiptFingerprint =
      execution.receipt.receiptFingerprint := by
    rw [← verificationIs, ← sample.receipt]
    rfl
  refine ⟨execution.receipt, verification, ⟨_, _, sample.executed, rfl⟩,
    ⟨_, sample.verified⟩, ?_, fun episodeId named => ?_⟩
  · rw [sideEffectAttempted_of_execute sample.executed, sample.invoked]
  · let given : OperationalEpisode :=
      { episodeId
        subjectPropertyId := "PROPERTY"
        listingId := "LISTING"
        actionType := "PUBLISH"
        proposalFingerprint := execution.receipt.proposalFingerprint
        approvalFingerprint := execution.receipt.approvalFingerprint
        authorityFingerprint := execution.receipt.authorityFingerprint
        executionReceipt := execution.receipt
        verification := verification
        reconciliationCase := none
        rollbackReceipt := none
        episodeFingerprint := "" }
    obtain ⟨fingerprint, hashed⟩ := exists_hash_of_textual given.textual_payload
    refine ⟨given, { given with episodeFingerprint := fingerprint }, ?_, rfl, rfl, rfl⟩
    simp only [makeOperationalEpisode, bind_eq_ok, require_eq_ok,
      exists_const, validateFp, pure_eq_ok]
    exact ⟨⟨named, (by decide : Text.isBlank "PROPERTY" = false),
      (by decide : Text.isBlank "LISTING" = false),
      (by decide : Text.isBlank "PUBLISH" = false)⟩, proposalShape,
      approvalShape, authorityShape, receiptShape, verificationShape, rfl,
      rfl, rfl, bound, (), rfl, (), rfl, fingerprint, hashed, rfl⟩

/-- One episode is evaluated, and its receipt is counted once. -/
theorem learned_of_evaluate_sample :
    ∃ (episode : OperationalEpisode) (result : OperationalLearningResult),
      evaluateOperationalLearning learningRegistry [episode] [] =
          .ok result ∧
        Learned Community.sampleFromisoformat executionRegistry
          learningRegistry [episode] [] result := by
  obtain ⟨_, _, -, -, -, episodes⟩ := exists_sampleEpisode
  obtain ⟨_, episode, -⟩ := episodes "EPISODE" (by decide)
  obtain ⟨result, evaluated⟩ := @exists_learned [episode]
    (List.cons_ne_nil _ _) (by simp) (List.nodup_singleton _)
  exact ⟨episode, result, evaluated,
    learned_of_evaluate Community.sampleFromisoformat executionRegistry
      evaluated⟩

/-- Two episodes of one execution are accepted, and its attempt is counted
twice. -/
theorem execution_counted_twice :
    ∃ (first second : OperationalEpisode)
        (result : OperationalLearningResult),
      (∃ given, makeOperationalEpisode given = .ok first) ∧
        (∃ given, makeOperationalEpisode given = .ok second) ∧
        first.executionReceipt = second.executionReceipt ∧
        first.executionReceipt.Produced Community.sampleFromisoformat
          executionRegistry ∧
        first.verification.Produced Community.sampleFromisoformat
          verificationRegistry ∧
        evaluateOperationalLearning learningRegistry [first, second] [] =
          .ok result ∧
        result.metrics.executionAttemptCount = 2 ∧
          ((([first, second].map OperationalEpisode.executionReceipt).filter
            ExecutionReceipt.sideEffectAttempted).dedup).length = 1 := by
  obtain ⟨receipt, verification, produced, verified, attempted, episodes⟩ :=
    exists_sampleEpisode
  obtain ⟨firstGiven, first, firstMade, firstId, firstReceipt,
    firstVerification⟩ := episodes "FIRST" (by decide)
  obtain ⟨secondGiven, second, secondMade, secondId, secondReceipt, -⟩ :=
    episodes "SECOND" (by decide)
  obtain ⟨result, evaluated⟩ := @exists_learned [first, second]
    (List.cons_ne_nil _ _) (by simp) (by simp [firstId, secondId])
  refine ⟨first, second, result, ⟨_, firstMade⟩, ⟨_, secondMade⟩,
    firstReceipt.trans secondReceipt.symm, firstReceipt ▸ produced,
    firstVerification ▸ verified, evaluated, ?_, ?_⟩
  · obtain ⟨-, -, linked, -, metrics, measured, found, -, fingerprint, -,
      rfl⟩ := learn_eq_ok.mp evaluated
    obtain ⟨metricsFingerprint, -, rfl⟩ := metricsOf_eq_ok.mp measured
    have counted := (sortedBy_perm OperationalEpisode.episodeId
      [first, second]).countP_eq fun episode =>
        episode.executionReceipt.sideEffectAttempted
    exact counted.trans (by simp [firstReceipt, secondReceipt, attempted])
  · simp [firstReceipt, secondReceipt, attempted]

end SanTanHeights.Listing.OperationalLearning
