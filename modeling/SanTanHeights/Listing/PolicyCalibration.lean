import SanTanHeights.Listing.Execution
import SanTanHeights.Shared.Calibration

/-!
# Calibration of the execution policy

A candidate policy changes some fields of the version before it.  Its replay
over fixtures finds the protected fields that it takes back, and only a
candidate without any is packaged for promotion.
-/

namespace SanTanHeights.Listing

open Foundation Foundation.Json Foundation.Sorting Foundation.Outcome Shared
open Community (texts)

/-! ## Records -/

/-- What is read of an improvement candidate. -/
structure OperationalImprovementCandidate where
  candidateType : String
  advisoryOnly : Bool
  promotionStatus : String
  candidateFingerprint : String

structure ExecutionPolicyVersion where
  versionId : String
  parentVersionId : Option String
  parentFingerprint : Option String
  policyValues : List (String × Bool)
  isolatedCandidate : Bool
  sourceCandidateFingerprint : Option String
  policyFingerprint : String
  deriving DecidableEq, Repr

/-- What is read of a replay fixture. -/
structure PolicyReplayFixture where
  fixtureId : String
  domain : String
  protectedControlExpectations : List String
  deriving DecidableEq, Repr

structure PolicyReplayComparison where
  fixtureId : String
  domain : String
  changedFields : List String
  protectedRegressions : List String
  safetyRegression : Bool
  comparisonFingerprint : String
  deriving DecidableEq, Repr

/-- What is read of a promotion approval. -/
structure PolicyPromotionApproval where
  approvalId : String
  candidatePolicyFingerprint : String
  status : String
  approvalFingerprint : String
  deriving DecidableEq, Repr

structure PolicyPromotionPackage where
  packageId : String
  candidateVersionId : String
  candidatePolicyFingerprint : String
  baselineVersionId : String
  baselinePolicyFingerprint : String
  rollbackVersionId : String
  rollbackPolicyFingerprint : String
  replayRootFingerprint : String
  approvalId : String
  status : String
  publicEligible : Bool
  externalActionCapability : String
  packageFingerprint : String
  deriving DecidableEq, Repr

structure PolicyCalibrationEvaluation where
  baseline : ExecutionPolicyVersion
  candidate : ExecutionPolicyVersion
  comparisons : List PolicyReplayComparison
  changedFixtureCount : Nat
  safetyRegressionCount : Nat
  approvalRequired : Bool
  promotionPackage : Option PolicyPromotionPackage
  evaluationFingerprint : String
  deriving DecidableEq, Repr

/-- What is read of a policy calibration registry. -/
structure PolicyCalibrationRegistry where
  acceptedVersion : String
  candidateDomains : List (String × List String)
  policyFields : List (String × Bool)
  protectedTrueFields : List String
  promotionPackageStatus : String

/-- `m12-005-policy-calibration-v1.0.yaml`. -/
def policyCalibrationRegistry : PolicyCalibrationRegistry :=
  let fields :=
    ["human_approval_required", "independent_authority_required",
      "authority_revalidation_required", "deterministic_idempotency_required",
      "duplicate_side_effect_suppression_required",
      "outcome_unknown_silent_retry_prohibited", "independent_verification_required",
      "mismatch_reconciliation_required", "outcome_unknown_reconciliation_required",
      "separate_rollback_approval_required", "separate_rollback_authority_required",
      "rollback_authority_revalidation_required", "immutable_execution_receipt_required",
      "immutable_verification_receipt_required", "immutable_rollback_receipt_required",
      "seller_approval_inference_prohibited", "system_determined_price_or_terms_prohibited",
      "public_strategy_exposure_prohibited"]
  { acceptedVersion := "LISTING-EXECUTION-POLICY-v1.0"
    candidateDomains :=
      [("ACTION_GENERATION", ["RECONCILIATION_WORKFLOW_REVIEW"]),
        ("APPROVAL", ["RECONCILIATION_WORKFLOW_REVIEW"]),
        ("AUTHORITY", ["EXECUTION_RELIABILITY_REVIEW", "ROLLBACK_RELIABILITY_REVIEW"]),
        ("EXECUTION", ["EXECUTION_RELIABILITY_REVIEW"]),
        ("ADAPTER", ["EXECUTION_RELIABILITY_REVIEW", "ROLLBACK_RELIABILITY_REVIEW"]),
        ("VERIFICATION", ["VERIFICATION_POLICY_REVIEW", "VERIFICATION_COVERAGE_REVIEW"]),
        ("RECONCILIATION", ["RECONCILIATION_WORKFLOW_REVIEW"]),
        ("ROLLBACK", ["ROLLBACK_RELIABILITY_REVIEW"])]
    policyFields := fields.map fun field => (field, true)
    protectedTrueFields := fields
    promotionPackageStatus := "READY_FOR_M12_CERTIFICATION" }

/-! ## Versions -/

/-- `dict(version.policy_values)`. -/
def ExecutionPolicyVersion.values (version : ExecutionPolicyVersion) : List (String × Bool) :=
  Dictionary.ofPairs version.policyValues

/-- `dict(version.policy_values).get(field)`. -/
def ExecutionPolicyVersion.get
    (version : ExecutionPolicyVersion) (field : String) : Option Bool :=
  version.values.lookup field

/-- `build_accepted_policy_baseline`. -/
def buildAcceptedPolicyBaseline (registry : PolicyCalibrationRegistry) :
    Except String ExecutionPolicyVersion := do
  let values := sortedBy toLex registry.policyFields
  let fingerprint ← hash (.obj [("version_id", .str registry.acceptedVersion),
      ("policy_values", flags values), ("isolated_candidate", .bool false)])
  return {
    versionId := registry.acceptedVersion
    parentVersionId := none
    parentFingerprint := none
    policyValues := values
    isolatedCandidate := false
    sourceCandidateFingerprint := none
    policyFingerprint := fingerprint }

/-- The arguments of `build_policy_candidate` beside the version that it
changes.  The changes are values of any kind. -/
structure PolicyChange where
  candidateVersionId : String
  improvementCandidate : OperationalImprovementCandidate
  domain : String
  policyChanges : List (String × Json)

/-- `build_policy_candidate`. -/
def buildPolicyCandidate (registry : PolicyCalibrationRegistry)
    (baseline : ExecutionPolicyVersion) (change : PolicyChange) :
    Except String ExecutionPolicyVersion := do
  let improvement := change.improvementCandidate
  require (improvement.advisoryOnly = true ∧ improvement.promotionStatus = "NOT_PROMOTED")
    "M12-004 candidate must remain advisory and NOT_PROMOTED"
  let allowedTypes ← orRaise (registry.candidateDomains.lookup change.domain)
    "unsupported calibration domain"
  require (improvement.candidateType ∈ allowedTypes)
    "M12-004 candidate type is not eligible for selected domain"
  require (Text.isBlank change.candidateVersionId = false)
    "candidate_version_id required"
  require (change.policyChanges ≠ []) "policy changes required"
  require (∀ field ∈ change.policyChanges.map Prod.fst,
    field ∈ registry.policyFields.map Prod.fst)
    "candidate contains unsupported policy field"
  let values ← change.policyChanges.foldlM
    (assignFlag "policy change values must be bool") baseline.values
  let valuesTuple := sortedBy toLex values
  let fingerprint ← hash (.obj [("version_id", .str change.candidateVersionId),
      ("parent_version_id", .str baseline.versionId),
      ("parent_fingerprint", .str baseline.policyFingerprint),
      ("source_candidate_fingerprint", .str improvement.candidateFingerprint),
      ("domain", .str change.domain), ("policy_values", flags valuesTuple),
      ("isolated_candidate", .bool true)])
  return {
    versionId := change.candidateVersionId
    parentVersionId := some baseline.versionId
    parentFingerprint := some baseline.policyFingerprint
    policyValues := valuesTuple
    isolatedCandidate := true
    sourceCandidateFingerprint := some improvement.candidateFingerprint
    policyFingerprint := fingerprint }

/-! ## Replay -/

/-- The fields of one version that another one changes. -/
def changedFields (baseline candidate : List (String × Bool)) :
    Except String (List String) := do
  let changed ← baseline.mapM fun (field : String × Bool) => do
    let value ← orRaise (candidate.lookup field.1) ("KeyError: " ++ field.1)
    return if field.2 = value then none else some field.1
  return sortedBy id changed.reduceOption

/-- The protected fields that a candidate takes back. -/
def protectedRegressions (registry : PolicyCalibrationRegistry)
    (baseline candidate : ExecutionPolicyVersion)
    (fixture : PolicyReplayFixture) : List String :=
  sortedSet ((registry.protectedTrueFields ++
    fixture.protectedControlExpectations).filter fun field =>
      baseline.get field = some true ∧ candidate.get field ≠ some true)

/-- `_compare`. -/
def comparePolicies (registry : PolicyCalibrationRegistry)
    (baseline candidate : ExecutionPolicyVersion) (fixture : PolicyReplayFixture) :
    Except String PolicyReplayComparison := do
  let changed ← changedFields baseline.values candidate.values
  let regressions := protectedRegressions registry baseline candidate fixture
  let fingerprint ← hash (.obj [("fixture_id", .str fixture.fixtureId),
      ("domain", .str fixture.domain), ("changed_fields", texts changed),
      ("protected_regressions", texts regressions),
      ("safety_regression", .bool (regressions ≠ []))])
  return {
    fixtureId := fixture.fixtureId
    domain := fixture.domain
    changedFields := changed
    protectedRegressions := regressions
    safetyRegression := regressions ≠ []
    comparisonFingerprint := fingerprint }

/-- The package of an approved candidate, before it has a fingerprint. -/
def draftPolicyPackage (registry : PolicyCalibrationRegistry)
    (baseline candidate : ExecutionPolicyVersion)
    (approval : PolicyPromotionApproval) (replayRoot : String) :
    PolicyPromotionPackage where
  packageId := "PKG-" ++ candidate.versionId
  candidateVersionId := candidate.versionId
  candidatePolicyFingerprint := candidate.policyFingerprint
  baselineVersionId := baseline.versionId
  baselinePolicyFingerprint := baseline.policyFingerprint
  rollbackVersionId := baseline.versionId
  rollbackPolicyFingerprint := baseline.policyFingerprint
  replayRootFingerprint := replayRoot
  approvalId := approval.approvalId
  status := registry.promotionPackageStatus
  publicEligible := false
  externalActionCapability := "NONE"
  packageFingerprint := ""

/-- What the fingerprint of a package covers. -/
def PolicyPromotionPackage.payload (package : PolicyPromotionPackage) : Json :=
  .obj [("package_id", .str package.packageId),
      ("candidate_version_id", .str package.candidateVersionId),
      ("candidate_policy_fingerprint", .str package.candidatePolicyFingerprint),
      ("baseline_version_id", .str package.baselineVersionId),
      ("baseline_policy_fingerprint", .str package.baselinePolicyFingerprint),
      ("rollback_version_id", .str package.rollbackVersionId),
      ("rollback_policy_fingerprint", .str package.rollbackPolicyFingerprint),
      ("replay_root_fingerprint", .str package.replayRootFingerprint),
      ("approval_id", .str package.approvalId), ("status", .str package.status),
      ("public_eligible", .bool package.publicEligible),
      ("external_action_capability", .str package.externalActionCapability)]

/-- The package of an evaluation, if its candidate is approved and takes
nothing back. -/
def policyPackage (registry : PolicyCalibrationRegistry)
    (baseline candidate : ExecutionPolicyVersion) (approval : Option PolicyPromotionApproval)
    (regressionCount : Nat) (replayRoot : String) :
    Except String (Option PolicyPromotionPackage) :=
  match approval with
  | none => return none
  | some approval => do
      require (approval.candidatePolicyFingerprint = candidate.policyFingerprint)
        "promotion approval candidate fingerprint mismatch"
      if approval.status = "APPROVED" ∧ regressionCount = 0 then
        let package := draftPolicyPackage registry baseline candidate approval
          replayRoot
        let fingerprint ← hash package.payload
        return some { package with packageFingerprint := fingerprint }
      else return none

/-- `evaluate_policy_candidate`. -/
def evaluatePolicyCandidate (registry : PolicyCalibrationRegistry)
    (baseline candidate : ExecutionPolicyVersion) (fixtures : List PolicyReplayFixture)
    (approval : Option PolicyPromotionApproval) :
    Except String PolicyCalibrationEvaluation := do
  require (candidate.isolatedCandidate = true)
    "candidate policy must be isolated"
  require (candidate.parentVersionId = some baseline.versionId ∧
    candidate.parentFingerprint = some baseline.policyFingerprint)
    "candidate parent lineage mismatch"
  require (fixtures ≠ []) "policy replay fixtures required"
  let replayed ← replayFixtures PolicyReplayFixture.fixtureId
    "duplicate policy replay fixture_id"
    (comparePolicies registry baseline candidate) [] fixtures
  let comparisons := sortedBy PolicyReplayComparison.fixtureId replayed
  let fingerprints := texts (comparisons.map PolicyReplayComparison.comparisonFingerprint)
  let changedCount := comparisons.countP fun comparison =>
    comparison.changedFields ≠ []
  let regressionCount := comparisons.countP PolicyReplayComparison.safetyRegression
  let replayRoot ← hash fingerprints
  let package ← policyPackage registry baseline candidate approval
    regressionCount replayRoot
  let fingerprint ← hash (.obj
    [("baseline_policy_fingerprint", .str baseline.policyFingerprint),
      ("candidate_policy_fingerprint", .str candidate.policyFingerprint),
      ("comparisons", fingerprints), ("changed_fixture_count", .int changedCount),
      ("safety_regression_count", .int regressionCount),
      ("approval_fingerprint", .ofOptional
        (approval.map PolicyPromotionApproval.approvalFingerprint)),
      ("promotion_package_fingerprint", .ofOptional
        (package.map PolicyPromotionPackage.packageFingerprint))])
  return {
    baseline := baseline
    candidate := candidate
    comparisons := comparisons
    changedFixtureCount := changedCount
    safetyRegressionCount := regressionCount
    approvalRequired := true
    promotionPackage := package
    evaluationFingerprint := fingerprint }

end SanTanHeights.Listing
