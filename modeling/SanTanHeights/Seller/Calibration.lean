import SanTanHeights.Foundation.Text
import SanTanHeights.Shared.Calibration

/-!
# Calibration of the review rules

A candidate version changes some rules of the version before it.  Its replay
over fixtures compares the days on which a review is triggered, and only a
candidate that loses no protected review day, and reviews every fixture on day
14, is packaged for promotion.
-/

namespace SanTanHeights.Seller.Calibration

open Foundation Foundation.Json Foundation.Sorting Foundation.Outcome Shared

/-! ## Records -/

/-- What is read of a calibration candidate. -/
structure CalibrationCandidate where
  candidateType : String
  advisoryOnly : Bool
  promotionStatus : String
  candidateFingerprint : String

structure RuleVersion where
  versionId : String
  parentVersionId : Option String
  parentFingerprint : Option String
  rules : List (String × Bool)
  isolatedCandidate : Bool
  ruleFingerprint : String
  deriving DecidableEq, Repr

/-- What is read of a replay fixture. -/
structure HistoricalReplayFixture where
  fixtureId : String
  competitivePressure : String
  buyerDepth : String
  pricingResponseEnvironment : String
  newConstructionPressure : String
  verifiedDifferentiation : String
  weekOverWeekDirection : String
  protectedBehavior : Bool
  deriving DecidableEq, Repr

structure ReplayComparison where
  fixtureId : String
  baselineTriggeredDays : List Nat
  candidateTriggeredDays : List Nat
  changedDays : List Nat
  communicationEffect : String
  regression : Bool
  regressionReasons : List String
  comparisonFingerprint : String
  deriving DecidableEq, Repr

/-- What is read of a promotion approval. -/
structure PromotionApproval where
  approvalId : String
  candidateRuleFingerprint : String
  status : String
  approvalFingerprint : String
  deriving DecidableEq, Repr

structure PromotionPackage where
  packageId : String
  candidateVersionId : String
  candidateRuleFingerprint : String
  baselineRuleFingerprint : String
  rollbackVersionId : String
  rollbackRuleFingerprint : String
  approvalId : String
  replayRootFingerprint : String
  status : String
  publicEligible : Bool
  externalActionCapability : String
  packageFingerprint : String
  deriving DecidableEq, Repr

structure CalibrationEvaluation where
  baseline : RuleVersion
  candidate : RuleVersion
  comparisons : List ReplayComparison
  regressionCount : Nat
  changedFixtureCount : Nat
  approvalRequired : Bool
  promotionPackage : Option PromotionPackage
  evaluationFingerprint : String
  deriving DecidableEq, Repr

/-- What is read of a calibration registry. -/
structure CalibrationRegistry where
  acceptedVersion : String
  allowedCandidateTypes : List String
  ruleSchema : List String
  acceptedRuleValues : List (String × Bool)
  promotionPackageStatus : String

/-- `m11-008-calibration-promotion-v1.0.yaml`. -/
def calibrationRegistry : CalibrationRegistry :=
  let accepted :=
    [("DAY_7_HIGH_PRESSURE_REVIEW_ENABLED", true),
      ("DAY_7_THIN_BUYER_DEPTH_REVIEW_ENABLED", true),
      ("DAY_7_WORSENING_DIRECTION_REVIEW_ENABLED", true),
      ("DAY_10_WEAK_RESPONSE_REVIEW_ENABLED", true),
      ("DAY_10_HIGH_NEW_CONSTRUCTION_REVIEW_ENABLED", true),
      ("DAY_10_LIMITED_DIFFERENTIATION_REVIEW_ENABLED", true),
      ("DAY_10_MIXED_RESPONSE_REVIEW_ENABLED", false),
      ("DAY_14_ALWAYS_REVIEW_ENABLED", true)]
  { acceptedVersion := "SELLER-INTELLIGENCE-v1.0"
    allowedCandidateTypes := ["REVIEW_CONDITION_CALIBRATION"]
    ruleSchema := accepted.map Prod.fst
    acceptedRuleValues := accepted
    promotionPackageStatus := "READY_FOR_M11_009_CERTIFICATION" }

/-! ## Versions -/

/-- `_hash`. -/
def hash (value : Json) : Except String String :=
  sha256Dumps value

/-- `build_accepted_baseline`. -/
def buildAcceptedBaseline (registry : CalibrationRegistry) :
    Except String RuleVersion := do
  let rules := sortedBy toLex registry.acceptedRuleValues
  let fingerprint ← hash (.obj [("version_id", .str registry.acceptedVersion),
      ("rules", flags rules), ("isolated_candidate", .bool false)])
  return {
    versionId := registry.acceptedVersion
    parentVersionId := none
    parentFingerprint := none
    rules := rules
    isolatedCandidate := false
    ruleFingerprint := fingerprint }

/-- The arguments of `build_candidate_version` beside the version that it
changes.  The changes are values of any kind. -/
structure RuleChange where
  candidateId : String
  advisoryCandidate : CalibrationCandidate
  ruleChanges : List (String × Json)

/-- `build_candidate_version`. -/
def buildCandidateVersion (registry : CalibrationRegistry)
    (baseline : RuleVersion) (change : RuleChange) :
    Except String RuleVersion := do
  let advisory := change.advisoryCandidate
  require (advisory.advisoryOnly = true ∧ advisory.promotionStatus = "NOT_PROMOTED")
    "M11-007 calibration candidate must be advisory and not promoted"
  require (advisory.candidateType ∈ registry.allowedCandidateTypes)
    "unsupported M11-007 calibration candidate type"
  require (Text.isBlank change.candidateId = false) "candidate_id required"
  require (change.ruleChanges ≠ []) "candidate rule changes required"
  require (∀ rule ∈ change.ruleChanges.map Prod.fst,
    rule ∈ registry.ruleSchema) "candidate contains unsupported rule"
  let candidateRules ← change.ruleChanges.foldlM
    (assignFlag "candidate rule values must be bool") (Dictionary.ofPairs baseline.rules)
  let rules := sortedBy toLex candidateRules
  let fingerprint ← hash (.obj [("version_id", .str change.candidateId),
      ("parent_version_id", .str baseline.versionId),
      ("parent_fingerprint", .str baseline.ruleFingerprint),
      ("m11_007_candidate_fingerprint", .str advisory.candidateFingerprint),
      ("rules", flags rules), ("isolated_candidate", .bool true)])
  return {
    versionId := change.candidateId
    parentVersionId := some baseline.versionId
    parentFingerprint := some baseline.ruleFingerprint
    rules := rules
    isolatedCandidate := true
    ruleFingerprint := fingerprint }

/-! ## Review days -/

/-- `rules[rule]`. -/
def enabled (rules : List (String × Bool)) (rule : String) : Except String Bool :=
  orRaise (rules.lookup rule) ("KeyError: " ++ rule)

/-- The disjunction of some rules, each with whether its condition holds, read
from left to right. -/
def anyEnabled (rules : List (String × Bool)) :
    List (String × Bool) → Except String Bool
  | [] => return false
  | (rule, applies) :: conditions => do
      let isEnabled ← enabled rules rule
      if isEnabled = true ∧ applies = true then return true
      else anyEnabled rules conditions

/-- `_triggered_days`. -/
def triggeredDays (version : RuleVersion) (f : HistoricalReplayFixture) :
    Except String (List Nat) := do
  let rules := Dictionary.ofPairs version.rules
  let onDay7 ← anyEnabled rules
    [("DAY_7_HIGH_PRESSURE_REVIEW_ENABLED", f.competitivePressure = "HIGH"),
      ("DAY_7_THIN_BUYER_DEPTH_REVIEW_ENABLED", f.buyerDepth = "THIN"),
      ("DAY_7_WORSENING_DIRECTION_REVIEW_ENABLED", f.weekOverWeekDirection = "WORSENING")]
  let onDay10 ← anyEnabled rules [("DAY_10_WEAK_RESPONSE_REVIEW_ENABLED",
        f.pricingResponseEnvironment = "WEAK"),
      ("DAY_10_HIGH_NEW_CONSTRUCTION_REVIEW_ENABLED", f.newConstructionPressure = "HIGH"),
      ("DAY_10_LIMITED_DIFFERENTIATION_REVIEW_ENABLED", f.verifiedDifferentiation = "LIMITED"),
      ("DAY_10_MIXED_RESPONSE_REVIEW_ENABLED", f.pricingResponseEnvironment = "MIXED")]
  let onDay14 ← enabled rules "DAY_14_ALWAYS_REVIEW_ENABLED"
  return (if onDay7 = true then [7] else []) ++
    (if onDay10 = true then [10] else []) ++ (if onDay14 = true then [14] else [])

/-! ## Replay -/

/-- The days of one list that another one lacks. -/
def lostDays (before after : List Nat) : List Nat :=
  sortedBy id (before.filter fun day => day ∉ after)

/-- Why a comparison is a regression. -/
def regressionReasons (fixture : HistoricalReplayFixture) (before after : List Nat) :
    List String :=
  (if fixture.protectedBehavior = true ∧ lostDays before after ≠ [] then
    ["PROTECTED_REVIEW_TRIGGER_REMOVED:" ++ String.intercalate ","
      ((lostDays before after).map Nat.repr)]
  else []) ++
  (if 14 ∉ after then ["DAY_14_ALWAYS_REVIEW_REGRESSION"] else [])

/-- `_compare`. -/
def compare (baseline candidate : RuleVersion) (fixture : HistoricalReplayFixture) :
    Except String ReplayComparison := do
  let before ← triggeredDays baseline fixture
  let after ← triggeredDays candidate fixture
  let changed := sortedBy id (lostDays before after ++ lostDays after before)
  let reasons := regressionReasons fixture before after
  let effect :=
    if lostDays after before ≠ [] then "ADDED_REVIEW_GUIDANCE"
    else if lostDays before after ≠ [] then "REMOVED_REVIEW_GUIDANCE"
    else "UNCHANGED"
  let days := fun (listed : List Nat) =>
    Json.arr (listed.map fun (day : Nat) => .int day)
  let fingerprint ← hash (.obj [("fixture_id", .str fixture.fixtureId),
      ("baseline_triggered_days", days before), ("candidate_triggered_days", days after),
      ("changed_days", days changed), ("communication_effect", .str effect),
      ("regression_reasons", .arr (reasons.map .str))])
  return {
    fixtureId := fixture.fixtureId
    baselineTriggeredDays := before
    candidateTriggeredDays := after
    changedDays := changed
    communicationEffect := effect
    regression := reasons ≠ []
    regressionReasons := reasons
    comparisonFingerprint := fingerprint }

/-- The package of an approved candidate, before it has a fingerprint. -/
def draftPackage (registry : CalibrationRegistry) (baseline candidate : RuleVersion)
    (approval : PromotionApproval) (replayRoot : String) :
    PromotionPackage where
  packageId := "PKG-" ++ candidate.versionId
  candidateVersionId := candidate.versionId
  candidateRuleFingerprint := candidate.ruleFingerprint
  baselineRuleFingerprint := baseline.ruleFingerprint
  rollbackVersionId := baseline.versionId
  rollbackRuleFingerprint := baseline.ruleFingerprint
  approvalId := approval.approvalId
  replayRootFingerprint := replayRoot
  status := registry.promotionPackageStatus
  publicEligible := false
  externalActionCapability := "NONE"
  packageFingerprint := ""

/-- What the fingerprint of a package covers. -/
def PromotionPackage.payload (package : PromotionPackage) : Json :=
  .obj [("package_id", .str package.packageId),
      ("candidate_version_id", .str package.candidateVersionId),
      ("candidate_rule_fingerprint", .str package.candidateRuleFingerprint),
      ("baseline_rule_fingerprint", .str package.baselineRuleFingerprint),
      ("rollback_version_id", .str package.rollbackVersionId),
      ("rollback_rule_fingerprint", .str package.rollbackRuleFingerprint),
      ("approval_id", .str package.approvalId),
      ("replay_root_fingerprint", .str package.replayRootFingerprint),
      ("status", .str package.status), ("public_eligible", .bool package.publicEligible),
      ("external_action_capability", .str package.externalActionCapability)]

/-- The package of an evaluation.  An approval is only looked at where there
is no regression. -/
def promotionPackage (registry : CalibrationRegistry) (baseline candidate : RuleVersion)
    (approval : Option PromotionApproval) (regressions : Nat) (replayRoot : String) :
    Except String (Option PromotionPackage) :=
  match approval with
  | none => return none
  | some approval =>
      if regressions = 0 then do
        require (approval.candidateRuleFingerprint = candidate.ruleFingerprint)
          "promotion approval candidate fingerprint mismatch"
        if approval.status = "APPROVED" then
          let package := draftPackage registry baseline candidate approval
            replayRoot
          let fingerprint ← hash package.payload
          return some { package with packageFingerprint := fingerprint }
        else return none
      else return none

/-- `evaluate_candidate`. -/
def evaluateCandidate (registry : CalibrationRegistry) (baseline candidate : RuleVersion)
    (fixtures : List HistoricalReplayFixture) (approval : Option PromotionApproval) :
    Except String CalibrationEvaluation := do
  require (candidate.isolatedCandidate = true) "candidate must be isolated"
  require (candidate.parentVersionId = some baseline.versionId ∧
    candidate.parentFingerprint = some baseline.ruleFingerprint)
    "candidate parent lineage mismatch"
  require (fixtures ≠ []) "historical replay fixtures required"
  let replayed ← replayFixtures HistoricalReplayFixture.fixtureId
    "duplicate replay fixture_id" (compare baseline candidate) [] fixtures
  let comparisons := sortedBy ReplayComparison.fixtureId replayed
  let fingerprints := Json.arr (comparisons.map fun comparison =>
    .str comparison.comparisonFingerprint)
  let regressions := comparisons.countP ReplayComparison.regression
  let changed := comparisons.countP fun comparison =>
    comparison.changedDays ≠ []
  let replayRoot ← hash fingerprints
  let package ← promotionPackage registry baseline candidate approval
    regressions replayRoot
  let fingerprint ← hash (.obj [("baseline_fingerprint", .str baseline.ruleFingerprint),
      ("candidate_fingerprint", .str candidate.ruleFingerprint),
      ("comparisons", fingerprints), ("regression_count", .int regressions),
      ("changed_fixture_count", .int changed), ("approval_fingerprint", .ofOptional
        (approval.map PromotionApproval.approvalFingerprint)),
      ("promotion_package_fingerprint", .ofOptional
        (package.map PromotionPackage.packageFingerprint))])
  return {
    baseline := baseline
    candidate := candidate
    comparisons := comparisons
    regressionCount := regressions
    changedFixtureCount := changed
    approvalRequired := true
    promotionPackage := package
    evaluationFingerprint := fingerprint }

end SanTanHeights.Seller.Calibration
