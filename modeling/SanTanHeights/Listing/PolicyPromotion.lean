import Mathlib.Data.List.ReduceOption
import SanTanHeights.Listing.PolicyCalibration
import SanTanHeights.Seller.Promotion

/-!
# Promotions of the execution policy

What an evaluation that packages its candidate has found, and what follows
along a chain of promotions.
-/

namespace SanTanHeights.Listing

open Foundation Foundation.Json Foundation.Sorting Foundation.Outcome Shared
open Foundation.Runs

variable {registry : PolicyCalibrationRegistry}
  {baseline candidate : ExecutionPolicyVersion}

/-! ## One evaluation -/

theorem protectedRegressions_eq_nil_iff {fixture : PolicyReplayFixture} :
    protectedRegressions registry baseline candidate fixture = [] ↔
      ∀ field ∈ registry.protectedTrueFields ++
          fixture.protectedControlExpectations,
        baseline.get field = some true → candidate.get field = some true := by
  rw [protectedRegressions, sortedSet, ← List.length_eq_zero_iff,
    length_sortedBy, List.length_eq_zero_iff, List.dedup_eq_nil, List.filter_eq_nil_iff]
  apply forall_congr'
  intro field
  simp

/-- A package is made for an approved candidate without regressions. -/
structure PolicyPackaged (baseline candidate : ExecutionPolicyVersion)
    (approval : Option PolicyPromotionApproval) (package : PolicyPromotionPackage) : Prop where
  approved : ∃ given, approval = some given ∧ given.status = "APPROVED" ∧
    given.candidatePolicyFingerprint = candidate.policyFingerprint
  candidateVersionId : package.candidateVersionId = candidate.versionId
  candidateFingerprint : package.candidatePolicyFingerprint = candidate.policyFingerprint
  rollbackVersionId : package.rollbackVersionId = baseline.versionId
  rollbackFingerprint : package.rollbackPolicyFingerprint = baseline.policyFingerprint

theorem policyPackage_eq_some
    {approval : Option PolicyPromotionApproval} {regressionCount : Nat}
    {replayRoot : String} {package : PolicyPromotionPackage}
    (packaged : policyPackage registry baseline candidate approval
      regressionCount replayRoot = .ok (some package)) :
    regressionCount = 0 ∧ PolicyPackaged baseline candidate approval package := by
  cases approval with
  | none => cases packaged
  | some approval =>
      simp only [policyPackage, bind_eq_ok, require_eq_ok, exists_const]
        at packaged
      obtain ⟨same, decided⟩ := packaged
      split_ifs at decided with approved
      · simp only [bind_eq_ok, pure_eq_ok, Option.some.injEq] at decided
        obtain ⟨fingerprint, -, rfl⟩ := decided
        refine ⟨approved.2, ⟨approval, rfl, approved.1, same⟩, ?_, ?_, ?_, ?_⟩
        all_goals rfl
      · cases decided

/-- What holds of a candidate whose evaluation makes a package. -/
structure PolicyPromotable (registry : PolicyCalibrationRegistry)
    (baseline candidate : ExecutionPolicyVersion) (fixtures : List PolicyReplayFixture)
    (approval : Option PolicyPromotionApproval) (package : PolicyPromotionPackage) : Prop
    extends PolicyPackaged baseline candidate approval package where
  kept : ∀ field ∈ registry.protectedTrueFields,
    baseline.get field = some true → candidate.get field = some true
  expected : ∀ fixture ∈ fixtures,
    ∀ field ∈ fixture.protectedControlExpectations,
      baseline.get field = some true → candidate.get field = some true

theorem promotable_of_evaluatePolicyCandidate {fixtures : List PolicyReplayFixture}
    {approval : Option PolicyPromotionApproval}
    {evaluation : PolicyCalibrationEvaluation} {package : PolicyPromotionPackage}
    (evaluated : evaluatePolicyCandidate registry baseline candidate fixtures
      approval = .ok evaluation)
    (made : evaluation.promotionPackage = some package) :
    PolicyPromotable registry baseline candidate fixtures approval package := by
  simp only [evaluatePolicyCandidate, bind_eq_ok, require_eq_ok,
    exists_const, pure_eq_ok] at evaluated
  obtain ⟨-, -, nonempty, comparisons, replayed, _, -, _, packaged, _, -, rfl⟩ := evaluated
  cases made
  obtain ⟨clean, packaged⟩ := policyPackage_eq_some packaged
  have each : ∀ fixture ∈ fixtures, ∀ field ∈ registry.protectedTrueFields ++
          fixture.protectedControlExpectations,
        baseline.get field = some true → candidate.get field = some true := by
    intro fixture listed
    obtain ⟨comparison, compared, unregressed⟩ := clean_of_replayFixtures replayed clean listed
    simp only [comparePolicies, bind_eq_ok, pure_eq_ok] at compared
    obtain ⟨_, -, _, -, rfl⟩ := compared
    apply protectedRegressions_eq_nil_iff.mp
    simpa using unregressed
  refine ⟨packaged, fun field isProtected => ?_, fun fixture listed => ?_⟩
  · obtain ⟨fixture, listed⟩ := List.exists_mem_of_ne_nil _ nonempty
    exact each fixture listed field (List.mem_append_left _ isProtected)
  · intro field expected
    exact each fixture listed field (List.mem_append_right _ expected)

/-! ## Chains -/

/-- A promotion: what is changed, how it is evaluated, and its package. -/
structure PolicyStep where
  change : PolicyChange
  fixtures : List PolicyReplayFixture
  approval : Option PolicyPromotionApproval
  package : PolicyPromotionPackage

/-- A candidate is built from the previous version, evaluated against it, and
packaged. -/
def PolicyPromotion (registry : PolicyCalibrationRegistry)
    (previous : ExecutionPolicyVersion) (current : PolicyStep)
    (candidate : ExecutionPolicyVersion) : Prop :=
  buildPolicyCandidate registry previous current.change = .ok candidate ∧
    ∃ evaluation, evaluatePolicyCandidate registry previous candidate
        current.fixtures current.approval = .ok evaluation ∧
      evaluation.promotionPackage = some current.package

theorem PolicyPromotion.promotable {current : PolicyStep}
    (promoted : PolicyPromotion registry baseline current candidate) :
    PolicyPromotable registry baseline candidate current.fixtures
      current.approval current.package := by
  obtain ⟨-, evaluation, evaluated, made⟩ := promoted
  exact promotable_of_evaluatePolicyCandidate evaluated made

/-- A protected field that is true stays true. -/
theorem ratchet_protectedTrueFields
    {field : String} (isProtected : field ∈ registry.protectedTrueFields) :
    Ratchet (PolicyPromotion registry) (fun _ => True)
      (fun version => version.get field = some true) := by
  intro previous current candidate _ promoted
  exact promoted.promotable.kept field isProtected

/-! ## A promotion -/

/-- A change of a policy that sets a protected field again. -/
def samplePolicyChange : PolicyChange where
  candidateVersionId := "C-1"
  improvementCandidate := ⟨"EXECUTION_RELIABILITY_REVIEW", true, "NOT_PROMOTED", ""⟩
  domain := "EXECUTION"
  policyChanges := [("human_approval_required", .bool true)]

def samplePolicyFixture : PolicyReplayFixture where
  fixtureId := "F-EXEC"
  domain := "EXECUTION"
  protectedControlExpectations := ["human_approval_required"]

/-- Nothing is changed in fields that stay. -/
theorem changedFields_self {values : List (String × Bool)}
    (distinct : (values.map Prod.fst).Nodup) :
    changedFields values values = .ok [] := by
  have unchanged : values.mapM (fun (field : String × Bool) => do
      let value ← orRaise (values.lookup field.1) ("KeyError: " ++ field.1)
      return if field.2 = value then none else some field.1) =
        .ok (values.map fun _ => none) := by
    rw [mapM_eq_ok, List.forall₂_map_right_iff, List.forall₂_same]
    intro field listed
    rw [Keyed.lookup_of_mem distinct listed]
    simp [orRaise, pure, Except.pure, bind, Except.bind]
  rw [changedFields, unchanged]
  simp [List.reduceOption_replicate_none, pure, Except.pure, bind, Except.bind]

theorem nodup_policyFields : (policyCalibrationRegistry.policyFields.map Prod.fst).Nodup := by
  decide +kernel

/-- A candidate that sets a protected field again is promoted. -/
theorem exists_policyPromotion :
    ∃ accepted current candidate,
      buildAcceptedPolicyBaseline policyCalibrationRegistry = .ok accepted ∧
      PolicyPromotion policyCalibrationRegistry accepted current candidate ∧
      accepted.get "human_approval_required" = some true := by
  obtain ⟨fields, fields_eq⟩ : ∃ fields,
      fields = sortedBy toLex policyCalibrationRegistry.policyFields :=
    ⟨_, rfl⟩
  have present : ("human_approval_required", true) ∈
      policyCalibrationRegistry.policyFields := by
    decide +kernel
  have same : sortedBy toLex (Dictionary.assign "human_approval_required"
      true (Dictionary.ofPairs fields)) = fields := by
    rw [fields_eq]
    exact sortedBy_assign_ofPairs nodup_policyFields present
  have distinct : ((Dictionary.ofPairs fields).map Prod.fst).Nodup := by
    rw [fields_eq, Dictionary.ofPairs_eq_self]
    all_goals exact nodup_sortedBy_toLex nodup_policyFields
  have held : (Dictionary.ofPairs fields).lookup "human_approval_required" =
      some true := by
    rw [fields_eq]
    exact lookup_ofPairs_sortedBy nodup_policyFields present
  obtain ⟨acceptedFingerprint, acceptedHashed⟩ :=
    (show Writable (.obj [("version_id", .str policyCalibrationRegistry.acceptedVersion),
        ("policy_values", flags fields), ("isolated_candidate", .bool false)])
      by simp [writable_flags]).exists_sha256Dumps
  let accepted : ExecutionPolicyVersion :=
    ⟨policyCalibrationRegistry.acceptedVersion, none, none, fields, false,
      none, acceptedFingerprint⟩
  obtain ⟨candidateFingerprint, candidateHashed⟩ :=
    (show Writable (.obj [("version_id", .str "C-1"),
        ("parent_version_id", .str accepted.versionId),
        ("parent_fingerprint", .str acceptedFingerprint),
        ("source_candidate_fingerprint", .str ""), ("domain", .str "EXECUTION"),
        ("policy_values", flags fields), ("isolated_candidate", .bool true)])
      by simp [writable_flags]).exists_sha256Dumps
  let candidate : ExecutionPolicyVersion :=
    ⟨"C-1", some accepted.versionId, some acceptedFingerprint, fields, true,
      some "", candidateFingerprint⟩
  have built : buildPolicyCandidate policyCalibrationRegistry accepted
      samplePolicyChange = .ok candidate := by
    simp only [buildPolicyCandidate, bind_eq_ok, require_eq_ok, exists_const,
      orRaise_eq_ok, pure_eq_ok]
    refine ⟨⟨rfl, rfl⟩, _, rfl, ?_, ?_, ?_, ?_,
      Dictionary.assign "human_approval_required" true (Dictionary.ofPairs fields), rfl,
      candidateFingerprint, ?_, ?_⟩
    · decide
    · decide
    · decide
    · decide +kernel
    · rw [same]
      exact candidateHashed
    · rw [same]
      rfl
  have regressions : protectedRegressions policyCalibrationRegistry accepted
      candidate samplePolicyFixture = [] :=
    protectedRegressions_eq_nil_iff.mpr fun _ _ held => held
  obtain ⟨comparisonFingerprint, comparisonHashed⟩ :=
    (show Writable (.obj [("fixture_id", .str "F-EXEC"), ("domain", .str "EXECUTION"),
        ("changed_fields", .arr []), ("protected_regressions", .arr []),
        ("safety_regression", .bool false)])
      by simp).exists_sha256Dumps
  obtain ⟨replayRoot, rootHashed⟩ :=
    (show Writable (.arr [.str comparisonFingerprint])
      by simp).exists_sha256Dumps
  let approval : PolicyPromotionApproval := ⟨"A-1", candidateFingerprint, "APPROVED", ""⟩
  let draft := draftPolicyPackage policyCalibrationRegistry accepted
    candidate approval replayRoot
  obtain ⟨packageFingerprint, packageHashed⟩ :=
    (show Writable draft.payload
      by simp [PolicyPromotionPackage.payload]).exists_sha256Dumps
  let package := { draft with packageFingerprint := packageFingerprint }
  obtain ⟨evaluationFingerprint, evaluationHashed⟩ :=
    (show Writable (.obj [("baseline_policy_fingerprint", .str acceptedFingerprint),
        ("candidate_policy_fingerprint", .str candidateFingerprint),
        ("comparisons", .arr [.str comparisonFingerprint]), ("changed_fixture_count", .int 0),
        ("safety_regression_count", .int 0), ("approval_fingerprint", .str ""),
        ("promotion_package_fingerprint", .str packageFingerprint)])
      by simp; decide).exists_sha256Dumps
  let comparison : PolicyReplayComparison :=
    ⟨"F-EXEC", "EXECUTION", [], [], false, comparisonFingerprint⟩
  let current : PolicyStep :=
    ⟨samplePolicyChange, [samplePolicyFixture], some approval, package⟩
  refine ⟨accepted, current, candidate, ?_, ⟨built,
    ⟨accepted, candidate, [comparison], 0, 0, true, some package,
      evaluationFingerprint⟩, ?_, rfl⟩, held⟩
  · simp only [buildAcceptedPolicyBaseline, bind_eq_ok, pure_eq_ok, ← fields_eq]
    exact ⟨acceptedFingerprint, acceptedHashed, rfl⟩
  · have compared : comparePolicies policyCalibrationRegistry accepted
        candidate samplePolicyFixture = .ok comparison := by
      simp only [comparePolicies, bind_eq_ok, pure_eq_ok, regressions]
      exact ⟨[], changedFields_self distinct, comparisonFingerprint, comparisonHashed, rfl⟩
    have packaged : policyPackage policyCalibrationRegistry accepted
        candidate (some approval) 0 replayRoot = .ok (some package) := by
      simp only [policyPackage, bind_eq_ok, require_eq_ok, exists_const]
      refine ⟨rfl, ?_⟩
      rw [if_pos ⟨rfl, trivial⟩]
      simp only [bind_eq_ok, pure_eq_ok]
      exact ⟨packageFingerprint, packageHashed, rfl⟩
    simp only [evaluatePolicyCandidate, bind_eq_ok, require_eq_ok, exists_const, pure_eq_ok]
    exact ⟨rfl, ⟨rfl, rfl⟩, List.cons_ne_nil _ _, [comparison],
      replayFixtures_singleton compared, replayRoot, rootHashed,
      some package, packaged, evaluationFingerprint, evaluationHashed, rfl⟩

/-!
## Chains of promotions

A regression is judged against the version before a candidate, so what is
protected stays along a whole chain of promotions, in both calibrations.
-/

open Seller.Calibration (CalibrationRegistry RuleVersion PromotionStep
  RulePromotion Triggers triggeredDays)

/-- Along every chain of promotions from an accepted baseline, protected
fields stay true, protected fixtures keep their review days, every fixture is
reviewed on day 14, and every package is for the approved candidate and rolls
back to the version before it. -/
theorem promotions_keep_protected_behavior :
    (∀ (registry : PolicyCalibrationRegistry)
        (accepted last : ExecutionPolicyVersion)
        (earlier later : List PolicyStep) (current : PolicyStep),
      buildAcceptedPolicyBaseline registry = .ok accepted →
      Exec (PolicyPromotion registry) accepted
        (earlier ++ current :: later) last →
      ∃ previous candidate,
        Exec (PolicyPromotion registry) accepted earlier previous ∧
        PolicyPromotion registry previous current candidate ∧
        Exec (PolicyPromotion registry) candidate later last ∧
        PolicyPackaged previous candidate current.approval current.package ∧
        ∀ field ∈ registry.protectedTrueFields,
          previous.get field = some true → last.get field = some true) ∧
    ∀ (registry : CalibrationRegistry) (accepted last : RuleVersion)
        (earlier later : List PromotionStep) (current : PromotionStep),
      Seller.Calibration.buildAcceptedBaseline registry = .ok accepted →
      Exec (RulePromotion registry) accepted
        (earlier ++ current :: later) last →
      ∃ previous candidate,
        Exec (RulePromotion registry) accepted earlier previous ∧
        RulePromotion registry previous current candidate ∧
        Exec (RulePromotion registry) candidate later last ∧
        Seller.Calibration.Packaged previous candidate current.approval
          current.package ∧
        (∀ fixture, fixture.protectedBehavior = true →
          (∀ step ∈ current :: later, fixture ∈ step.fixtures) →
            ∀ day, Triggers previous fixture day →
              Triggers last fixture day) ∧
        (∀ fixture ∈ current.fixtures, Triggers candidate fixture 14) ∧
        ∀ fixture days, triggeredDays candidate fixture = .ok days →
          14 ∈ days := by
  constructor
  · intro registry accepted last earlier later current _ chain
    obtain ⟨previous, candidate, before, promoted, after⟩ := chain.split_cons
    refine ⟨previous, candidate, before, promoted, after,
      promoted.promotable.toPolicyPackaged, ?_⟩
    intro field isProtected held
    have rest : Exec (PolicyPromotion registry) previous (current :: later)
        last := .cons promoted after
    exact (ratchet_protectedTrueFields isProtected).run rest
      (fun _ _ => trivial) held
  · intro registry accepted last earlier later current _ chain
    obtain ⟨previous, candidate, before, promoted, after⟩ := chain.split_cons
    have promotable := promoted.promotable
    refine ⟨previous, candidate, before, promoted, after,
      promotable.toPackaged, ?_, promotable.onDay14, promotable.always⟩
    intro fixture isProtected replayed day triggered
    have rest : Exec (RulePromotion registry) previous (current :: later)
        last := .cons promoted after
    have kept := (Seller.Calibration.ratchet_triggers isProtected).run rest
      replayed
    exact kept triggered

/-- One promotion of each kind, in which nothing protected is lost. -/
theorem promotions_keep_protected_behavior_sample :
    (∃ (accepted last : ExecutionPolicyVersion) (current : PolicyStep),
      Exec (PolicyPromotion policyCalibrationRegistry) accepted [current] last ∧
      accepted.get "human_approval_required" = some true ∧
      last.get "human_approval_required" = some true) ∧
    ∃ (accepted last : RuleVersion) (current : PromotionStep),
      Exec (RulePromotion Seller.Calibration.calibrationRegistry) accepted
        [current] last ∧
      Seller.Calibration.sampleFixture ∈ current.fixtures ∧
      Triggers last Seller.Calibration.sampleFixture 7 ∧
      Triggers last Seller.Calibration.sampleFixture 14 := by
  constructor
  · obtain ⟨accepted, current, candidate, built, promoted, held⟩ :=
      exists_policyPromotion
    obtain ⟨previous, _, before, _, _, _, kept⟩ :=
      promotions_keep_protected_behavior.1 policyCalibrationRegistry accepted
        candidate [] [] current built (.single promoted)
    cases before
    refine ⟨accepted, candidate, current, .single promoted, held, ?_⟩
    exact kept "human_approval_required" (by decide +kernel) held
  · obtain ⟨accepted, current, candidate, built, promoted, replayed,
      triggered⟩ := Seller.Calibration.exists_rulePromotion
    have listed : Seller.Calibration.sampleFixture ∈ current.fixtures := by
      rw [replayed]
      exact List.mem_singleton_self _
    obtain ⟨previous, _, before, _, after, _, kept, onDay14, _⟩ :=
      promotions_keep_protected_behavior.2
        Seller.Calibration.calibrationRegistry accepted candidate [] []
        current built (.single promoted)
    cases before
    cases after
    refine ⟨accepted, candidate, current, .single promoted, listed, ?_,
      onDay14 _ listed⟩
    apply kept Seller.Calibration.sampleFixture rfl _ 7 triggered
    intro step single
    rwa [List.mem_singleton.mp single]

end SanTanHeights.Listing
