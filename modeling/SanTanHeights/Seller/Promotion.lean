import Mathlib.Order.CompletePartialOrder
import Mathlib.Data.Set.Basic
import SanTanHeights.Foundation.Runs
import SanTanHeights.Seller.Calibration

/-!
# Promotions of the review rules

What an evaluation that packages its candidate has found, and what follows
along a chain of promotions.
-/

namespace SanTanHeights.Seller.Calibration

open Foundation Foundation.Json Foundation.Sorting Foundation.Outcome Shared
open Foundation.Runs

variable {registry : CalibrationRegistry} {baseline candidate : RuleVersion}

/-! ## Review days -/

/-- A review of a fixture is triggered on a day. -/
def Triggers (version : RuleVersion) (fixture : HistoricalReplayFixture) (day : Nat) : Prop :=
  ∃ days, triggeredDays version fixture = .ok days ∧ day ∈ days

variable {fixture : HistoricalReplayFixture}

/-- Day 14 depends on its rule alone. -/
theorem triggers_fourteen_iff {version : RuleVersion} {days : List Nat}
    (evaluated : triggeredDays version fixture = .ok days) :
    14 ∈ days ↔ enabled (Dictionary.ofPairs version.rules)
        "DAY_14_ALWAYS_REVIEW_ENABLED" = .ok true := by
  simp only [triggeredDays, bind_eq_ok, pure_eq_ok] at evaluated
  obtain ⟨onDay7, -, onDay10, -, onDay14, found, rfl⟩ := evaluated
  rw [found]
  cases onDay7 <;> cases onDay10 <;> cases onDay14 <;> simp

theorem lostDays_eq_nil_iff {before after : List Nat} :
    lostDays before after = [] ↔ before ⊆ after := by
  rw [lostDays, ← List.length_eq_zero_iff, length_sortedBy,
    List.length_eq_zero_iff, List.filter_eq_nil_iff]
  apply forall_congr'
  intro day
  simp

/-! ## One evaluation -/

theorem regressionReasons_eq_nil_iff {before after : List Nat} :
    regressionReasons fixture before after = [] ↔
      (fixture.protectedBehavior = true → before ⊆ after) ∧ 14 ∈ after := by
  rw [regressionReasons, List.append_eq_nil_iff, ← lostDays_eq_nil_iff]
  apply and_congr
  · simp only [ite_eq_right_iff, reduceCtorEq, imp_false, not_and, not_not]
  · simp

/-- A package is made for an approved candidate without regressions. -/
structure Packaged (baseline candidate : RuleVersion) (approval : Option PromotionApproval)
    (package : PromotionPackage) : Prop where
  approved : ∃ given, approval = some given ∧ given.status = "APPROVED" ∧
    given.candidateRuleFingerprint = candidate.ruleFingerprint
  candidateVersionId : package.candidateVersionId = candidate.versionId
  candidateFingerprint : package.candidateRuleFingerprint = candidate.ruleFingerprint
  rollbackVersionId : package.rollbackVersionId = baseline.versionId
  rollbackFingerprint : package.rollbackRuleFingerprint = baseline.ruleFingerprint

theorem promotionPackage_eq_some {approval : Option PromotionApproval} {regressions : Nat}
    {replayRoot : String} {package : PromotionPackage}
    (packaged : promotionPackage registry baseline candidate approval
      regressions replayRoot = .ok (some package)) :
    regressions = 0 ∧ Packaged baseline candidate approval package := by
  cases approval with
  | none => cases packaged
  | some approval =>
      unfold promotionPackage at packaged
      split_ifs at packaged with clean
      · simp only [bind_eq_ok, require_eq_ok, exists_const] at packaged
        obtain ⟨same, decided⟩ := packaged
        split_ifs at decided with approved
        · simp only [bind_eq_ok, pure_eq_ok, Option.some.injEq] at decided
          obtain ⟨fingerprint, -, rfl⟩ := decided
          refine ⟨clean, ⟨approval, rfl, approved, same⟩, ?_, ?_, ?_, ?_⟩
          all_goals rfl
        · cases decided
      · cases packaged

/-- What holds of a candidate whose evaluation makes a package. -/
structure Promotable (baseline candidate : RuleVersion)
    (fixtures : List HistoricalReplayFixture) (approval : Option PromotionApproval)
    (package : PromotionPackage) : Prop
    extends Packaged baseline candidate approval package where
  kept : ∀ fixture ∈ fixtures, fixture.protectedBehavior = true →
    ∀ day, Triggers baseline fixture day → Triggers candidate fixture day
  onDay14 : ∀ fixture ∈ fixtures, Triggers candidate fixture 14
  always : ∀ fixture days, triggeredDays candidate fixture = .ok days → 14 ∈ days

theorem promotable_of_evaluateCandidate {fixtures : List HistoricalReplayFixture}
    {approval : Option PromotionApproval}
    {evaluation : CalibrationEvaluation} {package : PromotionPackage}
    (evaluated : evaluateCandidate registry baseline candidate fixtures approval = .ok evaluation)
    (made : evaluation.promotionPackage = some package) :
    Promotable baseline candidate fixtures approval package := by
  simp only [evaluateCandidate, bind_eq_ok, require_eq_ok, exists_const, pure_eq_ok] at evaluated
  obtain ⟨-, -, nonempty, comparisons, replayed, _, -, _, packaged, _, -, rfl⟩ := evaluated
  cases made
  obtain ⟨clean, packaged⟩ := promotionPackage_eq_some packaged
  have each : ∀ fixture ∈ fixtures, ∃ before after,
      triggeredDays baseline fixture = .ok before ∧
        triggeredDays candidate fixture = .ok after ∧
          (fixture.protectedBehavior = true → before ⊆ after) ∧ 14 ∈ after := by
    intro fixture listed
    obtain ⟨comparison, compared, unregressed⟩ := clean_of_replayFixtures replayed clean listed
    simp only [compare, bind_eq_ok, pure_eq_ok] at compared
    obtain ⟨before, beforeDays, after, afterDays, _, -, rfl⟩ := compared
    refine ⟨before, after, beforeDays, afterDays, ?_⟩
    apply regressionReasons_eq_nil_iff.mp
    simpa using unregressed
  refine ⟨packaged, ?_, ?_, ?_⟩
  · rintro fixture listed isProtected day ⟨days, evaluated, present⟩
    obtain ⟨before, after, beforeDays, afterDays, kept, -⟩ := each fixture listed
    rw [beforeDays, Except.ok.injEq] at evaluated
    subst evaluated
    exact ⟨after, afterDays, kept isProtected present⟩
  · intro fixture listed
    obtain ⟨before, after, -, afterDays, -, onDay14⟩ := each fixture listed
    exact ⟨after, afterDays, onDay14⟩
  · intro fixture days evaluated
    obtain ⟨other, listed⟩ := List.exists_mem_of_ne_nil _ nonempty
    obtain ⟨before, after, -, afterDays, -, onDay14⟩ := each other listed
    rw [triggers_fourteen_iff evaluated, ← triggers_fourteen_iff afterDays]
    exact onDay14

/-! ## Chains -/

/-- A promotion: what is changed, how it is evaluated, and its package. -/
structure PromotionStep where
  change : RuleChange
  fixtures : List HistoricalReplayFixture
  approval : Option PromotionApproval
  package : PromotionPackage

/-- A candidate is built from the previous version, evaluated against it, and
packaged. -/
def RulePromotion (registry : CalibrationRegistry)
    (previous : RuleVersion) (current : PromotionStep) (candidate : RuleVersion) : Prop :=
  buildCandidateVersion registry previous current.change = .ok candidate ∧
    ∃ evaluation, evaluateCandidate registry previous candidate
        current.fixtures current.approval = .ok evaluation ∧
      evaluation.promotionPackage = some current.package

theorem RulePromotion.promotable {current : PromotionStep}
    (promoted : RulePromotion registry baseline current candidate) :
    Promotable baseline candidate current.fixtures current.approval current.package := by
  obtain ⟨-, evaluation, evaluated, made⟩ := promoted
  exact promotable_of_evaluateCandidate evaluated made

/-- The review days of a protected fixture stay while it is replayed. -/
theorem ratchet_triggers (isProtected : fixture.protectedBehavior = true) :
    Ratchet (RulePromotion registry) (fun current => fixture ∈ current.fixtures)
      (fun version => {day | Triggers version fixture day}) := by
  intro previous current candidate replayed promoted day
  exact promoted.promotable.kept fixture replayed isProtected day

/-! ## A promotion -/

/-- A change that enables an enabled rule again. -/
def sampleRuleChange : RuleChange where
  candidateId := "C-1"
  advisoryCandidate := ⟨"REVIEW_CONDITION_CALIBRATION", true, "NOT_PROMOTED", ""⟩
  ruleChanges := [("DAY_7_HIGH_PRESSURE_REVIEW_ENABLED", .bool true)]

/-- A protected fixture that is reviewed on every day. -/
def sampleFixture : HistoricalReplayFixture where
  fixtureId := "F-1"
  competitivePressure := "HIGH"
  buyerDepth := "THIN"
  pricingResponseEnvironment := "WEAK"
  newConstructionPressure := "HIGH"
  verifiedDifferentiation := "LIMITED"
  weekOverWeekDirection := "WORSENING"
  protectedBehavior := true

theorem nodup_acceptedRuleValues :
    (calibrationRegistry.acceptedRuleValues.map Prod.fst).Nodup := by
  decide +kernel

/-- An accepted rule that is enabled. -/
theorem enabled_accepted {rule : String}
    (accepted : (rule, true) ∈ calibrationRegistry.acceptedRuleValues) :
    enabled (Dictionary.ofPairs
      (sortedBy toLex calibrationRegistry.acceptedRuleValues)) rule = .ok true := by
  rw [enabled, lookup_ofPairs_sortedBy nodup_acceptedRuleValues accepted]
  rfl

theorem triggeredDays_sampleFixture {version : RuleVersion}
    (accepted : version.rules = sortedBy toLex calibrationRegistry.acceptedRuleValues) :
    triggeredDays version sampleFixture = .ok [7, 10, 14] := by
  simp only [triggeredDays, accepted, anyEnabled, bind_eq_ok, pure_eq_ok]
  refine ⟨true, ⟨true, enabled_accepted (by decide +kernel), rfl⟩,
    true, ⟨true, enabled_accepted (by decide +kernel), rfl⟩,
    true, enabled_accepted (by decide +kernel), rfl⟩

/-- A candidate that enables an enabled rule again is promoted. -/
theorem exists_rulePromotion :
    ∃ accepted current candidate,
      buildAcceptedBaseline calibrationRegistry = .ok accepted ∧
      RulePromotion calibrationRegistry accepted current candidate ∧
      current.fixtures = [sampleFixture] ∧
      Triggers accepted sampleFixture 7 := by
  let rules := sortedBy toLex calibrationRegistry.acceptedRuleValues
  have present : ("DAY_7_HIGH_PRESSURE_REVIEW_ENABLED", true) ∈
      calibrationRegistry.acceptedRuleValues := by
    decide +kernel
  obtain ⟨acceptedFingerprint, acceptedHashed⟩ :=
    (show Writable (.obj [("version_id", .str calibrationRegistry.acceptedVersion),
        ("rules", flags rules), ("isolated_candidate", .bool false)])
      by simp [writable_flags]).exists_sha256Dumps
  let accepted : RuleVersion :=
    ⟨calibrationRegistry.acceptedVersion, none, none, rules, false, acceptedFingerprint⟩
  obtain ⟨candidateFingerprint, candidateHashed⟩ :=
    (show Writable (.obj [("version_id", .str "C-1"),
        ("parent_version_id", .str accepted.versionId),
        ("parent_fingerprint", .str acceptedFingerprint),
        ("m11_007_candidate_fingerprint", .str ""), ("rules", flags rules),
        ("isolated_candidate", .bool true)])
      by simp [writable_flags]).exists_sha256Dumps
  let candidate : RuleVersion :=
    ⟨"C-1", some accepted.versionId, some acceptedFingerprint, rules, true, candidateFingerprint⟩
  have built : buildCandidateVersion calibrationRegistry accepted
      sampleRuleChange = .ok candidate := by
    have same : sortedBy toLex (Dictionary.assign "DAY_7_HIGH_PRESSURE_REVIEW_ENABLED" true
        (Dictionary.ofPairs accepted.rules)) = rules :=
      sortedBy_assign_ofPairs nodup_acceptedRuleValues present
    simp only [buildCandidateVersion, bind_eq_ok, require_eq_ok, exists_const, pure_eq_ok]
    refine ⟨⟨rfl, rfl⟩, ?_, ?_, ?_, ?_,
      Dictionary.assign "DAY_7_HIGH_PRESSURE_REVIEW_ENABLED" true
        (Dictionary.ofPairs accepted.rules), rfl,
      candidateFingerprint, ?_, ?_⟩
    · decide
    · decide
    · decide
    · decide +kernel
    · rw [same]
      exact candidateHashed
    · rw [same]
      rfl
  have beforeDays : triggeredDays accepted sampleFixture = .ok [7, 10, 14] :=
    triggeredDays_sampleFixture rfl
  have afterDays : triggeredDays candidate sampleFixture = .ok [7, 10, 14] :=
    triggeredDays_sampleFixture rfl
  obtain ⟨comparisonFingerprint, comparisonHashed⟩ :=
    (show Writable (.obj [("fixture_id", .str "F-1"),
        ("baseline_triggered_days", .arr [.int 7, .int 10, .int 14]),
        ("candidate_triggered_days", .arr [.int 7, .int 10, .int 14]),
        ("changed_days", .arr []), ("communication_effect", .str "UNCHANGED"),
        ("regression_reasons", .arr [])])
      by simp; decide).exists_sha256Dumps
  obtain ⟨replayRoot, rootHashed⟩ :=
    (show Writable (.arr [.str comparisonFingerprint])
      by simp).exists_sha256Dumps
  let approval : PromotionApproval := ⟨"A-1", candidateFingerprint, "APPROVED", ""⟩
  let draft := draftPackage calibrationRegistry accepted candidate approval
    replayRoot
  obtain ⟨packageFingerprint, packageHashed⟩ :=
    (show Writable draft.payload
      by simp [PromotionPackage.payload]).exists_sha256Dumps
  let package := { draft with packageFingerprint := packageFingerprint }
  obtain ⟨evaluationFingerprint, evaluationHashed⟩ :=
    (show Writable (.obj [("baseline_fingerprint", .str acceptedFingerprint),
        ("candidate_fingerprint", .str candidateFingerprint),
        ("comparisons", .arr [.str comparisonFingerprint]), ("regression_count", .int 0),
        ("changed_fixture_count", .int 0), ("approval_fingerprint", .str ""),
        ("promotion_package_fingerprint", .str packageFingerprint)])
      by simp; decide).exists_sha256Dumps
  let comparison : ReplayComparison :=
    ⟨"F-1", [7, 10, 14], [7, 10, 14], [], "UNCHANGED", false, [], comparisonFingerprint⟩
  let current : PromotionStep := ⟨sampleRuleChange, [sampleFixture], some approval, package⟩
  refine ⟨accepted, current, candidate, ?_, ⟨built,
    ⟨accepted, candidate, [comparison], 0, 0, true, some package,
      evaluationFingerprint⟩, ?_, rfl⟩, rfl, _, beforeDays, by decide⟩
  · simp only [buildAcceptedBaseline, bind_eq_ok, pure_eq_ok]
    exact ⟨acceptedFingerprint, acceptedHashed, rfl⟩
  · have compared : compare accepted candidate sampleFixture =
        .ok comparison := by
      simp only [compare, bind_eq_ok, pure_eq_ok]
      exact ⟨_, beforeDays, _, afterDays, comparisonFingerprint, comparisonHashed, rfl⟩
    have packaged : promotionPackage calibrationRegistry accepted candidate
        (some approval) 0 replayRoot = .ok (some package) := by
      simp only [promotionPackage, if_true, bind_eq_ok, require_eq_ok, exists_const]
      refine ⟨rfl, ?_⟩
      rw [if_pos rfl]
      simp only [bind_eq_ok, pure_eq_ok]
      exact ⟨packageFingerprint, packageHashed, rfl⟩
    simp only [evaluateCandidate, bind_eq_ok, require_eq_ok, exists_const, pure_eq_ok]
    exact ⟨rfl, ⟨rfl, rfl⟩, List.cons_ne_nil _ _, [comparison],
      replayFixtures_singleton compared, replayRoot, rootHashed,
      some package, packaged, evaluationFingerprint, evaluationHashed, rfl⟩

end SanTanHeights.Seller.Calibration
