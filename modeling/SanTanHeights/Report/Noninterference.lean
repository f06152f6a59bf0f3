import SanTanHeights.Report.Pipeline
import SanTanHeights.Snapshot.Projections

/-!
# What an audience can see

Under the shipped variant policies a report depends on the findings that are
published to its audience, and on nothing else of the snapshot: not on the
other findings, and not on the order of any of them.
-/

namespace SanTanHeights.Report

open Foundation.Sorting Shared Snapshot

/-! ## Visible findings -/

/-- The publication scopes of an audience. -/
def audienceScopes : Variant → List PublicationScope
  | .agent => [.agent, .agentSeller, .all]
  | .seller => [.seller, .agentSeller, .all]
  | .pub => [.pub, .all]

/-- A finding is published to an audience. -/
def visibleTo (variant : Variant) (finding : SnapshotFindingRecord) : Bool :=
  finding.finding.publicationScope ∈ audienceScopes variant

/-- Policies admit only what is published to their audience. -/
def WithinAudience (policies : VariantPolicyRegistry) : Prop :=
  ∀ variant, (policies variant).allowedPublicationScopes ⊆ audienceScopes variant

theorem variantPolicies_withinAudience : WithinAudience variantPolicies := by
  intro variant
  cases variant <;> decide

theorem mem_scopeVariants_iff (variant : Variant) (scope : PublicationScope) :
    variant ∈ scopeVariants scope ↔ scope ∈ audienceScopes variant := by
  cases variant <;> cases scope <;> decide

/-- The identifiers of findings are distinct. -/
def DistinctFindings (findings : List SnapshotFindingRecord) : Prop :=
  (findings.map fun finding => finding.finding.findingId).Nodup

instance (findings : List SnapshotFindingRecord) : Decidable (DistinctFindings findings) :=
  inferInstanceAs (Decidable (List.Nodup _))

/-! ## Selection -/

namespace FindingSelector

variable {selector : FindingSelector} {variant : Variant}

/-- Findings that are not visible are not selected. -/
theorem filterMap_selectOne_filter (within : WithinAudience selector.variants)
    (findings : List SnapshotFindingRecord) : (findings.filter (visibleTo variant)).filterMap
        (selector.selectOne variant) =
      findings.filterMap (selector.selectOne variant) := by
  rw [List.filterMap_filter]
  apply List.filterMap_congr
  intro finding _
  split_ifs with visible
  · rfl
  · cases outcome : selector.selectOne variant finding with
    | none => rfl
    | some selection =>
        have admitted := (selectOne_eq_some outcome).2.1
        exact absurd (by simpa [visibleTo] using within variant admitted) visible

/-- Selections of distinct findings are told apart by their keys. -/
theorem sortKey_injOn {findings : List SnapshotFindingRecord}
    (distinct : DistinctFindings findings) :
    ∀ left ∈ findings.filterMap (selector.selectOne variant),
      ∀ right ∈ findings.filterMap (selector.selectOne variant),
        selector.sortKey left = selector.sortKey right → left = right := by
  intro left leftMember right rightMember equal
  obtain ⟨leftFinding, leftPresent, leftSelected⟩ := List.mem_filterMap.mp leftMember
  obtain ⟨rightFinding, rightPresent, rightSelected⟩ := List.mem_filterMap.mp rightMember
  have sameId : left.findingId = right.findingId := by
    simp only [sortKey, EmbeddingLike.apply_eq_iff_eq, Prod.mk.injEq] at equal
    exact equal.2.2
  have sameFinding : leftFinding = rightFinding := by
    apply List.inj_on_of_nodup_map distinct leftPresent rightPresent
    rw [← (selectOne_eq_some leftSelected).1, ← (selectOne_eq_some rightSelected).1]
    exact sameId
  rw [sameFinding, rightSelected] at leftSelected
  exact (Option.some.inj leftSelected).symm

/-- The selection depends on the visible findings only. -/
theorem select_eq_of_visible_perm (within : WithinAudience selector.variants)
    {left right : List SnapshotFindingRecord} (leftDistinct : DistinctFindings left)
    (rightDistinct : DistinctFindings right)
    (agree : (left.filter (visibleTo variant)).Perm (right.filter (visibleTo variant))) :
    selector.select left variant = selector.select right variant := by
  rw [select_eq leftDistinct, select_eq rightDistinct]
  congr 1
  refine sortedBy_eq_of_perm ?_ (sortKey_injOn leftDistinct)
  rw [← filterMap_selectOne_filter within left, ← filterMap_selectOne_filter within right]
  exact agree.filterMap _

end FindingSelector

/-! ## Fingerprints -/

/-- The fingerprint of a variant, for the findings and dependencies of a
snapshot. -/
def variantFingerprint (variant : Variant) (input : FingerprintInput) : Except String String :=
  (calculate input).map fun fingerprints => fingerprints.ofVariant variant

/-- The same property and dependencies with other findings. -/
def withFindings (input : FingerprintInput) (findings : List SnapshotFindingRecord) :
    FingerprintInput :=
  { input with findings := findings.map SnapshotFindingRecord.finding }

theorem variantFindingEntries_withFindings
    (input : FingerprintInput) (findings : List SnapshotFindingRecord)
    (variant : Variant) : (withFindings input findings).variantFindingEntries variant =
      (findings.filter (visibleTo variant)).map fun finding =>
        findingEntry finding.finding := by
  rw [FingerprintInput.variantFindingEntries, withFindings, List.filter_map, List.map_map]
  have visible : ((fun finding : FrozenFinding =>
      decide (variant ∈ scopeVariants finding.publicationScope)) ∘
        SnapshotFindingRecord.finding) = visibleTo variant := by
    funext finding
    simp [visibleTo, mem_scopeVariants_iff]
  rw [visible]
  rfl

theorem variantFingerprint_eq_of_visible_perm (input : FingerprintInput) {variant : Variant}
    {left right : List SnapshotFindingRecord}
    (agree : (left.filter (visibleTo variant)).Perm (right.filter (visibleTo variant))) :
    variantFingerprint variant (withFindings input left) =
      variantFingerprint variant (withFindings input right) := by
  have same : (withFindings input left).variantProjection variant =
      (withFindings input right).variantProjection variant := by
    have base : (withFindings input left).SameBase (withFindings input right) := ⟨rfl, rfl, rfl⟩
    refine FingerprintInput.variantProjection_eq base ⟨?_, .refl _⟩
    rw [variantFindingEntries_withFindings, variantFindingEntries_withFindings]
    exact agree.map _
  obtain ⟨leftPrints, leftCalculated, _⟩ := exists_calculate (withFindings input left)
  obtain ⟨rightPrints, rightCalculated, _⟩ := exists_calculate (withFindings input right)
  have leftHash := (calculate_eq_ok.mp leftCalculated).2 variant
  have rightHash := (calculate_eq_ok.mp rightCalculated).2 variant
  rw [same, rightHash] at leftHash
  rw [variantFingerprint, variantFingerprint, leftCalculated,
    rightCalculated, Except.map, Except.map, Except.ok.inj leftHash]

/-! ## Reports -/

/-- Two lists of findings that agree on what is published to an audience give
that audience the same selection, report identity (manifest and input hash),
payload and fingerprint. -/
theorem audience_noninterference (config : ReportConfig)
    {left right : List SnapshotFindingRecord} (leftDistinct : DistinctFindings left)
    (rightDistinct : DistinctFindings right) (variant : Variant)
    (agree : (left.filter (visibleTo variant)).Perm
      (right.filter (visibleTo variant))) :
    config.shipped.selector.select left variant =
        config.shipped.selector.select right variant ∧
      (∀ propertyId snapshotId versions,
        identifyFindings config.shipped propertyId snapshotId variant versions
            left =
          identifyFindings config.shipped propertyId snapshotId variant
            versions right) ∧
      (∀ inputs, inputs.reportVariant = variant →
        reportOn config.shipped inputs left =
          reportOn config.shipped inputs right) ∧
      ∀ input, variantFingerprint variant (withFindings input left) =
        variantFingerprint variant (withFindings input right) := by
  have selected : config.shipped.selector.select left variant =
      config.shipped.selector.select right variant :=
    FindingSelector.select_eq_of_visible_perm variantPolicies_withinAudience
      leftDistinct rightDistinct agree
  refine ⟨selected, ?_, ?_, ?_⟩
  · intro propertyId snapshotId versions
    rw [identifyFindings, identifyFindings, selected]
  · rintro inputs rfl
    rw [reportOn, reportOn, selected]
  · intro input
    exact variantFingerprint_eq_of_visible_perm input agree

/-- A public finding, before one for agents or after one for sellers. -/
theorem audience_noninterference_pub :
    sampleConfig.shipped.selector.select [sampleFinding "f1" "POOL_STATUS" .pub,
          sampleFinding "f2" "POOL_STATUS" .agent] .pub =
      sampleConfig.shipped.selector.select
        [sampleFinding "f3" "LOT_IDENTITY" .seller,
          sampleFinding "f1" "POOL_STATUS" .pub] .pub :=
  (audience_noninterference sampleConfig (by decide) (by decide) .pub
    (.of_eq rfl)).1

end SanTanHeights.Report
