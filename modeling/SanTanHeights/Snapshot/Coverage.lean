import SanTanHeights.Shared.Spelling
import SanTanHeights.Snapshot.FindingText
import SanTanHeights.Snapshot.Projections
import SanTanHeights.Snapshot.Service

/-!
# When the overall fingerprint covers the variants

An entry of a finding carries the finding's own fingerprint, which covers its
publication scope.  An entry of a dependency carries nothing that covers its
variant scope, so two captures with the same entries have the same variant
fingerprints just when they scope their dependencies alike.
-/

namespace SanTanHeights.Snapshot

open Foundation Foundation.Json Foundation.Outcome Shared

/-! ## Captures -/

namespace Capture

/-- The passport that verified a finding. -/
def VerifiedBy (captured : Capture) (finding : FrozenFinding)
    (passport : PassportReference) : Prop :=
  passportByFinding captured.passports finding.findingId = some passport

/-- What the fingerprint engine was given. -/
def input (state : GovernedPropertyState) (captured : Capture) : FingerprintInput :=
  fingerprintInput state captured.findings captured.dependencies

/-- The values that are hashed for a capture. -/
inductive Hashes (state : GovernedPropertyState) (captured : Capture) :
    Json → Prop
  | finding {finding : FrozenFinding} {passport : PassportReference} :
      finding ∈ captured.findings → captured.VerifiedBy finding passport →
        Hashes state captured (findingProjection finding passport)
  | overall : Hashes state captured (captured.input state).overall
  | variant (variant : Variant) :
      Hashes state captured ((captured.input state).variantProjection variant)

/-- The texts that are hashed for a capture. -/
def texts (state : GovernedPropertyState) (captured : Capture) : Set String :=
  {text | ∃ value, captured.Hashes state value ∧
    canonicalJson value = some text}

end Capture

/-- What is known of a successful capture. -/
structure Captured (state : GovernedPropertyState) (captured : Capture) : Prop where
  distinct : (captured.findings.map FrozenFinding.findingId).Nodup
  passed : ∀ finding ∈ captured.findings, finding.qaStatus = .pass
  verified : ∀ finding ∈ captured.findings, ∃ passport text,
    captured.VerifiedBy finding passport ∧ VerifiedText finding passport text
  wellFormed : WellFormedManifest captured.dependencies
  calculated : calculate (captured.input state) = .ok captured.fingerprints

variable {state : GovernedPropertyState} {captured : Capture}
  {variant : Variant}

theorem captureState_eq_ok {resolver : PassportResolver} {allowed : List String}
    (capturing : captureState resolver allowed state = .ok captured) :
    Captured state captured := by
  obtain ⟨findings, frozen, rest⟩ := bind_eq_ok.mp capturing
  obtain ⟨passports, _, rest⟩ := bind_eq_ok.mp rest
  obtain ⟨_, verifying, rest⟩ := bind_eq_ok.mp rest
  obtain ⟨dependencies, built, rest⟩ := bind_eq_ok.mp rest
  obtain ⟨fingerprints, calculated, rest⟩ := bind_eq_ok.mp rest
  rw [pure_eq_ok] at rest
  subst rest
  obtain ⟨_, distinct, passed⟩ := freeze_eq_ok frozen
  refine
    { distinct := distinct
      passed := passed
      verified := ?_
      wellFormed := buildDependencies_wellFormed built
      calculated := calculated }
  intro finding present
  obtain ⟨fingerprint, _, verifies⟩ := exists_ok_of_mapM verifying present
  obtain ⟨passport, found, verified⟩ := bind_eq_ok.mp verifies
  obtain ⟨text, verifiedText⟩ := verifyUpstream_eq_ok verified
  exact ⟨passport, text, orRaise_eq_ok.mp found, verifiedText⟩

/-- The entries of a capture's findings are distinct. -/
theorem nodup_variantFindingEntries (spec : Captured state captured) (variant : Variant) :
    ((captured.input state).variantFindingEntries variant).Nodup := by
  have distinct := spec.distinct.sublist
    ((List.filter_sublist (p := fun finding : FrozenFinding =>
      decide (variant ∈ scopeVariants finding.publicationScope))).map FrozenFinding.findingId)
  apply List.Nodup.of_map FindingEntry.findingId
  rwa [FingerprintInput.variantFindingEntries, List.map_map]

/-- The entries of a capture's dependencies are distinct. -/
theorem nodup_variantDependencyEntries (spec : Captured state captured) (variant : Variant) :
    ((captured.input state).variantDependencyEntries variant).Nodup := by
  have distinct := spec.wellFormed.1.sublist
    ((List.filter_sublist (p := fun dependency : GovernedDependency =>
      decide (variant ∈ dependency.variantScope))).map GovernedDependency.key)
  apply List.Nodup.of_map DependencyEntry.key
  rwa [FingerprintInput.variantDependencyEntries, List.map_map]

/-! ## Fingerprints of two captures -/

section Pair

variable {left right : GovernedPropertyState}
  {leftCapture rightCapture : Capture} {texts : Set String}
  (leftCaptured : Captured left leftCapture)
  (rightCaptured : Captured right rightCapture)
  (collisionFree : Sha256.CollisionFree texts)
  (leftHashed : leftCapture.texts left ⊆ texts)
  (rightHashed : rightCapture.texts right ⊆ texts)

include leftCaptured rightCaptured collisionFree leftHashed rightHashed

/-- Findings of two captures with the same fingerprint agree in everything
that the fingerprint covers. -/
theorem sameSemantics_of_captured {leftFinding rightFinding : FrozenFinding}
    (leftMember : leftFinding ∈ leftCapture.findings)
    (rightMember : rightFinding ∈ rightCapture.findings)
    (equal : leftFinding.semanticFingerprint = rightFinding.semanticFingerprint) :
    ∃ leftPassport rightPassport,
      leftCapture.VerifiedBy leftFinding leftPassport ∧
      rightCapture.VerifiedBy rightFinding rightPassport ∧
      SameSemantics leftFinding rightFinding leftPassport rightPassport := by
  obtain ⟨leftPassport, leftText, leftFound, leftVerified⟩ :=
    leftCaptured.verified leftFinding leftMember
  obtain ⟨rightPassport, rightText, rightFound, rightVerified⟩ :=
    rightCaptured.verified rightFinding rightMember
  refine ⟨leftPassport, rightPassport, leftFound, rightFound,
    sameSemantics_of_fingerprint_eq collisionFree leftVerified rightVerified
      (leftHashed ?_) (rightHashed ?_) equal⟩
  · exact ⟨_, .finding leftMember leftFound, leftVerified.1⟩
  · exact ⟨_, .finding rightMember rightFound, rightVerified.1⟩

/-- The overall fingerprints are equal just when the entries are the same. -/
theorem semanticFingerprint_eq_iff
    (base : (leftCapture.input left).SameBase (rightCapture.input right)) :
    leftCapture.fingerprints.semanticFingerprint =
        rightCapture.fingerprints.semanticFingerprint ↔
      (leftCapture.input left).SameEntries (rightCapture.input right) := by
  exact overallFingerprint_eq_iff base leftCaptured.calculated
    rightCaptured.calculated collisionFree
    (fun _ written => leftHashed ⟨_, .overall, written⟩)
    (fun _ written => rightHashed ⟨_, .overall, written⟩)

/-- Equal fingerprints of a variant come from the same entries. -/
theorem sameVariantEntries_of_ofVariant_eq
    (equal : leftCapture.fingerprints.ofVariant variant =
      rightCapture.fingerprints.ofVariant variant) :
    (leftCapture.input left).SameBase (rightCapture.input right) ∧
      (leftCapture.input left).SameVariantEntries variant (rightCapture.input right) := by
  have leftHash := (calculate_eq_ok.mp leftCaptured.calculated).2 variant
  have rightHash := (calculate_eq_ok.mp rightCaptured.calculated).2 variant
  rw [← equal] at rightHash
  have same := Textual.same_of_sha256Canonical_eq
    (FingerprintInput.textual_variantProjection _ variant)
    (FingerprintInput.textual_variantProjection _ variant)
    leftHash rightHash collisionFree
    (fun _ written => leftHashed ⟨_, .variant variant, written⟩)
    (fun _ written => rightHashed ⟨_, .variant variant, written⟩)
  exact FingerprintInput.sameEntries_of_same_variantProjection same

/-- The fingerprints of a variant are equal just when its entries are the
same. -/
theorem variantFingerprint_eq_iff
    (base : (leftCapture.input left).SameBase (rightCapture.input right)) (variant : Variant) :
    leftCapture.fingerprints.ofVariant variant =
        rightCapture.fingerprints.ofVariant variant ↔
      (leftCapture.input left).SameVariantEntries variant (rightCapture.input right) := by
  constructor
  · intro equal
    exact (sameVariantEntries_of_ofVariant_eq leftCaptured rightCaptured
      collisionFree leftHashed rightHashed equal).2
  · intro entries
    have leftHash := (calculate_eq_ok.mp leftCaptured.calculated).2 variant
    have rightHash := (calculate_eq_ok.mp rightCaptured.calculated).2 variant
    rw [FingerprintInput.variantProjection_eq base entries, rightHash]
      at leftHash
    exact (Except.ok.inj leftHash).symm

/-- An entry that is in scope in one capture is in scope in every capture that
has it. -/
theorem mem_variantFindingEntries
    (entries : (leftCapture.input left).findingEntries ⊆
      (rightCapture.input right).findingEntries) {entry : FindingEntry}
    (member : entry ∈ (leftCapture.input left).variantFindingEntries variant) :
    entry ∈ (rightCapture.input right).variantFindingEntries variant := by
  obtain ⟨finding, selected, rfl⟩ := List.mem_map.mp member
  obtain ⟨present, inScope⟩ := List.mem_filter.mp selected
  obtain ⟨other, otherPresent, equal⟩ := List.mem_map.mp (entries (List.mem_map_of_mem present))
  obtain ⟨_, _, _, _, same⟩ := sameSemantics_of_captured leftCaptured
    rightCaptured collisionFree leftHashed rightHashed present otherPresent
    (congrArg FindingEntry.semanticFingerprint equal).symm
  rw [same.publicationScope] at inScope
  exact List.mem_map.mpr ⟨other, List.mem_filter.mpr ⟨otherPresent, inScope⟩, equal⟩

/-- The same entries of findings put the same entries in scope of every
variant. -/
theorem variantFindingEntries_perm
    (entries : (leftCapture.input left).findingEntries.Perm
      (rightCapture.input right).findingEntries)
    (variant : Variant) : ((leftCapture.input left).variantFindingEntries variant).Perm
      ((rightCapture.input right).variantFindingEntries variant) := by
  rw [List.perm_ext_iff_of_nodup (nodup_variantFindingEntries leftCaptured variant)
    (nodup_variantFindingEntries rightCaptured variant)]
  intro entry
  constructor
  · exact mem_variantFindingEntries leftCaptured rightCaptured collisionFree
      leftHashed rightHashed entries.subset
  · exact mem_variantFindingEntries rightCaptured leftCaptured collisionFree
      rightHashed leftHashed entries.symm.subset

end Pair

/-! ## Variant scopes of dependencies -/

/-- Dependencies that two captures share have the same variant scope. -/
def SameScopes (dependencies others : List GovernedDependency) : Prop :=
  ∀ dependency ∈ dependencies, ∀ other ∈ others, dependency.key = other.key →
      dependency.variantScope = other.variantScope

theorem SameScopes.symm {dependencies others : List GovernedDependency}
    (same : SameScopes dependencies others) :
    SameScopes others dependencies :=
  fun other otherMember dependency member equal =>
    (same dependency member other otherMember equal.symm).symm

section Scopes

variable {left right : GovernedPropertyState}
  {leftCapture rightCapture : Capture}

theorem mem_variantDependencyEntries
    (entries : (leftCapture.input left).dependencyEntries ⊆
      (rightCapture.input right).dependencyEntries)
    (scopes : SameScopes leftCapture.dependencies rightCapture.dependencies)
    {entry : DependencyEntry}
    (member : entry ∈ (leftCapture.input left).variantDependencyEntries variant) :
    entry ∈ (rightCapture.input right).variantDependencyEntries variant := by
  obtain ⟨dependency, selected, rfl⟩ := List.mem_map.mp member
  obtain ⟨present, inScope⟩ := List.mem_filter.mp selected
  obtain ⟨other, otherPresent, equal⟩ := List.mem_map.mp (entries (List.mem_map_of_mem present))
  have sameKey : dependency.key = other.key := (congrArg DependencyEntry.key equal).symm
  rw [scopes dependency present other otherPresent sameKey] at inScope
  exact List.mem_map.mpr ⟨other, List.mem_filter.mpr ⟨otherPresent, inScope⟩, equal⟩

/-- A dependency in scope on one side is in scope on the other, when the
variant's entries are the same. -/
theorem mem_variantScope (rightCaptured : Captured right rightCapture)
    (entries : (leftCapture.input left).variantDependencyEntries variant ⊆
      (rightCapture.input right).variantDependencyEntries variant)
    {dependency other : GovernedDependency} (present : dependency ∈ leftCapture.dependencies)
    (otherPresent : other ∈ rightCapture.dependencies) (sameKey : dependency.key = other.key)
    (inScope : variant ∈ dependency.variantScope) :
    variant ∈ other.variantScope := by
  have selected : dependencyEntry dependency ∈
      (leftCapture.input left).variantDependencyEntries variant :=
    List.mem_map_of_mem (List.mem_filter.mpr ⟨present, by simpa⟩)
  obtain ⟨found, foundSelected, equal⟩ := List.mem_map.mp (entries selected)
  obtain ⟨foundPresent, foundInScope⟩ := List.mem_filter.mp foundSelected
  have foundKey : found.key = other.key := (congrArg DependencyEntry.key equal).trans sameKey
  rw [List.inj_on_of_nodup_map rightCaptured.wellFormed.1 foundPresent
    otherPresent foundKey] at foundInScope
  exact of_decide_eq_true foundInScope

/-- With the same entries overall, the entries of all variants are the same
just when the scopes are. -/
theorem variantDependencyEntries_perm_iff (leftCaptured : Captured left leftCapture)
    (rightCaptured : Captured right rightCapture)
    (entries : (leftCapture.input left).dependencyEntries.Perm
      (rightCapture.input right).dependencyEntries) :
    (∀ variant, ((leftCapture.input left).variantDependencyEntries variant).Perm
        ((rightCapture.input right).variantDependencyEntries variant)) ↔
      SameScopes leftCapture.dependencies rightCapture.dependencies := by
  constructor
  · intro permuted dependency present other otherPresent sameKey
    rw [← leftCaptured.wellFormed.2 dependency present,
      ← rightCaptured.wellFormed.2 other otherPresent]
    refine sortedScope_eq_of_mem_iff fun variant => ⟨?_, ?_⟩
    · exact mem_variantScope rightCaptured (permuted variant).subset present otherPresent sameKey
    · exact mem_variantScope leftCaptured (permuted variant).symm.subset
        otherPresent present sameKey.symm
  · intro scopes variant
    rw [List.perm_ext_iff_of_nodup (nodup_variantDependencyEntries leftCaptured variant)
      (nodup_variantDependencyEntries rightCaptured variant)]
    intro entry
    constructor
    · exact mem_variantDependencyEntries entries.subset scopes
    · exact mem_variantDependencyEntries entries.symm.subset scopes.symm

end Scopes

/-! ## One dependency, scoped in two ways -/

/-- The identity of a property, which matters to some variants. -/
def identityDependency (scope : List Variant) : GovernedDependency where
  dependencyType := "PROPERTY_IDENTITY"
  dependencyId := "1"
  semanticFingerprint := String.ofList (List.replicate 64 '0')
  recordFingerprint := String.ofList (List.replicate 64 '0')
  dependencyVersion := "1"
  required := true
  variantScope := scope

/-- A property about which only its identity is known. -/
def scopedState (scope : List Variant) : GovernedPropertyState where
  propertyId := 1
  governedStateVersion := "1"
  sourceReadToken := "1"
  intelligenceSchemaVersion := "1"
  governanceSchemaVersion := "1"
  modelVersion := "1"
  propertyIdentityStatus := .resolved
  qaStatus := .pass
  findings := []
  dependencies := [identityDependency scope]

/-- What is fingerprinted for such a property. -/
def scopedInput (scope : List Variant) : FingerprintInput :=
  fingerprintInput (scopedState scope) [] [(identityDependency scope).normalized]

theorem captureState_scopedState (scope : List Variant) :
    ∃ fingerprints,
      captureState (fun _ _ => none) dependencyTypes (scopedState scope) =
        .ok ⟨[], [], [(identityDependency scope).normalized], fingerprints⟩ := by
  obtain ⟨fingerprints, calculated, _⟩ := exists_calculate (scopedInput scope)
  have built : buildDependencies dependencyTypes
      (scopedState scope).dependencies = .ok [(identityDependency scope).normalized] := by
    have known : (identityDependency scope).dependencyType ∈
        dependencyTypes := by
      simp [identityDependency, dependencyTypes]
    have added : addGoverned dependencyTypes [] (identityDependency scope) =
        .ok [(identityDependency scope).normalized] := by
      simp only [addGoverned, require_bind_eq_ok]
      exact ⟨known, rfl⟩
    exact Outcome.map_eq_ok.mpr ⟨_, bind_eq_ok.mpr ⟨_, added, rfl⟩, rfl⟩
  refine ⟨fingerprints, ?_⟩
  exact bind_eq_ok.mpr ⟨[], rfl, bind_eq_ok.mpr ⟨[], rfl, bind_eq_ok.mpr
    ⟨[], rfl, bind_eq_ok.mpr ⟨_, built, bind_eq_ok.mpr ⟨_, calculated, rfl⟩⟩⟩⟩⟩

/-- Without findings, only the projections of the snapshot are hashed. -/
theorem mem_of_hashes {passports : List PassportReference}
    {dependencies : List GovernedDependency}
    {fingerprints : SnapshotFingerprints} {value : Json}
    (hashed : (Capture.mk [] passports dependencies fingerprints).Hashes state value) :
    let input := fingerprintInput state [] dependencies
    value ∈ [input.overall, input.variantProjection .agent,
      input.variantProjection .seller, input.variantProjection .pub] := by
  cases hashed with
  | finding present => cases present
  | overall => exact List.mem_cons_self
  | variant variant => cases variant <;> simp [Capture.input]

/-! ## Coverage -/

/-- Equal overall fingerprints of two captures of a property imply equal
fingerprints of every variant just when captures with the same entries also
have the same variant scopes. -/
theorem overall_determines_variants_iff {leftResolver rightResolver : PassportResolver}
    {leftAllowed rightAllowed : List String}
    {left right : GovernedPropertyState} {leftCapture rightCapture : Capture}
    (leftCaptured :
      captureState leftResolver leftAllowed left = .ok leftCapture)
    (rightCaptured :
      captureState rightResolver rightAllowed right = .ok rightCapture)
    (base : (leftCapture.input left).SameBase (rightCapture.input right))
    (collisionFree : Sha256.CollisionFree
      (leftCapture.texts left ∪ rightCapture.texts right)) :
    (leftCapture.fingerprints.semanticFingerprint =
        rightCapture.fingerprints.semanticFingerprint →
      ∀ variant, leftCapture.fingerprints.ofVariant variant =
        rightCapture.fingerprints.ofVariant variant) ↔
    ((leftCapture.input left).SameEntries (rightCapture.input right) →
      SameScopes leftCapture.dependencies rightCapture.dependencies) := by
  have leftSpec := captureState_eq_ok leftCaptured
  have rightSpec := captureState_eq_ok rightCaptured
  have leftHashed := Set.subset_union_left
    (s := leftCapture.texts left) (t := rightCapture.texts right)
  have rightHashed := Set.subset_union_right
    (s := leftCapture.texts left) (t := rightCapture.texts right)
  rw [semanticFingerprint_eq_iff leftSpec rightSpec collisionFree leftHashed
    rightHashed base]
  refine forall_congr' fun entries => ?_
  rw [← variantDependencyEntries_perm_iff leftSpec rightSpec entries.2]
  refine forall_congr' fun variant => ?_
  rw [variantFingerprint_eq_iff leftSpec rightSpec collisionFree leftHashed
    rightHashed base]
  constructor
  · exact And.right
  · intro dependencies
    exact ⟨variantFindingEntries_perm leftSpec rightSpec collisionFree
      leftHashed rightHashed entries.1 variant, dependencies⟩

/-- The same two variants, listed in different orders. -/
theorem overall_determines_variants_reordered :
    ∃ left right, captureState (fun _ _ => none) dependencyTypes
        (scopedState [.agent, .pub]) = .ok left ∧
      captureState (fun _ _ => none) dependencyTypes
        (scopedState [.pub, .agent]) = .ok right ∧
      (left.fingerprints.semanticFingerprint =
          right.fingerprints.semanticFingerprint →
        ∀ variant, left.fingerprints.ofVariant variant =
          right.fingerprints.ofVariant variant) := by
  obtain ⟨leftPrints, leftCaptured⟩ := captureState_scopedState [.agent, .pub]
  obtain ⟨rightPrints, rightCaptured⟩ :=
    captureState_scopedState [.pub, .agent]
  refine ⟨_, _, leftCaptured, rightCaptured, ?_⟩
  have collisionFree : Sha256.CollisionFree
      {text | ∃ value ∈ [(scopedInput [.agent, .pub]).overall,
        (scopedInput [.agent, .pub]).variantProjection .agent,
        (scopedInput [.agent, .pub]).variantProjection .seller,
        (scopedInput [.agent, .pub]).variantProjection .pub],
        canonicalJson value = some text} :=
    collisionFree_of_spelled (by repeat' constructor) (by decide +kernel)
      fun _ listed => listed
  refine (overall_determines_variants_iff leftCaptured rightCaptured
    ⟨rfl, rfl, rfl⟩ (collisionFree.mono ?_)).mpr ?_
  · rintro text (⟨value, hashed, written⟩ | ⟨value, hashed, written⟩)
    · exact ⟨value, mem_of_hashes hashed, written⟩
    · have reordered : scopedInput [.pub, .agent] =
          scopedInput [.agent, .pub] := rfl
      have listed := mem_of_hashes hashed
      exact ⟨value, reordered ▸ listed, written⟩
  · intro _ dependency present other otherPresent _
    rw [List.mem_singleton.mp present, List.mem_singleton.mp otherPresent]
    rfl

/-- A dependency that moves from one variant to another leaves the overall
projection as it is and changes the fingerprints of both variants. -/
theorem overall_misses_scope :
    ∃ left right, captureState (fun _ _ => none) dependencyTypes
        (scopedState [.agent]) = .ok left ∧
      captureState (fun _ _ => none) dependencyTypes
        (scopedState [.seller]) = .ok right ∧
      (left.input (scopedState [.agent])).overall =
        (right.input (scopedState [.seller])).overall ∧
      left.fingerprints.semanticFingerprint =
        right.fingerprints.semanticFingerprint ∧
      left.fingerprints.agentSemanticFingerprint ≠
        right.fingerprints.agentSemanticFingerprint := by
  obtain ⟨leftPrints, leftCaptured⟩ := captureState_scopedState [.agent]
  obtain ⟨rightPrints, rightCaptured⟩ := captureState_scopedState [.seller]
  have leftSpec := calculate_eq_ok.mp (captureState_eq_ok leftCaptured).calculated
  have rightSpec :=
    calculate_eq_ok.mp (captureState_eq_ok rightCaptured).calculated
  refine ⟨_, _, leftCaptured, rightCaptured, rfl, ?_, ?_⟩
  · exact Except.ok.inj (leftSpec.1.symm.trans rightSpec.1)
  · exact sha256Canonical_ne_of_spelled (leftSpec.2 .agent)
      (rightSpec.2 .agent)
      (show Spelled ((scopedInput [.agent]).variantProjection .agent) _ by
        repeat' constructor)
      (show Spelled ((scopedInput [.seller]).variantProjection .agent) _ by
        repeat' constructor)
      (by decide +kernel)

end SanTanHeights.Snapshot
