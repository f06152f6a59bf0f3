import SanTanHeights.Community.Sealing
import SanTanHeights.Seller.Materialization

/-!
# Where current intelligence comes from

The decisions of an applicability set refer to the bundle they were evaluated
on, and the fingerprint of that bundle pins it.  The evidence of the items is
that of the candidates, which the build takes as they are.
-/

namespace SanTanHeights.Seller

open Foundation Foundation.Json Foundation.Sorting Shared
open Foundation.Keyed
open Community (texts)
open Community.History (distinctKeys_arr distinctKeys_obj sortKeys_texts texts_injective)

/-! ## Bundles of one fingerprint -/

theorem DependencyArtifact.eq_of_sortKeys_eq {left right : DependencyArtifact}
    (same : sortKeys left.asdict = sortKeys right.asdict) :
    left = right := by
  have parts := forall₂_of_sortKeys_obj_eq same rfl (by simp [payload])
  simp only [payload, List.cons_append, List.nil_append, List.forall₂_cons,
    sortKeys_str, sortKeys_ofOptional, Json.str.injEq,
    Json.ofOptional_injective.eq_iff, List.forall₂_nil_right_iff, and_true] at parts
  obtain ⟨systemId, artifactId, property, community, asOf, artifact, status,
    limitation, fingerprint⟩ := parts
  ext1 <;> assumption

namespace GovernedInputBundle

theorem distinctKeys_payload (bundle : GovernedInputBundle) : bundle.payload.DistinctKeys := by
  have dependencies : ∀ dependency ∈ bundle.dependencies,
      dependency.asdict.DistinctKeys := by
    intro dependency _
    simp [DependencyArtifact.asdict, DependencyArtifact.payload, distinctKeys_obj]
  simpa [payload, distinctKeys_obj, distinctKeys_arr] using dependencies

/-- Bundles of one fingerprint and one payload are one bundle. -/
theorem eq_of_sortKeys_eq {left right : GovernedInputBundle}
    (fingerprint : left.bundleFingerprint = right.bundleFingerprint)
    (same : sortKeys left.payload = sortKeys right.payload) :
    left = right := by
  have parts := forall₂_of_sortKeys_obj_eq same rfl (by simp)
  simp only [List.forall₂_cons, sortKeys_str, sortKeys_texts,
    Json.str.injEq, texts_injective.eq_iff, List.forall₂_nil_right_iff, and_true] at parts
  obtain ⟨bundleId, property, community, boundary, listed, missing, stale,
    conflicting, incompatible, status, policy⟩ := parts
  have dependencies : left.dependencies = right.dependencies := by
    have items := forall₂_of_sortKeys_arr_eq listed
    rw [List.forall₂_map_left_iff, List.forall₂_map_right_iff] at items
    rw [← List.forall₂_eq_eq_eq]
    exact items.imp fun _ _ => DependencyArtifact.eq_of_sortKeys_eq
  ext1 <;> assumption

/-- A bundle that was resolved. -/
def Resolved (fromisoformat : FromIsoformat) (bundle : GovernedInputBundle) : Prop :=
  ∃ registry call, resolveInputBundle fromisoformat registry call = .ok bundle

theorem Resolved.hashed {fromisoformat : FromIsoformat} {bundle : GovernedInputBundle}
    (resolved : bundle.Resolved fromisoformat) :
    hash bundle.payload = .ok bundle.bundleFingerprint := by
  obtain ⟨registry, call, resolves⟩ := resolved
  obtain ⟨_, fingerprint, hashed, rfl⟩ := resolveInputBundle_eq_ok.mp resolves
  exact hashed

/-- Without collisions, the fingerprint pins a resolved bundle. -/
theorem Resolved.eq_of_fingerprint_eq
    {fromisoformat : FromIsoformat} {bundle other : GovernedInputBundle}
    (resolved : bundle.Resolved fromisoformat) (otherResolved : other.Resolved fromisoformat)
    (collisionFree : Sha256.CollisionFree (textsOf {bundle.payload, other.payload}))
    (fingerprint : bundle.bundleFingerprint = other.bundleFingerprint) :
    bundle = other := by
  have hashed := resolved.hashed
  rw [fingerprint] at hashed
  exact eq_of_sortKeys_eq fingerprint (sortKeys_eq_of_sha256Dumps_eq
    collisionFree (.inl rfl) (.inr rfl) bundle.distinctKeys_payload
    other.distinctKeys_payload hashed otherResolved.hashed)

/-- What a resolved bundle binds is of its property and not of the future. -/
structure Binds (fromisoformat : FromIsoformat) (bundle : GovernedInputBundle)
    (dependency : DependencyArtifact) : Prop where
  property : dependency.propertyId = bundle.propertyId
  community : dependency.communityId = bundle.communityId
  notFuture : ∃ boundary known,
    fromisoformat bundle.temporalBoundary = some boundary ∧
      fromisoformat dependency.asOf = some known ∧ boundary.isBefore known = .ok false

theorem Resolved.binds {fromisoformat : FromIsoformat} {bundle : GovernedInputBundle}
    (resolved : bundle.Resolved fromisoformat) :
    ∀ dependency ∈ bundle.dependencies, bundle.Binds fromisoformat dependency := by
  obtain ⟨registry, call, resolves⟩ := resolved
  obtain ⟨acceptable, fingerprint, _, rfl⟩ := resolveInputBundle_eq_ok.mp resolves
  obtain ⟨boundary, dated, admits⟩ := acceptable.admitted
  intro dependency listed
  have admitted := admits dependency (BundleCall.mem_ordered.mp listed)
  obtain ⟨known, knownDated, compared⟩ := admitted.notFuture
  exact
    { property := admitted.property
      community := admitted.community
      notFuture := ⟨boundary, known, dated, knownDated, compared⟩ }

end GovernedInputBundle

/-! ## Sets of evaluated decisions -/

namespace ApplicabilitySet

/-- A set that was built on a bundle, of decisions evaluated on it. -/
def EvaluatedOn (applicability : ApplicabilitySet) (bundle : GovernedInputBundle) : Prop :=
  ∃ applicabilitySetId decisions,
    buildApplicabilitySet applicabilitySetId bundle decisions =
        .ok applicability ∧
      ∀ decision ∈ decisions, ∃ registry call, call.bundle = bundle ∧
          evaluateApplicability registry call = .ok decision

variable {applicability : ApplicabilitySet} {bundle : GovernedInputBundle}

theorem EvaluatedOn.fingerprint (evaluated : applicability.EvaluatedOn bundle) :
    applicability.inputBundleFingerprint = bundle.bundleFingerprint := by
  obtain ⟨_, _, built, _⟩ := evaluated
  obtain ⟨_, _, _, rfl⟩ := buildApplicabilitySet_eq_ok.mp built
  rfl

theorem EvaluatedOn.source (evaluated : applicability.EvaluatedOn bundle) :
    ∀ decision ∈ applicability.decisions,
      ∀ fingerprint ∈ decision.sourceDependencyFingerprints,
        fingerprint ∈ bundle.dependencies.map DependencyArtifact.dependencyFingerprint := by
  obtain ⟨_, decisions, built, each⟩ := evaluated
  obtain ⟨_, _, _, rfl⟩ := buildApplicabilitySet_eq_ok.mp built
  intro decision listed
  obtain ⟨registry, call, rfl, evaluates⟩ := each decision ((mem_sortedBy _ _ _).mp listed)
  exact source_of_evaluateApplicability evaluates

end ApplicabilitySet

/-! ## The law -/

namespace CurrentStateCall

/-- The decisions refer to dependencies of the bundle. -/
def DecisionsBound (call : CurrentStateCall) : Prop :=
  ∀ decision ∈ call.applicabilitySet.decisions,
    ∀ fingerprint ∈ decision.sourceDependencyFingerprints,
      fingerprint ∈ call.bundle.dependencies.map DependencyArtifact.dependencyFingerprint

/-- The evidence of a state is bound in the bundle. -/
def EvidenceBound (call : CurrentStateCall) (state : UnifiedSellerIntelligenceState) : Prop :=
  ∀ item ∈ state.items, ∀ ref ∈ item.evidenceRefs,
    ref.sourceFingerprint ∈ call.bundle.dependencies.map DependencyArtifact.artifactFingerprint

/-- The evidence of a state is not later than the bundle. -/
def EvidencePast (fromisoformat : FromIsoformat) (call : CurrentStateCall)
    (state : UnifiedSellerIntelligenceState) : Prop :=
  ∀ item ∈ state.items, ∀ ref ∈ item.evidenceRefs,
    ∀ text, ref.sourceTime = some text →
      ∀ boundary time,
        fromisoformat call.bundle.temporalBoundary = some boundary →
          fromisoformat text = some time → boundary.isBefore time ≠ .ok true

/-- What the checks of the chain leave of that. -/
structure Provenance (fromisoformat : FromIsoformat) (call : CurrentStateCall)
    (state : UnifiedSellerIntelligenceState) : Prop where
  decisions : call.DecisionsBound
  dependencies : ∀ dependency ∈ call.bundle.dependencies, call.bundle.Binds fromisoformat dependency
  evidence : ∀ item ∈ state.items, ∃ candidate ∈ call.candidates,
    call.applicabilitySet.Applies item.dimension ∧
      candidate.dimension = item.dimension ∧
        ∃ fingerprint, item.evidenceRefs = [candidate.ref fingerprint]

end CurrentStateCall

/-- Of a set evaluated on some resolved bundle, without collisions, the
decisions refer to the bundle of the build, and every item repeats the one
reference of its candidate. -/
theorem provenance_of_build {fromisoformat : FromIsoformat} {call : CurrentStateCall}
    {result : CurrentStateBuildResult} {other : GovernedInputBundle}
    (resolved : call.bundle.Resolved fromisoformat)
    (otherResolved : other.Resolved fromisoformat)
    (collisionFree : Sha256.CollisionFree
      (textsOf {other.payload, call.bundle.payload}))
    (evaluated : call.applicabilitySet.EvaluatedOn other)
    (built : buildCurrentUnifiedState call = .ok result) :
    call.Provenance fromisoformat result.state := by
  have bound := (buildCurrentUnifiedState_eq_ok.mp built).1
  obtain rfl := otherResolved.eq_of_fingerprint_eq resolved collisionFree
    (evaluated.fingerprint.symm.trans bound.fingerprint)
  exact
    { decisions := evaluated.source
      dependencies := resolved.binds
      evidence := by
        intro item listed
        obtain ⟨candidate, promoted, made⟩ :=
          exists_candidate_of_build built listed
        obtain ⟨_, fingerprint, _, rfl⟩ := item_of_materialize made
        obtain ⟨present, applies⟩ :=
          (CurrentStateCall.mem_promoted_iff bound).mp promoted
        exact ⟨candidate, present, applies, rfl, fingerprint, rfl⟩ }

/-- The sample bundle, decision and candidate. -/
theorem provenance_sample :
    ∃ bundle decision applicability result,
      bundle.Resolved sampleFromisoformat ∧
      evaluateApplicability applicabilityRegistry (sampleEvaluation bundle) =
        .ok decision ∧
      buildApplicabilitySet "AS1" bundle [decision] = .ok applicability ∧
      buildCurrentUnifiedState (sampleCurrentCall bundle applicability
        (sampleCandidate "CURRENT" "NO_CONFLICT")) = .ok result ∧
      (sampleCurrentCall bundle applicability (sampleCandidate "CURRENT"
        "NO_CONFLICT")).Provenance sampleFromisoformat result.state := by
  obtain ⟨dependencies, bundle, _, resolves, ready, identified⟩ :=
    exists_readyBundle
  obtain ⟨decision, applicability, evaluates, setBuilt, about, applicable,
    fingerprint, rfl⟩ := exists_sampleSet ready
  obtain ⟨result, built⟩ := @exists_sampleBuild bundle decision fingerprint
    _ ready identified about.symm applicable sampleCandidate_acceptable
  have resolved : bundle.Resolved sampleFromisoformat := ⟨_, _, resolves⟩
  refine ⟨bundle, decision, _, result, resolved, evaluates, setBuilt, built,
    provenance_of_build resolved resolved (collisionFree_textsOf ?_) ?_ built⟩
  · rintro _ (rfl | rfl) _ (rfl | rfl) <;> rfl
  · refine ⟨_, _, setBuilt, ?_⟩
    intro other listed
    obtain rfl := List.mem_singleton.mp listed
    exact ⟨_, _, rfl, evaluates⟩

/-! ## Evidence from elsewhere -/

/-- The arguments of a bundle whose dependencies have one fingerprint. -/
def earlyCall (fingerprint : String) : BundleCall :=
  { sampleBundleCall (bindingRegistry.requiredSystems.map fun system =>
      { sampleDependency system with
        dependencyFingerprint := fingerprint }) with
    temporalBoundary := "2026-09-18T10:00:00-07:00" }

/-- Another fingerprint. -/
def otherFingerprint : String :=
  "0000000000000000000000000000000000000000000000000000000000000000"

theorem earlyCall_acceptable (fingerprint : String) :
    (earlyCall fingerprint).Acceptable sampleFromisoformat where
  identified := (by decide : ∀ text ∈ ["B1", "P1", "SAN-TAN-HEIGHTS",
    "2026-09-18T10:00:00-07:00", "B-v1"], Text.isBlank text = false)
  admitted := by
    refine ⟨.aware 1789750800, rfl, ?_⟩
    intro dependency listed
    obtain ⟨system, _, rfl⟩ := List.mem_map.mp listed
    exact ⟨rfl, rfl, ⟨.aware 1789750800, rfl, rfl⟩, Sha256.isHex64_ofList rfl rfl⟩
  distinct := by
    change ((bindingRegistry.requiredSystems.map _).map DependencyArtifact.systemId).Nodup
    rw [List.map_map]
    exact (by decide : (bindingRegistry.requiredSystems.map id).Nodup)

theorem fingerprints_of_earlyCall {fingerprint : String} {dependency : DependencyArtifact}
    (listed : dependency ∈ (earlyCall fingerprint).ordered) :
    dependency.artifactFingerprint = sampleFingerprint ∧
      dependency.dependencyFingerprint = fingerprint := by
  obtain ⟨system, _, rfl⟩ := List.mem_map.mp (BundleCall.mem_ordered.mp listed)
  exact ⟨rfl, rfl⟩

/-- Such a bundle is ready. -/
theorem exists_earlyBundle (fingerprint : String) :
    ∃ bundle, resolveInputBundle sampleFromisoformat bindingRegistry
        (earlyCall fingerprint) = .ok bundle ∧
      bundle.bundleStatus = "READY" ∧
      bundle.propertyId = "P1" ∧
      bundle.communityId = "SAN-TAN-HEIGHTS" ∧
      bundle.temporalBoundary = "2026-09-18T10:00:00-07:00" ∧
      bundle.dependencies = (earlyCall fingerprint).ordered := by
  have ready : ((earlyCall fingerprint).draftBundle
      bindingRegistry).bundleStatus = "READY" := by
    apply BundleCall.ready_of_bound
    · intro dependency listed
      obtain ⟨system, _, rfl⟩ := List.mem_map.mp listed
      rfl
    · intro system required
      change system ∈ (bindingRegistry.requiredSystems.map _).map DependencyArtifact.systemId
      rw [List.map_map]
      exact List.mem_map.mpr ⟨system, required, rfl⟩
  obtain ⟨bundleFingerprint, resolved⟩ := exists_resolveInputBundle
    bindingRegistry (earlyCall_acceptable fingerprint)
  refine ⟨_, resolved, ?_, rfl, rfl, rfl, rfl⟩
  dsimp only
  exact ready

/-- A rule that asks for the temporal state, evaluated on a bundle. -/
def stateEvaluation (bundle : GovernedInputBundle) : EvaluationCall :=
  { sampleEvaluation bundle with
    rule := ⟨"R0", "buyer_depth", ["M13_TEMPORAL_STATE"], [], ""⟩ }

/-- The rule applies to such a bundle and refers to its temporal state. -/
theorem exists_stateDecision
    {bundle : GovernedInputBundle} (ready : bundle.bundleStatus = "READY")
    (dependencies : bundle.dependencies = (earlyCall otherFingerprint).ordered) :
    ∃ decision, evaluateApplicability applicabilityRegistry
        (stateEvaluation bundle) = .ok decision ∧
      decision.subjectPropertyId = bundle.propertyId ∧
      decision.dimension = "buyer_depth" ∧
      decision.applicabilityState = "APPLICABLE" ∧
      decision.sourceDependencyFingerprints = [otherFingerprint] := by
  have found : (stateEvaluation bundle).dependencyOf "M13_TEMPORAL_STATE" =
      some { sampleDependency "M13_TEMPORAL_STATE" with
        dependencyFingerprint := otherFingerprint } := by
    rw [EvaluationCall.dependencyOf]
    change latest _ bundle.dependencies _ = _
    rw [dependencies]
    decide +kernel
  have finding : (stateEvaluation bundle).finding = ⟨.applicable, "MATCH",
      "Property satisfies the governed applicability rule."⟩ := by
    have blocked : (stateEvaluation bundle).blockedSystems = [] := by
      simp [EvaluationCall.blockedSystems, stateEvaluation] at found ⊢
      simp [found, sampleDependency]
    have missing : (stateEvaluation bundle).missing = [] := by
      simp [EvaluationCall.missing, stateEvaluation] at found ⊢
      simp [found]
    rw [EvaluationCall.finding, blocked, missing]
    rfl
  obtain ⟨fingerprint, hashed⟩ := exists_hash_iff.mpr
    (stateEvaluation bundle).draftDecision.serializable_payload
  refine ⟨_, evaluateApplicability_eq_ok.mpr
    ⟨⟨ready, ?_, ?_⟩, fingerprint, hashed, rfl⟩, rfl, rfl, ?_, ?_⟩
  · rw [finding]
    exact List.mem_cons_self
  · rw [finding]
    exact List.mem_cons_self
  · change (stateEvaluation bundle).finding.state.code = _
    rw [finding]
    rfl
  · change sortedBy id (["M13_TEMPORAL_STATE"].filterMap _) = _
    rw [List.filterMap_cons_some (by rw [found]; rfl), List.filterMap_nil]
    rfl

/-- A candidate of a later day, from an artifact that is not bound. -/
def laterCandidate : IntelligenceCandidate :=
  { sampleCandidate "CURRENT" "NO_CONFLICT" with
    sourceFingerprint := otherFingerprint
    sourceTime := some "2026-09-19T10:00:00-07:00" }

theorem laterCandidate_acceptable : laterCandidate.Acceptable intelligenceRegistry :=
  { sampleCandidate_acceptable with
    fingerprint :=
      Sha256.isHex64_ofList rfl rfl }

/-- A decision evaluated on another bundle and evidence from elsewhere and
from the future make a current state. -/
theorem provenance_open :
    ∃ other bundle decision applicability result,
      resolveInputBundle sampleFromisoformat bindingRegistry
        (earlyCall otherFingerprint) = .ok other ∧
      resolveInputBundle sampleFromisoformat bindingRegistry
        (earlyCall sampleFingerprint) = .ok bundle ∧
      evaluateApplicability applicabilityRegistry (stateEvaluation other) =
        .ok decision ∧
      buildApplicabilitySet "AS1" bundle [decision] = .ok applicability ∧
      buildCurrentUnifiedState (sampleCurrentCall bundle applicability
        laterCandidate) = .ok result ∧
      ¬ (sampleCurrentCall bundle applicability laterCandidate).DecisionsBound ∧
      ¬ (sampleCurrentCall bundle applicability
        laterCandidate).EvidenceBound result.state ∧
      ¬ (sampleCurrentCall bundle applicability
        laterCandidate).EvidencePast sampleFromisoformat result.state := by
  obtain ⟨other, otherResolved, otherReady, otherProperty, _, _,
    otherDependencies⟩ := exists_earlyBundle otherFingerprint
  obtain ⟨bundle, resolved, ready, property, community, boundary,
    dependencies⟩ := exists_earlyBundle sampleFingerprint
  obtain ⟨decision, evaluated, about, dimension, applicable, source⟩ :=
    exists_stateDecision otherReady otherDependencies
  obtain ⟨fingerprint, hashed⟩ := exists_hash_iff.mpr
    (setOf "AS1" bundle [decision] "").serializable_payload
  have setBuilt : buildApplicabilitySet "AS1" bundle [decision] =
      .ok (setOf "AS1" bundle [decision] fingerprint) := by
    refine buildApplicabilitySet_eq_ok.mpr
      ⟨⟨ready, List.nodup_singleton _, ?_⟩, fingerprint, hashed, rfl⟩
    rw [List.forall_mem_singleton, about, otherProperty, property]
  obtain ⟨result, built⟩ := @exists_sampleBuild bundle decision fingerprint
    laterCandidate ready (by
      rw [property, community, boundary]
      decide) dimension.symm applicable laterCandidate_acceptable
  have accepted := (buildCurrentUnifiedState_eq_ok.mp built).1
  have applies : (setOf "AS1" bundle [decision] fingerprint).Applies
      "buyer_depth" :=
    ⟨decision, List.mem_singleton_self decision, dimension, applicable⟩
  obtain ⟨item, listed, made⟩ := exists_item_of_build built
    ((CurrentStateCall.mem_promoted_iff accepted).mpr
      ⟨List.mem_singleton_self laterCandidate, applies⟩)
  obtain ⟨_, refFingerprint, itemFingerprint, rfl⟩ :=
    item_of_materialize made
  have evidence : laterCandidate.ref refFingerprint ∈
      (laterCandidate.item refFingerprint itemFingerprint).evidenceRefs :=
    List.mem_singleton_self _
  have bound := fun dependency present =>
    @fingerprints_of_earlyCall sampleFingerprint dependency
      (dependencies ▸ present)
  refine ⟨other, bundle, decision, _, result, otherResolved, resolved,
    evaluated, setBuilt, built, ?_, ?_, ?_⟩
  · intro within
    have listed := within decision (List.mem_singleton_self decision)
      otherFingerprint (by rw [source]; exact List.mem_singleton_self _)
    obtain ⟨dependency, present, equal⟩ := List.mem_map.mp listed
    rw [(bound dependency present).2] at equal
    exact absurd equal (by decide : sampleFingerprint ≠ otherFingerprint)
  · intro within
    obtain ⟨dependency, present, equal⟩ :=
      List.mem_map.mp (within _ listed _ evidence)
    rw [(bound dependency present).1] at equal
    exact absurd equal (by decide : sampleFingerprint ≠ otherFingerprint)
  · intro past
    refine past _ listed _ evidence _ rfl (.aware 1789750800)
      (.aware 1789837200) ?_ rfl rfl
    change sampleFromisoformat bundle.temporalBoundary = _
    rw [boundary]
    rfl

end SanTanHeights.Seller
