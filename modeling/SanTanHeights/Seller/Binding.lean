import SanTanHeights.Seller.Bundle

/-!
# Resolved bundles and evaluated decisions

What a resolved bundle binds, and what the decisions of an applicability set
that was evaluated on it refer to.
-/

namespace SanTanHeights.Seller

open Foundation Foundation.Json Foundation.Sorting Foundation.Outcome Shared
open Foundation.Keyed
open Community (texts)
open Community.History (sortedSet)

/-! ## Dependencies and bundles -/

@[simp] theorem DependencyArtifact.serializable_payload (dependency : DependencyArtifact) :
    Serializable (.obj dependency.payload) := by
  simp [payload]

@[simp] theorem DependencyArtifact.serializable_asdict
    (dependency : DependencyArtifact) : Serializable dependency.asdict := by
  simp [asdict, payload]

@[simp] theorem GovernedInputBundle.serializable_payload
    (bundle : GovernedInputBundle) : Serializable bundle.payload := by
  simp [payload]

variable {fromisoformat : FromIsoformat} {registry : BindingRegistry}
  {dependency : DependencyArtifact} {call : BundleCall}
  {bundle : GovernedInputBundle}

theorem dt_eq_ok {value : String} {time : Datetime} :
    dt fromisoformat value = .ok time ↔ fromisoformat value = some time :=
  orRaise_eq_ok

/-- What `make_dependency` asks of its arguments. -/
structure DependencyArtifact.Acceptable
    (fromisoformat : FromIsoformat) (registry : BindingRegistry)
    (given : DependencyArtifact) : Prop where
  system : given.systemId ∈ registry.requiredSystems
  status : given.status ∈ registry.dependencyStatuses
  identified : ∀ text ∈ [given.artifactId, given.propertyId,
    given.communityId, given.asOf], Text.isBlank text = false
  dated : ∃ time, fromisoformat given.asOf = some time
  fingerprint : Sha256.isHex64 given.artifactFingerprint = true

theorem makeDependency_eq_ok {given : DependencyArtifact} :
    makeDependency fromisoformat registry given = .ok dependency ↔
      given.Acceptable fromisoformat registry ∧
        ∃ fingerprint, hash (.obj given.payload) = .ok fingerprint ∧
          { given with dependencyFingerprint := fingerprint } = dependency := by
  simp only [makeDependency, bind_eq_ok, require_eq_ok, exists_const,
    dt_eq_ok, validateFp_eq_ok, pure_eq_ok]
  constructor
  · rintro ⟨system, status, identified, time, dated, fingerprint, made⟩
    exact ⟨⟨system, status, identified, ⟨time, dated⟩, fingerprint⟩, made⟩
  · rintro ⟨acceptable, made⟩
    obtain ⟨time, dated⟩ := acceptable.dated
    exact ⟨acceptable.system, acceptable.status, acceptable.identified, time,
      dated, acceptable.fingerprint, made⟩

namespace BundleCall

/-- What is asked of one dependency. -/
structure Admits (fromisoformat : FromIsoformat) (call : BundleCall) (boundary : Datetime)
    (dependency : DependencyArtifact) : Prop where
  property : dependency.propertyId = call.propertyId
  community : dependency.communityId = call.communityId
  notFuture : ∃ known, fromisoformat dependency.asOf = some known ∧
    boundary.isBefore known = .ok false
  fingerprint : Sha256.isHex64 dependency.artifactFingerprint = true

theorem admitDependency_eq_ok {boundary : Datetime} {result : Unit} :
    call.admitDependency fromisoformat boundary dependency = .ok result ↔
      call.Admits fromisoformat boundary dependency := by
  simp only [admitDependency, bind_eq_ok, require_eq_ok, exists_const, dt_eq_ok, validateFp_eq_ok]
  constructor
  · rintro ⟨property, community, known, dated, future, compared, rfl, fingerprint⟩
    exact ⟨property, community, ⟨known, dated, compared⟩, fingerprint⟩
  · rintro ⟨property, community, ⟨known, dated, compared⟩, fingerprint⟩
    exact ⟨property, community, known, dated, false, compared, rfl, fingerprint⟩

/-- What `resolve_input_bundle` asks of its arguments. -/
structure Acceptable (fromisoformat : FromIsoformat) (call : BundleCall) : Prop where
  identified : ∀ text ∈ [call.bundleId, call.propertyId, call.communityId,
    call.temporalBoundary, call.policyVersion], Text.isBlank text = false
  admitted : ∃ boundary,
    fromisoformat call.temporalBoundary = some boundary ∧
      ∀ dependency ∈ call.dependencies, call.Admits fromisoformat boundary dependency
  distinct : (call.dependencies.map DependencyArtifact.systemId).Nodup

theorem mem_ordered : dependency ∈ call.ordered ↔ dependency ∈ call.dependencies :=
  mem_sortedBy _ _ _

theorem nodup_ordered_iff : (call.ordered.map DependencyArtifact.systemId).Nodup ↔
      (call.dependencies.map DependencyArtifact.systemId).Nodup :=
  ((sortedBy_perm _ call.dependencies).map _).nodup_iff

end BundleCall

theorem resolveInputBundle_eq_ok :
    resolveInputBundle fromisoformat registry call = .ok bundle ↔
      call.Acceptable fromisoformat ∧
        ∃ fingerprint,
          hash (call.draftBundle registry).payload = .ok fingerprint ∧
          { call.draftBundle registry with
            bundleFingerprint := fingerprint } = bundle := by
  have admitted : ∀ (boundary : Datetime) (results : List Unit),
      call.ordered.mapM (call.admitDependency fromisoformat boundary) =
          .ok results ↔
        (∀ dependency ∈ call.ordered, call.Admits fromisoformat boundary dependency) ∧
          call.ordered.map (fun _ => ()) = results :=
    fun boundary results => mapM_eq_ok_map fun dependency result => by
      rw [BundleCall.admitDependency_eq_ok]
      exact (and_iff_left rfl).symm
  simp only [resolveInputBundle, bind_eq_ok, require_eq_ok, exists_const,
    dt_eq_ok, admitted, pure_eq_ok, BundleCall.nodup_ordered_iff, BundleCall.mem_ordered]
  constructor
  · rintro ⟨identified, boundary, dated, distinct, _, ⟨admits, _⟩, made⟩
    exact ⟨⟨identified, ⟨boundary, dated, admits⟩, distinct⟩, made⟩
  · rintro ⟨acceptable, made⟩
    obtain ⟨boundary, dated, admits⟩ := acceptable.admitted
    exact ⟨acceptable.identified, boundary, dated, acceptable.distinct, _, ⟨admits, rfl⟩, made⟩

theorem exists_resolveInputBundle {fromisoformat : FromIsoformat} (registry : BindingRegistry)
    {call : BundleCall} (acceptable : call.Acceptable fromisoformat) :
    ∃ fingerprint, resolveInputBundle fromisoformat registry call =
      .ok { call.draftBundle registry with
        bundleFingerprint := fingerprint } := by
  obtain ⟨fingerprint, hashed⟩ := exists_hash_iff.mpr
    (call.draftBundle registry).serializable_payload
  exact ⟨fingerprint, resolveInputBundle_eq_ok.mpr ⟨acceptable, fingerprint, hashed, rfl⟩⟩

/-- A bundle with a bound dependency of every required system is ready. -/
theorem BundleCall.ready_of_bound
    (bound : ∀ dependency ∈ call.dependencies, dependency.status = "BOUND")
    (present : ∀ system ∈ registry.requiredSystems,
      system ∈ call.dependencies.map DependencyArtifact.systemId) :
    (call.draftBundle registry).bundleStatus = "READY" := by
  have none : ∀ status, status ≠ "BOUND" → call.systemsOf status = [] := by
    intro status other
    have empty : call.ordered.filter (fun dependency =>
        dependency.status = status) = [] := by
      rw [List.filter_eq_nil_iff]
      intro dependency listed
      rw [bound dependency (mem_ordered.mp listed)]
      simpa using other.symm
    rw [systemsOf, empty, List.map_nil, sortedBy_nil]
  have complete : registry.requiredSystems.filter (fun system =>
      system ∉ call.ordered.map DependencyArtifact.systemId) = [] := by
    rw [List.filter_eq_nil_iff]
    intro system required
    have listed := ((sortedBy_perm DependencyArtifact.systemId
      call.dependencies).map DependencyArtifact.systemId).mem_iff.mpr (present system required)
    rw [decide_eq_true_eq, not_not]
    exact listed
  have conflicting := none "CONFLICTING" (by decide)
  have incompatible := none "INCOMPATIBLE" (by decide)
  have stale := none "STALE" (by decide)
  simp only [draftBundle, conflicting, incompatible, stale, complete]
  rfl

/-! ## Decisions and their sets -/

@[simp] theorem ApplicabilityDecision.serializable_payload (decision : ApplicabilityDecision) :
    Serializable (.obj decision.payload) := by
  simp [payload]

@[simp] theorem ApplicabilityDecision.serializable_asdict
    (decision : ApplicabilityDecision) : Serializable decision.asdict := by
  simp [asdict, payload]

@[simp] theorem ApplicabilitySet.serializable_payload (applicability : ApplicabilitySet) :
    Serializable applicability.payload := by
  simp [payload]

theorem evaluateApplicability_eq_ok {registry : ApplicabilityRegistry} {call : EvaluationCall}
    {decision : ApplicabilityDecision} :
    evaluateApplicability registry call = .ok decision ↔
      (call.bundle.bundleStatus = "READY" ∧
        call.finding.state.code ∈ registry.applicabilityStates ∧
          call.finding.outcome ∈ registry.ruleOutcomes) ∧
        ∃ fingerprint, hash (.obj call.draftDecision.payload) =
            .ok fingerprint ∧
          { call.draftDecision with decisionFingerprint := fingerprint } = decision := by
  simp only [evaluateApplicability, bind_eq_ok, require_eq_ok, exists_const, pure_eq_ok, and_assoc]

/-- A decision refers to dependencies of the bundle it was evaluated on. -/
theorem source_of_evaluateApplicability
    {registry : ApplicabilityRegistry} {call : EvaluationCall}
    {decision : ApplicabilityDecision}
    (evaluated : evaluateApplicability registry call = .ok decision) :
    ∀ fingerprint ∈ decision.sourceDependencyFingerprints,
      fingerprint ∈ call.bundle.dependencies.map DependencyArtifact.dependencyFingerprint := by
  obtain ⟨_, _, _, rfl⟩ := evaluateApplicability_eq_ok.mp evaluated
  intro fingerprint listed
  have source := (mem_sortedBy _ _ _).mp listed
  obtain ⟨system, _, found⟩ := List.mem_filterMap.mp source
  obtain ⟨dependency, latestFound, rfl⟩ := Option.map_eq_some_iff.mp found
  exact List.mem_map_of_mem (mem_of_latest latestFound).1

/-- The set of some decisions on a bundle, with its fingerprint. -/
def setOf (applicabilitySetId : String) (bundle : GovernedInputBundle)
    (decisions : List ApplicabilityDecision) (fingerprint : String) :
    ApplicabilitySet where
  applicabilitySetId := applicabilitySetId
  subjectPropertyId := bundle.propertyId
  communityId := bundle.communityId
  temporalBoundary := bundle.temporalBoundary
  inputBundleFingerprint := bundle.bundleFingerprint
  decisions := sortedBy ApplicabilityDecision.sortKey decisions
  setFingerprint := fingerprint

theorem buildApplicabilitySet_eq_ok
    {applicabilitySetId : String} {decisions : List ApplicabilityDecision}
    {applicability : ApplicabilitySet} :
    buildApplicabilitySet applicabilitySetId bundle decisions =
        .ok applicability ↔
      (bundle.bundleStatus = "READY" ∧ (decisions.map ApplicabilityDecision.decisionId).Nodup ∧
          ∀ decision ∈ decisions, decision.subjectPropertyId = bundle.propertyId) ∧
        ∃ fingerprint,
          hash (setOf applicabilitySetId bundle decisions "").payload = .ok fingerprint ∧
          setOf applicabilitySetId bundle decisions fingerprint = applicability := by
  simp only [buildApplicabilitySet, bind_eq_ok, require_eq_ok, exists_const, pure_eq_ok, and_assoc]
  rfl

/-! ## A ready bundle -/

/-- A fingerprint. -/
def sampleFingerprint : String :=
  "ffffffffffffffffffffffffffffffffffffffffffffffffffffffffffffffff"

/-- The artifact of a system. -/
def sampleDependency (system : String) : DependencyArtifact where
  systemId := system
  artifactId := system ++ "-1"
  propertyId := "P1"
  communityId := "SAN-TAN-HEIGHTS"
  asOf := "2026-09-18T10:00:00-07:00"
  artifactFingerprint := sampleFingerprint
  status := "BOUND"
  limitation := none
  dependencyFingerprint := ""

/-- A bundle of some artifacts. -/
def sampleBundleCall (dependencies : List DependencyArtifact) : BundleCall where
  bundleId := "B1"
  propertyId := "P1"
  communityId := "SAN-TAN-HEIGHTS"
  temporalBoundary := "2026-09-19T10:00:00-07:00"
  dependencies := dependencies
  policyVersion := "B-v1"

theorem exists_sampleDependency {system status : String}
    (required : system ∈ bindingRegistry.requiredSystems)
    (governed : status ∈ bindingRegistry.dependencyStatuses) :
    ∃ fingerprint, makeDependency sampleFromisoformat bindingRegistry
        { sampleDependency system with status := status } =
      .ok { sampleDependency system with
        status := status
        dependencyFingerprint := fingerprint } := by
  have named : ∀ system ∈ bindingRegistry.requiredSystems,
      Text.isBlank (system ++ "-1") = false := by
    decide
  have others : Text.isBlank "P1" = false ∧
      Text.isBlank "SAN-TAN-HEIGHTS" = false ∧
        Text.isBlank "2026-09-18T10:00:00-07:00" = false := by
    decide
  obtain ⟨fingerprint, hashed⟩ := exists_hash_iff.mpr
    ({ sampleDependency system with
      status := status } : DependencyArtifact).serializable_payload
  exact ⟨fingerprint, makeDependency_eq_ok.mpr
    ⟨{ system := required
       status := governed
       identified := by
         simpa [sampleDependency] using ⟨named system required, others⟩
       dated := ⟨.aware 1789750800, rfl⟩
       fingerprint := Sha256.isHex64_ofList rfl rfl },
      fingerprint, hashed, rfl⟩⟩

/-- The artifacts of all required systems, of one status, make a bundle. -/
theorem exists_sampleBundle {status : String}
    (governed : status ∈ bindingRegistry.dependencyStatuses) :
    ∃ dependencies bundle,
      bindingRegistry.requiredSystems.mapM (fun system =>
        makeDependency sampleFromisoformat bindingRegistry
          { sampleDependency system with status := status }) = .ok dependencies ∧
      dependencies.map DependencyArtifact.systemId = bindingRegistry.requiredSystems ∧
      (∀ dependency ∈ dependencies, dependency.status = status) ∧
      resolveInputBundle sampleFromisoformat bindingRegistry
        (sampleBundleCall dependencies) = .ok bundle := by
  obtain ⟨dependencies, made⟩ := exists_mapM_ok fun system required =>
    (exists_sampleDependency required governed).imp' _ fun _ one => one
  have each : ∀ dependency ∈ dependencies, ∃ system fingerprint,
      dependency = { sampleDependency system with
        status := status
        dependencyFingerprint := fingerprint } :=
    forall_mem_of_mapM made fun system _ dependency one => by
      obtain ⟨_, fingerprint, _, rfl⟩ := makeDependency_eq_ok.mp one
      exact ⟨system, fingerprint, rfl⟩
  have systems : bindingRegistry.requiredSystems.map id =
      dependencies.map DependencyArtifact.systemId :=
    map_eq_of_mapM made fun system dependency one => by
      obtain ⟨_, _, _, rfl⟩ := makeDependency_eq_ok.mp one
      rfl
  rw [List.map_id] at systems
  obtain ⟨fingerprint, resolved⟩ := @exists_resolveInputBundle
    sampleFromisoformat bindingRegistry (sampleBundleCall dependencies)
    { identified := (by decide : ∀ text ∈ ["B1", "P1", "SAN-TAN-HEIGHTS",
        "2026-09-19T10:00:00-07:00", "B-v1"], Text.isBlank text = false)
      admitted := ⟨.aware 1789837200, rfl, fun dependency listed => by
        obtain ⟨system, fingerprint, rfl⟩ := each dependency listed
        exact ⟨rfl, rfl, ⟨.aware 1789750800, rfl, rfl⟩, Sha256.isHex64_ofList rfl rfl⟩⟩
      distinct := by
        rw [sampleBundleCall, ← systems]
        decide }
  refine ⟨dependencies, _, made, systems.symm, fun dependency listed => ?_, resolved⟩
  obtain ⟨system, fingerprint, rfl⟩ := each dependency listed
  rfl

/-- The artifacts of all required systems make a ready bundle. -/
theorem exists_readyBundle :
    ∃ dependencies bundle,
      bindingRegistry.requiredSystems.mapM (fun system =>
        makeDependency sampleFromisoformat bindingRegistry
          (sampleDependency system)) = .ok dependencies ∧
      resolveInputBundle sampleFromisoformat bindingRegistry
        (sampleBundleCall dependencies) = .ok bundle ∧
      bundle.bundleStatus = "READY" ∧
      ∀ text ∈ [bundle.propertyId, bundle.communityId,
        bundle.temporalBoundary], Text.isBlank text = false := by
  obtain ⟨dependencies, bundle, made, systems, bound, resolved⟩ :=
    @exists_sampleBundle "BOUND" List.mem_cons_self
  obtain ⟨-, _, -, rfl⟩ := resolveInputBundle_eq_ok.mp resolved
  refine ⟨dependencies, _, made, resolved,
    BundleCall.ready_of_bound bound fun system required => ?_,
    (by decide : ∀ text ∈ ["P1", "SAN-TAN-HEIGHTS",
      "2026-09-19T10:00:00-07:00"], Text.isBlank text = false)⟩
  rw [sampleBundleCall, systems]
  exact required

/-- A rule that asks for nothing, evaluated on a bundle. -/
def sampleEvaluation (bundle : GovernedInputBundle) : EvaluationCall where
  decisionId := "D0"
  bundle := bundle
  rule := ⟨"R0", "buyer_depth", [], [], ""⟩
  propertyFacts := []
  limitation := none

/-- A ready bundle has an applicability set of one dimension. -/
theorem exists_sampleSet (ready : bundle.bundleStatus = "READY") :
    ∃ decision applicability,
      evaluateApplicability applicabilityRegistry (sampleEvaluation bundle) = .ok decision ∧
      buildApplicabilitySet "AS1" bundle [decision] = .ok applicability ∧
      decision.dimension = "buyer_depth" ∧
      decision.applicabilityState = "APPLICABLE" ∧
      ∃ fingerprint, applicability = setOf "AS1" bundle [decision] fingerprint := by
  obtain ⟨fingerprint, hashed⟩ := exists_hash_iff.mpr
    (sampleEvaluation bundle).draftDecision.serializable_payload
  obtain ⟨setFingerprint, setHashed⟩ := exists_hash_iff.mpr
    (setOf "AS1" bundle [{ (sampleEvaluation bundle).draftDecision with
      decisionFingerprint := fingerprint }] "").serializable_payload
  refine ⟨_, _, evaluateApplicability_eq_ok.mpr
      ⟨⟨ready, List.mem_cons_self, List.mem_cons_self⟩, fingerprint, hashed, rfl⟩,
    buildApplicabilitySet_eq_ok.mpr ⟨⟨ready, List.nodup_singleton _, ?_⟩,
      setFingerprint, setHashed, rfl⟩, rfl, rfl, setFingerprint, rfl⟩
  intro decision listed
  rw [List.mem_singleton.mp listed]
  rfl

end SanTanHeights.Seller
