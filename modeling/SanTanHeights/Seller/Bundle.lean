import SanTanHeights.Seller.UnifiedState

/-!
# Bundles of evidence and what they make applicable

A bundle binds one artifact of every upstream system to a property and a
time.  Rules are evaluated on it, and their decisions are put together in an
applicability set that carries the fingerprint of the bundle.
-/

namespace SanTanHeights.Seller

open Foundation Foundation.Json Foundation.Sorting Foundation.Outcome
open Foundation.Keyed
open Community (texts)
open Community.History (sortedSet)

/-! ## Dependencies -/

/-- What is read of a cross-system-binding registry. -/
structure BindingRegistry where
  requiredSystems : List String
  dependencyStatuses : List String

/-- `m13-007b-cross-system-binding-v1.0.yaml`. -/
def bindingRegistry : BindingRegistry where
  requiredSystems :=
    ["M11_SELLER_INTELLIGENCE", "M13_TEMPORAL_STATE", "M13_TEMPORAL_DELTA",
      "M13_TEMPORAL_HISTORY", "M13_PROMOTED_PATTERNS", "M13_SCENARIO_INTELLIGENCE"]
  dependencyStatuses :=
    ["BOUND", "MISSING", "STALE", "CONFLICTING", "INCOMPATIBLE", "NOT_APPLICABLE"]

@[ext] structure DependencyArtifact where
  systemId : String
  artifactId : String
  propertyId : String
  communityId : String
  asOf : String
  artifactFingerprint : String
  status : String
  limitation : Option String
  dependencyFingerprint : String
  deriving DecidableEq, Repr

namespace DependencyArtifact

/-- What the fingerprint of a dependency covers. -/
def payload (dependency : DependencyArtifact) : List (String × Json) :=
  [("system_id", .str dependency.systemId), ("artifact_id", .str dependency.artifactId),
    ("property_id", .str dependency.propertyId),
    ("community_id", .str dependency.communityId), ("as_of", .str dependency.asOf),
    ("artifact_fingerprint", .str dependency.artifactFingerprint),
    ("status", .str dependency.status), ("limitation", .ofOptional dependency.limitation)]

/-- `asdict(dependency)`. -/
def asdict (dependency : DependencyArtifact) : Json :=
  .obj (dependency.payload ++ [("dependency_fingerprint", .str dependency.dependencyFingerprint)])

end DependencyArtifact

/-- `make_dependency`; the fingerprint of the argument is not read. -/
def makeDependency (fromisoformat : FromIsoformat) (registry : BindingRegistry)
    (given : DependencyArtifact) : Except String DependencyArtifact := do
  require (given.systemId ∈ registry.requiredSystems) "unsupported system id"
  require (given.status ∈ registry.dependencyStatuses)
    "unsupported dependency status"
  require (∀ text ∈ [given.artifactId, given.propertyId, given.communityId,
      given.asOf], Text.isBlank text = false)
    "dependency identity fields required"
  let _ ← dt fromisoformat given.asOf
  validateFp given.artifactFingerprint "artifact fingerprint"
  let fingerprint ← hash (.obj given.payload)
  return { given with dependencyFingerprint := fingerprint }

/-! ## Bundles -/

@[ext] structure GovernedInputBundle where
  bundleId : String
  propertyId : String
  communityId : String
  temporalBoundary : String
  dependencies : List DependencyArtifact
  missingSystems : List String
  staleSystems : List String
  conflictingSystems : List String
  incompatibleSystems : List String
  bundleStatus : String
  policyVersion : String
  bundleFingerprint : String
  deriving DecidableEq, Repr

namespace GovernedInputBundle

/-- What the fingerprint of a bundle covers. -/
def payload (bundle : GovernedInputBundle) : Json :=
  .obj [("bundle_id", .str bundle.bundleId), ("property_id", .str bundle.propertyId),
      ("community_id", .str bundle.communityId),
      ("temporal_boundary", .str bundle.temporalBoundary),
      ("dependencies", .arr (bundle.dependencies.map DependencyArtifact.asdict)),
      ("missing_systems", texts bundle.missingSystems),
      ("stale_systems", texts bundle.staleSystems),
      ("conflicting_systems", texts bundle.conflictingSystems),
      ("incompatible_systems", texts bundle.incompatibleSystems),
      ("bundle_status", .str bundle.bundleStatus),
      ("policy_version", .str bundle.policyVersion)]

end GovernedInputBundle

/-- The arguments of `resolve_input_bundle`. -/
structure BundleCall where
  bundleId : String
  propertyId : String
  communityId : String
  temporalBoundary : String
  dependencies : List DependencyArtifact
  policyVersion : String

namespace BundleCall

/-- What is asked of one dependency. -/
def admitDependency (fromisoformat : FromIsoformat) (call : BundleCall) (boundary : Datetime)
    (dependency : DependencyArtifact) : Except String Unit := do
  require (dependency.propertyId = call.propertyId) "property identity mismatch"
  require (dependency.communityId = call.communityId)
    "community identity mismatch"
  let known ← dt fromisoformat dependency.asOf
  let future ← boundary.isBefore known
  require (future = false) "dependency temporal boundary is in the future"
  validateFp dependency.artifactFingerprint "artifact fingerprint"

/-- The dependencies in the order of their systems. -/
def ordered (call : BundleCall) : List DependencyArtifact :=
  sortedBy DependencyArtifact.systemId call.dependencies

/-- The systems whose dependency has a status. -/
def systemsOf (call : BundleCall) (status : String) : List String :=
  sortedBy id ((call.ordered.filter fun dependency =>
    dependency.status = status).map DependencyArtifact.systemId)

/-- The bundle that is resolved, up to its fingerprint. -/
def draftBundle (registry : BindingRegistry) (call : BundleCall) : GovernedInputBundle :=
  let missing := sortedSet (registry.requiredSystems.filter fun system =>
    system ∉ call.ordered.map DependencyArtifact.systemId)
  let stale := call.systemsOf "STALE"
  let conflicting := call.systemsOf "CONFLICTING"
  let incompatible := call.systemsOf "INCOMPATIBLE"
  { bundleId := call.bundleId
    propertyId := call.propertyId
    communityId := call.communityId
    temporalBoundary := call.temporalBoundary
    dependencies := call.ordered
    missingSystems := missing
    staleSystems := stale
    conflictingSystems := conflicting
    incompatibleSystems := incompatible
    bundleStatus :=
      if conflicting ≠ [] ∨ incompatible ≠ [] then "BLOCKED"
      else if missing ≠ [] ∨ stale ≠ [] then "INCOMPLETE"
      else "READY"
    policyVersion := call.policyVersion
    bundleFingerprint := "" }

end BundleCall

/-- `resolve_input_bundle`. -/
def resolveInputBundle (fromisoformat : FromIsoformat) (registry : BindingRegistry)
    (call : BundleCall) : Except String GovernedInputBundle := do
  require (∀ text ∈ [call.bundleId, call.propertyId, call.communityId,
      call.temporalBoundary, call.policyVersion], Text.isBlank text = false)
    "bundle identity fields required"
  let boundary ← dt fromisoformat call.temporalBoundary
  require ((call.ordered.map DependencyArtifact.systemId).Nodup)
    "duplicate dependency system"
  let _ ← call.ordered.mapM (call.admitDependency fromisoformat boundary)
  let bundle := call.draftBundle registry
  let fingerprint ← hash bundle.payload
  return { bundle with bundleFingerprint := fingerprint }

/-! ## Applicability -/

inductive ApplicabilityState where
  | applicable
  | notApplicable
  | unknown
  | blocked
  deriving DecidableEq, Repr

def ApplicabilityState.code : ApplicabilityState → String
  | applicable => "APPLICABLE"
  | notApplicable => "NOT_APPLICABLE"
  | unknown => "UNKNOWN"
  | blocked => "BLOCKED"

/-- What is read of a seller-relevance registry. -/
structure ApplicabilityRegistry where
  applicabilityStates : List String
  ruleOutcomes : List String

/-- `m13-007c-applicability-v1.0.yaml`. -/
def applicabilityRegistry : ApplicabilityRegistry where
  applicabilityStates := ["APPLICABLE", "NOT_APPLICABLE", "UNKNOWN", "BLOCKED"]
  ruleOutcomes := ["MATCH", "NO_MATCH", "INSUFFICIENT_EVIDENCE", "BLOCKED_DEPENDENCY"]

structure ApplicabilityRule where
  ruleId : String
  dimension : String
  requiredSystems : List String
  requiredPropertyFacts : List (String × Json)
  ruleFingerprint : String
  deriving Repr

/-- What the fingerprint of a rule covers. -/
def ApplicabilityRule.payload (rule : ApplicabilityRule) : Json :=
  .obj [("rule_id", .str rule.ruleId), ("dimension", .str rule.dimension),
      ("required_systems", texts rule.requiredSystems),
      ("required_property_facts", .arr (rule.requiredPropertyFacts.map
        fun fact => .arr [.str fact.1, fact.2]))]

/-- `make_rule`. -/
def makeRule (ruleId dimension : String) (requiredSystems : List String)
    (requiredPropertyFacts : List (String × Json)) :
    Except String ApplicabilityRule := do
  require (Text.isBlank ruleId = false ∧ Text.isBlank dimension = false)
    "rule id and dimension required"
  let rule : ApplicabilityRule :=
    { ruleId := ruleId
      dimension := dimension
      requiredSystems := sortedSet requiredSystems
      requiredPropertyFacts := sortedBy Prod.fst requiredPropertyFacts
      ruleFingerprint := "" }
  let fingerprint ← hash rule.payload
  return { rule with ruleFingerprint := fingerprint }

structure ApplicabilityDecision where
  decisionId : String
  subjectPropertyId : String
  dimension : String
  applicabilityState : String
  ruleId : String
  ruleOutcome : String
  reason : String
  sourceDependencyFingerprints : List String
  unknowns : List String
  exclusions : List String
  limitation : Option String
  decisionFingerprint : String
  deriving DecidableEq, Repr

namespace ApplicabilityDecision

/-- What the fingerprint of a decision covers. -/
def payload (decision : ApplicabilityDecision) : List (String × Json) :=
  [("decision_id", .str decision.decisionId),
    ("subject_property_id", .str decision.subjectPropertyId),
    ("dimension", .str decision.dimension),
    ("applicability_state", .str decision.applicabilityState),
    ("rule_id", .str decision.ruleId), ("rule_outcome", .str decision.ruleOutcome),
    ("reason", .str decision.reason),
    ("source_dependency_fingerprints", texts decision.sourceDependencyFingerprints),
    ("unknowns", texts decision.unknowns), ("exclusions", texts decision.exclusions),
    ("limitation", .ofOptional decision.limitation)]

/-- `asdict(decision)`. -/
def asdict (decision : ApplicabilityDecision) : Json :=
  .obj (decision.payload ++ [("decision_fingerprint", .str decision.decisionFingerprint)])

/-- The order in which the decisions of a set are listed. -/
def sortKey (decision : ApplicabilityDecision) : String ×ₗ String ×ₗ String :=
  toLex (decision.dimension, toLex (decision.ruleId, decision.decisionId))

end ApplicabilityDecision

/-- What a rule finds on a bundle. -/
structure RuleFinding where
  state : ApplicabilityState
  outcome : String
  reason : String

/-- The arguments of `evaluate_applicability`. -/
structure EvaluationCall where
  decisionId : String
  bundle : GovernedInputBundle
  rule : ApplicabilityRule
  propertyFacts : List (String × Json)
  limitation : Option String

namespace EvaluationCall

/-- The dependency of a system. -/
def dependencyOf (call : EvaluationCall) (system : String) : Option DependencyArtifact :=
  latest DependencyArtifact.systemId call.bundle.dependencies system

/-- The required systems whose dependency is not bound. -/
def blockedSystems (call : EvaluationCall) : List String :=
  call.rule.requiredSystems.filter fun system =>
    (call.dependencyOf system).any fun dependency =>
      dependency.status ≠ "BOUND"

/-- The required systems without a dependency. -/
def missing (call : EvaluationCall) : List String :=
  call.rule.requiredSystems.filter fun system =>
    (call.dependencyOf system).isNone

/-- The required facts that are not known of the property. -/
def unknowns (call : EvaluationCall) : List String :=
  (call.rule.requiredPropertyFacts.filter fun fact =>
    (call.propertyFacts.lookup fact.1).isNone).map Prod.fst

/-- The required facts that are otherwise. -/
def mismatches (call : EvaluationCall) : List String :=
  (call.rule.requiredPropertyFacts.filter fun fact =>
    (call.propertyFacts.lookup fact.1).any fun value =>
      pyEq value fact.2 = false).map Prod.fst

/-- What the rule finds. -/
def finding (call : EvaluationCall) : RuleFinding :=
  if call.blockedSystems ≠ [] then
    ⟨.blocked, "BLOCKED_DEPENDENCY", "Required dependency is not bound."⟩
  else if call.missing ≠ [] then
    ⟨.unknown, "INSUFFICIENT_EVIDENCE", "Required dependency is missing."⟩
  else if call.unknowns ≠ [] then
    ⟨.unknown, "INSUFFICIENT_EVIDENCE", "Required property evidence is unknown."⟩
  else if call.mismatches ≠ [] then
    ⟨.notApplicable, "NO_MATCH", "Property does not satisfy the governed applicability rule."⟩
  else
    ⟨.applicable, "MATCH", "Property satisfies the governed applicability rule."⟩

/-- The decision that is made, up to its fingerprint. -/
def draftDecision (call : EvaluationCall) : ApplicabilityDecision where
  decisionId := call.decisionId
  subjectPropertyId := call.bundle.propertyId
  dimension := call.rule.dimension
  applicabilityState := call.finding.state.code
  ruleId := call.rule.ruleId
  ruleOutcome := call.finding.outcome
  reason := call.finding.reason
  sourceDependencyFingerprints := sortedBy id
    (call.rule.requiredSystems.filterMap fun system =>
      (call.dependencyOf system).map DependencyArtifact.dependencyFingerprint)
  unknowns := sortedBy id call.unknowns
  exclusions := sortedBy id call.mismatches
  limitation := call.limitation
  decisionFingerprint := ""

end EvaluationCall

/-- `evaluate_applicability`. -/
def evaluateApplicability (registry : ApplicabilityRegistry) (call : EvaluationCall) :
    Except String ApplicabilityDecision := do
  require (call.bundle.bundleStatus = "READY") "input bundle must be READY"
  require (call.finding.state.code ∈ registry.applicabilityStates)
    "unsupported applicability state"
  require (call.finding.outcome ∈ registry.ruleOutcomes)
    "unsupported rule outcome"
  let decision := call.draftDecision
  let fingerprint ← hash (.obj decision.payload)
  return { decision with decisionFingerprint := fingerprint }

/-! ## Applicability sets -/

structure ApplicabilitySet where
  applicabilitySetId : String
  subjectPropertyId : String
  communityId : String
  temporalBoundary : String
  inputBundleFingerprint : String
  decisions : List ApplicabilityDecision
  setFingerprint : String
  deriving DecidableEq, Repr

/-- What the fingerprint of an applicability set covers. -/
def ApplicabilitySet.payload (applicability : ApplicabilitySet) : Json :=
  .obj [("applicability_set_id", .str applicability.applicabilitySetId),
      ("subject_property_id", .str applicability.subjectPropertyId),
      ("community_id", .str applicability.communityId),
      ("temporal_boundary", .str applicability.temporalBoundary),
      ("input_bundle_fingerprint", .str applicability.inputBundleFingerprint),
      ("decisions", .arr (applicability.decisions.map ApplicabilityDecision.asdict))]

/-- `build_applicability_set`. -/
def buildApplicabilitySet (applicabilitySetId : String) (bundle : GovernedInputBundle)
    (decisions : List ApplicabilityDecision) :
    Except String ApplicabilitySet := do
  require (bundle.bundleStatus = "READY") "input bundle must be READY"
  require ((decisions.map ApplicabilityDecision.decisionId).Nodup)
    "duplicate applicability decision id"
  require (∀ decision ∈ decisions, decision.subjectPropertyId = bundle.propertyId)
    "decision property mismatch"
  let applicability : ApplicabilitySet :=
    { applicabilitySetId
      subjectPropertyId := bundle.propertyId
      communityId := bundle.communityId
      temporalBoundary := bundle.temporalBoundary
      inputBundleFingerprint := bundle.bundleFingerprint
      decisions := sortedBy ApplicabilityDecision.sortKey decisions
      setFingerprint := "" }
  let fingerprint ← hash applicability.payload
  return { applicability with setFingerprint := fingerprint }

end SanTanHeights.Seller
