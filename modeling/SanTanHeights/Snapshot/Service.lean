import SanTanHeights.Snapshot.Fingerprints
import SanTanHeights.Snapshot.Repository

/-!
# Creating snapshots

`SnapshotCreationService.create` takes one snapshot from two reads of the
governed state.  The caller rolls its transaction back on an exception, so a
failed call leaves the tables as they were.
-/

namespace SanTanHeights.Snapshot

open Foundation Foundation.Outcome Shared

/-! ## Capturing a state -/

/-- What a snapshot is made of, before any table is consulted. -/
structure Capture where
  findings : List FrozenFinding
  passports : List PassportReference
  dependencies : List GovernedDependency
  fingerprints : SnapshotFingerprints

/-- `verify_upstream(finding, passport_by_finding[finding.finding_id])`. -/
def verifyWith (passports : List PassportReference) (finding : FrozenFinding) :
    Except String String := do
  let passport ← orRaise (passportByFinding passports finding.findingId) finding.findingId
  verifyUpstream finding passport

/-- The input of the fingerprint engine. -/
def fingerprintInput (state : GovernedPropertyState) (findings : List FrozenFinding)
    (dependencies : List GovernedDependency) : FingerprintInput where
  propertyId := state.propertyId
  intelligenceSchemaVersion := state.intelligenceSchemaVersion
  governanceSchemaVersion := state.governanceSchemaVersion
  findings := findings
  dependencies := dependencies

/-- The part of `create` from `freeze` to `calculate`. -/
def captureState (resolver : PassportResolver) (allowed : List String)
    (state : GovernedPropertyState) : Except String Capture := do
  let findings ← freeze state.findings
  let passports ← capture resolver findings
  let _ ← findings.mapM (verifyWith passports)
  let dependencies ← buildDependencies allowed state.dependencies
  let fingerprints ← calculate (fingerprintInput state findings dependencies)
  return { findings, passports, dependencies, fingerprints }

/-! ## The hash of a snapshot -/

/-- `asdict(finding)`. -/
def FrozenFinding.asdict (finding : FrozenFinding) : Json :=
  .obj [("finding_id", .str finding.findingId), ("finding_type", .str finding.findingType),
      ("passport_id", .str finding.passportId),
      ("passport_version", .str finding.passportVersion),
      ("canonical_value", finding.canonicalValue),
      ("confidence_code", .str finding.confidenceCode),
      ("qa_status", .str finding.qaStatus.code),
      ("production_status", .str finding.productionStatus.code),
      ("publication_scope", .str finding.publicationScope.code),
      ("agent_wording", .ofOptional finding.agentWording),
      ("seller_wording", .ofOptional finding.sellerWording),
      ("public_wording", .ofOptional finding.publicWording),
      ("agent_wording_version", .ofOptional finding.agentWordingVersion),
      ("seller_wording_version", .ofOptional finding.sellerWordingVersion),
      ("public_wording_version", .ofOptional finding.publicWordingVersion),
      ("semantic_fingerprint", .str finding.semanticFingerprint),
      ("evidence_reference_set_hash", .str finding.evidenceReferenceSetHash)]

/-- `asdict(passport)`. -/
def PassportReference.asdict (passport : PassportReference) : Json :=
  .obj [("passport_id", .str passport.passportId),
      ("passport_version", .str passport.passportVersion),
      ("passport_semantic_fingerprint", .str passport.passportSemanticFingerprint),
      ("passport_qa_status", .str passport.passportQaStatus),
      ("finding_id", .str passport.findingId),
      ("evidence_reference_set_hash", .str passport.evidenceReferenceSetHash)]

/-- `asdict(dependency)`. -/
def GovernedDependency.asdict (dependency : GovernedDependency) : Json :=
  .obj [("dependency_type", .str dependency.dependencyType),
      ("dependency_id", .str dependency.dependencyId),
      ("semantic_fingerprint", .str dependency.semanticFingerprint),
      ("record_fingerprint", .str dependency.recordFingerprint),
      ("dependency_version", .str dependency.dependencyVersion),
      ("required", .bool dependency.required),
      ("variant_scope", .arr (dependency.variantScope.map fun variant => .str variant.code))]

/-- `asdict(requirement)`. -/
def RequirementResult.asdict (result : RequirementResult) : Json :=
  .obj [("requirement_id", .str result.requirementId),
      ("requirement_scope", .str result.requirementScope),
      ("required_flag", .bool result.requiredFlag), ("status", .str result.status.code),
      ("finding_id", .ofOptional result.findingId),
      ("dependency_type", .ofOptional result.dependencyType),
      ("dependency_id", .ofOptional result.dependencyId),
      ("reason_code", .ofOptional result.reasonCode)]

/-- `_snapshot_hash`. -/
def snapshotHash (state : GovernedPropertyState) (captured : Capture)
    (requirements : List RequirementResult) : Except String String :=
  sha256Canonical (.obj [("property_id", .str state.propertyId.str),
      ("governed_state_version", .str state.governedStateVersion),
      ("source_read_token", .str state.sourceReadToken),
      ("intelligence_schema_version", .str state.intelligenceSchemaVersion),
      ("governance_schema_version", .str state.governanceSchemaVersion),
      ("model_version", .str state.modelVersion),
      ("findings", .arr (captured.findings.map FrozenFinding.asdict)),
      ("passports", .arr (captured.passports.map PassportReference.asdict)),
      ("dependencies", .arr (captured.dependencies.map GovernedDependency.asdict)),
      ("requirements", .arr (requirements.map RequirementResult.asdict)),
      ("semantic_fingerprint", .str captured.fingerprints.semanticFingerprint),
      ("agent_semantic_fingerprint", .str captured.fingerprints.agentSemanticFingerprint),
      ("seller_semantic_fingerprint", .str captured.fingerprints.sellerSemanticFingerprint),
      ("public_semantic_fingerprint", .str captured.fingerprints.publicSemanticFingerprint)])

/-! ## Creation -/

/-- The configuration of the service. -/
structure CreationService where
  requirements : List SnapshotRequirement
  resolver : PassportResolver
  allowed : List String

/-- One call: its arguments, the two reads of the governed state and the
identifier that `uuid4` returns. -/
structure CreateCall where
  propertyId : Uuid
  snapshotReason : String
  createdBy : String
  state : GovernedPropertyState
  latestState : GovernedPropertyState
  freshId : Uuid

inductive CreateStatus where
  | created
  | existingEquivalent
  | blocked
  deriving DecidableEq, Repr

structure CreateSnapshotResult where
  status : CreateStatus
  snapshotId : Option Uuid
  semanticFingerprint : Option String
  completenessStatus : Completeness
  deriving DecidableEq

/-- `SnapshotDeduplicator.check`: the equivalent snapshot, if there is one. -/
def checkDuplicate (database : Database) (propertyId : Uuid) (semanticFingerprint : String) :
    Option Uuid :=
  (database.findEquivalent propertyId semanticFingerprint).map SnapshotRecord.snapshotId

/-- The row of a new snapshot. -/
def snapshotRecord (call : CreateCall) (fingerprints : SnapshotFingerprints)
    (completeness : Completeness) (sequence : Nat)
    (supersedes : Option Uuid) (hash : String) : SnapshotRecord where
  snapshotId := call.freshId
  propertyId := call.propertyId
  snapshotSequence := sequence
  snapshotReason := call.snapshotReason
  governedStateVersion := call.state.governedStateVersion
  sourceReadToken := call.state.sourceReadToken
  intelligenceSchemaVersion := call.state.intelligenceSchemaVersion
  governanceSchemaVersion := call.state.governanceSchemaVersion
  modelVersion := call.state.modelVersion
  semanticFingerprint := fingerprints.semanticFingerprint
  agentSemanticFingerprint := fingerprints.agentSemanticFingerprint
  sellerSemanticFingerprint := fingerprints.sellerSemanticFingerprint
  publicSemanticFingerprint := fingerprints.publicSemanticFingerprint
  snapshotHash := hash
  snapshotCompletenessStatus := completeness
  qaStatus := .pass
  createdBy := call.createdBy
  supersedesSnapshotId := supersedes

/-- The row of a frozen finding. -/
def findingRecord (snapshotId : Uuid) (passports : List PassportReference)
    (database : Database) (finding : FrozenFinding) :
    Except String Database := do
  let passport ← orRaise (passportByFinding passports finding.findingId) finding.findingId
  database.insertFinding
    { snapshotId := snapshotId
      finding := finding
      passportSemanticFingerprint := passport.passportSemanticFingerprint }

/-- The row of a dependency. -/
def dependencyRecord (snapshotId : Uuid) (dependency : GovernedDependency) :
    SnapshotDependencyRecord where
  snapshotId := snapshotId
  dependencyType := dependency.dependencyType
  dependencyId := dependency.dependencyId
  recordFingerprint := dependency.recordFingerprint
  semanticFingerprint := dependency.semanticFingerprint
  dependencyVersion := dependency.dependencyVersion
  required := dependency.required
  affectsAgent := decide (.agent ∈ dependency.variantScope)
  affectsSeller := decide (.seller ∈ dependency.variantScope)
  affectsPublic := decide (.pub ∈ dependency.variantScope)

/-- The inserts of the rows that belong to a snapshot. -/
def insertChildren (database : Database) (snapshotId : Uuid) (captured : Capture)
    (requirements : List RequirementResult) : Except String Database := do
  let database ← captured.findings.foldlM
    (findingRecord snapshotId captured.passports) database
  let database ← captured.dependencies.foldlM (fun database dependency =>
      database.insertDependency (dependencyRecord snapshotId dependency))
    database
  requirements.foldlM
    (fun database result => database.insertRequirement ⟨snapshotId, result⟩)
    database

/-- The part of `create` that inserts a new snapshot. -/
def insertCapture (call : CreateCall) (captured : Capture)
    (evaluation : RequirementEvaluation) (database : Database) :
    Except String Database := do
  let (sequence, allocated) ← database.allocateSequence call.propertyId
  let supersedes := (allocated.currentAccepted call.propertyId).map
    SnapshotRecord.snapshotId
  let hash ← snapshotHash call.state captured evaluation.results
  let inserted ← allocated.insertSnapshot
    (snapshotRecord call captured.fingerprints evaluation.completenessStatus
      sequence supersedes hash)
  insertChildren inserted call.freshId captured evaluation.results

/-- `SnapshotCreationService.create`. -/
def create (service : CreationService) (call : CreateCall) (database : Database) :
    Except String (CreateSnapshotResult × Database) := do
  require (call.state.propertyId = call.propertyId)
    "governed-state provider returned the wrong property"
  let evaluation := evaluate service.requirements call.state
  require (evaluation.completenessStatus ≠ .invalid) "SNAPSHOT_STATE_INVALID"
  if evaluation.completenessStatus = .blocked then
    return (⟨.blocked, none, none, .blocked⟩, database)
  let captured ← captureState service.resolver service.allowed call.state
  require (call.latestState.propertyId = call.propertyId)
    "governed-state provider returned the wrong property"
  require (call.latestState.sourceReadToken = call.state.sourceReadToken)
    "SOURCE_STATE_CHANGED_DURING_CAPTURE"
  let fingerprint := captured.fingerprints.semanticFingerprint
  match checkDuplicate database call.propertyId fingerprint with
  | some existing =>
      return (⟨.existingEquivalent, some existing, some fingerprint,
        evaluation.completenessStatus⟩, database)
  | none =>
      let inserted ← insertCapture call captured evaluation database
      return (⟨.created, some call.freshId, some fingerprint,
        evaluation.completenessStatus⟩, inserted)

end SanTanHeights.Snapshot
