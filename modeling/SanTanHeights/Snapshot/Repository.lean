import Mathlib.Data.List.MinMax
import SanTanHeights.Snapshot.Findings

/-!
# Snapshot tables

The tables of the `snapshot` schema that the repositories read and write, with
the constraints an insert can violate.  Rows are listed in insertion order;
the random primary keys of child rows and the creation times are left out,
since nothing reads them.
-/

namespace SanTanHeights.Snapshot

open Foundation Foundation.Outcome Shared

/-- A row of `snapshot.intelligence_snapshots`. -/
structure SnapshotRecord where
  snapshotId : Uuid
  propertyId : Uuid
  snapshotSequence : Nat
  snapshotReason : String
  governedStateVersion : String
  sourceReadToken : String
  intelligenceSchemaVersion : String
  governanceSchemaVersion : String
  modelVersion : String
  semanticFingerprint : String
  agentSemanticFingerprint : String
  sellerSemanticFingerprint : String
  publicSemanticFingerprint : String
  snapshotHash : String
  snapshotCompletenessStatus : Completeness
  qaStatus : QaStatus
  createdBy : String
  supersedesSnapshotId : Option Uuid
  deriving DecidableEq

/-- A row of `snapshot.snapshot_findings`. -/
structure SnapshotFindingRecord where
  snapshotId : Uuid
  finding : FrozenFinding
  passportSemanticFingerprint : String

/-- A row of `snapshot.snapshot_dependencies`. -/
structure SnapshotDependencyRecord where
  snapshotId : Uuid
  dependencyType : String
  dependencyId : String
  recordFingerprint : String
  semanticFingerprint : String
  dependencyVersion : String
  required : Bool
  affectsAgent : Bool
  affectsSeller : Bool
  affectsPublic : Bool
  deriving DecidableEq

/-- A row of `snapshot.snapshot_requirement_results`. -/
structure SnapshotRequirementResultRecord where
  snapshotId : Uuid
  result : RequirementResult
  deriving DecidableEq

/-- The snapshot tables and the reference tables they point to. -/
structure Database where
  properties : List Uuid
  reasonCodes : List String
  sequenceCounters : Uuid → Option Nat
  snapshots : List SnapshotRecord
  findings : List SnapshotFindingRecord
  dependencies : List SnapshotDependencyRecord
  requirementResults : List SnapshotRequirementResultRecord

/-! ## Queries -/

/-- The condition under which a snapshot counts as accepted. -/
def SnapshotRecord.accepted (record : SnapshotRecord) : Prop :=
  record.qaStatus = .pass ∧ (record.snapshotCompletenessStatus = .complete ∨
      record.snapshotCompletenessStatus = .partialValid)

instance (record : SnapshotRecord) : Decidable record.accepted :=
  inferInstanceAs (Decidable (_ ∧ _))

/-- `ORDER BY snapshot_sequence DESC LIMIT 1`. -/
def latest (records : List SnapshotRecord) : Option SnapshotRecord :=
  records.argmax SnapshotRecord.snapshotSequence

/-- `FIND_EQUIVALENT`. -/
def Database.findEquivalent
    (database : Database) (propertyId : Uuid) (semanticFingerprint : String) :
    Option SnapshotRecord :=
  latest (database.snapshots.filter fun record =>
    record.propertyId = propertyId ∧
      record.semanticFingerprint = semanticFingerprint ∧ record.accepted)

/-- `CURRENT_ACCEPTED`; `snapshot.current_snapshot_view` has the same row. -/
def Database.currentAccepted
    (database : Database) (propertyId : Uuid) : Option SnapshotRecord :=
  latest (database.snapshots.filter fun record =>
    record.propertyId = propertyId ∧ record.accepted)

/-! ## Writes -/

/-- `ALLOCATE_COUNTER`. -/
def Database.allocateSequence (database : Database) (propertyId : Uuid) :
    Except String (Nat × Database) := do
  require (propertyId ∈ database.properties)
    "snapshot_sequence_counters_property_id_fkey"
  let next := (database.sequenceCounters propertyId).elim 2 (· + 1)
  return (next - 1, { database with
      sequenceCounters :=
        Function.update database.sequenceCounters propertyId (some next) })

/-- `SnapshotRepository.insert`. -/
def Database.insertSnapshot (database : Database) (record : SnapshotRecord) :
    Except String Database := do
  require (∀ other ∈ database.snapshots, other.snapshotId ≠ record.snapshotId)
    "intelligence_snapshots_pkey"
  require (record.propertyId ∈ database.properties)
    "intelligence_snapshots_property_id_fkey"
  require (0 < record.snapshotSequence)
    "intelligence_snapshots_snapshot_sequence_check"
  require (∀ fingerprint ∈ [record.semanticFingerprint,
      record.agentSemanticFingerprint, record.sellerSemanticFingerprint,
      record.publicSemanticFingerprint, record.snapshotHash],
      Sha256.isHex64 fingerprint = true)
    "intelligence_snapshots_semantic_fingerprint_check"
  require (∀ superseded ∈ record.supersedesSnapshotId,
      ∃ other ∈ database.snapshots, other.snapshotId = superseded)
    "intelligence_snapshots_supersedes_snapshot_id_fkey"
  require (∀ other ∈ database.snapshots, other.propertyId = record.propertyId →
        other.snapshotSequence ≠ record.snapshotSequence)
    "intelligence_snapshots_property_id_snapshot_sequence_key"
  require (∀ other ∈ database.snapshots, other.propertyId = record.propertyId →
        other.semanticFingerprint ≠ record.semanticFingerprint)
    "intelligence_snapshots_property_id_semantic_fingerprint_key"
  return { database with snapshots := database.snapshots ++ [record] }

/-- `SnapshotFindingRepository.insert`. -/
def Database.insertFinding (database : Database) (record : SnapshotFindingRecord) :
    Except String Database := do
  -- `json.dumps` of the canonical value
  require (record.finding.canonicalValue.hasDecimal = false)
    "Object of type Decimal is not JSON serializable"
  require (∀ other ∈ database.findings, ¬ (other.snapshotId = record.snapshotId ∧
        other.finding.findingId = record.finding.findingId))
    "snapshot_findings_snapshot_id_finding_id_key"
  require (∀ fingerprint ∈ [record.passportSemanticFingerprint,
      record.finding.semanticFingerprint, record.finding.evidenceReferenceSetHash],
      Sha256.isHex64 fingerprint = true)
    "snapshot_findings_semantic_fingerprint_check"
  return { database with findings := database.findings ++ [record] }

/-- `SnapshotDependencyRepository.insert`. -/
def Database.insertDependency (database : Database) (record : SnapshotDependencyRecord) :
    Except String Database := do
  require (∀ other ∈ database.dependencies, ¬ (other.snapshotId = record.snapshotId ∧
        other.dependencyType = record.dependencyType ∧
        other.dependencyId = record.dependencyId))
    "snapshot_dependencies_snapshot_id_dependency_type_dependency_id_key"
  require (∀ fingerprint ∈ [record.recordFingerprint,
      record.semanticFingerprint], Sha256.isHex64 fingerprint = true)
    "snapshot_dependencies_semantic_fingerprint_check"
  return { database with dependencies := database.dependencies ++ [record] }

/-- `SnapshotRequirementRepository.insert`. -/
def Database.insertRequirement
    (database : Database) (record : SnapshotRequirementResultRecord) :
    Except String Database := do
  require (∀ other ∈ database.requirementResults, ¬ (other.snapshotId = record.snapshotId ∧
        other.result.requirementId = record.result.requirementId))
    "snapshot_requirement_results_snapshot_id_requirement_id_key"
  require (∀ reason ∈ record.result.reasonCode, reason ∈ database.reasonCodes)
    "snapshot_requirement_results_reason_code_fkey"
  return { database with
    requirementResults := database.requirementResults ++ [record] }

/-! ## The latest row -/

theorem latest_eq_some {records : List SnapshotRecord} {record : SnapshotRecord}
    (found : latest records = some record) :
    record ∈ records ∧ ∀ other ∈ records, other.snapshotSequence ≤ record.snapshotSequence :=
  ⟨List.argmax_mem found, fun _ present => List.le_of_mem_argmax present found⟩

theorem latest_eq_none {records : List SnapshotRecord} : latest records = none ↔ records = [] :=
  List.argmax_eq_none

/-- A row that is strictly later than all others is the latest. -/
theorem latest_concat {records : List SnapshotRecord} {record : SnapshotRecord}
    (later : ∀ other ∈ records, other.snapshotSequence < record.snapshotSequence) :
    latest (records ++ [record]) = some record := by
  unfold latest
  rw [List.argmax_concat]
  cases previous : records.argmax SnapshotRecord.snapshotSequence with
  | none => rfl
  | some other =>
      have := later other (List.argmax_mem previous)
      simp [this]

end SanTanHeights.Snapshot
