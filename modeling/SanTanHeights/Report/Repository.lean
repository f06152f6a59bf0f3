import SanTanHeights.Foundation.Tables
import SanTanHeights.Report.Manifest
import SanTanHeights.Report.Schema

/-!
# Report tables

The tables that `ReportPersistenceService.persist` reads and writes, with the
constraints an insert can violate.  Creation times and links between reports are left out,
since nothing here reads them.  An advisory lock on the property and the
variant is held to the end of the transaction, so that the calls for one of
them take effect one at a time; a call that raises leaves nothing behind.
-/

namespace SanTanHeights.Report

open Foundation Foundation.Outcome Shared

/-- `ReportVersion`, and a row of `reporting.report_versions`. -/
structure ReportVersion where
  reportId : Uuid
  propertyId : Uuid
  reportVariant : Variant
  versionNumber : Nat
  snapshotId : Uuid
  reportSchemaVersion : String
  contentContractVersion : String
  variantPolicyVersion : String
  builderVersion : String
  reportInputHash : String
  canonicalPayloadHash : String
  storedPayloadHash : Option String
  canonicalPayload : List (String × Json)
  dependencyManifestHash : String
  generationReason : String
  contentState : ContentState
  healthState : HealthState
  qaStatus : QaStatus
  qaCompletedAt : Option Time
  publicationEligible : Bool
  createdBy : String

/-- What the versions of a report are counted for. -/
def ReportVersion.target (report : ReportVersion) : Uuid × Variant :=
  (report.propertyId, report.reportVariant)

/-- `ReportDependency`, and a row of `reporting.report_dependencies`. -/
structure ReportDependency where
  reportDependencyId : Uuid
  reportId : Uuid
  dependencyType : String
  dependencyId : String
  semanticFingerprint : String
  dependencyVersion : String
  sourceSnapshotId : Option Uuid

/-- The columns of the unique constraint of the dependencies. -/
def ReportDependency.key (dependency : ReportDependency) : Uuid × String × String :=
  (dependency.reportId, dependency.dependencyType, dependency.dependencyId)

/-- A row of `reporting.report_version_counters`. -/
structure VersionCounter where
  propertyId : Uuid
  reportVariant : Variant
  nextVersion : Nat

def VersionCounter.target (counter : VersionCounter) : Uuid × Variant :=
  (counter.propertyId, counter.reportVariant)

/-- `ADVANCE` of the allocator. -/
def VersionCounter.advance (counter : VersionCounter) (nextVersion : Nat) : VersionCounter :=
  { counter with nextVersion := nextVersion }

theorem VersionCounter.target_advance (counter : VersionCounter) (nextVersion : Nat) :
    (counter.advance nextVersion).target = counter.target := rfl

/-- The report tables, and the rows of other tables they refer to. -/
structure ReportTables where
  properties : List Uuid
  snapshots : List Uuid
  reports : Table ReportVersion.reportId
  dependencies : Table ReportDependency.reportDependencyId
  counters : Table VersionCounter.target

/-- `chk_ready_report_qa`. -/
def ReportVersion.ReadyChecked (report : ReportVersion) : Prop :=
  report.contentState ≠ .ready ∨ (report.qaStatus = .pass ∧ report.qaCompletedAt.isSome = true)

instance (report : ReportVersion) : Decidable report.ReadyChecked :=
  inferInstanceAs (Decidable (_ ∨ _))

/-- The content states that `FIND_EQUIVALENT` leaves out. -/
def excludedStates : List ContentState :=
  [.failed, .stale, .invalidated, .archived]

/-- A report that `FIND_EQUIVALENT` may return. -/
def ReportVersion.Live (report : ReportVersion) : Prop :=
  report.contentState ∉ excludedStates

instance (report : ReportVersion) : Decidable report.Live := inferInstanceAs (Decidable (¬_))

/-- A report of a target with an input hash. -/
def ReportVersion.Carries (report : ReportVersion) (target : Uuid × Variant) (hash : String) :
    Prop :=
  report.target = target ∧ report.reportInputHash = hash

instance (report : ReportVersion) (target : Uuid × Variant)
    (hash : String) : Decidable (report.Carries target hash) :=
  inferInstanceAs (Decidable (_ ∧ _))

/-- `_hash64`. -/
def hash64 (value field : String) : Except String Unit :=
  require (Sha256.isHex64 value = true)
    (field ++ " must be a lowercase SHA-256 hex digest")

namespace ReportTables

/-! ## Statements -/

/-- `find_equivalent`. -/
def findEquivalent (tables : ReportTables) (propertyId : Uuid) (reportVariant : Variant)
    (reportInputHash : String) : Except String (Option Uuid) := do
  hash64 reportInputHash "report_input_hash"
  return ((tables.reports.rows.filter fun report =>
    report.Carries (propertyId, reportVariant) reportInputHash ∧
      report.Live).argmax ReportVersion.versionNumber).map
    ReportVersion.reportId

/-- `ENSURE` of the allocator. -/
def ensureCounter (tables : ReportTables) (propertyId : Uuid) (reportVariant : Variant) :
    Except String (Table VersionCounter.target) :=
  match tables.counters.find (propertyId, reportVariant) with
  | some _ => return tables.counters
  | none => do
      require (propertyId ∈ tables.properties) "violates foreign key constraint"
      orRaise (tables.counters.insert ⟨propertyId, reportVariant, 1⟩)
        "duplicate key value violates unique constraint"

/-- `ReportVersionAllocator.allocate`. -/
def allocate (tables : ReportTables) (propertyId : Uuid) (reportVariant : Variant) :
    Except String (Nat × ReportTables) := do
  let counters ← tables.ensureCounter propertyId reportVariant
  let counter ← orRaise (counters.find (propertyId, reportVariant))
    "report version counter unavailable"
  require (1 ≤ counter.nextVersion) "invalid report version counter"
  require (counter.nextVersion + 1 < 2 ^ 63) "bigint out of range"
  return (counter.nextVersion, { tables with
    counters := counters.update
      (fun row => row.target = (propertyId, reportVariant))
      (fun row => row.advance (counter.nextVersion + 1))
      fun row => row.target_advance _ })

/-- `insert_report`. -/
def insertReport (tables : ReportTables) (report : ReportVersion) :
    Except String ReportTables := do
  require (1 ≤ report.versionNumber) "version_number must be positive"
  hash64 report.reportInputHash "report_input_hash"
  hash64 report.canonicalPayloadHash "canonical_payload_hash"
  hash64 report.dependencyManifestHash "dependency_manifest_hash"
  require (∀ stored ∈ report.storedPayloadHash, Sha256.isHex64 stored = true)
    "stored_payload_hash must be a lowercase SHA-256 hex digest"
  require report.ReadyChecked "chk_ready_report_qa"
  require (∀ other ∈ tables.reports.rows, other.target = report.target →
      other.versionNumber ≠ report.versionNumber)
    "duplicate key value violates unique constraint"
  require (∀ other ∈ tables.reports.rows,
      ¬other.Carries report.target report.reportInputHash)
    "duplicate key value violates unique constraint"
  let reports ← orRaise (tables.reports.insert report)
    "duplicate key value violates unique constraint"
  require (report.propertyId ∈ tables.properties ∧ report.snapshotId ∈ tables.snapshots)
    "violates foreign key constraint"
  return { tables with reports := reports }

/-- `insert_dependency`. -/
def insertDependency (tables : ReportTables) (dependency : ReportDependency) :
    Except String ReportTables := do
  hash64 dependency.semanticFingerprint "semantic_fingerprint"
  require (∀ other ∈ tables.dependencies.rows, other.key ≠ dependency.key)
    "duplicate key value violates unique constraint"
  let dependencies ← orRaise (tables.dependencies.insert dependency)
    "duplicate key value violates unique constraint"
  require ((tables.reports.find dependency.reportId).isSome = true ∧
      ∀ snapshotId ∈ dependency.sourceSnapshotId, snapshotId ∈ tables.snapshots)
    "violates foreign key constraint"
  return { tables with dependencies := dependencies }

end ReportTables

/-! ## The service -/

/-- `PersistReportCommand`. -/
structure PersistReportCommand where
  propertyId : Uuid
  reportVariant : Variant
  snapshotId : Uuid
  reportSchemaVersion : String
  contentContractVersion : String
  variantPolicyVersion : String
  builderVersion : String
  reportInputHash : String
  canonicalPayload : List (String × Json)
  dependencyManifest : ReportDependencyManifest
  generationReason : String
  createdBy : String

def PersistReportCommand.target (command : PersistReportCommand) : Uuid × Variant :=
  (command.propertyId, command.reportVariant)

/-- `PersistReportResult`. -/
structure PersistReportResult where
  reportId : Uuid
  versionNumber : Option Nat
  reusedExisting : Bool
  canonicalPayloadHash : Option String
  deriving DecidableEq

/-- `payload.get(section, {}).get(key)`. -/
def payloadEntry (payload : List (String × Json)) (part key : String) :
    Except String (Option Json) :=
  match (payload.lookup part).getD (.obj []) with
  | .obj members => return members.lookup key
  | _ => .error "AttributeError"

/-- The value of a payload is a given text. -/
def requireEntry (payload : List (String × Json)) (part key expected message : String) :
    Except String Unit := do
  let found ← payloadEntry payload part key
  require (found.bind (fun value => value.text.toOption) = some expected)
    message

/-- The comparisons of a command with its payload. -/
def PersistReportCommand.checkPayload (command : PersistReportCommand) :
    Except String Unit := do
  let payload := command.canonicalPayload
  requireEntry payload "metadata" "property_id" command.propertyId.str "PAYLOAD_PROPERTY_MISMATCH"
  requireEntry payload "metadata" "report_variant" command.reportVariant.code
    "PAYLOAD_VARIANT_MISMATCH"
  requireEntry payload "metadata" "snapshot_id" command.snapshotId.str "PAYLOAD_SNAPSHOT_MISMATCH"
  requireEntry payload "lineage" "dependency_manifest_hash"
    command.dependencyManifest.manifestHash
    "DEPENDENCY_MANIFEST_HASH_MISMATCH"

/-- `CanonicalPayloadHashEngine.calculate`. -/
def calculatePayloadHash (schema : CanonicalReportSchema) (payload : List (String × Json)) :
    Except String String := do
  schema.validate (.obj payload)
  sha256Canonical (.obj payload)

/-- The row of a command. -/
def PersistReportCommand.report
    (command : PersistReportCommand) (reportId : Uuid) (versionNumber : Nat)
    (payloadHash : String) : ReportVersion where
  reportId := reportId
  propertyId := command.propertyId
  reportVariant := command.reportVariant
  versionNumber := versionNumber
  snapshotId := command.snapshotId
  reportSchemaVersion := command.reportSchemaVersion
  contentContractVersion := command.contentContractVersion
  variantPolicyVersion := command.variantPolicyVersion
  builderVersion := command.builderVersion
  reportInputHash := command.reportInputHash
  canonicalPayloadHash := payloadHash
  storedPayloadHash := some payloadHash
  canonicalPayload := command.canonicalPayload
  dependencyManifestHash := command.dependencyManifest.manifestHash
  generationReason := command.generationReason
  contentState := .building
  healthState := .clean
  qaStatus := .pending
  qaCompletedAt := none
  publicationEligible := false
  createdBy := command.createdBy

/-- The row of an entry of a manifest. -/
def ReportDependencyEntry.row
    (entry : ReportDependencyEntry) (reportDependencyId reportId : Uuid) :
    ReportDependency where
  reportDependencyId := reportDependencyId
  reportId := reportId
  dependencyType := entry.dependencyType
  dependencyId := entry.dependencyId
  semanticFingerprint := entry.semanticFingerprint
  dependencyVersion := entry.dependencyVersion
  sourceSnapshotId := entry.sourceSnapshotId

/-- The loop that inserts the dependencies; `newId` lists what `uuid4`
returns. -/
def ReportTables.insertDependencies
    (tables : ReportTables) (reportId : Uuid) (newId : Nat → Uuid) :
    List (ReportDependencyEntry × Nat) → Except String ReportTables
  | [] => return tables
  | (entry, index) :: entries => do
      let next ← tables.insertDependency (entry.row (newId index) reportId)
      next.insertDependencies reportId newId entries

/-- `persist` where no equivalent report is found. -/
def persistNew (schema : CanonicalReportSchema) (tables : ReportTables)
    (command : PersistReportCommand) (newId : Nat → Uuid) :
    Except String (PersistReportResult × ReportTables) := do
  let payloadHash ← calculatePayloadHash schema command.canonicalPayload
  command.checkPayload
  let (versionNumber, allocated) ← tables.allocate command.propertyId command.reportVariant
  let inserted ← allocated.insertReport
    (command.report (newId 0) versionNumber payloadHash)
  let filled ← inserted.insertDependencies (newId 0) newId
    (command.dependencyManifest.entries.zipIdx 1)
  return (⟨newId 0, some versionNumber, false, some payloadHash⟩, filled)

/-- `ReportPersistenceService.persist`. -/
def persist (schema : CanonicalReportSchema) (tables : ReportTables)
    (command : PersistReportCommand) (newId : Nat → Uuid) :
    Except String (PersistReportResult × ReportTables) := do
  let duplicate ← tables.findEquivalent command.propertyId
    command.reportVariant command.reportInputHash
  match duplicate with
  | some existing => return (⟨existing, none, true, none⟩, tables)
  | none => persistNew schema tables command newId

end SanTanHeights.Report
