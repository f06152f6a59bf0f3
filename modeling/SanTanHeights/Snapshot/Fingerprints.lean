import SanTanHeights.Shared.Hash
import SanTanHeights.Snapshot.Dependencies
import SanTanHeights.Snapshot.Findings

/-!
# Semantic fingerprints

The fingerprint of a finding, which its upstream must have computed already,
and the four fingerprints of a snapshot: one over everything and one for each
variant.
-/

namespace SanTanHeights.Snapshot

open Foundation Foundation.Sorting Foundation.Outcome Shared

/-! ## Findings -/

/-- The dictionary of `FindingFingerprintEngine.semantic_projection`. -/
def findingProjection (finding : FrozenFinding) (passport : PassportReference) : Json :=
  .obj [("finding_type", .str finding.findingType),
      ("canonical_value", finding.canonicalValue),
      ("confidence_code", .str finding.confidenceCode),
      ("qa_status", .str finding.qaStatus.code),
      ("production_status", .str finding.productionStatus.code),
      ("publication_scope", .str finding.publicationScope.code),
      ("approved_wording", .obj [("agent", .ofOptional finding.agentWording),
          ("seller", .ofOptional finding.sellerWording),
          ("public", .ofOptional finding.publicWording)]),
      ("wording_versions", .obj [("agent", .ofOptional finding.agentWordingVersion),
          ("seller", .ofOptional finding.sellerWordingVersion),
          ("public", .ofOptional finding.publicWordingVersion)]),
      ("evidence_reference_set_hash", .str finding.evidenceReferenceSetHash),
      ("passport_semantic_fingerprint", .str passport.passportSemanticFingerprint)]

/-- `FindingFingerprintEngine.calculate`. -/
def calculateFinding (finding : FrozenFinding) (passport : PassportReference) :
    Except String String := do
  require (passport.findingId = finding.findingId)
    "Passport reference does not belong to finding"
  sha256Canonical (findingProjection finding passport)

/-- `FindingFingerprintEngine.verify_upstream`. -/
def verifyUpstream (finding : FrozenFinding) (passport : PassportReference) :
    Except String String := do
  let calculated ← calculateFinding finding passport
  require (calculated = finding.semanticFingerprint)
    ("UPSTREAM_FINDING_FINGERPRINT_MISMATCH: " ++ finding.findingId)
  return calculated

/-! ## Snapshots -/

/-- `_SCOPE_VARIANTS`. -/
def scopeVariants : PublicationScope → List Variant
  | .agent => [.agent]
  | .seller => [.seller]
  | .pub => [.pub]
  | .agentSeller => [.agent, .seller]
  | .all => [.agent, .seller, .pub]
  | .none => []

/-- `_finding_entry`. -/
structure FindingEntry where
  findingId : String
  semanticFingerprint : String
  deriving DecidableEq, Repr

def findingEntry (finding : FrozenFinding) : FindingEntry where
  findingId := finding.findingId
  semanticFingerprint := finding.semanticFingerprint

def FindingEntry.json (entry : FindingEntry) : Json :=
  .obj [("finding_id", .str entry.findingId),
      ("semantic_fingerprint", .str entry.semanticFingerprint)]

/-- `_dependency_entry`. -/
structure DependencyEntry where
  dependencyType : String
  dependencyId : String
  semanticFingerprint : String
  deriving DecidableEq, Repr

def dependencyEntry (dependency : GovernedDependency) : DependencyEntry where
  dependencyType := dependency.dependencyType
  dependencyId := dependency.dependencyId
  semanticFingerprint := dependency.semanticFingerprint

def DependencyEntry.json (entry : DependencyEntry) : Json :=
  .obj [("dependency_type", .str entry.dependencyType),
      ("dependency_id", .str entry.dependencyId),
      ("semantic_fingerprint", .str entry.semanticFingerprint)]

/-- The key of `_sorted_findings`. -/
def FindingEntry.sortKey (entry : FindingEntry) : String ×ₗ String :=
  toLex (entry.findingId, entry.semanticFingerprint)

/-- The key of `_sorted_dependencies`. -/
def DependencyEntry.sortKey (entry : DependencyEntry) : String ×ₗ String ×ₗ String :=
  toLex (entry.dependencyType, toLex (entry.dependencyId, entry.semanticFingerprint))

/-- `_sorted_findings`. -/
def sortedFindings (entries : List FindingEntry) : Json :=
  .arr ((sortedBy FindingEntry.sortKey entries).map FindingEntry.json)

/-- `_sorted_dependencies`. -/
def sortedDependencies (entries : List DependencyEntry) : Json :=
  .arr ((sortedBy DependencyEntry.sortKey entries).map DependencyEntry.json)

/-- What `calculate` fingerprints. -/
structure FingerprintInput where
  propertyId : Uuid
  intelligenceSchemaVersion : String
  governanceSchemaVersion : String
  findings : List FrozenFinding
  dependencies : List GovernedDependency

namespace FingerprintInput

/-- `_base`. -/
def base (input : FingerprintInput) : List (String × Json) :=
  [("property_id", .str input.propertyId.str),
    ("intelligence_schema_version", .str input.intelligenceSchemaVersion),
    ("governance_schema_version", .str input.governanceSchemaVersion)]

/-- The entries of all findings. -/
def findingEntries (input : FingerprintInput) : List FindingEntry :=
  input.findings.map findingEntry

/-- The entries of all dependencies. -/
def dependencyEntries (input : FingerprintInput) : List DependencyEntry :=
  input.dependencies.map dependencyEntry

/-- The projection of the overall fingerprint. -/
def overall (input : FingerprintInput) : Json :=
  .obj (input.base ++ [("findings", sortedFindings input.findingEntries),
      ("dependencies", sortedDependencies input.dependencyEntries)])

/-- The entries of the findings in scope for a variant. -/
def variantFindingEntries (input : FingerprintInput) (variant : Variant) : List FindingEntry :=
  (input.findings.filter fun finding =>
    variant ∈ scopeVariants finding.publicationScope).map findingEntry

/-- The entries of the dependencies scoped to a variant. -/
def variantDependencyEntries
    (input : FingerprintInput) (variant : Variant) : List DependencyEntry :=
  (input.dependencies.filter fun dependency =>
    variant ∈ dependency.variantScope).map dependencyEntry

/-- The projection of a variant's fingerprint. -/
def variantProjection (input : FingerprintInput) (variant : Variant) : Json :=
  .obj (input.base ++ [("variant", .str variant.code),
      ("findings", sortedFindings (input.variantFindingEntries variant)),
      ("dependencies", sortedDependencies (input.variantDependencyEntries variant))])

end FingerprintInput

structure SnapshotFingerprints where
  semanticFingerprint : String
  agentSemanticFingerprint : String
  sellerSemanticFingerprint : String
  publicSemanticFingerprint : String
  deriving DecidableEq, Repr

/-- The fingerprint of a variant. -/
def SnapshotFingerprints.ofVariant (fingerprints : SnapshotFingerprints) : Variant → String
  | .agent => fingerprints.agentSemanticFingerprint
  | .seller => fingerprints.sellerSemanticFingerprint
  | .pub => fingerprints.publicSemanticFingerprint

/-- `SnapshotFingerprintEngine.calculate`. -/
def calculate (input : FingerprintInput) :
    Except String SnapshotFingerprints := do
  let overall ← sha256Canonical input.overall
  let agent ← sha256Canonical (input.variantProjection .agent)
  let seller ← sha256Canonical (input.variantProjection .seller)
  let pub ← sha256Canonical (input.variantProjection .pub)
  return {
    semanticFingerprint := overall
    agentSemanticFingerprint := agent
    sellerSemanticFingerprint := seller
    publicSemanticFingerprint := pub }

end SanTanHeights.Snapshot
