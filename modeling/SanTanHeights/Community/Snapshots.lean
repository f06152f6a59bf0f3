import SanTanHeights.Foundation.Merging
import SanTanHeights.Foundation.Text
import SanTanHeights.Shared.Textual

/-!
# Snapshots of a community

`build_community_state_snapshot` puts the state of a community at an
observation time together from manifests and projections of its properties,
and `certify_snapshot` admits it to comparison.
-/

namespace SanTanHeights.Community

open Foundation Foundation.Sorting Foundation.Outcome Shared

/-! ## Texts -/

/-- `_hash`.  On values without numbers `json.dumps` with sorted keys writes
what `canonical_json` does. -/
def hash (value : Json) : Except String String :=
  sha256Canonical value

/-- A JSON list of texts. -/
def texts (values : List String) : Json :=
  .arr (values.map .str)

/-- `datetime.fromisoformat`: nothing where it raises, and no instant where
the time has no offset. -/
abbrev FromIsoformat : Type := String → Option (Option Int)

/-- `_parse_ts`. -/
def parseTs (fromisoformat : FromIsoformat) (value label : String) :
    Except String Int := do
  let parsed ← orRaise (fromisoformat value) (label ++ " must be ISO-8601")
  orRaise parsed (label ++ " must be timezone-aware")

@[simp] theorem parseTs_eq_ok
    {fromisoformat : FromIsoformat} {value label : String} {instant : Int} :
    parseTs fromisoformat value label = .ok instant ↔
      fromisoformat value = some (some instant) := by
  rw [parseTs, bind_eq_ok]
  simp

/-- `_validate_fp`. -/
def validateFp (value label : String) : Except String Unit :=
  require (Sha256.isHex64 value = true)
    (label ++ " must be a lowercase SHA-256 fingerprint")

/-- `tuple(sorted(set(x for x in values if x.strip())))`. -/
def codeSet (values : List String) : List String :=
  sortedBy id (values.filter fun value => !Text.isBlank value).dedup

/-! ## Parts -/

structure TemporalManifestEntry where
  entryType : String
  entryId : String
  effectiveAt : String
  knownAt : String
  fingerprint : String
  deriving DecidableEq, Repr

namespace TemporalManifestEntry

/-- `sort_key`. -/
def sortKey (entry : TemporalManifestEntry) : String ×ₗ String ×ₗ String ×ₗ String ×ₗ String :=
  toLex (entry.entryType, toLex (entry.entryId, toLex (entry.effectiveAt,
    toLex (entry.knownAt, entry.fingerprint))))

/-- What identifies an entry in a snapshot. -/
def identity (entry : TemporalManifestEntry) : String ×ₗ String :=
  toLex (entry.entryType, entry.entryId)

/-- `asdict(entry)`. -/
def asdict (entry : TemporalManifestEntry) : Json :=
  .obj [("entry_type", .str entry.entryType), ("entry_id", .str entry.entryId),
      ("effective_at", .str entry.effectiveAt), ("known_at", .str entry.knownAt),
      ("fingerprint", .str entry.fingerprint)]

end TemporalManifestEntry

structure PropertyStateProjection where
  propertyId : String
  identityFingerprint : String
  phaseFingerprint : String
  spatialFingerprint : String
  intelligenceFingerprint : String
  freshnessState : String
  exclusionCodes : List String
  conflictCodes : List String
  projectionFingerprint : String
  deriving DecidableEq, Repr

namespace PropertyStateProjection

/-- What the fingerprint of a projection covers. -/
def payload (projection : PropertyStateProjection) : List (String × Json) :=
  [("property_id", .str projection.propertyId),
    ("identity_fingerprint", .str projection.identityFingerprint),
    ("phase_fingerprint", .str projection.phaseFingerprint),
    ("spatial_fingerprint", .str projection.spatialFingerprint),
    ("intelligence_fingerprint", .str projection.intelligenceFingerprint),
    ("freshness_state", .str projection.freshnessState),
    ("exclusion_codes", texts projection.exclusionCodes),
    ("conflict_codes", texts projection.conflictCodes)]

/-- `asdict(projection)`. -/
def asdict (projection : PropertyStateProjection) : Json :=
  .obj (projection.payload ++ [("projection_fingerprint", .str projection.projectionFingerprint)])

end PropertyStateProjection

/-- The states of certification. -/
inductive CertificationState where
  | draft
  | validated
  | certified
  | rejected
  deriving DecidableEq, Repr

def CertificationState.code : CertificationState → String
  | draft => "DRAFT"
  | validated => "VALIDATED"
  | certified => "CERTIFIED"
  | rejected => "REJECTED"

/-- The three manifests of a snapshot. -/
inductive Kind where
  | source
  | policy
  | runtime
  deriving DecidableEq, Repr

/-- The manifests in the order in which they are compared. -/
def kinds : List Kind := [.source, .policy, .runtime]

structure CommunityStateSnapshot where
  snapshotId : String
  communityId : String
  observationTime : String
  knowledgeCutoff : String
  materializedAt : String
  baselineSnapshotId : Option String
  m12ReleaseCertificationRoot : String
  sourceManifest : List TemporalManifestEntry
  policyManifest : List TemporalManifestEntry
  runtimeManifest : List TemporalManifestEntry
  corpusPropertyIds : List String
  propertyStates : List PropertyStateProjection
  exclusions : List String
  conflicts : List String
  freshnessState : String
  certificationState : CertificationState
  reproducible : Bool
  blockingConditions : List String
  comparisonEligible : Bool
  semanticHash : String
  recordHash : String
  deriving DecidableEq, Repr

/-- `getattr(snapshot, f"{kind}_manifest")`. -/
def CommunityStateSnapshot.manifest (snapshot : CommunityStateSnapshot) :
    Kind → List TemporalManifestEntry
  | .source => snapshot.sourceManifest
  | .policy => snapshot.policyManifest
  | .runtime => snapshot.runtimeManifest

/-! ## The registry -/

/-- What is read of a snapshot registry. -/
structure SnapshotRegistry where
  certificationRoot : String
  allowedFreshnessStates : List String
  comparisonEligibleFreshness : List String
  comparisonEligibleCertificationState : CertificationState

/-- `m13-001-community-state-snapshot-v1.0.yaml`. -/
def snapshotRegistry : SnapshotRegistry where
  certificationRoot := "e56a8d039c4e0324ff694d0ea8cd5a190f48be6bb8b761d761a41f8af96e2a35"
  allowedFreshnessStates := ["CURRENT", "CURRENT_WITH_LIMITATIONS", "STALE", "UNKNOWN"]
  comparisonEligibleFreshness := ["CURRENT", "CURRENT_WITH_LIMITATIONS"]
  comparisonEligibleCertificationState := .certified

/-! ## Payloads -/

/-- `_manifest_payload`. -/
def manifestPayload (entries : List TemporalManifestEntry) : Json :=
  .arr ((sortedBy TemporalManifestEntry.sortKey entries).map TemporalManifestEntry.asdict)

/-- `_property_payload`. -/
def propertyPayload (entries : List PropertyStateProjection) : Json :=
  .arr ((sortedBy PropertyStateProjection.propertyId entries).map PropertyStateProjection.asdict)

/-- `_semantic_payload`. -/
def semanticPayload (snapshot : CommunityStateSnapshot) : List (String × Json) :=
  [("community_id", .str snapshot.communityId),
    ("observation_time", .str snapshot.observationTime),
    ("knowledge_cutoff", .str snapshot.knowledgeCutoff),
    ("baseline_snapshot_id", .ofOptional snapshot.baselineSnapshotId),
    ("m12_release_certification_root", .str snapshot.m12ReleaseCertificationRoot),
    ("source_manifest", manifestPayload snapshot.sourceManifest),
    ("policy_manifest", manifestPayload snapshot.policyManifest),
    ("runtime_manifest", manifestPayload snapshot.runtimeManifest),
    ("corpus_property_ids", texts (sortedBy id snapshot.corpusPropertyIds)),
    ("property_states", propertyPayload snapshot.propertyStates),
    ("exclusions", texts (sortedBy id snapshot.exclusions)),
    ("conflicts", texts (sortedBy id snapshot.conflicts)),
    ("freshness_state", .str snapshot.freshnessState)]

/-- The payload of `record_hash`. -/
def recordPayload (snapshot : CommunityStateSnapshot) : Json :=
  .obj (semanticPayload snapshot ++ [("snapshot_id", .str snapshot.snapshotId),
      ("materialized_at", .str snapshot.materializedAt),
      ("certification_state", .str snapshot.certificationState.code),
      ("reproducible", .bool snapshot.reproducible),
      ("blocking_conditions", texts snapshot.blockingConditions),
      ("comparison_eligible", .bool snapshot.comparisonEligible),
      ("semantic_hash", .str snapshot.semanticHash)])

/-- `validate_snapshot_replay`. -/
def validateSnapshotReplay (snapshot : CommunityStateSnapshot) :
    Except String Bool := do
  let semanticHash ← hash (.obj (semanticPayload snapshot))
  return decide (semanticHash = snapshot.semanticHash)

/-! ## Building -/

/-- The arguments of `build_community_state_snapshot`. -/
structure SnapshotArguments where
  snapshotId : String
  communityId : String
  observationTime : String
  knowledgeCutoff : String
  materializedAt : String
  baselineSnapshotId : Option String
  m12ReleaseCertified : Bool
  m12ReleaseCertificationRoot : String
  sourceManifest : List TemporalManifestEntry
  policyManifest : List TemporalManifestEntry
  runtimeManifest : List TemporalManifestEntry
  propertyStates : List PropertyStateProjection
  exclusions : List String
  conflicts : List String
  freshnessState : String
  sourceDrift : Bool
  policyDrift : Bool
  runtimeDrift : Bool

/-- The entries of all manifests. -/
def SnapshotArguments.allManifest (arguments : SnapshotArguments) :
    List TemporalManifestEntry :=
  arguments.sourceManifest ++ arguments.policyManifest ++ arguments.runtimeManifest

/-- `_validate_manifest_temporality`, on one entry. -/
def validateEntryTemporality (fromisoformat : FromIsoformat) (observation cutoff : Int)
    (entry : TemporalManifestEntry) : Except String Unit := do
  let effective ← parseTs fromisoformat entry.effectiveAt "manifest effective_at"
  let known ← parseTs fromisoformat entry.knownAt "manifest known_at"
  require (effective ≤ observation)
    "future-effective source cannot enter snapshot"
  require (known ≤ cutoff) "knowledge cutoff violation"

/-- `_compute_blocking_conditions`. -/
def computeBlockingConditions
    (sourceDrift policyDrift runtimeDrift : Bool) (conflicts : List String)
    (reproducible : Bool) : List String :=
  sortedBy id (([(sourceDrift, "SOURCE_DRIFT"), (policyDrift, "POLICY_DRIFT"),
    (runtimeDrift, "RUNTIME_DRIFT"), (!conflicts.isEmpty, "UNRESOLVED_CONFLICT"),
    (!reproducible, "NONREPRODUCIBLE")].filter Prod.fst).map Prod.snd)

/-- The draft, before its hashes are known. -/
def draftSnapshot (arguments : SnapshotArguments) : CommunityStateSnapshot :=
  let properties := sortedBy PropertyStateProjection.propertyId arguments.propertyStates
  let conflicts := codeSet arguments.conflicts
  let reproducible := !(arguments.sourceDrift || arguments.policyDrift ||
    arguments.runtimeDrift)
  { snapshotId := Text.strip arguments.snapshotId
    communityId := Text.strip arguments.communityId
    observationTime := arguments.observationTime
    knowledgeCutoff := arguments.knowledgeCutoff
    materializedAt := arguments.materializedAt
    baselineSnapshotId := arguments.baselineSnapshotId
    m12ReleaseCertificationRoot := arguments.m12ReleaseCertificationRoot
    sourceManifest := sortedBy TemporalManifestEntry.sortKey arguments.sourceManifest
    policyManifest := sortedBy TemporalManifestEntry.sortKey arguments.policyManifest
    runtimeManifest := sortedBy TemporalManifestEntry.sortKey arguments.runtimeManifest
    corpusPropertyIds := properties.map PropertyStateProjection.propertyId
    propertyStates := properties
    exclusions := codeSet arguments.exclusions
    conflicts := conflicts
    freshnessState := arguments.freshnessState
    certificationState := .draft
    reproducible := reproducible
    blockingConditions := computeBlockingConditions arguments.sourceDrift
      arguments.policyDrift arguments.runtimeDrift conflicts reproducible
    comparisonEligible := false
    semanticHash := ""
    recordHash := "" }

/-- `build_community_state_snapshot`. -/
def buildCommunityStateSnapshot (fromisoformat : FromIsoformat) (registry : SnapshotRegistry)
    (arguments : SnapshotArguments) :
    Except String CommunityStateSnapshot := do
  require (Text.isBlank arguments.snapshotId = false ∧
      Text.isBlank arguments.communityId = false)
    "snapshot_id and community_id required"
  require (arguments.m12ReleaseCertified = true)
    "released certified M12 baseline required"
  require (arguments.m12ReleaseCertificationRoot = registry.certificationRoot)
    "M12 release certification root mismatch"
  validateFp arguments.m12ReleaseCertificationRoot "M12 release certification root"
  let observation ← parseTs fromisoformat arguments.observationTime "observation_time"
  let cutoff ← parseTs fromisoformat arguments.knowledgeCutoff "knowledge_cutoff"
  let materialized ← parseTs fromisoformat arguments.materializedAt "materialized_at"
  require (cutoff ≤ observation)
    "knowledge_cutoff cannot be after observation_time"
  require (cutoff ≤ materialized)
    "materialized_at cannot precede knowledge_cutoff"
  require (arguments.freshnessState ∈ registry.allowedFreshnessStates)
    "unsupported snapshot freshness state"
  let _ ← arguments.allManifest.mapM
    (validateEntryTemporality fromisoformat observation cutoff)
  require ((arguments.allManifest.map TemporalManifestEntry.identity).Nodup)
    "manifest entry identity must be unique across snapshot"
  require ((arguments.propertyStates.map PropertyStateProjection.propertyId).Nodup)
    "property projection must resolve exactly once per property"
  let draft := draftSnapshot arguments
  let semanticHash ← hash (.obj (semanticPayload draft))
  let recordHash ← hash (recordPayload { draft with semanticHash })
  return { draft with semanticHash, recordHash }

/-! ## Certifying -/

/-- `certify_snapshot`. -/
def certifySnapshot (registry : SnapshotRegistry) (snapshot : CommunityStateSnapshot) :
    Except String CommunityStateSnapshot := do
  require (snapshot.certificationState ∈ [CertificationState.draft, .validated])
    "only DRAFT or VALIDATED snapshot may be certified"
  let replays ← validateSnapshotReplay snapshot
  require (replays = true) "snapshot is nonreproducible"
  require (snapshot.blockingConditions = []) "snapshot has blocking conditions"
  let certified := { snapshot with
    certificationState := .certified
    comparisonEligible := decide (snapshot.freshnessState ∈ registry.comparisonEligibleFreshness) }
  let recordHash ← hash (recordPayload certified)
  return { certified with recordHash }

/-- `validate_comparison_eligibility`. -/
def validateComparisonEligibility
    (registry : SnapshotRegistry) (snapshot : CommunityStateSnapshot) :
    Except String Unit := do
  require (snapshot.certificationState = registry.comparisonEligibleCertificationState)
    "comparison requires CERTIFIED snapshot"
  require (snapshot.comparisonEligible = true)
    "snapshot is not comparison eligible"
  require (snapshot.blockingConditions = [])
    "blocked snapshot cannot be compared"
  let replays ← validateSnapshotReplay snapshot
  require (replays = true) "nonreproducible snapshot cannot be compared"

/-- What is eligible for comparison replays. -/
theorem validateSnapshotReplay_of_eligible
    {registry : SnapshotRegistry} {snapshot : CommunityStateSnapshot}
    (eligible : validateComparisonEligibility registry snapshot = .ok ()) :
    validateSnapshotReplay snapshot = .ok true := by
  simp only [validateComparisonEligibility, require_bind_eq_ok] at eligible
  obtain ⟨_, _, _, eligible⟩ := eligible
  obtain ⟨replays, replayed, required⟩ := bind_eq_ok.mp eligible
  rw [replayed, require_eq_ok.mp required]

end SanTanHeights.Community
