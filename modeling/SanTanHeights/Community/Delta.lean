import Mathlib.Data.List.MinMax
import SanTanHeights.Community.Snapshots

/-!
# Deltas between snapshots of a community

`build_community_delta` compares two certified snapshots field by field and
lists what it compared, with a classification, a cause and a materiality.
-/

namespace SanTanHeights.Community

open Foundation Foundation.Sorting Foundation.Outcome

/-! ## Vocabulary -/

inductive Scope where
  | community
  | property
  | manifest
  deriving DecidableEq, Repr

def Scope.code : Scope → String
  | community => "COMMUNITY"
  | property => "PROPERTY"
  | manifest => "MANIFEST"

inductive Domain where
  | community
  | property
  | identity
  | phase
  | locationDna
  | intelligence
  | governance
  | source
  | policy
  | runtime
  deriving DecidableEq, Repr

def Domain.code : Domain → String
  | community => "COMMUNITY"
  | property => "PROPERTY"
  | identity => "IDENTITY"
  | phase => "PHASE"
  | locationDna => "LOCATION_DNA"
  | intelligence => "INTELLIGENCE"
  | governance => "GOVERNANCE"
  | source => "SOURCE"
  | policy => "POLICY"
  | runtime => "RUNTIME"

inductive Classification where
  | unchanged
  | added
  | removed
  | modified
  | becameKnown
  | becameUnknown
  | conflictIntroduced
  | conflictResolved
  | suppressed
  | reactivated
  | notComparable
  deriving DecidableEq, Repr

def Classification.code : Classification → String
  | unchanged => "UNCHANGED"
  | added => "ADDED"
  | removed => "REMOVED"
  | modified => "MODIFIED"
  | becameKnown => "BECAME_KNOWN"
  | becameUnknown => "BECAME_UNKNOWN"
  | conflictIntroduced => "CONFLICT_INTRODUCED"
  | conflictResolved => "CONFLICT_RESOLVED"
  | suppressed => "SUPPRESSED"
  | reactivated => "REACTIVATED"
  | notComparable => "NOT_COMPARABLE"

/-- What a change holds before or after: `None`, a text, a tuple of codes, or
the dictionary of a projection or of a manifest entry. -/
inductive Value where
  | none
  | text (value : String)
  | codes (values : List String)
  | property (projection : PropertyStateProjection)
  | entry (given : TemporalManifestEntry)
  deriving DecidableEq, Repr

def Value.json : Value → Json
  | none => .null
  | text value => .str value
  | codes values => texts values
  | property projection => projection.asdict
  | entry given => given.asdict

/-- `set(value or ())`. -/
def Value.codeList : Value → List String
  | codes values => values
  | _ => []

structure ChangeCause where
  cause : String
  basis : String
  deriving DecidableEq, Repr

/-! ## The registry -/

/-- What is read of a delta registry. -/
structure DeltaRegistry where
  changeClassifications : List Classification
  changeCauses : List String
  causationBasis : List String
  materialityLevels : List String
  materialityVersion : String
  domainDefaults : Domain → Option String
  classificationOverrides : Classification → Option String
  potentialStalenessDomains : List Domain
  affectedObjectType : String

/-- `m13-002-community-delta-v1.0.yaml`. -/
def deltaRegistry : DeltaRegistry where
  changeClassifications :=
    [.unchanged, .added, .removed, .modified, .becameKnown, .becameUnknown,
      .conflictIntroduced, .conflictResolved, .suppressed, .reactivated, .notComparable]
  changeCauses :=
    ["REAL_WORLD_CHANGE", "NEWLY_OBSERVED_FACT", "SOURCE_CORRECTION",
      "PLATFORM_CORRECTION", "CLASSIFICATION_CHANGE", "ENGINE_CHANGE", "UNKNOWN"]
  causationBasis := ["DATA_DRIVEN", "RULE_DRIVEN", "ENGINE_DRIVEN", "MIXED", "UNKNOWN_CAUSE"]
  materialityLevels := ["INFORMATIONAL", "LOW", "MODERATE", "HIGH", "CRITICAL"]
  materialityVersion := "COMMUNITY-DELTA-MATERIALITY-v1.0"
  domainDefaults
    | .community => some "MODERATE"
    | .property => some "HIGH"
    | .identity => some "HIGH"
    | .phase => some "HIGH"
    | .locationDna => some "HIGH"
    | .intelligence => some "MODERATE"
    | .governance => some "HIGH"
    | .source => some "MODERATE"
    | .policy => some "HIGH"
    | .runtime => some "HIGH"
  classificationOverrides
    | .unchanged => some "INFORMATIONAL"
    | .conflictIntroduced => some "CRITICAL"
    | .conflictResolved => some "MODERATE"
    | .notComparable => some "CRITICAL"
    | _ => none
  potentialStalenessDomains := [.identity, .phase, .locationDna, .source, .policy, .runtime]
  affectedObjectType := "DERIVED_INTELLIGENCE"

/-! ## Changes -/

/-- What a change is about. -/
structure Subject where
  scope : Scope
  objectType : String
  objectId : String
  domain : Domain
  fieldPath : String
  beforeValue : Value
  afterValue : Value
  classification : Classification
  deriving DecidableEq, Repr

structure FieldChange extends Subject where
  changeId : String
  changeCause : String
  causationBasis : String
  firstObservedAt : String
  effectiveAt : String
  recordedAt : String
  detectedAt : String
  materiality : String
  sourceSnapshotIds : String × String
  sourceSemanticHashes : String × String
  evidenceFingerprints : List String
  potentiallyStale : Bool
  explanation : String
  changeFingerprint : String
  deriving DecidableEq, Repr

/-- What the fingerprint of a change covers. -/
def FieldChange.payload (change : FieldChange) : List (String × Json) :=
  [("change_id", .str change.changeId), ("scope", .str change.scope.code),
    ("object_type", .str change.objectType), ("object_id", .str change.objectId),
    ("domain", .str change.domain.code), ("field_path", .str change.fieldPath),
    ("before_value", change.beforeValue.json), ("after_value", change.afterValue.json),
    ("classification", .str change.classification.code),
    ("change_cause", .str change.changeCause),
    ("causation_basis", .str change.causationBasis),
    ("first_observed_at", .str change.firstObservedAt),
    ("effective_at", .str change.effectiveAt), ("recorded_at", .str change.recordedAt),
    ("detected_at", .str change.detectedAt), ("materiality", .str change.materiality),
    ("source_snapshot_ids", texts [change.sourceSnapshotIds.1, change.sourceSnapshotIds.2]),
    ("source_semantic_hashes",
      texts [change.sourceSemanticHashes.1, change.sourceSemanticHashes.2]),
    ("evidence_fingerprints", texts change.evidenceFingerprints),
    ("potentially_stale", .bool change.potentiallyStale),
    ("explanation", .str change.explanation)]

/-- `asdict(change)`. -/
def FieldChange.asdict (change : FieldChange) : Json :=
  .obj (change.payload ++ [("change_fingerprint", .str change.changeFingerprint)])

structure ImpactEdge where
  sourceChangeFingerprint : String
  affectedObjectType : String
  affectedObjectId : String
  reasonCode : String
  potentiallyStale : Bool
  edgeFingerprint : String
  deriving DecidableEq, Repr

/-- What the fingerprint of an edge covers. -/
def ImpactEdge.payload (edge : ImpactEdge) : List (String × Json) :=
  [("source_change_fingerprint", .str edge.sourceChangeFingerprint),
    ("affected_object_type", .str edge.affectedObjectType),
    ("affected_object_id", .str edge.affectedObjectId),
    ("reason_code", .str edge.reasonCode),
    ("potentially_stale", .bool edge.potentiallyStale)]

/-- `asdict(edge)`. -/
def ImpactEdge.asdict (edge : ImpactEdge) : Json :=
  .obj (edge.payload ++ [("edge_fingerprint", .str edge.edgeFingerprint)])

structure CommunityDelta where
  deltaId : String
  communityId : String
  beforeSnapshotId : String
  afterSnapshotId : String
  beforeSnapshotSemanticHash : String
  afterSnapshotSemanticHash : String
  beforeObservationTime : String
  afterObservationTime : String
  detectedAt : String
  materialityRulesVersion : String
  changes : List FieldChange
  impactEdges : List ImpactEdge
  highestMateriality : String
  lineageFingerprints : List String
  certificationState : CertificationState
  reproducible : Bool
  deltaFingerprint : String
  deriving DecidableEq, Repr

/-- What the fingerprint of a delta covers: always as a draft. -/
def CommunityDelta.payload (delta : CommunityDelta) : Json :=
  .obj [("delta_id", .str delta.deltaId), ("community_id", .str delta.communityId),
      ("before_snapshot_id", .str delta.beforeSnapshotId),
      ("after_snapshot_id", .str delta.afterSnapshotId),
      ("before_snapshot_semantic_hash", .str delta.beforeSnapshotSemanticHash),
      ("after_snapshot_semantic_hash", .str delta.afterSnapshotSemanticHash),
      ("before_observation_time", .str delta.beforeObservationTime),
      ("after_observation_time", .str delta.afterObservationTime),
      ("detected_at", .str delta.detectedAt),
      ("materiality_rules_version", .str delta.materialityRulesVersion),
      ("changes", .arr (delta.changes.map FieldChange.asdict)),
      ("impact_edges", .arr (delta.impactEdges.map ImpactEdge.asdict)),
      ("highest_materiality", .str delta.highestMateriality),
      ("lineage_fingerprints", texts delta.lineageFingerprints),
      ("certification_state", .str CertificationState.draft.code),
      ("reproducible", .bool true)]

/-! ## Rules -/

/-- `_cause_for`; where there are no overrides, no key has one. -/
def causeFor (registry : DeltaRegistry) (overrides : String → Option ChangeCause)
    (key : String) (inferred : Option ChangeCause) :
    Except String ChangeCause :=
  match overrides key with
  | some value => do
      require (value.cause ∈ registry.changeCauses) "unsupported change cause"
      require (value.basis ∈ registry.causationBasis)
        "unsupported causation basis"
      return value
  | none => return inferred.getD ⟨"UNKNOWN", "UNKNOWN_CAUSE"⟩

/-- `_effective_at`. -/
def effectiveAt (fromisoformat : FromIsoformat) (overrides : String → Option String)
    (key : String) (exact : Option String) : Except String String :=
  match exact with
  | some value => do
      let _ ← parseTs fromisoformat value "effective_at"
      return value
  | none =>
      match overrides key with
      | none => return "UNKNOWN"
      | some value =>
          if value = "UNKNOWN" then return value
          else do
            let _ ← parseTs fromisoformat value "effective_at"
            return value

/-- The level that the rules give: that of the classification, if it has one,
and else that of the domain. -/
def materialityRule (registry : DeltaRegistry) (domain : Domain)
    (classification : Classification) : Except String String :=
  match registry.classificationOverrides classification with
  | some level => .ok level
  | none => orRaise (registry.domainDefaults domain) domain.code

/-- `_materiality`. -/
def materiality (registry : DeltaRegistry) (domain : Domain)
    (classification : Classification) : Except String String := do
  let result ← materialityRule registry domain classification
  require (result ∈ registry.materialityLevels)
    "materiality rule produced unsupported value"
  return result

/-- `_classify_value`. -/
def classifyValue (fieldPath : String) (before after : Value) : Classification :=
  if before = after then .unchanged
  else if fieldPath = "freshness_state" ∧ before = .text "UNKNOWN" then
    .becameKnown
  else if fieldPath = "freshness_state" ∧ after = .text "UNKNOWN" then
    .becameUnknown
  else if fieldPath = "conflict_codes" ∧ before.codeList = [] ∧
      after.codeList ≠ [] then .conflictIntroduced
  else if fieldPath = "conflict_codes" ∧ before.codeList ≠ [] ∧
      after.codeList = [] then .conflictResolved
  else if fieldPath = "exclusion_codes" ∧
      (∃ code ∈ after.codeList, code ∉ before.codeList) ∧
      (∀ code ∈ before.codeList, code ∈ after.codeList) then .suppressed
  else if fieldPath = "exclusion_codes" ∧
      (∃ code ∈ before.codeList, code ∉ after.codeList) ∧
      (∀ code ∈ after.codeList, code ∈ before.codeList) then .reactivated
  else .modified

/-- `_explanation`. -/
def explanation (subject : Subject) : String :=
  subject.objectType ++ " " ++ subject.objectId ++ " field " ++
    subject.fieldPath ++ " classified as " ++ subject.classification.code ++
    "."

/-! ## Drafts -/

/-- A change before it is made: its subject, its cause, and where the rest is
looked up. -/
structure Draft where
  subject : Subject
  cause : Except String ChangeCause
  causeKey : String
  evidence : List String
  exactEffectiveAt : Option String

/-- The arguments of `build_community_delta`, the registries apart. -/
structure DeltaArguments where
  deltaId : String
  before : CommunityStateSnapshot
  after : CommunityStateSnapshot
  detectedAt : String
  causeOverrides : String → Option ChangeCause
  effectiveAtOverrides : String → Option String

/-- The fields of a snapshot that are compared as a whole. -/
inductive CommunityField where
  | freshnessState
  | exclusions
  | conflicts
  deriving DecidableEq, Repr

namespace CommunityField

def path : CommunityField → String
  | freshnessState => "freshness_state"
  | exclusions => "exclusions"
  | conflicts => "conflicts"

/-- The path under which a change of the field is classified. -/
def classifiedAs : CommunityField → String
  | freshnessState => "freshness_state"
  | exclusions => "exclusion_codes"
  | conflicts => "conflict_codes"

def domain : CommunityField → Domain
  | freshnessState => .community
  | exclusions => .governance
  | conflicts => .governance

/-- `getattr(snapshot, field_path)`. -/
def value (snapshot : CommunityStateSnapshot) : CommunityField → Value
  | freshnessState => .text snapshot.freshnessState
  | exclusions => .codes snapshot.exclusions
  | conflicts => .codes snapshot.conflicts

end CommunityField

/-- `community_fields`. -/
def communityFields : List CommunityField :=
  [.freshnessState, .exclusions, .conflicts]

/-- The fields of a projection that are compared. -/
inductive PropertyField where
  | identityFingerprint
  | phaseFingerprint
  | spatialFingerprint
  | intelligenceFingerprint
  | freshnessState
  | exclusionCodes
  | conflictCodes
  deriving DecidableEq, Repr

namespace PropertyField

def path : PropertyField → String
  | identityFingerprint => "identity_fingerprint"
  | phaseFingerprint => "phase_fingerprint"
  | spatialFingerprint => "spatial_fingerprint"
  | intelligenceFingerprint => "intelligence_fingerprint"
  | freshnessState => "freshness_state"
  | exclusionCodes => "exclusion_codes"
  | conflictCodes => "conflict_codes"

def domain : PropertyField → Domain
  | identityFingerprint => .identity
  | phaseFingerprint => .phase
  | spatialFingerprint => .locationDna
  | intelligenceFingerprint => .intelligence
  | freshnessState => .intelligence
  | exclusionCodes => .governance
  | conflictCodes => .governance

/-- `getattr(projection, field_path)`. -/
def value (projection : PropertyStateProjection) : PropertyField → Value
  | identityFingerprint => .text projection.identityFingerprint
  | phaseFingerprint => .text projection.phaseFingerprint
  | spatialFingerprint => .text projection.spatialFingerprint
  | intelligenceFingerprint => .text projection.intelligenceFingerprint
  | freshnessState => .text projection.freshnessState
  | exclusionCodes => .codes projection.exclusionCodes
  | conflictCodes => .codes projection.conflictCodes

end PropertyField

/-- `_PROPERTY_FIELDS`. -/
def propertyFields : List PropertyField :=
  [.identityFingerprint, .phaseFingerprint, .spatialFingerprint,
    .intelligenceFingerprint, .freshnessState, .exclusionCodes, .conflictCodes]

/-- The subject of the change of a snapshot's field. -/
def communitySubject (before after : CommunityStateSnapshot) (field : CommunityField) :
    Subject where
  scope := .community
  objectType := "COMMUNITY"
  objectId := before.communityId
  domain := field.domain
  fieldPath := field.path
  beforeValue := field.value before
  afterValue := field.value after
  classification := classifyValue field.classifiedAs (field.value before) (field.value after)

/-- The subject of a property that is added or removed. -/
def wholePropertySubject (propertyId : String) (before after : Value)
    (classification : Classification) : Subject where
  scope := .property
  objectType := "PROPERTY"
  objectId := propertyId
  domain := .property
  fieldPath := "property"
  beforeValue := before
  afterValue := after
  classification := classification

/-- The subject of the change of a projection's field. -/
def propertySubject (propertyId : String) (before after : PropertyStateProjection)
    (field : PropertyField) : Subject where
  scope := .property
  objectType := "PROPERTY"
  objectId := propertyId
  domain := field.domain
  fieldPath := field.path
  beforeValue := field.value before
  afterValue := field.value after
  classification := classifyValue field.path (field.value before) (field.value after)

section Drafts

variable (registry : DeltaRegistry) (arguments : DeltaArguments)

def communityDraft (field : CommunityField) : Draft :=
  let key := "COMMUNITY:" ++ arguments.before.communityId ++ ":" ++ field.path
  { subject := communitySubject arguments.before arguments.after field
    cause := causeFor registry arguments.causeOverrides key none
    causeKey := key
    evidence := [arguments.before.semanticHash, arguments.after.semanticHash]
    exactEffectiveAt := none }

/-- A draft about a property. -/
def draftOfProperty (propertyId : String) (subject : Subject) (evidence : List String) :
    Draft :=
  let key := "PROPERTY:" ++ propertyId ++ ":" ++ subject.fieldPath
  { subject := subject
    cause := causeFor registry arguments.causeOverrides key none
    causeKey := key
    evidence := evidence
    exactEffectiveAt := none }

/-- The body of the loop over the properties. -/
def propertyDrafts (propertyId : String) :
    Option PropertyStateProjection → Option PropertyStateProjection → List Draft
  | none, none => []
  | none, some after =>
      [draftOfProperty registry arguments propertyId
        (wholePropertySubject propertyId .none (.property after) .added)
        [after.projectionFingerprint]]
  | some before, none =>
      [draftOfProperty registry arguments propertyId
        (wholePropertySubject propertyId (.property before) .none .removed)
        [before.projectionFingerprint]]
  | some before, some after =>
      propertyFields.map fun field =>
        draftOfProperty registry arguments propertyId
          (propertySubject propertyId before after field)
          [before.projectionFingerprint, after.projectionFingerprint]

end Drafts

/-! ## Manifests -/

/-- `_manifest_domain`. -/
def Kind.domain : Kind → Domain
  | source => .source
  | policy => .policy
  | runtime => .runtime

def Kind.objectType (kind : Kind) : String :=
  kind.domain.code ++ "_MANIFEST_ENTRY"

/-- `f"{identity[0]}:{identity[1]}"`. -/
def identityText (identity : String ×ₗ String) : String :=
  (ofLex identity).1 ++ ":" ++ (ofLex identity).2

/-- The cause of an entry that is known only now. -/
def newlyObservedFact : ChangeCause :=
  ⟨"NEWLY_OBSERVED_FACT", "DATA_DRIVEN"⟩

/-- The subject of a change of a manifest entry. -/
def entrySubject (kind : Kind) (identity : String ×ₗ String) (before after : Value)
    (classification : Classification) : Subject where
  scope := .manifest
  objectType := kind.objectType
  objectId := identityText identity
  domain := kind.domain
  fieldPath := "manifest_entry"
  beforeValue := before
  afterValue := after
  classification := classification

section Manifests

variable (fromisoformat : FromIsoformat)

/-- `_manifest_inferred_cause`. -/
def manifestInferredCause (before : CommunityStateSnapshot) (kind : Kind)
    (beforeEntry afterEntry : Option TemporalManifestEntry) :
    Except String (Option ChangeCause) :=
  match kind, beforeEntry, afterEntry with
  | .policy, _, _ => return some ⟨"CLASSIFICATION_CHANGE", "RULE_DRIVEN"⟩
  | .runtime, _, _ => return some ⟨"ENGINE_CHANGE", "ENGINE_DRIVEN"⟩
  | .source, none, some entry => do
      let known ← parseTs fromisoformat entry.knownAt "manifest known_at"
      let effective ← parseTs fromisoformat entry.effectiveAt "manifest effective_at"
      let oldCutoff ← parseTs fromisoformat before.knowledgeCutoff "knowledge_cutoff"
      let oldObservation ← parseTs fromisoformat before.observationTime "observation_time"
      if oldCutoff < known ∧ effective ≤ oldObservation then
        return some newlyObservedFact
      else return none
  | .source, _, _ => return none

/-- Whether an added entry is classified as one that became known. -/
def newlyObserved (before : CommunityStateSnapshot) (kind : Kind)
    (entry : TemporalManifestEntry) : Bool :=
  match manifestInferredCause fromisoformat before kind none (some entry) with
  | .ok (some inferred) => inferred.cause == "NEWLY_OBSERVED_FACT"
  | _ => false

variable (registry : DeltaRegistry) (arguments : DeltaArguments)

/-- A draft about a manifest entry. -/
def draftOfEntry (kind : Kind) (identity : String ×ₗ String)
    (beforeEntry afterEntry : Option TemporalManifestEntry)
    (subject : Subject) (evidence : List String) (exactEffectiveAt : Option String) : Draft :=
  let key := kind.domain.code ++ ":" ++ identityText identity ++ ":fingerprint"
  { subject := subject
    cause := do
      let inferred ← manifestInferredCause fromisoformat arguments.before
        kind beforeEntry afterEntry
      causeFor registry arguments.causeOverrides key inferred
    causeKey := key
    evidence := evidence
    exactEffectiveAt := exactEffectiveAt }

/-- The body of the loop over the entries of a manifest. -/
def manifestDrafts (kind : Kind) (identity : String ×ₗ String) :
    Option TemporalManifestEntry → Option TemporalManifestEntry → List Draft
  | none, none => []
  | none, some after =>
      [draftOfEntry fromisoformat registry arguments kind identity none (some after)
        (entrySubject kind identity .none (.entry after)
          (if newlyObserved fromisoformat arguments.before kind after then
            .becameKnown
          else .added))
        [after.fingerprint] (some after.effectiveAt)]
  | some before, none =>
      [draftOfEntry fromisoformat registry arguments kind identity (some before) none
        (entrySubject kind identity (.entry before) .none .removed)
        [before.fingerprint] none]
  | some before, some after =>
      [draftOfEntry fromisoformat registry arguments kind identity
        (some before) (some after)
        (entrySubject kind identity (.entry before) (.entry after)
          (if before = after then .unchanged else .modified))
        [before.fingerprint, after.fingerprint]
        (some (if before = after then before.effectiveAt
          else after.effectiveAt))]

/-! ## Changes of a delta -/

/-- Everything that is compared, in the order of the source.  In a dictionary
that is filled from rows the last row of a key counts. -/
def drafts : List Draft :=
  communityFields.map (communityDraft registry arguments) ++
    (Merging.merge PropertyStateProjection.propertyId (propertyDrafts registry arguments)
      arguments.before.propertyStates.reverse arguments.after.propertyStates.reverse ++
    kinds.flatMap fun kind =>
      Merging.merge TemporalManifestEntry.identity
        (manifestDrafts fromisoformat registry arguments kind)
        (arguments.before.manifest kind).reverse
        (arguments.after.manifest kind).reverse)

/-- `f"{ordinal:06d}"`. -/
def ordinalText (ordinal : Nat) : String :=
  let digits := Nat.repr ordinal
  String.ofList (List.replicate (6 - digits.length) '0') ++ digits

/-- A change, before its fingerprint is known. -/
def changeRecord (ordinal : Nat) (draft : Draft) (cause : ChangeCause)
    (materiality effectiveAt : String) : FieldChange :=
  let subject := draft.subject
  { subject with
    changeId := arguments.deltaId ++ ":C" ++ ordinalText ordinal
    changeCause := cause.cause
    causationBasis := cause.basis
    firstObservedAt := arguments.after.observationTime
    effectiveAt := effectiveAt
    recordedAt := arguments.after.materializedAt
    detectedAt := arguments.detectedAt
    materiality := materiality
    sourceSnapshotIds := (arguments.before.snapshotId, arguments.after.snapshotId)
    sourceSemanticHashes := (arguments.before.semanticHash, arguments.after.semanticHash)
    evidenceFingerprints := sortedBy id draft.evidence.dedup
    potentiallyStale := decide (subject.classification ≠ .unchanged ∧
      subject.domain ∈ registry.potentialStalenessDomains)
    explanation := explanation subject
    changeFingerprint := "" }

/-- `_make_change`, once the cause is known. -/
def makeChange (ordinal : Nat) (draft : Draft) :
    Except String FieldChange := do
  let cause ← draft.cause
  require (draft.subject.classification ∈ registry.changeClassifications)
    "unsupported change classification"
  let level ← materiality registry draft.subject.domain
    draft.subject.classification
  let effective ← effectiveAt fromisoformat arguments.effectiveAtOverrides
    draft.causeKey draft.exactEffectiveAt
  let change := changeRecord registry arguments ordinal draft cause level effective
  let fingerprint ← hash (.obj change.payload)
  return { change with changeFingerprint := fingerprint }

/-- The changes in the order in which they are made. -/
def madeChanges : Except String (List FieldChange) :=
  (drafts fromisoformat registry arguments).zipIdx.mapM fun numbered =>
    makeChange fromisoformat registry arguments (numbered.2 + 1) numbered.1

end Manifests

/-- A change is made just when its parts are known. -/
theorem makeChange_eq_ok_iff {fromisoformat : FromIsoformat} {registry : DeltaRegistry}
    {arguments : DeltaArguments} {ordinal : Nat} {draft : Draft} {change : FieldChange} :
    makeChange fromisoformat registry arguments ordinal draft = .ok change ↔
      ∃ cause, draft.cause = .ok cause ∧
        draft.subject.classification ∈ registry.changeClassifications ∧
          ∃ level, materiality registry draft.subject.domain
              draft.subject.classification = .ok level ∧
            ∃ effective, effectiveAt fromisoformat
                arguments.effectiveAtOverrides draft.causeKey
                draft.exactEffectiveAt = .ok effective ∧
              ∃ fingerprint, hash (.obj (changeRecord registry arguments
                  ordinal draft cause level effective).payload) = .ok fingerprint ∧
                { changeRecord registry arguments ordinal draft cause level
                    effective with changeFingerprint := fingerprint } =
                  change := by
  simp only [makeChange, bind_eq_ok, require_eq_ok, exists_const, pure_eq_ok]

/-- Where a change is: its key in the order of the changes. -/
def Subject.location (subject : Subject) : String ×ₗ String ×ₗ String ×ₗ String :=
  toLex (subject.scope.code, toLex (subject.objectType,
    toLex (subject.objectId, subject.fieldPath)))

/-- The edge of a change, before its fingerprint is known. -/
def edgeRecord (registry : DeltaRegistry) (change : FieldChange) : ImpactEdge where
  sourceChangeFingerprint := change.changeFingerprint
  affectedObjectType := registry.affectedObjectType
  affectedObjectId :=
    if change.scope = .property then change.objectId else "COMMUNITY"
  reasonCode := change.domain.code ++ "_CHANGE_MAY_STALE_DERIVED_STATE"
  potentiallyStale := true
  edgeFingerprint := ""

/-- `_impact_edge`. -/
def impactEdge (registry : DeltaRegistry) (change : FieldChange) :
    Except String (Option ImpactEdge) :=
  if change.potentiallyStale = true then do
    let edge := edgeRecord registry change
    let fingerprint ← hash (.obj edge.payload)
    return some { edge with edgeFingerprint := fingerprint }
  else return none

/-- The order of the edges. -/
def ImpactEdge.sortKey (edge : ImpactEdge) : String ×ₗ String ×ₗ String :=
  toLex (edge.affectedObjectType, toLex (edge.affectedObjectId, edge.sourceChangeFingerprint))

/-- `_MATERIALITY_ORDER`. -/
def materialityOrder : String → Option Nat
  | "INFORMATIONAL" => some 0
  | "LOW" => some 1
  | "MODERATE" => some 2
  | "HIGH" => some 3
  | "CRITICAL" => some 4
  | _ => none

/-- The first of the highest materialities. -/
def highestMateriality (levels : List String) : Except String String := do
  let ranked ← levels.mapM fun level =>
    (orRaise (materialityOrder level) level).map fun rank => (level, rank)
  return ((ranked.argmax Prod.snd).map Prod.fst).getD "INFORMATIONAL"

/-- The lineage of a delta. -/
def lineage (before after : CommunityStateSnapshot) (changes : List FieldChange) :
    List String :=
  sortedBy id ([before.semanticHash, before.recordHash, after.semanticHash,
    after.recordHash, before.m12ReleaseCertificationRoot] ++
      changes.flatMap FieldChange.evidenceFingerprints).dedup

/-! ## Building -/

/-- The draft of a delta, before its fingerprint is known. -/
def deltaRecord (registry : DeltaRegistry) (arguments : DeltaArguments)
    (changes : List FieldChange) (edges : List (Option ImpactEdge))
    (highest : String) : CommunityDelta :=
  let before := arguments.before
  let after := arguments.after
  { deltaId := arguments.deltaId
    communityId := before.communityId
    beforeSnapshotId := before.snapshotId
    afterSnapshotId := after.snapshotId
    beforeSnapshotSemanticHash := before.semanticHash
    afterSnapshotSemanticHash := after.semanticHash
    beforeObservationTime := before.observationTime
    afterObservationTime := after.observationTime
    detectedAt := arguments.detectedAt
    materialityRulesVersion := registry.materialityVersion
    changes := changes
    impactEdges := sortedBy ImpactEdge.sortKey edges.reduceOption
    highestMateriality := highest
    lineageFingerprints := lineage before after changes
    certificationState := .draft
    reproducible := true
    deltaFingerprint := "" }

/-- `build_community_delta`. -/
def buildCommunityDelta (fromisoformat : FromIsoformat)
    (snapshotRegistry : SnapshotRegistry) (deltaRegistry : DeltaRegistry)
    (arguments : DeltaArguments) : Except String CommunityDelta := do
  let before := arguments.before
  let after := arguments.after
  require (Text.isBlank arguments.deltaId = false) "delta_id required"
  validateComparisonEligibility snapshotRegistry before
  validateComparisonEligibility snapshotRegistry after
  let beforeReplays ← validateSnapshotReplay before
  let afterReplays ← validateSnapshotReplay after
  require (beforeReplays = true ∧ afterReplays = true)
    "snapshot replay validation failed"
  require (before.communityId = after.communityId) "snapshot community mismatch"
  require (before.m12ReleaseCertificationRoot = after.m12ReleaseCertificationRoot)
    "snapshot M12 lineage mismatch"
  let beforeObserved ← parseTs fromisoformat before.observationTime
    "before observation_time"
  let afterObserved ← parseTs fromisoformat after.observationTime
    "after observation_time"
  let detected ← parseTs fromisoformat arguments.detectedAt "detected_at"
  require (beforeObserved < afterObserved)
    "after snapshot must be chronologically later"
  require (afterObserved ≤ detected)
    "detected_at cannot precede after observation_time"
  let made ← madeChanges fromisoformat deltaRegistry arguments
  let changes := sortedBy (fun change : FieldChange => change.location) made
  let edges ← changes.mapM (impactEdge deltaRegistry)
  let highest ← highestMateriality
    ((changes.filter fun change => change.classification ≠ .unchanged).map FieldChange.materiality)
  let delta := deltaRecord deltaRegistry arguments changes edges highest
  let fingerprint ← hash delta.payload
  return { delta with deltaFingerprint := fingerprint }

/-- The checks of the arguments of a delta. -/
structure DeltaArguments.Comparable
    (fromisoformat : FromIsoformat) (registry : SnapshotRegistry)
    (arguments : DeltaArguments) : Prop where
  identified : Text.isBlank arguments.deltaId = false
  beforeEligible : validateComparisonEligibility registry arguments.before = .ok ()
  afterEligible : validateComparisonEligibility registry arguments.after = .ok ()
  community : arguments.before.communityId = arguments.after.communityId
  root : arguments.before.m12ReleaseCertificationRoot = arguments.after.m12ReleaseCertificationRoot
  times : ∃ beforeObserved afterObserved detected,
    fromisoformat arguments.before.observationTime =
        some (some beforeObserved) ∧
      fromisoformat arguments.after.observationTime =
          some (some afterObserved) ∧
        fromisoformat arguments.detectedAt = some (some detected) ∧
          beforeObserved < afterObserved ∧ afterObserved ≤ detected

/-- A delta is built just when its arguments can be compared and its changes
and edges can be made. -/
theorem buildCommunityDelta_eq_ok_iff {fromisoformat : FromIsoformat}
    {snapshotRegistry : SnapshotRegistry} {registry : DeltaRegistry}
    {arguments : DeltaArguments} {delta : CommunityDelta} :
    buildCommunityDelta fromisoformat snapshotRegistry registry arguments =
        .ok delta ↔
      arguments.Comparable fromisoformat snapshotRegistry ∧
        ∃ made, madeChanges fromisoformat registry arguments = .ok made ∧
          ∃ edges, (sortedBy (fun change : FieldChange => change.location)
              made).mapM (impactEdge registry) = .ok edges ∧
            ∃ highest, highestMateriality
                (((sortedBy (fun change : FieldChange => change.location)
                  made).filter fun change =>
                    change.classification ≠ .unchanged).map FieldChange.materiality) = .ok highest ∧
              ∃ fingerprint, hash (deltaRecord registry arguments
                  (sortedBy (fun change : FieldChange => change.location)
                    made) edges highest).payload = .ok fingerprint ∧
                { deltaRecord registry arguments
                    (sortedBy (fun change : FieldChange => change.location) made) edges highest with
                  deltaFingerprint := fingerprint } = delta := by
  constructor
  · intro built
    simp only [buildCommunityDelta, require_bind_eq_ok] at built
    obtain ⟨identified, built⟩ := built
    obtain ⟨⟨⟩, beforeEligible, built⟩ := bind_eq_ok.mp built
    obtain ⟨⟨⟩, afterEligible, built⟩ := bind_eq_ok.mp built
    obtain ⟨_, _, built⟩ := bind_eq_ok.mp built
    obtain ⟨_, _, built⟩ := bind_eq_ok.mp built
    simp only [require_bind_eq_ok] at built
    obtain ⟨_, community, root, built⟩ := built
    obtain ⟨beforeObserved, beforeParsed, built⟩ := bind_eq_ok.mp built
    obtain ⟨afterObserved, afterParsed, built⟩ := bind_eq_ok.mp built
    obtain ⟨detected, detectedParsed, built⟩ := bind_eq_ok.mp built
    simp only [require_bind_eq_ok] at built
    obtain ⟨later, detectedLater, built⟩ := built
    simp only [bind_eq_ok, pure_eq_ok] at built
    refine ⟨⟨identified, beforeEligible, afterEligible, community, root,
      beforeObserved, afterObserved, detected, ?_⟩, built⟩
    exact ⟨parseTs_eq_ok.mp beforeParsed, parseTs_eq_ok.mp afterParsed,
      parseTs_eq_ok.mp detectedParsed, later, detectedLater⟩
  · rintro ⟨comparable, built⟩
    obtain ⟨beforeObserved, afterObserved, detected, beforeParsed,
      afterParsed, detectedParsed, later, detectedLater⟩ := comparable.times
    simp only [buildCommunityDelta, require_bind_eq_ok]
    refine ⟨comparable.identified, ?_⟩
    refine bind_eq_ok.mpr ⟨(), comparable.beforeEligible, ?_⟩
    refine bind_eq_ok.mpr ⟨(), comparable.afterEligible, ?_⟩
    refine bind_eq_ok.mpr ⟨true, validateSnapshotReplay_of_eligible comparable.beforeEligible, ?_⟩
    refine bind_eq_ok.mpr ⟨true, validateSnapshotReplay_of_eligible comparable.afterEligible, ?_⟩
    simp only [require_bind_eq_ok]
    refine ⟨⟨trivial, trivial⟩, comparable.community, comparable.root, ?_⟩
    refine bind_eq_ok.mpr ⟨_, parseTs_eq_ok.mpr beforeParsed, ?_⟩
    refine bind_eq_ok.mpr ⟨_, parseTs_eq_ok.mpr afterParsed, ?_⟩
    refine bind_eq_ok.mpr ⟨_, parseTs_eq_ok.mpr detectedParsed, ?_⟩
    simp only [require_bind_eq_ok]
    refine ⟨later, detectedLater, ?_⟩
    simp only [bind_eq_ok, pure_eq_ok]
    exact built

/-- `validate_delta_replay`. -/
def validateDeltaReplay (delta : CommunityDelta) : Except String Bool := do
  let fingerprint ← hash delta.payload
  return decide (fingerprint = delta.deltaFingerprint)

/-- `certify_delta`. -/
def certifyDelta (delta : CommunityDelta) : Except String CommunityDelta := do
  require (delta.certificationState = .draft)
    "only DRAFT delta may be certified"
  let replays ← validateDeltaReplay delta
  require (replays = true) "delta is nonreproducible"
  require (∀ change ∈ delta.changes, change.classification ≠ .notComparable)
    "NOT_COMPARABLE change blocks delta certification"
  return { delta with certificationState := .certified }

end SanTanHeights.Community
