import SanTanHeights.Community.Acceptance

/-!
# Selective refresh

`build_selective_refresh_plan` decides for every derived record whether a
certified delta makes it stale, by a table of the artifact types that depend on
each domain, and `apply_selective_refresh` exchanges the stale records.
-/

namespace SanTanHeights.Community

open Foundation Foundation.Sorting Foundation.Outcome

/-! ## The registry -/

/-- What is read of a refresh registry.  The sections are those that the
fingerprint of the policy covers. -/
structure RefreshRegistry where
  acceptedDeltaState : CertificationState
  refreshRequiredClassifications : List Classification
  allowedCurrentCertificationStates : List String
  allowedReplacementCertificationStates : List String
  dependencyRules : Domain → List String
  policy : Json
  dependencyRulesSection : Json
  scopeRules : Json
  governance : Json

/-- The artifact types of the rules. -/
def artifactTypes : List String :=
  ["COMPARABLE_STRENGTH", "BUYER_DEPTH", "SCARCITY", "RESALE_COMPETITION",
    "NEW_CONSTRUCTION_COMPETITION", "SELLER_INTELLIGENCE"]

/-- `dependency_rules.get(domain, ())`. -/
def frozenDependencyRules : Domain → List String
  | .identity => artifactTypes
  | .phase =>
      ["COMPARABLE_STRENGTH", "BUYER_DEPTH", "SCARCITY", "SELLER_INTELLIGENCE"]
  | .locationDna => ["COMPARABLE_STRENGTH", "SCARCITY", "SELLER_INTELLIGENCE"]
  | .source => artifactTypes
  | .policy => artifactTypes
  | .runtime => artifactTypes
  | .governance => ["SELLER_INTELLIGENCE"]
  | .property => artifactTypes
  | .community =>
      ["RESALE_COMPETITION", "NEW_CONSTRUCTION_COMPETITION", "SELLER_INTELLIGENCE"]
  | .intelligence => []

/-- The classifications that require a refresh. -/
def frozenRefreshRequired : List Classification :=
  [.added, .removed, .modified, .becameKnown, .becameUnknown,
    .conflictIntroduced, .conflictResolved, .suppressed, .reactivated]

/-- `m13-003-impact-refresh-v1.0.yaml`. -/
def refreshRegistry : RefreshRegistry where
  acceptedDeltaState := .certified
  refreshRequiredClassifications := frozenRefreshRequired
  allowedCurrentCertificationStates := ["CERTIFIED"]
  allowedReplacementCertificationStates := ["CERTIFIED"]
  dependencyRules := frozenDependencyRules
  policy := .obj [("accepted_delta_state", .str "CERTIFIED"),
      ("refresh_required_classifications", texts (frozenRefreshRequired.map Classification.code)),
      ("ignored_classifications", texts ["UNCHANGED"]),
      ("allowed_current_certification_states", texts ["CERTIFIED"]),
      ("allowed_replacement_certification_states", texts ["CERTIFIED"]),
      ("exact_after_snapshot_binding_required", .bool true)]
  dependencyRulesSection := .obj [("IDENTITY", texts artifactTypes),
      ("PHASE", texts (frozenDependencyRules .phase)),
      ("LOCATION_DNA", texts (frozenDependencyRules .locationDna)),
      ("SOURCE", texts artifactTypes), ("POLICY", texts artifactTypes),
      ("RUNTIME", texts artifactTypes),
      ("GOVERNANCE", texts (frozenDependencyRules .governance)),
      ("PROPERTY", texts artifactTypes),
      ("COMMUNITY", texts (frozenDependencyRules .community))]
  scopeRules := .obj [("PROPERTY", .obj [("target_scope", .str "PROPERTY")]),
      ("COMMUNITY", .obj [("target_scope", .str "COMMUNITY")]),
      ("MANIFEST", .obj [("target_scope", .str "COMMUNITY")])]
  governance := .obj [("authoritative_replacement_only", .bool true),
      ("unchanged_records_preserved_exactly", .bool true),
      ("refresh_without_dependency_prohibited", .bool true),
      ("missing_refresh_replacement_blocks", .bool true),
      ("duplicate_artifact_ids_prohibited", .bool true),
      ("exact_no_impact_reason_required", .bool true),
      ("exact_refresh_reason_required", .bool true), ("deterministic_output", .bool true)]

/-! ## Records -/

structure DerivedIntelligenceRecord where
  artifactId : String
  artifactType : String
  scope : String
  scopeId : String
  sourceSnapshotSemanticHash : String
  payloadFingerprint : String
  certificationState : String
  lineageFingerprints : List String
  recordFingerprint : String
  deriving DecidableEq, Repr

/-- What the fingerprint of a record covers. -/
def DerivedIntelligenceRecord.payload (record : DerivedIntelligenceRecord) :
    List (String × Json) :=
  [("artifact_id", .str record.artifactId), ("artifact_type", .str record.artifactType),
    ("scope", .str record.scope), ("scope_id", .str record.scopeId),
    ("source_snapshot_semantic_hash", .str record.sourceSnapshotSemanticHash),
    ("payload_fingerprint", .str record.payloadFingerprint),
    ("certification_state", .str record.certificationState),
    ("lineage_fingerprints", texts record.lineageFingerprints)]

/-- `asdict(record)`. -/
def DerivedIntelligenceRecord.asdict (record : DerivedIntelligenceRecord) : Json :=
  .obj (record.payload ++ [("record_fingerprint", .str record.recordFingerprint)])

/-- `_validate_fp` of the refresh. -/
def validateRecordFp (value label : String) : Except String Unit :=
  require (Sha256.isHex64 value = true) (label ++ " must be lowercase sha256")

/-- `make_derived_record`; the fingerprint of the argument is not read. -/
def makeDerivedRecord (given : DerivedIntelligenceRecord) :
    Except String DerivedIntelligenceRecord := do
  require (Text.isBlank given.artifactId = false ∧ Text.isBlank given.artifactType = false ∧
      Text.isBlank given.scope = false ∧ Text.isBlank given.scopeId = false)
    "artifact identity and scope are required"
  require (given.scope ∈ ["PROPERTY", "COMMUNITY"])
    "unsupported derived record scope"
  validateRecordFp given.sourceSnapshotSemanticHash "source snapshot semantic hash"
  validateRecordFp given.payloadFingerprint "payload fingerprint"
  let lineage := sortedBy id given.lineageFingerprints.dedup
  let _ ← lineage.mapM fun fingerprint =>
    validateRecordFp fingerprint "lineage fingerprint"
  let record := { given with lineageFingerprints := lineage }
  let fingerprint ← hash (.obj record.payload)
  return { record with recordFingerprint := fingerprint }

/-! ## Decisions -/

/-- The decisions about a record. -/
inductive Decision where
  | refreshRequired
  | noImpact
  deriving DecidableEq, Repr

def Decision.code : Decision → String
  | refreshRequired => "REFRESH_REQUIRED"
  | noImpact => "NO_IMPACT"

structure RefreshDecision where
  artifactId : String
  artifactType : String
  scope : String
  scopeId : String
  decision : Decision
  reasonCodes : List String
  sourceChangeFingerprints : List String
  currentRecordFingerprint : String
  decisionFingerprint : String
  deriving DecidableEq, Repr

/-- What the fingerprint of a decision covers. -/
def RefreshDecision.payload (decision : RefreshDecision) : List (String × Json) :=
  [("artifact_id", .str decision.artifactId), ("artifact_type", .str decision.artifactType),
    ("scope", .str decision.scope), ("scope_id", .str decision.scopeId),
    ("decision", .str decision.decision.code), ("reason_codes", texts decision.reasonCodes),
    ("source_change_fingerprints", texts decision.sourceChangeFingerprints),
    ("current_record_fingerprint", .str decision.currentRecordFingerprint)]

/-- `asdict(decision)`. -/
def RefreshDecision.asdict (decision : RefreshDecision) : Json :=
  .obj (decision.payload ++ [("decision_fingerprint", .str decision.decisionFingerprint)])

section Decisions

variable (registry : RefreshRegistry)

/-- `policy_fingerprint`. -/
def policyFingerprint : Except String String :=
  hash (.obj [("policy", registry.policy),
      ("dependency_rules", registry.dependencyRulesSection),
      ("scope_rules", registry.scopeRules), ("governance", registry.governance)])

/-- `_changed`. -/
def changed (change : FieldChange) : Bool :=
  decide (change.classification ∈ registry.refreshRequiredClassifications)

/-- `_change_targets_artifact`. -/
def changeTargetsArtifact (change : FieldChange) (record : DerivedIntelligenceRecord) : Bool :=
  if record.artifactType ∈ registry.dependencyRules change.domain then
    match change.scope with
    | .property =>
        decide (record.scope = "PROPERTY" ∧ record.scopeId = change.objectId)
    | .community => true
    | .manifest => true
  else false

/-- The changes of a delta that make a record stale. -/
def matching (delta : CommunityDelta) (record : DerivedIntelligenceRecord) : List FieldChange :=
  (delta.changes.filter (changed registry)).filter fun change =>
    changeTargetsArtifact registry change record

/-- The decision about a record, before its fingerprint is known. -/
def decisionRecord (delta : CommunityDelta) (record : DerivedIntelligenceRecord) :
    RefreshDecision :=
  let found := matching registry delta record
  { artifactId := record.artifactId
    artifactType := record.artifactType
    scope := record.scope
    scopeId := record.scopeId
    decision := if found = [] then .noImpact else .refreshRequired
    reasonCodes :=
      if found = [] then ["NO_GOVERNED_DEPENDENCY_MATCH"]
      else sortedBy id (found.map fun change =>
        change.domain.code ++ ":" ++ change.classification.code).dedup
    sourceChangeFingerprints :=
      if found = [] then []
      else sortedBy id (found.map FieldChange.changeFingerprint).dedup
    currentRecordFingerprint := record.recordFingerprint
    decisionFingerprint := "" }

/-- The body of the loop over the records. -/
def makeDecision (delta : CommunityDelta) (record : DerivedIntelligenceRecord) :
    Except String RefreshDecision := do
  require (record.certificationState ∈ registry.allowedCurrentCertificationStates)
    "current derived state must be certified"
  validateRecordFp record.recordFingerprint "current record fingerprint"
  let decision := decisionRecord registry delta record
  let fingerprint ← hash (.obj decision.payload)
  return { decision with decisionFingerprint := fingerprint }

end Decisions

/-! ## Plans -/

structure SelectiveRefreshPlan where
  planId : String
  communityId : String
  deltaId : String
  deltaFingerprint : String
  afterSnapshotSemanticHash : String
  dependencyPolicyFingerprint : String
  decisions : List RefreshDecision
  refreshArtifactIds : List String
  preservedArtifactIds : List String
  planFingerprint : String
  deriving DecidableEq, Repr

/-- What the fingerprint of a plan covers. -/
def SelectiveRefreshPlan.payload (plan : SelectiveRefreshPlan) : Json :=
  .obj [("plan_id", .str plan.planId), ("community_id", .str plan.communityId),
      ("delta_id", .str plan.deltaId), ("delta_fingerprint", .str plan.deltaFingerprint),
      ("after_snapshot_semantic_hash", .str plan.afterSnapshotSemanticHash),
      ("dependency_policy_fingerprint", .str plan.dependencyPolicyFingerprint),
      ("decisions", .arr (plan.decisions.map RefreshDecision.asdict)),
      ("refresh_artifact_ids", texts plan.refreshArtifactIds),
      ("preserved_artifact_ids", texts plan.preservedArtifactIds)]

/-- The artifacts of a decision of one kind. -/
def artifactIds (kind : Decision) (decisions : List RefreshDecision) : List String :=
  (decisions.filter fun decision => decision.decision = kind).map RefreshDecision.artifactId

/-- The plan, before its fingerprint is known. -/
def planRecord (planId : String) (delta : CommunityDelta)
    (decisions : List RefreshDecision) (policyFingerprint : String) :
    SelectiveRefreshPlan where
  planId := planId
  communityId := delta.communityId
  deltaId := delta.deltaId
  deltaFingerprint := delta.deltaFingerprint
  afterSnapshotSemanticHash := delta.afterSnapshotSemanticHash
  dependencyPolicyFingerprint := policyFingerprint
  decisions := decisions
  refreshArtifactIds := artifactIds .refreshRequired decisions
  preservedArtifactIds := artifactIds .noImpact decisions
  planFingerprint := ""

/-- `build_selective_refresh_plan`. -/
def buildSelectiveRefreshPlan
    (registry : RefreshRegistry) (planId : String) (delta : CommunityDelta)
    (currentRecords : List DerivedIntelligenceRecord) :
    Except String SelectiveRefreshPlan := do
  require (Text.isBlank planId = false) "plan_id required"
  require (delta.certificationState = registry.acceptedDeltaState)
    "M13-003 requires CERTIFIED M13-002 delta"
  let replays ← validateDeltaReplay delta
  require (replays = true) "M13-003 requires reproducible M13-002 delta"
  require ((currentRecords.map DerivedIntelligenceRecord.artifactId).Nodup)
    "duplicate artifact ids prohibited"
  let decisions ←
    (sortedBy DerivedIntelligenceRecord.artifactId currentRecords).mapM
      (makeDecision registry delta)
  let policyFingerprint ← policyFingerprint registry
  let plan := planRecord planId delta decisions policyFingerprint
  let fingerprint ← hash plan.payload
  return { plan with planFingerprint := fingerprint }

/-- `validate_refresh_plan_replay`. -/
def validateRefreshPlanReplay (plan : SelectiveRefreshPlan) :
    Except String Bool := do
  let fingerprint ← hash plan.payload
  return decide (fingerprint = plan.planFingerprint)

/-! ## Refreshes -/

structure SelectiveRefreshResult where
  resultId : String
  planId : String
  planFingerprint : String
  records : List DerivedIntelligenceRecord
  refreshedArtifactIds : List String
  preservedArtifactIds : List String
  replacementFingerprints : List String
  resultFingerprint : String
  deriving DecidableEq, Repr

/-- What the fingerprint of a result covers. -/
def SelectiveRefreshResult.payload (result : SelectiveRefreshResult) : Json :=
  .obj [("result_id", .str result.resultId), ("plan_id", .str result.planId),
      ("plan_fingerprint", .str result.planFingerprint),
      ("records", .arr (result.records.map DerivedIntelligenceRecord.asdict)),
      ("refreshed_artifact_ids", texts result.refreshedArtifactIds),
      ("preserved_artifact_ids", texts result.preservedArtifactIds),
      ("replacement_fingerprints", texts result.replacementFingerprints)]

/-- The record under an artifact identifier. -/
def artifact? (records : List DerivedIntelligenceRecord) (artifactId : String) :
    Option DerivedIntelligenceRecord :=
  Merging.get DerivedIntelligenceRecord.artifactId records artifactId

section Refreshes

variable (registry : RefreshRegistry) (plan : SelectiveRefreshPlan)
  (currentRecords replacements : List DerivedIntelligenceRecord)

/-- The checks of a replacement, in the order of the source. -/
def checkReplacement (decision : RefreshDecision)
    (old replacement : DerivedIntelligenceRecord) : Except String Unit := do
  require (replacement.certificationState ∈ registry.allowedReplacementCertificationStates)
    "authoritative replacement must be CERTIFIED"
  require (replacement.artifactType = old.artifactType ∧
      replacement.scope = old.scope ∧ replacement.scopeId = old.scopeId)
    "replacement artifact identity/scope mismatch"
  require (replacement.sourceSnapshotSemanticHash = plan.afterSnapshotSemanticHash)
    "replacement not bound to delta after-snapshot"
  require (plan.deltaFingerprint ∈ replacement.lineageFingerprints ∧
      decision.decisionFingerprint ∈ replacement.lineageFingerprints)
    "replacement missing M13-003 refresh lineage"

/-- The body of the loop over the decisions: the record that stays or comes,
and whether it is a replacement. -/
def refreshed (decision : RefreshDecision) :
    Except String (DerivedIntelligenceRecord × Bool) := do
  let old ← orRaise (artifact? currentRecords decision.artifactId)
    "current derived state drifted after refresh planning"
  require (old.recordFingerprint = decision.currentRecordFingerprint)
    "current derived state drifted after refresh planning"
  match decision.decision with
  | .noImpact => return (old, false)
  | .refreshRequired => do
      let replacement ← orRaise (artifact? replacements decision.artifactId)
          decision.artifactId
      checkReplacement registry plan decision old replacement
      return (replacement, true)

/-- What the list of identifiers in one set and not in another is: sorted. -/
def missingFrom (left right : List String) : List String :=
  sortedBy id (left.filter fun artifactId => artifactId ∉ right).dedup

/-- The result of a refresh, before its fingerprint is known. -/
def resultRecord (resultId : String) (output : List (DerivedIntelligenceRecord × Bool)) :
    SelectiveRefreshResult where
  resultId := resultId
  planId := plan.planId
  planFingerprint := plan.planFingerprint
  records := sortedBy DerivedIntelligenceRecord.artifactId (output.map Prod.fst)
  refreshedArtifactIds := sortedBy id plan.refreshArtifactIds.dedup
  preservedArtifactIds := sortedBy id plan.preservedArtifactIds.dedup
  replacementFingerprints := sortedBy id
    ((output.filter Prod.snd).map fun kept => kept.1.recordFingerprint)
  resultFingerprint := ""

/-- `apply_selective_refresh`; `listRepr` is `repr` of a list of texts. -/
def applySelectiveRefresh (listRepr : List String → String) (resultId : String) :
    Except String SelectiveRefreshResult := do
  require (Text.isBlank resultId = false) "result_id required"
  let replays ← validateRefreshPlanReplay plan
  require (replays = true) "refresh plan is nonreproducible"
  let required := plan.refreshArtifactIds
  let current := currentRecords.map DerivedIntelligenceRecord.artifactId
  let replaced := replacements.map DerivedIntelligenceRecord.artifactId
  require (current.Nodup ∧ replaced.Nodup) "duplicate artifact ids prohibited"
  require (missingFrom required replaced = [] ∧ missingFrom replaced required = [])
    ("authoritative replacements must exactly match refresh set; missing=" ++
      listRepr (missingFrom required replaced) ++ ", extra=" ++
      listRepr (missingFrom replaced required))
  let output ← plan.decisions.mapM
    (refreshed registry plan currentRecords replacements)
  let result := resultRecord plan resultId output
  let kept := result.records.map DerivedIntelligenceRecord.artifactId
  require (missingFrom kept current = [] ∧ missingFrom current kept = [])
    "selective refresh cannot add or drop current artifact identities"
  let fingerprint ← hash result.payload
  return { result with resultFingerprint := fingerprint }

end Refreshes

end SanTanHeights.Community
