import SanTanHeights.Listing.Verification

/-!
# Incidents, holds and recovery

Incidents are detected from workspace items, and each names what it may spread
to.  A hold stops the executions of one of these targets.  An incident is
closed with a hold, the decision to release it and the validation of its
recovery.
-/

namespace SanTanHeights.Listing

open Foundation Foundation.Json Foundation.Sorting Foundation.Outcome
open Community (FromIsoformat texts)

/-! ## Incidents -/

/-- What is read of a workspace item. -/
structure ExecutionWorkspaceItem where
  workspaceItemId : String
  listingId : String
  proposalFingerprint : String
  actionType : String
  blockingReasons : List String
  authorityStatus : String
  authorityExpired : Bool
  adapterHealthState : String
  lineageFingerprints : List String
  itemFingerprint : String
  deriving DecidableEq, Repr

structure OperationalIncident where
  incidentId : String
  incidentType : String
  state : String
  workspaceItemId : String
  listingId : String
  proposalFingerprint : String
  actionType : String
  adapterId : Option String
  evidenceFingerprints : List String
  blastRadius : List String
  incidentFingerprint : String
  deriving DecidableEq, Repr

/-- What the fingerprint of an incident covers. -/
def OperationalIncident.payload (incident : OperationalIncident) : Json :=
  .obj [("incident_id", .str incident.incidentId),
      ("incident_type", .str incident.incidentType), ("state", .str incident.state),
      ("workspace_item_id", .str incident.workspaceItemId),
      ("listing_id", .str incident.listingId),
      ("proposal_fingerprint", .str incident.proposalFingerprint),
      ("action_type", .str incident.actionType),
      ("adapter_id", .ofOptional incident.adapterId),
      ("evidence_fingerprints", texts incident.evidenceFingerprints),
      ("blast_radius", texts incident.blastRadius)]

/-- What is read of an incident registry. -/
structure IncidentRegistry where
  incidentTypes : List String
  holdScopes : List String
  releaseDecisions : List String

/-- `m12-007-incident-containment-v1.0.yaml`. -/
def incidentRegistry : IncidentRegistry where
  incidentTypes :=
    ["ADAPTER_DEGRADED", "ADAPTER_UNAVAILABLE", "OUTCOME_UNKNOWN",
      "OPEN_RECONCILIATION", "AUTHORITY_ANOMALY", "REPEATED_OUTCOME_UNKNOWN"]
  holdScopes := ["ACTION", "LISTING", "ADAPTER"]
  releaseDecisions := ["RELEASE", "KEEP_HOLD"]

namespace ExecutionWorkspaceItem

/-- Nothing is known of the outcome of an item. -/
def outcomeUnknown (item : ExecutionWorkspaceItem) : Prop :=
  "OUTCOME_UNKNOWN" ∈ item.blockingReasons

instance (item : ExecutionWorkspaceItem) : Decidable item.outcomeUnknown :=
  inferInstanceAs (Decidable (_ ∈ _))

/-- The conditions of an item that are incidents. -/
def conditions (item : ExecutionWorkspaceItem) : List String :=
  (if item.adapterHealthState = "DEGRADED" then ["ADAPTER_DEGRADED"]
    else []) ++
  (if item.adapterHealthState = "UNAVAILABLE" then ["ADAPTER_UNAVAILABLE"]
    else []) ++
  (if item.outcomeUnknown then ["OUTCOME_UNKNOWN"] else []) ++
  (if "OPEN_RECONCILIATION" ∈ item.blockingReasons then
    ["OPEN_RECONCILIATION"] else []) ++
  (if item.authorityExpired = true ∨
      item.authorityStatus ∉ ["VALID", "MISSING"] then ["AUTHORITY_ANOMALY"]
    else [])

/-- What an incident of an item may spread to, by the adapter of the item. -/
def blastRadius (item : ExecutionWorkspaceItem) (adapterId : Option String) : List String :=
  sortedSet (["ACTION:" ++ item.proposalFingerprint, "LISTING:" ++ item.listingId] ++
      (adapterId.map fun adapter => "ADAPTER:" ++ adapter).toList)

/-- The incident of a condition of an item, before it has a fingerprint. -/
def incident (adapterIds : String → Option String) (item : ExecutionWorkspaceItem)
    (kind : String) : OperationalIncident where
  incidentId := "INC-" ++ item.workspaceItemId ++ "-" ++ kind
  incidentType := kind
  state := "OPEN"
  workspaceItemId := item.workspaceItemId
  listingId := item.listingId
  proposalFingerprint := item.proposalFingerprint
  actionType := item.actionType
  adapterId := adapterIds item.workspaceItemId
  evidenceFingerprints := sortedSet (item.lineageFingerprints ++ [item.itemFingerprint])
  blastRadius := item.blastRadius (adapterIds item.workspaceItemId)
  incidentFingerprint := ""

end ExecutionWorkspaceItem

/-- The incident of repeated unknown outcomes, before it has a fingerprint. -/
def repeatedIncident (unknown : List ExecutionWorkspaceItem) : OperationalIncident where
  incidentId := "INC-PORTFOLIO-REPEATED_OUTCOME_UNKNOWN"
  incidentType := "REPEATED_OUTCOME_UNKNOWN"
  state := "OPEN"
  workspaceItemId := "PORTFOLIO"
  listingId := "MULTIPLE"
  proposalFingerprint := String.ofList (List.replicate 64 '0')
  actionType := "MULTIPLE"
  adapterId := none
  evidenceFingerprints := sortedBy id (unknown.map ExecutionWorkspaceItem.itemFingerprint)
  blastRadius := sortedBy id (unknown.map fun item => "LISTING:" ++ item.listingId)
  incidentFingerprint := ""

/-- The incidents of some items, before they have fingerprints. -/
def draftIncidents (adapterIds : String → Option String)
    (items : List ExecutionWorkspaceItem) : List OperationalIncident :=
  let rows := sortedBy ExecutionWorkspaceItem.workspaceItemId items
  let unknown := rows.filter fun item => item.outcomeUnknown
  (rows.flatMap fun item => item.conditions.map (item.incident adapterIds)) ++
    if 2 ≤ unknown.length then [repeatedIncident unknown] else []

/-- An incident with its fingerprint. -/
def sealIncident (draft : OperationalIncident) :
    Except String OperationalIncident := do
  let fingerprint ← hash draft.payload
  return { draft with incidentFingerprint := fingerprint }

/-- `detect_incidents`. -/
def detectIncidents (items : List ExecutionWorkspaceItem)
    (adapterIds : String → Option String) (registry : IncidentRegistry) :
    Except String (List OperationalIncident) := do
  let incidents ← (draftIncidents adapterIds items).mapM sealIncident
  require (∀ incident ∈ incidents, incident.incidentType ∈ registry.incidentTypes)
    "unsupported incident type"
  return sortedBy OperationalIncident.incidentId incidents

/-! ## Holds -/

structure ExecutionHold where
  holdId : String
  incidentFingerprint : String
  scope : String
  targetId : String
  state : String
  reason : String
  lineageFingerprints : List String
  holdFingerprint : String
  deriving DecidableEq, Repr

/-- What the fingerprint of a hold covers. -/
def ExecutionHold.payload (hold : ExecutionHold) : Json :=
  .obj [("hold_id", .str hold.holdId),
      ("incident_fingerprint", .str hold.incidentFingerprint), ("scope", .str hold.scope),
      ("target_id", .str hold.targetId), ("state", .str hold.state),
      ("reason", .str hold.reason),
      ("lineage_fingerprints", texts hold.lineageFingerprints)]

/-- The hold of a target of an incident, before it has a fingerprint. -/
def OperationalIncident.hold (incident : OperationalIncident) (holdId scope targetId : String) :
    ExecutionHold where
  holdId := holdId
  incidentFingerprint := incident.incidentFingerprint
  scope := scope
  targetId := targetId
  state := "ACTIVE"
  reason := incident.incidentType
  lineageFingerprints := sortedSet (incident.evidenceFingerprints ++ [incident.incidentFingerprint])
  holdFingerprint := ""

/-- `create_execution_hold`. -/
def createExecutionHold (holdId : String) (incident : OperationalIncident)
    (scope targetId : String) (registry : IncidentRegistry) :
    Except String ExecutionHold := do
  require (scope ∈ registry.holdScopes) "unsupported hold scope"
  require (scope ++ ":" ++ targetId ∈ incident.blastRadius)
    "hold target outside incident blast radius"
  let hold := incident.hold holdId scope targetId
  let fingerprint ← hash hold.payload
  return { hold with holdFingerprint := fingerprint }

/-! ## Recovery -/

structure HoldReleaseDecision where
  releaseId : String
  holdFingerprint : String
  actorId : String
  decision : String
  rationaleFingerprint : String
  releaseFingerprint : String
  deriving DecidableEq, Repr

/-- What the fingerprint of a release decision covers. -/
def HoldReleaseDecision.payload (release : HoldReleaseDecision) : Json :=
  .obj [("release_id", .str release.releaseId),
      ("hold_fingerprint", .str release.holdFingerprint),
      ("actor_id", .str release.actorId), ("decision", .str release.decision),
      ("rationale_fingerprint", .str release.rationaleFingerprint)]

/-- `make_hold_release_decision`. -/
def makeHoldReleaseDecision (releaseId : String) (hold : ExecutionHold)
    (actorId decision rationaleFingerprint : String)
    (registry : IncidentRegistry) : Except String HoldReleaseDecision := do
  require (decision ∈ registry.releaseDecisions)
    "unsupported hold release decision"
  let release : HoldReleaseDecision :=
    { releaseId
      holdFingerprint := hold.holdFingerprint
      actorId, decision, rationaleFingerprint
      releaseFingerprint := "" }
  let fingerprint ← hash release.payload
  return { release with releaseFingerprint := fingerprint }

structure RecoveryValidation where
  validationId : String
  holdFingerprint : String
  prerequisiteFingerprint : String
  authorityFingerprint : String
  prerequisitesCurrent : Bool
  authorityCurrent : Bool
  independentlyReconciled : Bool
  validationFingerprint : String
  deriving DecidableEq, Repr

/-- What the fingerprint of a validation covers. -/
def RecoveryValidation.payload (validation : RecoveryValidation) : Json :=
  .obj [("validation_id", .str validation.validationId),
      ("hold_fingerprint", .str validation.holdFingerprint),
      ("prerequisite_fingerprint", .str validation.prerequisiteFingerprint),
      ("authority_fingerprint", .str validation.authorityFingerprint),
      ("prerequisites_current", .bool validation.prerequisitesCurrent),
      ("authority_current", .bool validation.authorityCurrent),
      ("independently_reconciled", .bool validation.independentlyReconciled)]

/-- `make_recovery_validation`; of the argument, neither the hold nor the
fingerprint is read. -/
def makeRecoveryValidation (hold : ExecutionHold) (given : RecoveryValidation) :
    Except String RecoveryValidation := do
  let validation := { given with holdFingerprint := hold.holdFingerprint }
  let fingerprint ← hash validation.payload
  return { validation with validationFingerprint := fingerprint }

structure RecoveryEvidence where
  recoveryId : String
  incidentFingerprint : String
  holdFingerprint : String
  releaseFingerprint : String
  validationFingerprint : String
  state : String
  lineageFingerprints : List String
  recoveryFingerprint : String
  deriving DecidableEq, Repr

/-- What the fingerprint of recovery evidence covers. -/
def RecoveryEvidence.payload (evidence : RecoveryEvidence) : Json :=
  .obj [("recovery_id", .str evidence.recoveryId),
      ("incident_fingerprint", .str evidence.incidentFingerprint),
      ("hold_fingerprint", .str evidence.holdFingerprint),
      ("release_fingerprint", .str evidence.releaseFingerprint),
      ("validation_fingerprint", .str evidence.validationFingerprint),
      ("state", .str evidence.state),
      ("lineage_fingerprints", texts evidence.lineageFingerprints)]

/-- The arguments of `close_incident_with_recovery`. -/
structure RecoveryCall where
  recoveryId : String
  incident : OperationalIncident
  hold : ExecutionHold
  release : HoldReleaseDecision
  validation : RecoveryValidation
  reconciliationCase : Option ReconciliationCase

/-- An incident of an unknown outcome. -/
def OperationalIncident.outcomeUnknown (incident : OperationalIncident) : Prop :=
  incident.incidentType ∈ ["OUTCOME_UNKNOWN", "REPEATED_OUTCOME_UNKNOWN"]

instance (incident : OperationalIncident) : Decidable incident.outcomeUnknown :=
  inferInstanceAs (Decidable (_ ∈ _))

namespace RecoveryCall

/-- The checks of a recovery. -/
def check (call : RecoveryCall) : Except String Unit := do
  require (call.release.holdFingerprint = call.hold.holdFingerprint ∧
    call.validation.holdFingerprint = call.hold.holdFingerprint)
    "recovery hold lineage mismatch"
  require (call.release.decision = "RELEASE")
    "explicit human RELEASE decision required"
  require (call.validation.prerequisitesCurrent = true ∧
    call.validation.authorityCurrent = true)
    "fresh prerequisite and authority revalidation required"
  require (call.incident.outcomeUnknown →
    call.reconciliationCase.any (fun case_ => case_.state = "RESOLVED") = true ∧
      call.validation.independentlyReconciled = true)
    "outcome-unknown cannot close before independent reconciliation"

/-- The evidence of a recovery, before it has a fingerprint. -/
def evidence (call : RecoveryCall) : RecoveryEvidence where
  recoveryId := call.recoveryId
  incidentFingerprint := call.incident.incidentFingerprint
  holdFingerprint := call.hold.holdFingerprint
  releaseFingerprint := call.release.releaseFingerprint
  validationFingerprint := call.validation.validationFingerprint
  state := "RECOVERED"
  lineageFingerprints := sortedSet
    ([call.incident.incidentFingerprint, call.hold.holdFingerprint,
      call.release.releaseFingerprint,
      call.validation.validationFingerprint] ++ (call.reconciliationCase.map
          ReconciliationCase.caseFingerprint).toList)
  recoveryFingerprint := ""

end RecoveryCall

/-- `close_incident_with_recovery`. -/
def closeIncidentWithRecovery (call : RecoveryCall) :
    Except String RecoveryEvidence := do
  call.check
  let fingerprint ← hash call.evidence.payload
  return { call.evidence with recoveryFingerprint := fingerprint }

/-! ## The guard -/

/-- `_hold_matches`. -/
def holdMatches (hold : ExecutionHold) (proposal : GovernedActionProposal)
    (request : ExecutionRequest) : Bool :=
  if hold.state ≠ "ACTIVE" then false
  else if hold.scope = "ACTION" then
    decide (hold.targetId = proposal.proposalFingerprint)
  else if hold.scope = "LISTING" then
    decide (hold.targetId = proposal.listingId)
  else if hold.scope = "ADAPTER" then
    decide (hold.targetId = request.adapterId)
  else false

/-- `execute_with_incident_guard`. -/
def executeWithIncidentGuard (fromisoformat : FromIsoformat) (registry : ExecutionRegistry)
    (activeHolds : List ExecutionHold) (call : ExecutionCall) :
    Except String Execution := do
  require (∀ hold ∈ activeHolds, holdMatches hold call.proposal call.request = false)
    "execution blocked by active incident hold"
  executeAuthorizedAction fromisoformat registry call

end SanTanHeights.Listing
