import SanTanHeights.Listing.Incidents
import SanTanHeights.Listing.LiveAuthority

/-!
# What a recovery closes

A recovery compares the release and the validation with the hold, and neither
the hold with the incident nor the reconciliation case with its evidence.  An
execution under a hold that matches it is refused before its adapter is called.
-/

namespace SanTanHeights.Listing

open Foundation Foundation.Json Foundation.Sorting Foundation.Outcome Shared
open Community (FromIsoformat texts)
open Community.History (distinctKeys_obj distinctKeys_texts texts_injective sortKeys_texts)

variable {incident : OperationalIncident} {hold : ExecutionHold}

/-! ## Incidents and holds -/

theorem sealIncident_eq_ok {draft : OperationalIncident} :
    sealIncident draft = .ok incident ↔
      ∃ fingerprint, hash draft.payload = .ok fingerprint ∧
        { draft with incidentFingerprint := fingerprint } = incident := by
  simp only [sealIncident, bind_eq_ok, pure_eq_ok]

theorem createExecutionHold_eq_ok
    {holdId scope targetId : String} {registry : IncidentRegistry} :
    createExecutionHold holdId incident scope targetId registry = .ok hold ↔
      scope ∈ registry.holdScopes ∧
        scope ++ ":" ++ targetId ∈ incident.blastRadius ∧ ∃ fingerprint,
            hash (incident.hold holdId scope targetId).payload =
                .ok fingerprint ∧
              { incident.hold holdId scope targetId with
                holdFingerprint := fingerprint } = hold := by
  simp only [createExecutionHold, bind_eq_ok, require_eq_ok, exists_const, pure_eq_ok]

/-- An incident that was detected in some workspace. -/
def OperationalIncident.Detected
    (registry : IncidentRegistry) (incident : OperationalIncident) : Prop :=
  ∃ items adapterIds incidents,
    detectIncidents items adapterIds registry = .ok incidents ∧ incident ∈ incidents

/-- What was detected is sealed, and was drafted of the items. -/
theorem mem_detectIncidents {items : List ExecutionWorkspaceItem}
    {adapterIds : String → Option String} {registry : IncidentRegistry}
    {incidents : List OperationalIncident}
    (detected : detectIncidents items adapterIds registry = .ok incidents)
    (incident : OperationalIncident) :
    incident ∈ incidents ↔ ∃ draft ∈ draftIncidents adapterIds items,
      sealIncident draft = .ok incident := by
  simp only [detectIncidents, bind_eq_ok, require_eq_ok, exists_const, pure_eq_ok] at detected
  obtain ⟨sealed, traversed, _, rfl⟩ := detected
  rw [mem_sortedBy, mem_mapM_iff traversed]

theorem OperationalIncident.Detected.hashed {registry : IncidentRegistry}
    (detected : incident.Detected registry) :
    hash incident.payload = .ok incident.incidentFingerprint := by
  obtain ⟨_, _, _, detects, listed⟩ := detected
  obtain ⟨_, _, sealed⟩ := (mem_detectIncidents detects incident).mp listed
  obtain ⟨_, hashed, rfl⟩ := sealIncident_eq_ok.mp sealed
  exact hashed

theorem OperationalIncident.textual_payload
    (incident : OperationalIncident) : Textual incident.payload := by
  simp [payload, textual_obj, IsTagged, texts]

/-- The conditions of an item are incident types of the registry. -/
theorem ExecutionWorkspaceItem.mem_incidentTypes {item : ExecutionWorkspaceItem} {kind : String}
    (condition : kind ∈ item.conditions) :
    kind ∈ incidentRegistry.incidentTypes := by
  simp only [conditions, List.mem_append, List.mem_ite_nil_right, List.mem_singleton] at condition
  simp only [incidentRegistry, List.mem_cons, List.not_mem_nil]
  tauto

/-- Detection over the registry never raises. -/
theorem exists_detectIncidents (items : List ExecutionWorkspaceItem)
    (adapterIds : String → Option String) :
    ∃ incidents, detectIncidents items adapterIds incidentRegistry = .ok incidents := by
  obtain ⟨sealed, traversed⟩ := @exists_mapM_ok _ _ _ sealIncident
    (draftIncidents adapterIds items) fun draft _ => by
      obtain ⟨fingerprint, hashed⟩ := exists_hash_of_textual draft.textual_payload
      exact ⟨_, sealIncident_eq_ok.mpr ⟨fingerprint, hashed, rfl⟩⟩
  have supported : ∀ incident ∈ sealed,
      incident.incidentType ∈ incidentRegistry.incidentTypes := by
    refine forall_mem_of_mapM traversed fun draft listed incident made => ?_
    obtain ⟨_, _, rfl⟩ := sealIncident_eq_ok.mp made
    rcases List.mem_append.mp listed with ofItem | repeated
    · obtain ⟨item, _, mapped⟩ := List.mem_flatMap.mp ofItem
      obtain ⟨kind, condition, rfl⟩ := List.mem_map.mp mapped
      exact item.mem_incidentTypes condition
    · split_ifs at repeated
      · rw [List.mem_singleton.mp repeated]
        simp [repeatedIncident, incidentRegistry]
      · exact absurd repeated List.not_mem_nil
  refine ⟨sortedBy OperationalIncident.incidentId sealed, ?_⟩
  simp only [detectIncidents, bind_eq_ok, require_eq_ok, exists_const, pure_eq_ok]
  exact ⟨sealed, traversed, supported, rfl⟩

theorem OperationalIncident.distinctKeys_payload
    (incident : OperationalIncident) : incident.payload.DistinctKeys := by
  simp [payload, distinctKeys_obj]

theorem OperationalIncident.eq_of_payload (left right : OperationalIncident)
    (same : sortKeys left.payload = sortKeys right.payload)
    (fingerprint : left.incidentFingerprint = right.incidentFingerprint) :
    left = right := by
  have parts := forall₂_of_sortKeys_obj_eq same rfl (by simp)
  simp only [List.forall₂_cons, sortKeys_str, sortKeys_texts,
    sortKeys_ofOptional, Json.str.injEq, texts_injective.eq_iff,
    ofOptional_injective.eq_iff] at parts
  obtain ⟨incidentId, kind, state, item, listing, proposal, action, adapter,
    evidence, blast, _⟩ := parts
  exact (mk.injEq ..).mpr ⟨incidentId, kind, state, item, listing, proposal,
    action, adapter, evidence, blast, fingerprint⟩

theorem ExecutionHold.distinctKeys_payload (hold : ExecutionHold) :
    hold.payload.DistinctKeys := by
  simp [payload, distinctKeys_obj]

theorem ExecutionHold.eq_of_payload (left right : ExecutionHold)
    (same : sortKeys left.payload = sortKeys right.payload)
    (fingerprint : left.holdFingerprint = right.holdFingerprint) :
    left = right := by
  have parts := forall₂_of_sortKeys_obj_eq same rfl (by simp)
  simp only [List.forall₂_cons, sortKeys_str, sortKeys_texts,
    Json.str.injEq, texts_injective.eq_iff] at parts
  obtain ⟨holdId, incident, scope, target, state, reason, lineage, _⟩ := parts
  exact (mk.injEq ..).mpr ⟨holdId, incident, scope, target, state, reason, lineage, fingerprint⟩

/-- A hold that was created for an incident. -/
def ExecutionHold.For (registry : IncidentRegistry) (incident : OperationalIncident)
    (hold : ExecutionHold) : Prop :=
  ∃ holdId scope targetId, createExecutionHold holdId incident scope targetId registry = .ok hold

theorem ExecutionHold.For.hashed
    {registry : IncidentRegistry} (held : hold.For registry incident) :
    hash hold.payload = .ok hold.holdFingerprint := by
  obtain ⟨_, _, _, created⟩ := held
  obtain ⟨_, _, _, hashed, rfl⟩ := createExecutionHold_eq_ok.mp created
  exact hashed

/-- A hold carries the fingerprint and the type of its incident. -/
theorem ExecutionHold.For.carries
    {registry : IncidentRegistry} (held : hold.For registry incident) :
    hold.incidentFingerprint = incident.incidentFingerprint ∧
      hold.reason = incident.incidentType ∧ hold.state = "ACTIVE" := by
  obtain ⟨_, _, _, created⟩ := held
  obtain ⟨_, _, _, _, rfl⟩ := createExecutionHold_eq_ok.mp created
  exact ⟨rfl, rfl, rfl⟩

/-! ## Recoveries -/

/-- A recovery, with the incident that its hold was created for, and the holds
that its release and its validation were made for. -/
structure Recovery where
  call : RecoveryCall
  source : OperationalIncident
  releasedHold : ExecutionHold
  validatedHold : ExecutionHold

namespace Recovery

/-- The arguments of a recovery were made by their constructors. -/
structure Made (registry : IncidentRegistry) (recovery : Recovery) : Prop where
  incident : recovery.call.incident.Detected registry
  source : recovery.source.Detected registry
  hold : recovery.call.hold.For registry recovery.source
  releasedHold : ∃ incident : OperationalIncident,
    incident.Detected registry ∧ recovery.releasedHold.For registry incident
  validatedHold : ∃ incident : OperationalIncident, incident.Detected registry ∧
      recovery.validatedHold.For registry incident
  release : ∃ releaseId actorId decision rationaleFingerprint,
    makeHoldReleaseDecision releaseId recovery.releasedHold actorId decision
      rationaleFingerprint registry = .ok recovery.call.release
  validation : ∃ given, makeRecoveryValidation recovery.validatedHold given =
      .ok recovery.call.validation

/-- The incidents and the holds of a recovery have no collisions. -/
structure CollisionFree (recovery : Recovery) : Prop where
  incidents : Sha256.CollisionFree (textsOf
    {recovery.source.payload, recovery.call.incident.payload})
  released : Sha256.CollisionFree (textsOf
    {recovery.releasedHold.payload, recovery.call.hold.payload})
  validated : Sha256.CollisionFree (textsOf
    {recovery.validatedHold.payload, recovery.call.hold.payload})

/-- What a recovery closes was recovered. -/
structure OfIncident (recovery : Recovery) : Prop where
  hold : recovery.source = recovery.call.incident
  release : recovery.releasedHold = recovery.call.hold
  validation : recovery.validatedHold = recovery.call.hold
  reconciled : recovery.call.incident.outcomeUnknown →
    ∃ case_, recovery.call.reconciliationCase = some case_ ∧
      case_.state = "RESOLVED" ∧ case_.executionReceiptFingerprint ∈
        recovery.call.incident.evidenceFingerprints

/-- The fingerprints that a recovery does not compare agree. -/
def Linked (recovery : Recovery) : Prop :=
  recovery.call.hold.incidentFingerprint =
      recovery.call.incident.incidentFingerprint ∧
    (recovery.call.incident.outcomeUnknown → ∀ case_ ∈ recovery.call.reconciliationCase,
        case_.executionReceiptFingerprint ∈ recovery.call.incident.evidenceFingerprints)

end Recovery

theorem RecoveryCall.check_eq_ok {call : RecoveryCall} :
    call.check = .ok () ↔
      (call.release.holdFingerprint = call.hold.holdFingerprint ∧
          call.validation.holdFingerprint = call.hold.holdFingerprint) ∧
        call.release.decision = "RELEASE" ∧
          (call.validation.prerequisitesCurrent = true ∧
              call.validation.authorityCurrent = true) ∧
            (call.incident.outcomeUnknown → call.reconciliationCase.any
                  (fun case_ => case_.state = "RESOLVED") = true ∧
                call.validation.independentlyReconciled = true) := by
  simp only [check, bind_eq_ok, require_eq_ok, exists_const]

theorem RecoveryEvidence.textual_payload (evidence : RecoveryEvidence) :
    Textual evidence.payload := by
  simp [payload, textual_obj, IsTagged, texts]

/-- An incident is closed just where the checks pass. -/
theorem exists_closeIncidentWithRecovery_iff {call : RecoveryCall} :
    (∃ evidence, closeIncidentWithRecovery call = .ok evidence) ↔ call.check = .ok () := by
  constructor
  · rintro ⟨evidence, closed⟩
    simp only [closeIncidentWithRecovery, bind_eq_ok] at closed
    obtain ⟨_, checked, _⟩ := closed
    exact checked
  · intro checked
    obtain ⟨fingerprint, hashed⟩ := exists_hash_of_textual call.evidence.textual_payload
    exact ⟨_, bind_eq_ok.mpr ⟨(), checked, bind_eq_ok.mpr ⟨fingerprint, hashed, rfl⟩⟩⟩

theorem holdFingerprint_of_makeHoldReleaseDecision
    {releaseId actorId decision rationaleFingerprint : String}
    {registry : IncidentRegistry} {release : HoldReleaseDecision}
    (made : makeHoldReleaseDecision releaseId hold actorId decision
      rationaleFingerprint registry = .ok release) :
    release.holdFingerprint = hold.holdFingerprint := by
  simp only [makeHoldReleaseDecision, bind_eq_ok, require_eq_ok, exists_const, pure_eq_ok] at made
  obtain ⟨_, _, _, rfl⟩ := made
  rfl

theorem holdFingerprint_of_makeRecoveryValidation {given validation : RecoveryValidation}
    (made : makeRecoveryValidation hold given = .ok validation) :
    validation.holdFingerprint = hold.holdFingerprint := by
  simp only [makeRecoveryValidation, bind_eq_ok, pure_eq_ok] at made
  obtain ⟨_, _, rfl⟩ := made
  rfl

section Recovered

variable {registry : IncidentRegistry} {recovery : Recovery}

/-- The hold of a recovery is that of its incident just where the fingerprints
say so. -/
theorem Recovery.Made.source_eq_iff (made : recovery.Made registry)
    (collisionFree : recovery.CollisionFree) :
    recovery.source = recovery.call.incident ↔
      recovery.call.hold.incidentFingerprint = recovery.call.incident.incidentFingerprint := by
  rw [made.hold.carries.1]
  constructor
  · intro same
    rw [same]
  · exact eq_of_fingerprints_eq OperationalIncident.distinctKeys_payload
      OperationalIncident.eq_of_payload collisionFree.incidents (.inl rfl)
      (.inr rfl) made.source.hashed made.incident.hashed

/-- The release and the validation of a checked recovery are of its hold. -/
theorem Recovery.Made.holds_eq (made : recovery.Made registry)
    (collisionFree : recovery.CollisionFree) (checked : recovery.call.check = .ok ()) :
    recovery.releasedHold = recovery.call.hold ∧ recovery.validatedHold = recovery.call.hold := by
  obtain ⟨⟨released, validated⟩, _⟩ := RecoveryCall.check_eq_ok.mp checked
  obtain ⟨_, _, _, _, release⟩ := made.release
  obtain ⟨_, validation⟩ := made.validation
  obtain ⟨_, _, releasedFor⟩ := made.releasedHold
  obtain ⟨_, _, validatedFor⟩ := made.validatedHold
  constructor
  · refine eq_of_fingerprints_eq ExecutionHold.distinctKeys_payload
      ExecutionHold.eq_of_payload collisionFree.released (.inl rfl) (.inr rfl)
      releasedFor.hashed made.hold.hashed ?_
    rw [← holdFingerprint_of_makeHoldReleaseDecision release, released]
  · refine eq_of_fingerprints_eq ExecutionHold.distinctKeys_payload
      ExecutionHold.eq_of_payload collisionFree.validated (.inl rfl)
      (.inr rfl) validatedFor.hashed made.hold.hashed ?_
    rw [← holdFingerprint_of_makeRecoveryValidation validation, validated]

/-- Whatever checked recovery is linked is of its incident. -/
theorem Recovery.Made.ofIncident_iff (made : recovery.Made registry)
    (collisionFree : recovery.CollisionFree) (checked : recovery.call.check = .ok ()) :
    recovery.OfIncident ↔ recovery.Linked := by
  constructor
  · intro ofIncident
    refine ⟨(made.source_eq_iff collisionFree).mp ofIncident.hold, ?_⟩
    intro unknown case_ given
    obtain ⟨found, is, _, covered⟩ := ofIncident.reconciled unknown
    rw [Option.mem_def, is] at given
    rwa [← Option.some.inj given]
  · rintro ⟨hold, covered⟩
    obtain ⟨release, validation⟩ := made.holds_eq collisionFree checked
    refine ⟨(made.source_eq_iff collisionFree).mpr hold, release, validation, ?_⟩
    intro unknown
    obtain ⟨resolved, _⟩ := (RecoveryCall.check_eq_ok.mp checked).2.2.2 unknown
    rw [Option.any_eq_true] at resolved
    obtain ⟨case_, given, state⟩ := resolved
    exact ⟨case_, given, of_decide_eq_true state, covered unknown case_ given⟩

end Recovered

/-! ## The guard -/

/-- A hold on the action, the listing or the adapter of an execution. -/
def ExecutionHold.On (proposal : GovernedActionProposal) (request : ExecutionRequest)
    (hold : ExecutionHold) : Prop :=
  (hold.scope = "ACTION" ∧ hold.targetId = proposal.proposalFingerprint) ∨
    (hold.scope = "LISTING" ∧ hold.targetId = proposal.listingId) ∨
      hold.scope = "ADAPTER" ∧ hold.targetId = request.adapterId

theorem holdMatches_iff {proposal : GovernedActionProposal} {request : ExecutionRequest} :
    holdMatches hold proposal request = true ↔
      hold.state = "ACTIVE" ∧ hold.On proposal request := by
  unfold holdMatches ExecutionHold.On
  split_ifs with inactive action listing adapter
  · simp [inactive]
  · simp_all
  · simp_all
  · simp_all
  · simp_all

/-- Under a matching active hold the execution is refused, whatever the adapter
would do. -/
theorem refused_of_hold {fromisoformat : FromIsoformat} {registry : ExecutionRegistry}
    {activeHolds : List ExecutionHold} {call : ExecutionCall}
    (given : hold ∈ activeHolds) (active : hold.state = "ACTIVE")
    (on : hold.On call.proposal call.request) :
    executeWithIncidentGuard fromisoformat registry activeHolds call =
      .error "execution blocked by active incident hold" := by
  have matching := holdMatches_iff.mpr ⟨active, on⟩
  have blocked : ¬∀ other ∈ activeHolds,
      holdMatches other call.proposal call.request = false := by
    intro clear
    rw [clear hold given] at matching
    cases matching
  rw [executeWithIncidentGuard, require, if_neg blocked]
  rfl

/-- A recovery closes only what was recovered just where a check refuses it or
the fingerprints that it does not compare agree; executions under an active
hold are refused, whatever their adapters would do. -/
theorem closes_what_was_recovered_iff
    {registry : IncidentRegistry} {recovery : Recovery} (made : recovery.Made registry)
    (collisionFree : recovery.CollisionFree) :
    ((∀ evidence, closeIncidentWithRecovery recovery.call = .ok evidence →
        recovery.OfIncident) ↔
      (recovery.call.check = .ok () → recovery.Linked)) ∧
    ∀ (fromisoformat : FromIsoformat) (execution : ExecutionRegistry)
      (activeHolds : List ExecutionHold) (call : ExecutionCall),
      (∃ hold ∈ activeHolds, hold.state = "ACTIVE" ∧
        hold.On call.proposal call.request) →
      ∀ adapter, executeWithIncidentGuard fromisoformat execution
        activeHolds { call with adapter := adapter } =
          .error "execution blocked by active incident hold" := by
  constructor
  · constructor
    · intro closes checked
      obtain ⟨evidence, closed⟩ :=
        exists_closeIncidentWithRecovery_iff.mpr checked
      exact (made.ofIncident_iff collisionFree checked).mp
        (closes evidence closed)
    · intro linked evidence closed
      have checked := exists_closeIncidentWithRecovery_iff.mp ⟨_, closed⟩
      exact (made.ofIncident_iff collisionFree checked).mpr (linked checked)
  · rintro fromisoformat execution activeHolds call ⟨hold, given, active, on⟩
      adapter
    exact refused_of_hold given active on

/-! ## Closed with another incident's recovery -/

theorem ExecutionHold.textual_payload (hold : ExecutionHold) : Textual hold.payload := by
  simp [payload, textual_obj, IsTagged, texts]

theorem HoldReleaseDecision.textual_payload
    (release : HoldReleaseDecision) : Textual release.payload := by
  simp [payload, textual_obj, IsTagged]

theorem RecoveryValidation.textual_payload
    (validation : RecoveryValidation) : Textual validation.payload := by
  simp [payload, textual_obj, IsTagged]

/-- A workspace item of a listing. -/
def sampleItem (listingId adapterHealthState : String) (blockingReasons : List String) :
    ExecutionWorkspaceItem where
  workspaceItemId := listingId
  listingId := listingId
  proposalFingerprint := Community.snapshotRegistry.certificationRoot
  actionType := "PUBLISH"
  blockingReasons := blockingReasons
  authorityStatus := "VALID"
  authorityExpired := false
  adapterHealthState := adapterHealthState
  lineageFingerprints := []
  itemFingerprint := Community.snapshotRegistry.certificationRoot

/-- A condition of an item is detected. -/
theorem exists_incident_of_condition
    {items : List ExecutionWorkspaceItem} {registry : IncidentRegistry}
    {adapterIds : String → Option String}
    {incidents : List OperationalIncident} {item : ExecutionWorkspaceItem} {kind : String}
    (detected : detectIncidents items adapterIds registry = .ok incidents)
    (listed : item ∈ items) (condition : kind ∈ item.conditions) :
    ∃ fingerprint, { item.incident adapterIds kind with
      incidentFingerprint := fingerprint } ∈ incidents := by
  obtain ⟨fingerprint, hashed⟩ :=
    exists_hash_of_textual (item.incident adapterIds kind).textual_payload
  refine ⟨fingerprint, (mem_detectIncidents detected _).mpr ⟨_, ?_,
    sealIncident_eq_ok.mpr ⟨fingerprint, hashed, rfl⟩⟩⟩
  exact List.mem_append_left _ (List.mem_flatMap.mpr ⟨item,
    (mem_sortedBy _ _ _).mpr listed, List.mem_map.mpr ⟨kind, condition, rfl⟩⟩)

/-- A recovery by a hold of the listing of an incident. -/
structure SampleRecovery (incident source : OperationalIncident)
    (reconciliationCase : Option ReconciliationCase) (recovery : Recovery) :
    Prop where
  made : recovery.Made incidentRegistry
  incident : recovery.call.incident = incident
  source : recovery.source = source
  releasedHold : recovery.releasedHold = recovery.call.hold
  validatedHold : recovery.validatedHold = recovery.call.hold
  reconciliationCase : recovery.call.reconciliationCase = reconciliationCase
  checked : recovery.call.check = .ok ()

theorem exists_sampleRecovery {incident source : OperationalIncident}
    {reconciliationCase : Option ReconciliationCase}
    (detected : incident.Detected incidentRegistry)
    (sourceDetected : source.Detected incidentRegistry)
    (reaches : "LISTING" ++ ":" ++ source.listingId ∈ source.blastRadius)
    (resolved : incident.outcomeUnknown → reconciliationCase.any
      (fun case_ => case_.state = "RESOLVED") = true) :
    ∃ recovery, SampleRecovery incident source reconciliationCase recovery := by
  obtain ⟨fingerprint, hashed⟩ := exists_hash_of_textual
    (source.hold "HOLD" "LISTING" source.listingId).textual_payload
  let hold := { source.hold "HOLD" "LISTING" source.listingId with
    holdFingerprint := fingerprint }
  have created : createExecutionHold "HOLD" source "LISTING"
      source.listingId incidentRegistry = .ok hold :=
    createExecutionHold_eq_ok.mpr ⟨by simp [incidentRegistry], reaches, fingerprint, hashed, rfl⟩
  let releaseDraft : HoldReleaseDecision :=
    ⟨"RELEASE", fingerprint, "ACTOR", "RELEASE", "RATIONALE", ""⟩
  obtain ⟨releaseFingerprint, releaseHashed⟩ :=
    exists_hash_of_textual releaseDraft.textual_payload
  let release := { releaseDraft with
    releaseFingerprint := releaseFingerprint }
  have released : makeHoldReleaseDecision "RELEASE" hold "ACTOR" "RELEASE"
      "RATIONALE" incidentRegistry = .ok release := by
    simp only [makeHoldReleaseDecision, bind_eq_ok, require_eq_ok, exists_const, pure_eq_ok]
    exact ⟨List.mem_cons_self, releaseFingerprint, releaseHashed, rfl⟩
  let validationDraft : RecoveryValidation :=
    ⟨"VALIDATION", fingerprint, "PREREQUISITE", "AUTHORITY", true, true, true, ""⟩
  obtain ⟨validationFingerprint, validationHashed⟩ :=
    exists_hash_of_textual validationDraft.textual_payload
  let validation := { validationDraft with
    validationFingerprint := validationFingerprint }
  have validated : makeRecoveryValidation hold validationDraft =
      .ok validation := by
    simp only [makeRecoveryValidation, bind_eq_ok, pure_eq_ok]
    exact ⟨validationFingerprint, validationHashed, rfl⟩
  refine ⟨⟨⟨"RECOVERY", incident, hold, release, validation,
    reconciliationCase⟩, source, hold, hold⟩, ?_⟩
  exact
    { made :=
        { incident := detected
          source := sourceDetected
          hold := ⟨_, _, _, created⟩
          releasedHold := ⟨source, sourceDetected, _, _, _, created⟩
          validatedHold := ⟨source, sourceDetected, _, _, _, created⟩
          release := ⟨_, _, _, _, released⟩
          validation := ⟨_, validated⟩ }
      incident := rfl
      source := rfl
      releasedHold := rfl
      validatedHold := rfl
      reconciliationCase := rfl
      checked := RecoveryCall.check_eq_ok.mpr ⟨⟨rfl, rfl⟩, rfl, ⟨rfl, rfl⟩,
        fun unknown => ⟨resolved unknown, rfl⟩⟩ }

theorem mem_sampleBlastRadius {item : ExecutionWorkspaceItem} {adapterId : Option String} :
    "LISTING" ++ ":" ++ item.listingId ∈ item.blastRadius adapterId := by
  simp [ExecutionWorkspaceItem.blastRadius, sortedSet]

/-- An incident is closed with the hold that was created for it. -/
theorem closes_what_was_recovered_sample :
    ∃ (recovery : Recovery) (evidence : RecoveryEvidence),
      recovery.Made incidentRegistry ∧
        closeIncidentWithRecovery recovery.call = .ok evidence ∧
          recovery.OfIncident := by
  obtain ⟨incidents, detects⟩ := exists_detectIncidents
    [sampleItem "LISTING" "DEGRADED" []] fun _ => none
  obtain ⟨fingerprint, listed⟩ := @exists_incident_of_condition _ _ _ _
    (sampleItem "LISTING" "DEGRADED" []) "ADAPTER_DEGRADED" detects
    List.mem_cons_self List.mem_cons_self
  have detected : OperationalIncident.Detected incidentRegistry _ :=
    ⟨_, _, _, detects, listed⟩
  obtain ⟨recovery, sample⟩ := @exists_sampleRecovery _ _ none detected
    detected mem_sampleBlastRadius fun unknown =>
      absurd unknown (by simp [OperationalIncident.outcomeUnknown,
        ExecutionWorkspaceItem.incident])
  have collisionFree : recovery.CollisionFree := by
    refine ⟨?_, ?_, ?_⟩
    · rw [sample.incident, sample.source]
      exact collisionFree_textsOf_pair _
    · rw [sample.releasedHold]
      exact collisionFree_textsOf_pair _
    · rw [sample.validatedHold]
      exact collisionFree_textsOf_pair _
  have linked : recovery.Linked := by
    refine ⟨?_, fun _ case_ given => ?_⟩
    · rw [sample.made.hold.carries.1, sample.source, sample.incident]
    · rw [sample.reconciliationCase] at given
      cases given
  obtain ⟨evidence, closed⟩ :=
    exists_closeIncidentWithRecovery_iff.mpr sample.checked
  exact ⟨recovery, evidence, sample.made, closed,
    (closes_what_was_recovered_iff sample.made collisionFree).1.mpr
      (fun _ => linked) evidence closed⟩

/-- A resolved case of some receipt. -/
def sampleResolvedCase (executionReceiptFingerprint : String) : ReconciliationCase where
  reconciliationCaseId := "CASE"
  executionReceiptFingerprint := executionReceiptFingerprint
  verificationFingerprint := Community.snapshotRegistry.certificationRoot
  state := "RESOLVED"
  reasonCodes := []
  correctiveActionEligible := true
  rollbackEligibility := "NOT_ELIGIBLE"
  openedAt := "2026-02-01T00:00:00+00:00"
  caseFingerprint := Community.snapshotRegistry.certificationRoot

/-- Of two incidents of one workspace, that of an unknown outcome is closed
with the hold of the other, and with a case of a receipt that is not in its
evidence. -/
theorem closed_with_other_recovery :
    ∃ (items : List ExecutionWorkspaceItem)
        (incidents : List OperationalIncident) (recovery : Recovery)
        (evidence : RecoveryEvidence) (case_ : ReconciliationCase),
      detectIncidents items (fun _ => none) incidentRegistry = .ok incidents ∧
        recovery.call.incident ∈ incidents ∧ recovery.source ∈ incidents ∧
          recovery.Made incidentRegistry ∧
            closeIncidentWithRecovery recovery.call = .ok evidence ∧
              recovery.call.incident.incidentType = "OUTCOME_UNKNOWN" ∧
                recovery.source.listingId ≠ recovery.call.incident.listingId ∧
                  recovery.call.reconciliationCase = some case_ ∧
                    case_.executionReceiptFingerprint ∉
                        recovery.call.incident.evidenceFingerprints ∧
                      ¬recovery.OfIncident := by
  let degraded := sampleItem "FIRST" "DEGRADED" []
  let unknown := sampleItem "SECOND" "HEALTHY" ["OUTCOME_UNKNOWN"]
  obtain ⟨incidents, detects⟩ :=
    exists_detectIncidents [degraded, unknown] fun _ => none
  obtain ⟨_, sourceListed⟩ := @exists_incident_of_condition _ _ _ _ degraded
    "ADAPTER_DEGRADED" detects List.mem_cons_self List.mem_cons_self
  obtain ⟨_, listed⟩ := @exists_incident_of_condition _ _ _ _ unknown
    "OUTCOME_UNKNOWN" detects (by simp)
    (by simp [unknown, sampleItem, ExecutionWorkspaceItem.conditions,
      ExecutionWorkspaceItem.outcomeUnknown])
  let case_ :=
    sampleResolvedCase (String.ofList (List.replicate 64 'c'))
  obtain ⟨recovery, sample⟩ := @exists_sampleRecovery _ _ (some case_)
    ⟨_, _, _, detects, listed⟩ ⟨_, _, _, detects, sourceListed⟩
    mem_sampleBlastRadius fun _ => rfl
  obtain ⟨evidence, closed⟩ :=
    exists_closeIncidentWithRecovery_iff.mpr sample.checked
  have elsewhere : recovery.source.listingId ≠
      recovery.call.incident.listingId := by
    rw [sample.source, sample.incident]
    dsimp only [ExecutionWorkspaceItem.incident, degraded, unknown, sampleItem]
    decide
  refine ⟨_, incidents, recovery, evidence, case_, detects, ?_, ?_,
    sample.made, closed, ?_, elsewhere, sample.reconciliationCase, ?_,
    fun ofIncident => elsewhere (congrArg _ ofIncident.hold)⟩
  · rw [sample.incident]
    exact listed
  · rw [sample.source]
    exact sourceListed
  · rw [sample.incident]
    rfl
  · have other : case_.executionReceiptFingerprint ≠
        Community.snapshotRegistry.certificationRoot := by decide
    rw [sample.incident]
    simpa [ExecutionWorkspaceItem.incident, sortedSet, unknown, sampleItem]
      using other

end SanTanHeights.Listing
