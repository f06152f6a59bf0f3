import SanTanHeights.Foundation.Json
import SanTanHeights.Operations.Incidents
import SanTanHeights.Publication.Freezes
import SanTanHeights.Regeneration.Jobs

/-!
# Automatic containment

`ContainmentRuleRegistry` and `AutomaticContainment`.  The announced effect of
an action is on the tables of three other subsystems: freezes, releases and
regeneration jobs.  Only the freeze is ever written, and only by a service
that was given a freeze repository; the release lifecycle that a service may
be given is never called, and is left out.
-/

namespace SanTanHeights.Operations

open Foundation Foundation.Outcome Shared
open Publication (Channel PublicationFreeze Target)
open Regeneration (JobState JobTables RegenerationJob)

/-! ## Rules -/

/-- `incidents.severity`, closed by the check constraint. -/
inductive Severity where
  | info
  | warning
  | error
  | critical
  deriving DecidableEq, Repr

/-- `SEVERITY`. -/
def Severity.rank : Severity → Nat
  | .info => 0
  | .warning => 1
  | .error => 2
  | .critical => 3

/-- The action types of the containment rules. -/
inductive ContainmentActionType where
  | freezePublicationTarget
  | blockRelease
  | holdRegenerationTarget
  deriving DecidableEq, Repr

/-- A rule of `containment-rules.yaml`. -/
structure ContainmentRule where
  incidentTypes : List String
  minimumSeverity : Severity
  actionType : ContainmentActionType
  reasonCode : String
  deriving DecidableEq

/-- `ContainmentRuleRegistry`. -/
structure ContainmentRuleRegistry where
  rules : List ContainmentRule

/-- `ContainmentRuleRegistry.resolve`. -/
def ContainmentRuleRegistry.resolve (registry : ContainmentRuleRegistry) (incidentType : String)
    (severity : Severity) : Option ContainmentRule :=
  (registry.rules.filter fun rule =>
    incidentType ∈ rule.incidentTypes ∧ rule.minimumSeverity.rank ≤ severity.rank).head?

/-- `registries/operations/containment-rules.yaml`. -/
def containmentRules : ContainmentRuleRegistry where
  rules :=
    [⟨["PUBLICATION_POINTER_INTEGRITY"], .error, .freezePublicationTarget,
        "INCIDENT_AUTOMATIC_CONTAINMENT"⟩,
      ⟨["UNSAFE_CURRENT_PUBLICATION"], .error, .freezePublicationTarget,
        "INCIDENT_AUTOMATIC_CONTAINMENT"⟩,
      ⟨["RELEASE_INTEGRITY"], .error, .blockRelease, "INCIDENT_AUTOMATIC_CONTAINMENT"⟩,
      ⟨["STUCK_REGENERATION_JOB"], .critical, .holdRegenerationTarget,
        "INCIDENT_AUTOMATIC_CONTAINMENT"⟩]

/-! ## Releases -/

/-- `_RELEASE_STATES`. -/
inductive ReleaseState where
  | draft
  | assembling
  | generationReady
  | generating
  | validating
  | staged
  | approved
  | publishing
  | published
  | blocked
  | partialFailure
  | rollingBack
  | rolledBack
  | cancelled
  deriving DecidableEq, Repr

/-- `RELEASE_TRANSITIONS`. -/
def releaseTransitions : ReleaseState → List ReleaseState
  | .draft => [.assembling, .cancelled]
  | .assembling => [.generationReady, .blocked, .cancelled]
  | .generationReady => [.generating, .blocked, .cancelled]
  | .generating => [.validating, .blocked, .partialFailure, .cancelled]
  | .validating => [.staged, .blocked, .partialFailure, .cancelled]
  | .staged => [.approved, .blocked, .cancelled]
  | .approved => [.publishing, .blocked, .cancelled]
  | .publishing => [.published, .partialFailure, .blocked, .rollingBack]
  | .published => [.rollingBack]
  | .partialFailure => [.rollingBack, .cancelled]
  | .blocked =>
      [.assembling, .generationReady, .validating, .staged, .cancelled]
  | .rollingBack => [.rolledBack, .blocked]
  | .rolledBack => []
  | .cancelled => []

/-- A release that is blocked, or that nothing moves any more. -/
def ReleaseState.Stopped (state : ReleaseState) : Prop :=
  state = .blocked ∨ releaseTransitions state = []

instance (state : ReleaseState) : Decidable state.Stopped := inferInstanceAs (Decidable (_ ∨ _))

/-! ## Tables -/

/-- `reference.publication_channel`. -/
def channelCode : Channel → String
  | .web => "WEB"
  | .pdfDownload => "PDF_DOWNLOAD"
  | .print => "PRINT"

/-- The variant under a code. -/
def variantOf (code : String) : Option Variant :=
  variants.find? fun variant => variant.code = code

/-- The channel under a code. -/
def channelOf (code : String) : Option Channel :=
  Publication.channels.find? fun channel => channelCode channel = code

/-- The fields of `Incident` that containment reads. -/
structure ContainableIncident extends Incident where
  incidentType : String
  severity : Severity
  propertyId : Option Uuid
  reportVariant : Option String
  channel : Option String
  releaseId : Option Uuid
  deriving DecidableEq

inductive ContainmentStatus where
  | noAction
  | applied
  | failed
  deriving DecidableEq, Repr

/-- `ContainmentDecision`. -/
structure ContainmentDecision where
  status : ContainmentStatus
  actionType : Option ContainmentActionType
  reasonCode : Option String
  deriving DecidableEq

/-- A row of `operations.containment_actions`. -/
structure ContainmentAction where
  containmentActionId : Uuid
  incidentId : Uuid
  actionType : ContainmentActionType
  targetKey : String
  actionStatus : ContainmentStatus
  reasonCode : String
  evidence : Json
  appliedBy : String
  correlationId : Option Uuid
  appliedAt : Option Nat

/-- The columns of `UNIQUE(incident_id,action_type,target_key)`. -/
def ContainmentAction.key (action : ContainmentAction) :
    Uuid × ContainmentActionType × String :=
  (action.incidentId, action.actionType, action.targetKey)

/-- The incidents with their containment, and what containment is about. -/
structure ContainmentTables where
  incidents : IncidentTables
  actions : List ContainmentAction
  publication : Publication.Database
  releaseStates : Uuid → Option ReleaseState
  jobs : JobTables

namespace ContainmentTables

/-- `PublicationFreezeRepository.create`. -/
def createFreeze (tables : ContainmentTables) (freezeId propertyId : Uuid)
    (reportVariant : String) (channel : Option String) (reasonCode : String)
    (now : Nat) : Except String ContainmentTables := do
  require (propertyId ∈ tables.jobs.referenced.properties)
    "violates foreign key constraint"
  let variant ← orRaise (variantOf reportVariant)
    "violates foreign key constraint"
  let limit ← channel.mapM fun code =>
    orRaise (channelOf code) "violates foreign key constraint"
  let freeze : PublicationFreeze :=
    { freezeId := freezeId
      scope := some (⟨propertyId, variant⟩, limit)
      reasonCode := reasonCode
      createdAt := now
      released := false }
  require (∀ other ∈ tables.publication.freezes,
      other.scope.isSome → other.freezeId ≠ freezeId)
    "duplicate key value violates unique constraint"
  require (∀ other ∈ tables.publication.freezes,
      other.released = false → other.scope ≠ freeze.scope)
    "duplicate key value violates unique constraint"
  return { tables with publication := tables.publication.createFreeze freeze }

/-- `AutomaticContainment.INSERT`. -/
def insertAction (tables : ContainmentTables) (action : ContainmentAction) :
    Except String ContainmentTables := do
  if ∃ other ∈ tables.actions, other.key = action.key then return tables
  require (∀ other ∈ tables.actions, other.containmentActionId ≠ action.containmentActionId)
    "duplicate key value violates unique constraint"
  require (tables.incidents.incidents.find action.incidentId).isSome
    "violates foreign key constraint"
  require (action.reasonCode ∈ tables.incidents.reasonCodes)
    "violates foreign key constraint"
  return { tables with actions := tables.actions ++ [action] }

end ContainmentTables

/-! ## The service -/

/-- `AutomaticContainment`: its rules, and whether it has freezes. -/
structure AutomaticContainment where
  registry : ContainmentRuleRegistry
  hasFreezes : Bool

/-- The other arguments of a call, the identifiers that `uuid4` returns in it
and the time of its transaction. -/
structure ContainCall where
  targetKey : String
  actor : String
  evidence : Json
  freezeId : Uuid
  actionId : Uuid
  now : Nat

/-- A string that Python takes for true. -/
def truthy (text : Option String) : Option String :=
  text.filter fun text => text ≠ ""

/-- What `contain` does before it records an action: the status, and the
tables. -/
def AutomaticContainment.act (service : AutomaticContainment) (rule : ContainmentRule)
    (incident : ContainableIncident) (call : ContainCall) (tables : ContainmentTables) :
    Except String (ContainmentStatus × ContainmentTables) :=
  match rule.actionType with
  | .freezePublicationTarget =>
      match incident.propertyId, truthy incident.reportVariant with
      | some propertyId, some reportVariant =>
          if service.hasFreezes then do
            let frozen ← tables.createFreeze call.freezeId propertyId
              reportVariant incident.channel rule.reasonCode call.now
            return (.applied, frozen)
          else return (.applied, tables)
      | _, _ => return (.failed, tables)
  | .blockRelease =>
      return (if incident.releaseId.isSome then .applied else .failed, tables)
  | .holdRegenerationTarget =>
      return (if incident.propertyId.isSome then .applied else .failed, tables)

/-- `AutomaticContainment.contain`. -/
def AutomaticContainment.contain
    (service : AutomaticContainment) (incident : ContainableIncident)
    (call : ContainCall) (tables : ContainmentTables) :
    Except String (ContainmentDecision × ContainmentTables) :=
  match service.registry.resolve incident.incidentType incident.severity with
  | none => return (⟨.noAction, none, none⟩, tables)
  | some rule => do
      let (status, acted) ← service.act rule incident call tables
      let recorded ← acted.insertAction
        { containmentActionId := call.actionId
          incidentId := incident.incidentId
          actionType := rule.actionType
          targetKey := call.targetKey
          actionStatus := status
          reasonCode := rule.reasonCode
          evidence := call.evidence
          appliedBy := call.actor
          correlationId := incident.correlationId
          appliedAt := if status = .applied then some call.now else none }
      return (⟨status, some rule.actionType, some rule.reasonCode⟩, recorded)

/-! ## What the actions announce -/

/-- The channels that an incident is about: its own, or all of them. -/
def ContainableIncident.Concerns
    (incident : ContainableIncident) (holds : Channel → Prop) : Prop :=
  match incident.channel with
  | none => ∀ channel, holds channel
  | some code => ∃ channel, channelOf code = some channel ∧ holds channel

/-- A freeze in force covers a channel. -/
def Frozen (database : Publication.Database) (target : Target) (channel : Channel) : Prop :=
  ∃ freeze ∈ database.freezes, freeze.Covers target channel

/-- Every service that asks about freezes refuses to publish to a channel. -/
def PublishBlocked (database : Publication.Database) (target : Target) (channel : Channel) :
    Prop :=
  ∀ (service : Publication.AtomicPublicationService)
    (call : Publication.StageCall),
    service.hasFreezes = true → call.stage.target = target →
    call.stage.channel = channel →
      ∃ result next, service.publish call database = .ok (result, next) ∧ result.status = .blocked

/-- The target of an incident is frozen, and so refused to every
publication. -/
def PublicationFrozen (incident : ContainableIncident) (tables : ContainmentTables) : Prop :=
  ∃ propertyId variant, incident.propertyId = some propertyId ∧
    incident.reportVariant.bind variantOf = some variant ∧
    incident.Concerns fun channel =>
      Frozen tables.publication ⟨propertyId, variant⟩ channel ∧
        PublishBlocked tables.publication ⟨propertyId, variant⟩ channel

/-- The release of an incident is blocked, or nothing moves it any more. -/
def ReleaseStopped (incident : ContainableIncident) (tables : ContainmentTables) : Prop :=
  ∃ releaseId state, incident.releaseId = some releaseId ∧
    tables.releaseStates releaseId = some state ∧ state.Stopped

/-- No claim takes a job of the property of an incident, whichever jobs other
transactions have locked. -/
def RegenerationHeld (incident : ContainableIncident) (tables : ContainmentTables) : Prop :=
  ∀ (workerId : String) (leaseExpiresAt now : Time) (locked : List Uuid)
    (job : RegenerationJob) (next : JobTables),
    tables.jobs.claimNext workerId leaseExpiresAt locked now = .ok (some job, next) →
    incident.propertyId ≠ some job.propertyId

/-- The effect that an action announces. -/
def InForce (incident : ContainableIncident) (tables : ContainmentTables) :
    ContainmentActionType → Prop
  | .freezePublicationTarget => PublicationFrozen incident tables
  | .blockRelease => ReleaseStopped incident tables
  | .holdRegenerationTarget => RegenerationHeld incident tables

/-- A job that waits for a worker, in a state that a claim starts from. -/
def WaitsForWorker (job : RegenerationJob) : Prop :=
  (job.jobState = .queued ∨ job.jobState = .retryWait) ∧ job.attemptCount + 1 < 2 ^ 31

/-- What must be there before for an action to be in force afterwards. -/
def Prepared (service : AutomaticContainment) (incident : ContainableIncident)
    (tables : ContainmentTables) : ContainmentActionType → Prop
  | .freezePublicationTarget =>
      service.hasFreezes = true ∨
        ∃ propertyId variant, incident.propertyId = some propertyId ∧
          incident.reportVariant.bind variantOf = some variant ∧
          incident.Concerns (Frozen tables.publication ⟨propertyId, variant⟩)
  | .blockRelease => ReleaseStopped incident tables
  | .holdRegenerationTarget =>
      ∀ job ∈ tables.jobs.jobs.rows, WaitsForWorker job → incident.propertyId ≠ some job.propertyId

variable {before after : ContainmentTables} {incident : ContainableIncident}
  {service : AutomaticContainment} {call : ContainCall}

/-! ## Frames -/

theorem ContainmentTables.insertAction_frame {action : ContainmentAction}
    (ran : before.insertAction action = .ok after) :
    after.publication = before.publication ∧
      after.releaseStates = before.releaseStates ∧
      after.jobs = before.jobs := by
  unfold insertAction at ran
  split_ifs at ran with recorded
  · cases ran
    exact ⟨rfl, rfl, rfl⟩
  · simp only [require_bind_eq_ok, pure_eq_ok] at ran
    obtain ⟨-, -, -, rfl⟩ := ran
    exact ⟨rfl, rfl, rfl⟩

/-- A freeze is in force on the channels that its scope names. -/
theorem ContainmentTables.frozen_of_createFreeze
    {freezeId propertyId : Uuid} {reportVariant : String} {reasonCode : String} {now : Nat}
    (ran : before.createFreeze freezeId propertyId reportVariant
      incident.channel reasonCode now = .ok after) :
    ∃ variant, variantOf reportVariant = some variant ∧ incident.Concerns
        (Frozen after.publication ⟨propertyId, variant⟩) := by
  unfold createFreeze at ran
  obtain ⟨-, ran⟩ := require_bind_eq_ok.mp ran
  obtain ⟨variant, named, ran⟩ := bind_eq_ok.mp ran
  obtain ⟨limit, limited, ran⟩ := bind_eq_ok.mp ran
  simp only [require_bind_eq_ok, pure_eq_ok] at ran
  obtain ⟨-, -, rfl⟩ := ran
  refine ⟨variant, orRaise_eq_ok.mp named, ?_⟩
  have added : ∀ channel, (limit = none ∨ limit = some channel) →
      Frozen (before.publication.createFreeze
        ⟨freezeId, some (⟨propertyId, variant⟩, limit), reasonCode, now,
          false⟩) ⟨propertyId, variant⟩ channel := by
    intro channel covered
    refine ⟨_, List.mem_append_right _ (List.mem_singleton_self _), rfl, ?_⟩
    rcases covered with rfl | rfl
    · exact .inr (.inl rfl)
    · exact .inr (.inr rfl)
  unfold ContainableIncident.Concerns
  cases concerned : incident.channel with
  | none =>
      rw [concerned] at limited
      cases limited
      exact fun channel => added channel (.inl rfl)
  | some code =>
      rw [concerned] at limited
      obtain ⟨channel, found, ended⟩ := bind_eq_ok.mp limited
      cases ended
      exact ⟨channel, orRaise_eq_ok.mp found, added channel (.inr rfl)⟩

/-- What an action does: a freeze, if it is one and freezes are configured,
and nothing else. -/
theorem AutomaticContainment.act_cases {rule : ContainmentRule} {status : ContainmentStatus}
    (ran : service.act rule incident call before = .ok (status, after)) :
    after = before ∧ (rule.actionType = .freezePublicationTarget →
          status = .applied → service.hasFreezes = false) ∨
      rule.actionType = .freezePublicationTarget ∧ service.hasFreezes = true ∧
        ∃ propertyId reportVariant, incident.propertyId = some propertyId ∧
          incident.reportVariant = some reportVariant ∧
          before.createFreeze call.freezeId propertyId reportVariant
            incident.channel rule.reasonCode call.now = .ok after := by
  unfold act at ran
  cases action : rule.actionType with
  | freezePublicationTarget =>
      simp only [action] at ran
      split at ran
      · rename_i propertyId reportVariant found named
        split_ifs at ran with configured
        · obtain ⟨frozen, created, ended⟩ := bind_eq_ok.mp ran
          cases ended
          exact .inr ⟨rfl, configured, propertyId, reportVariant, found,
            (Option.filter_eq_some_iff.mp named).1, created⟩
        · cases ran
          exact .inl ⟨rfl, fun _ _ => by simpa using configured⟩
      · cases ran
        exact .inl ⟨rfl, by rintro - ⟨⟩⟩
  | blockRelease =>
      simp only [action, pure_eq_ok, Prod.mk.injEq] at ran
      exact .inl ⟨ran.2.symm, by rintro ⟨⟩⟩
  | holdRegenerationTarget =>
      simp only [action, pure_eq_ok, Prod.mk.injEq] at ran
      exact .inl ⟨ran.2.symm, by rintro ⟨⟩⟩

/-- The row of an action. -/
def ContainCall.record (call : ContainCall) (incident : ContainableIncident)
    (rule : ContainmentRule) (status : ContainmentStatus) :
    ContainmentAction where
  containmentActionId := call.actionId
  incidentId := incident.incidentId
  actionType := rule.actionType
  targetKey := call.targetKey
  actionStatus := status
  reasonCode := rule.reasonCode
  evidence := call.evidence
  appliedBy := call.actor
  correlationId := incident.correlationId
  appliedAt := if status = .applied then some call.now else none

theorem AutomaticContainment.contain_eq_ok
    {rule : ContainmentRule} {decision : ContainmentDecision}
    (resolved : service.registry.resolve incident.incidentType incident.severity = some rule) :
    service.contain incident call before = .ok (decision, after) ↔
      ∃ status acted,
        service.act rule incident call before = .ok (status, acted) ∧
        acted.insertAction (call.record incident rule status) = .ok after ∧
        ⟨status, some rule.actionType, some rule.reasonCode⟩ = decision := by
  simp only [contain, resolved, bind_eq_ok, Prod.exists, pure_eq_ok, Prod.mk.injEq]
  constructor
  · rintro ⟨status, acted, took, _, inserted, rfl, rfl⟩
    exact ⟨status, acted, took, inserted, rfl⟩
  · rintro ⟨status, acted, took, inserted, rfl⟩
    exact ⟨status, acted, took, after, inserted, rfl, rfl⟩

/-- A call that returns `APPLIED` has acted and recorded its action. -/
theorem AutomaticContainment.act_of_contain
    {decision : ContainmentDecision} {action : ContainmentActionType}
    (ran : service.contain incident call before = .ok (decision, after))
    (applied : decision.status = .applied) (announced : decision.actionType = some action) :
    ∃ rule acted, rule.actionType = action ∧
      service.act rule incident call before = .ok (.applied, acted) ∧
      after.publication = acted.publication ∧
      after.releaseStates = acted.releaseStates ∧
      after.jobs = acted.jobs := by
  cases resolved : service.registry.resolve incident.incidentType
      incident.severity with
  | none =>
      rw [contain, resolved] at ran
      cases ran
      cases applied
  | some rule =>
      obtain ⟨status, acted, took, inserted, rfl⟩ := (contain_eq_ok resolved).mp ran
      cases applied
      exact ⟨rule, acted, Option.some.inj announced, took,
        ContainmentTables.insertAction_frame inserted⟩

/-! ## When an announced effect holds -/

theorem ContainableIncident.Concerns.imp {holds other : Channel → Prop}
    (concerns : incident.Concerns holds) (implies : ∀ channel, holds channel → other channel) :
    incident.Concerns other := by
  unfold Concerns at concerns ⊢
  cases concerned : incident.channel with
  | none =>
      rw [concerned] at concerns
      exact fun channel => implies channel (concerns channel)
  | some code =>
      rw [concerned] at concerns
      obtain ⟨channel, found, held⟩ := concerns
      exact ⟨channel, found, implies channel held⟩

/-- A frozen channel is refused to publications. -/
theorem Frozen.publishBlocked
    {database : Publication.Database} {target : Target} {channel : Channel}
    (frozen : Frozen database target channel) :
    PublishBlocked database target channel := by
  rintro service call configured rfl rfl
  obtain ⟨freeze, active, covers⟩ := frozen
  obtain ⟨latest, -, reported⟩ := Publication.exists_activeFreeze active covers
  unfold Publication.AtomicPublicationService.publish
  simp only [Publication.frozenBy, configured, if_true, reported]
  exact ⟨_, _, rfl, rfl⟩

theorem publicationFrozen_iff {tables : ContainmentTables} :
    PublicationFrozen incident tables ↔
      ∃ propertyId variant, incident.propertyId = some propertyId ∧
        incident.reportVariant.bind variantOf = some variant ∧
        incident.Concerns (Frozen tables.publication ⟨propertyId, variant⟩) := by
  constructor
  · rintro ⟨propertyId, variant, found, named, concerns⟩
    exact ⟨propertyId, variant, found, named, concerns.imp fun channel held => held.1⟩
  · rintro ⟨propertyId, variant, found, named, concerns⟩
    exact ⟨propertyId, variant, found, named,
      concerns.imp fun channel held => ⟨held, held.publishBlocked⟩⟩

/-- A job that waits is taken as soon as its time has come and all others are
locked. -/
theorem exists_claim_of_waits {tables : JobTables} {job : RegenerationJob}
    (present : job ∈ tables.jobs.rows) (waits : WaitsForWorker job)
    (workerId : String) (leaseExpiresAt : Time) :
    ∃ now locked claimed next,
      tables.claimNext workerId leaseExpiresAt locked now = .ok (some claimed, next) ∧
      claimed.propertyId = job.propertyId := by
  let now := job.nextRetryAt.getD 0
  let locked := (tables.jobs.rows.map RegenerationJob.jobId).filter
    fun jobId => jobId ≠ job.jobId
  have claimable : job.Claimable now := by
    rcases waits.1 with queued | waiting
    · exact .inl queued
    · refine .inr ⟨waiting, fun nextRetryAt due => ?_⟩
      rw [Option.mem_def] at due
      simp only [now, due, Option.getD_some, Std.le_refl]
  have free : job.jobId ∉ locked := by simp [locked]
  have only : ∀ other, tables.candidate locked now = some other →
      other = job := by
    intro other taken
    obtain ⟨otherPresent, -, otherFree⟩ := JobTables.mem_of_candidate taken
    have same : other.jobId = job.jobId := by
      by_contra distinct
      apply otherFree
      rw [List.mem_filter]
      exact ⟨List.mem_map_of_mem otherPresent, decide_eq_true distinct⟩
    have found := Table.find_of_mem otherPresent
    rw [same, Table.find_of_mem present] at found
    exact (Option.some.inj found).symm
  cases taken : tables.candidate locked now with
  | none =>
      have listed : job ∈ tables.jobs.rows.filter fun job =>
          job.Claimable now ∧ job.jobId ∉ locked :=
        List.mem_filter.mpr ⟨present, decide_eq_true ⟨claimable, free⟩⟩
      rw [JobTables.candidate, List.head?_eq_none_iff] at taken
      have sorted : job ∈ ([] : List RegenerationJob) := by
        rw [← taken, Sorting.mem_sortedBy]
        exact listed
      cases sorted
  | some other =>
      obtain rfl := only other taken
      have claims : ∃ next,
          tables.claimNext workerId leaseExpiresAt locked now =
            .ok (some (other.claim workerId leaseExpiresAt now), next) := by
        unfold JobTables.claimNext
        simp only [taken, require_bind_eq_ok, pure_eq_ok, Prod.mk.injEq, true_and]
        exact ⟨_, waits.2, rfl⟩
      obtain ⟨next, ran⟩ := claims
      exact ⟨now, locked, _, next, ran, rfl⟩

/-- The jobs of a property are held when none of them waits. -/
theorem regenerationHeld_iff {tables : ContainmentTables} :
    RegenerationHeld incident tables ↔
      ∀ job ∈ tables.jobs.jobs.rows, WaitsForWorker job →
        incident.propertyId ≠ some job.propertyId := by
  constructor
  · intro held job present waits own
    obtain ⟨now, locked, claimed, next, ran, same⟩ := exists_claim_of_waits present waits "" 0
    apply held "" 0 now locked claimed next ran
    rw [own, same]
  · intro none workerId leaseExpiresAt now locked job next ran
    unfold JobTables.claimNext at ran
    cases taken : tables.jobs.candidate locked now with
    | none =>
        rw [taken] at ran
        cases ran
    | some prior =>
        rw [taken] at ran
        obtain ⟨bounded, ended⟩ := require_bind_eq_ok.mp ran
        cases ended
        obtain ⟨present, claimable, -⟩ := JobTables.mem_of_candidate taken
        apply none prior present
        exact ⟨claimable.imp_right And.left, bounded⟩

/-- What a call announces holds afterwards exactly if it freezes a target for
a service with freezes, or held before. -/
theorem inForce_iff {service : AutomaticContainment} {incident : ContainableIncident}
    {call : ContainCall} {before after : ContainmentTables}
    {decision : ContainmentDecision} {action : ContainmentActionType}
    (ran : service.contain incident call before = .ok (decision, after))
    (applied : decision.status = .applied) (announced : decision.actionType = some action) :
    InForce incident after action ↔ Prepared service incident before action
    := by
  obtain ⟨rule, acted, rfl, took, publication, releases, jobs⟩ :=
    AutomaticContainment.act_of_contain ran applied announced
  rcases AutomaticContainment.act_cases took with
    ⟨rfl, unconfigured⟩ |
      ⟨freezes, configured, propertyId, reportVariant, found, named, created⟩
  · cases action : rule.actionType with
    | freezePublicationTarget =>
        have disabled := unconfigured action rfl
        rw [InForce, publicationFrozen_iff, publication, Prepared, disabled]
        simp only [Bool.false_eq_true, false_or]
    | blockRelease =>
        rw [InForce, ReleaseStopped, releases, Prepared, ReleaseStopped]
    | holdRegenerationTarget =>
        rw [InForce, regenerationHeld_iff, jobs, Prepared]
  · rw [freezes, InForce, publicationFrozen_iff, publication, Prepared]
    refine iff_of_true ?_ (.inl configured)
    obtain ⟨variant, variantNamed, concerns⟩ :=
      ContainmentTables.frozen_of_createFreeze created
    refine ⟨propertyId, variant, found, ?_, concerns⟩
    rw [named, Option.bind_some, variantNamed]

/-! ## Sample calls -/

/-- An incident about a property, its public report on the web and a
release. -/
def sampleIncident (incidentType : String) : ContainableIncident where
  incidentId := 1
  incidentState := .opened
  correlationId := none
  incidentType := incidentType
  severity := .critical
  propertyId := some 2
  reportVariant := some "PUBLIC"
  channel := some "WEB"
  releaseId := some 3

def sampleContainCall : ContainCall where
  targetKey := "target"
  actor := "OPERATIONS_SERVICE"
  evidence := .obj []
  freezeId := 4
  actionId := 5
  now := 0

/-- The incident, and a release that is being published. -/
def sampleContainmentTables : ContainmentTables where
  incidents :=
    { incidents := ⟨[⟨1, .opened, none, none, none, none⟩],
        by decide⟩
      history := []
      reasonCodes := ["INCIDENT_AUTOMATIC_CONTAINMENT"] }
  actions := []
  publication := Publication.sampleDatabase [] []
  releaseStates := fun releaseId =>
    if releaseId = 3 then some .publishing else none
  jobs := ⟨⟨[2], [], [], [], []⟩, .empty _⟩

def sampleContainment : AutomaticContainment where
  registry := containmentRules
  hasFreezes := true

theorem inForce_iff_sample :
    ∃ decision after,
      sampleContainment.contain (sampleIncident "UNSAFE_CURRENT_PUBLICATION")
          sampleContainCall sampleContainmentTables =
        .ok (decision, after) ∧
      (InForce (sampleIncident "UNSAFE_CURRENT_PUBLICATION") after
          .freezePublicationTarget ↔
        Prepared sampleContainment (sampleIncident "UNSAFE_CURRENT_PUBLICATION")
          sampleContainmentTables .freezePublicationTarget) := by
  refine ⟨_, _, rfl, ?_⟩
  exact inForce_iff rfl rfl rfl

/-- A release whose containment is applied goes on publishing. -/
theorem applied_release_not_blocked :
    ∃ (service : AutomaticContainment) (incident : ContainableIncident)
      (call : ContainCall) (before after : ContainmentTables)
      (decision : ContainmentDecision),
      service.registry = containmentRules ∧ service.hasFreezes = true ∧
      service.contain incident call before = .ok (decision, after) ∧
      decision.status = .applied ∧
      decision.actionType = some .blockRelease ∧
      ¬InForce incident after .blockRelease := by
  refine ⟨sampleContainment, sampleIncident "RELEASE_INTEGRITY",
    sampleContainCall, sampleContainmentTables, _, _, rfl, rfl, rfl, rfl, rfl,
    ?_⟩
  rintro ⟨releaseId, state, own, current, stopped⟩
  cases own
  cases current
  revert stopped
  decide

end SanTanHeights.Operations
