import SanTanHeights.Operations.Containment

/-!
# Repeated containment

Containment may be asked for again, for the same incident or for another one
of the same scope.  A row of the action that is there already is kept, but a
freeze is always inserted, and a unique index refuses a second freeze in force
for one scope.
-/

namespace SanTanHeights.Operations

open Foundation Foundation.Outcome Foundation.Runs Shared
open Publication (Channel Database PublicationFreeze Target)

/-! ## Scopes -/

/-- The scope of a freeze that is in force and not global. -/
def activeScope (freeze : PublicationFreeze) : Option (Target × Option Channel) :=
  if freeze.released then none else freeze.scope

def activeScopes (database : Database) : List (Target × Option Channel) :=
  database.freezes.filterMap activeScope

/-- The channel under a code, or all of them. -/
def limitOf : Option String → Option (Option Channel)
  | none => some none
  | some code => (channelOf code).map some

/-- The scope that an incident names. -/
def ContainableIncident.scope (incident : ContainableIncident) :
    Option (Target × Option Channel) := do
  let propertyId ← incident.propertyId
  let variant ← incident.reportVariant.bind variantOf
  let limit ← limitOf incident.channel
  return (⟨propertyId, variant⟩, limit)

theorem activeScopes_createFreeze {database : Database} {freeze : PublicationFreeze}
    (active : freeze.released = false) :
    activeScopes (database.createFreeze freeze) = activeScopes database ++ freeze.scope.toList := by
  unfold activeScopes Database.createFreeze
  rw [List.filterMap_append]
  cases scope : freeze.scope <;> simp [activeScope, active, scope]

variable {scope : Target × Option Channel} {before after : ContainmentTables}

theorem mem_activeScopes {database : Database} :
    scope ∈ activeScopes database ↔
      ∃ freeze ∈ database.freezes, freeze.released = false ∧ freeze.scope = some scope := by
  simp [activeScopes, activeScope]

theorem activeScopes_releaseFreeze (database : Database) (isGlobal : Bool) (freezeId : Uuid) :
    (activeScopes (database.releaseFreeze isGlobal freezeId)).Sublist (activeScopes database) := by
  unfold activeScopes Database.releaseFreeze
  dsimp only
  induction database.freezes with
  | nil => exact List.Sublist.refl _
  | cons freeze freezes ih =>
      rw [List.map_cons]
      split_ifs with named
      · rw [List.filterMap_cons_none (by rfl)]
        cases scope : activeScope freeze with
        | none => rwa [List.filterMap_cons_none scope]
        | some kept =>
            rw [List.filterMap_cons_some scope]
            exact ih.cons _
      · cases scope : activeScope freeze with
        | none =>
            rwa [List.filterMap_cons_none scope, List.filterMap_cons_none scope]
        | some kept =>
            rw [List.filterMap_cons_some scope, List.filterMap_cons_some scope]
            exact ih.cons_cons _

/-! ## What the statements return -/

/-- The identifiers that a call draws are new. -/
structure ContainCall.Drawn (call : ContainCall) (tables : ContainmentTables) : Prop where
  freezeId : ∀ other ∈ tables.publication.freezes,
    other.scope.isSome → other.freezeId ≠ call.freezeId
  actionId : ∀ other ∈ tables.actions, other.containmentActionId ≠ call.actionId

theorem limitOf_eq_some {channel : Option String} {message : String} {limit : Option Channel} :
    (channel.mapM fun code => orRaise (channelOf code) message) =
      .ok limit ↔ limitOf channel = some limit := by
  cases channel with
  | none => simp [limitOf, pure, Except.pure, eq_comm]
  | some code =>
      cases found : channelOf code <;>
        simp [limitOf, found, orRaise, Functor.map, Except.map, eq_comm]

/-- A freeze with a new identifier is created in a scope of known parts that
has none in force. -/
theorem ContainmentTables.createFreeze_eq_ok {call : ContainCall}
    (drawn : call.Drawn before) {propertyId : Uuid} {reportVariant : String}
    {channel : Option String} {reasonCode : String} :
    before.createFreeze call.freezeId propertyId reportVariant channel
        reasonCode call.now = .ok after ↔
      ∃ variant limit, variantOf reportVariant = some variant ∧
        limitOf channel = some limit ∧
        propertyId ∈ before.jobs.referenced.properties ∧
        (⟨propertyId, variant⟩, limit) ∉ activeScopes before.publication ∧
        { before with
          publication := before.publication.createFreeze
            ⟨call.freezeId, some (⟨propertyId, variant⟩, limit), reasonCode,
              call.now, false⟩ } = after := by
  simp only [createFreeze, bind_eq_ok, require_eq_ok, exists_const,
    orRaise_eq_ok, limitOf_eq_some, pure_eq_ok, mem_activeScopes]
  constructor
  · rintro ⟨known, variant, named, limit, limited, -, free, made⟩
    refine ⟨variant, limit, named, limited, known, ?_, made⟩
    rintro ⟨other, listed, active, same⟩
    exact free other listed active same
  · rintro ⟨variant, limit, named, limited, known, free, made⟩
    exact ⟨known, variant, named, limit, limited, drawn.freezeId,
      fun other listed active same => free ⟨other, listed, active, same⟩,
      made⟩

/-- An action is on record, or what its row refers to is. -/
def Recordable (tables : ContainmentTables) (incidentId : Uuid)
    (key : Uuid × ContainmentActionType × String) (reasonCode : String) :
    Prop :=
  (∃ other ∈ tables.actions, other.key = key) ∨
    (tables.incidents.incidents.find incidentId).isSome ∧ reasonCode ∈ tables.incidents.reasonCodes

theorem ContainmentTables.exists_insertAction_iff
    {tables : ContainmentTables} {action : ContainmentAction}
    (new : ∀ other ∈ tables.actions, other.containmentActionId ≠ action.containmentActionId) :
    (∃ after, tables.insertAction action = .ok after) ↔
      Recordable tables action.incidentId action.key action.reasonCode := by
  unfold insertAction Recordable
  split_ifs with recorded
  · exact iff_of_true ⟨_, rfl⟩ (.inl recorded)
  · simp only [require_bind_eq_ok, pure_eq_ok]
    constructor
    · rintro ⟨_, -, known, reason, -⟩
      exact .inr ⟨known, reason⟩
    · rintro (present | ⟨known, reason⟩)
      · exact absurd present recorded
      · exact ⟨_, new, known, reason, rfl⟩

theorem ContainmentTables.nodup_insertAction {action : ContainmentAction}
    (inserted : before.insertAction action = .ok after)
    (distinct : (before.actions.map ContainmentAction.key).Nodup) :
    (after.actions.map ContainmentAction.key).Nodup := by
  unfold insertAction at inserted
  split_ifs at inserted with recorded
  · cases inserted
    exact distinct
  · simp only [require_bind_eq_ok, pure_eq_ok] at inserted
    obtain ⟨-, -, -, rfl⟩ := inserted
    rw [List.map_append]
    refine List.nodup_append'.mpr ⟨distinct, List.nodup_singleton _, ?_⟩
    rw [List.map_singleton, List.disjoint_singleton, List.mem_map]
    exact recorded

/-! ## Runs -/

inductive ContainmentEvent where
  | contained (service : AutomaticContainment) (incident : ContainableIncident) (call : ContainCall)
  | published (event : Publication.Event)
  | elsewhere

/-- Containment is called, the publication changes as it may, or something
else changes; a call that raises is rolled back and changes nothing. -/
inductive ContainmentStep :
    ContainmentTables → ContainmentEvent → ContainmentTables → Prop
  | contained {before after : ContainmentTables}
      {service : AutomaticContainment} {incident : ContainableIncident}
      {call : ContainCall} {decision : ContainmentDecision} :
      call.Drawn before →
      service.contain incident call before = .ok (decision, after) →
        ContainmentStep before (.contained service incident call) after
  | published {before : ContainmentTables} {publication : Database}
      {event : Publication.Event} :
      Publication.Step before.publication event publication →
        ContainmentStep before (.published event) { before with publication := publication }
  | elsewhere {before after : ContainmentTables} :
      after.publication = before.publication →
      after.actions = before.actions → ContainmentStep before .elsewhere after

/-- No scope is frozen twice, and no action is recorded twice. -/
structure Single (tables : ContainmentTables) : Prop where
  scopes : (activeScopes tables.publication).Nodup
  actions : (tables.actions.map ContainmentAction.key).Nodup

theorem Single.step {event : ContainmentEvent}
    (single : Single before) (taken : ContainmentStep before event after) :
    Single after := by
  cases taken with
  | @contained after service incident call decision drawn ran =>
      cases resolved : service.registry.resolve incident.incidentType
          incident.severity with
      | none =>
          rw [AutomaticContainment.contain, resolved] at ran
          cases ran
          exact single
      | some rule =>
          obtain ⟨status, acted, took, inserted, -⟩ :=
            (AutomaticContainment.contain_eq_ok resolved).mp ran
          rcases AutomaticContainment.act_cases took with
            ⟨rfl, -⟩ | ⟨-, -, propertyId, reportVariant, -, -, created⟩
          · refine ⟨?_, ContainmentTables.nodup_insertAction inserted single.actions⟩
            rw [(ContainmentTables.insertAction_frame inserted).1]
            exact single.scopes
          · obtain ⟨variant, limit, -, -, -, free, rfl⟩ :=
              (ContainmentTables.createFreeze_eq_ok drawn).mp created
            refine ⟨?_, ContainmentTables.nodup_insertAction inserted single.actions⟩
            rw [(ContainmentTables.insertAction_frame inserted).1, activeScopes_createFreeze rfl]
            exact List.nodup_append'.mpr ⟨single.scopes,
              List.nodup_singleton _, List.disjoint_singleton.mpr free⟩
  | published moved =>
      refine ⟨?_, single.actions⟩
      cases moved with
      | committed ran =>
          rw [activeScopes, Publication.Operation.run_freezes ran]
          exact single.scopes
      | rolledBack operation => exact single.scopes
      | staged absent distinct => exact single.scopes
      | @frozen freeze active absent distinct =>
          rw [activeScopes_createFreeze active]
          refine List.nodup_append'.mpr ⟨single.scopes, ?_, ?_⟩
          · cases freeze.scope <;> simp
          · intro scope listed named
            obtain ⟨other, otherListed, otherActive, same⟩ := mem_activeScopes.mp listed
            exact distinct other otherListed otherActive
              (same.trans (Option.mem_toList.mp named).symm)
      | released isGlobal freezeId =>
          exact (activeScopes_releaseFreeze _ _ _).nodup single.scopes
  | elsewhere publication actions =>
      exact ⟨publication ▸ single.scopes, actions ▸ single.actions⟩

/-! ## Calling again -/

/-- The call succeeds and leaves one freeze in force for the scope of the
incident and one row for each action. -/
def Contains (service : AutomaticContainment) (incident : ContainableIncident)
    (call : ContainCall) (before : ContainmentTables) : Prop :=
  ∃ decision after scope,
    service.contain incident call before = .ok (decision, after) ∧
    incident.scope = some scope ∧
    (activeScopes after.publication).count scope = 1 ∧
    (after.actions.map ContainmentAction.key).Nodup

/-- The incident names a scope of known parts that is not frozen yet, or is
frozen already for a service without freezes, and the action can be
recorded. -/
def Containable (service : AutomaticContainment) (rule : ContainmentRule)
    (incident : ContainableIncident) (call : ContainCall) (before : ContainmentTables) : Prop :=
  ∃ scope, incident.scope = some scope ∧
    (service.hasFreezes = true → scope.1.propertyId ∈ before.jobs.referenced.properties) ∧
    (service.hasFreezes = true ↔ scope ∉ activeScopes before.publication) ∧
    Recordable before incident.incidentId
      (incident.incidentId, rule.actionType, call.targetKey) rule.reasonCode

theorem ContainableIncident.scope_eq_some {incident : ContainableIncident} :
    incident.scope = some scope ↔
      ∃ propertyId reportVariant variant limit,
        incident.propertyId = some propertyId ∧
        incident.reportVariant = some reportVariant ∧
        variantOf reportVariant = some variant ∧
        limitOf incident.channel = some limit ∧
        (⟨propertyId, variant⟩, limit) = scope := by
  simp only [ContainableIncident.scope, Option.bind_eq_bind,
    Option.bind_eq_some_iff, Option.pure_def, Option.some.injEq]
  constructor
  · rintro ⟨propertyId, found, variant, ⟨reportVariant, reported, named⟩, limit, limited, same⟩
    exact ⟨propertyId, reportVariant, variant, limit, found, reported, named, limited, same⟩
  · rintro ⟨propertyId, reportVariant, variant, limit, found, reported, named, limited, same⟩
    exact ⟨propertyId, found, variant, ⟨reportVariant, reported, named⟩, limit, limited, same⟩

/-- A call for a scope that the incident names. -/
theorem AutomaticContainment.act_of_scope
    {service : AutomaticContainment} {rule : ContainmentRule}
    {incident : ContainableIncident} {call : ContainCall}
    {acted : ContainmentTables} {status : ContainmentStatus} (drawn : call.Drawn before)
    (freezes : rule.actionType = .freezePublicationTarget)
    (named : incident.scope = some scope) :
    service.act rule incident call before = .ok (status, acted) ↔
      status = .applied ∧
        if service.hasFreezes then
          scope.1.propertyId ∈ before.jobs.referenced.properties ∧
          scope ∉ activeScopes before.publication ∧
          { before with
            publication := before.publication.createFreeze
              ⟨call.freezeId, some scope, rule.reasonCode, call.now, false⟩ } = acted
        else before = acted := by
  obtain ⟨propertyId, reportVariant, variant, limit, found, reported,
    variantNamed, limited, rfl⟩ := ContainableIncident.scope_eq_some.mp named
  have nonempty : truthy incident.reportVariant = some reportVariant := by
    rw [reported]
    refine Option.filter_eq_some_iff.mpr ⟨rfl, decide_eq_true ?_⟩
    rintro rfl
    revert variantNamed
    simp [variantOf, variants, Variant.code]
  unfold act
  simp only [freezes, found, nonempty]
  split_ifs with configured
  · simp only [bind_eq_ok, ContainmentTables.createFreeze_eq_ok drawn,
      variantNamed, limited, Option.some.injEq, pure_eq_ok, Prod.mk.injEq]
    constructor
    · rintro ⟨frozen, ⟨_, _, rfl, rfl, known, free, made⟩, rfl, rfl⟩
      exact ⟨rfl, known, free, made⟩
    · rintro ⟨rfl, known, free, made⟩
      exact ⟨acted, ⟨_, _, rfl, rfl, known, free, made⟩, rfl, rfl⟩
  · simp only [pure_eq_ok, Prod.mk.injEq]
    exact and_congr_left fun _ => eq_comm

/-- After any run from tables without freezes and actions, a call for an
incident that is resolved to a freeze does what it should exactly where the
scope of the incident can be frozen and is not frozen yet. -/
theorem containment_repeatable_iff
    {start before : ContainmentTables} {events : List ContainmentEvent}
    (noFreezes : start.publication.freezes = []) (noActions : start.actions = [])
    (run : Exec ContainmentStep start events before)
    {service : AutomaticContainment} {incident : ContainableIncident}
    {call : ContainCall} {rule : ContainmentRule} (drawn : call.Drawn before)
    (resolved : service.registry.resolve incident.incidentType
      incident.severity = some rule)
    (freezes : rule.actionType = .freezePublicationTarget) :
    Contains service incident call before ↔
      Containable service rule incident call before := by
  have single : Single before := by
    refine run.invariant ⟨?_, ?_⟩ fun _ _ _ => Single.step
    · rw [activeScopes, noFreezes]
      exact List.nodup_nil
    · rw [noActions]
      exact List.nodup_nil
  constructor
  · rintro ⟨decision, after, scope, ran, named, once, -⟩
    obtain ⟨status, acted, took, inserted, -⟩ :=
      (AutomaticContainment.contain_eq_ok resolved).mp ran
    have frozen : scope ∈ activeScopes acted.publication := by
      rw [← (ContainmentTables.insertAction_frame inserted).1]
      exact List.count_pos_iff.mp (once ▸ Nat.one_pos)
    obtain ⟨rfl, left⟩ :=
      (AutomaticContainment.act_of_scope drawn freezes named).mp took
    refine ⟨scope, named, ?_⟩
    split_ifs at left with configured
    · obtain ⟨known, free, rfl⟩ := left
      exact ⟨fun _ => known, iff_of_true configured free,
        (ContainmentTables.exists_insertAction_iff drawn.actionId).mp
          ⟨_, inserted⟩⟩
    · obtain rfl := left
      exact ⟨fun offered => absurd offered configured,
        iff_of_false configured (not_not.mpr frozen),
        (ContainmentTables.exists_insertAction_iff drawn.actionId).mp
          ⟨_, inserted⟩⟩
  · rintro ⟨scope, named, known, free, recordable⟩
    obtain ⟨acted, took, actions, incidents, frozen⟩ : ∃ acted,
        service.act rule incident call before = .ok (.applied, acted) ∧
        acted.actions = before.actions ∧
        acted.incidents = before.incidents ∧
        scope ∈ activeScopes acted.publication := by
      simp only [AutomaticContainment.act_of_scope drawn freezes named,
        true_and]
      split_ifs with configured
      · refine ⟨_, ⟨known configured, free.mp configured, rfl⟩, rfl, rfl, ?_⟩
        rw [activeScopes_createFreeze rfl]
        exact List.mem_append_right _ (List.mem_singleton_self _)
      · exact ⟨before, rfl, rfl, rfl,
          not_not.mp (mt free.mpr configured)⟩
    obtain ⟨after, inserted⟩ : ∃ after,
        acted.insertAction (call.record incident rule .applied) =
          .ok after := by
      rw [ContainmentTables.exists_insertAction_iff (actions ▸ drawn.actionId),
        Recordable, actions, incidents]
      exact recordable
    have ran := (AutomaticContainment.contain_eq_ok resolved).mpr
      ⟨_, acted, took, inserted, rfl⟩
    have kept : Single after := single.step (.contained drawn ran)
    refine ⟨_, after, scope, ran, named, ?_, kept.actions⟩
    apply List.count_eq_one_of_mem kept.scopes
    rw [(ContainmentTables.insertAction_frame inserted).1]
    exact frozen

theorem containment_repeatable_iff_sample :
    Contains sampleContainment (sampleIncident "UNSAFE_CURRENT_PUBLICATION")
        sampleContainCall sampleContainmentTables ↔
      Containable sampleContainment
        ⟨["UNSAFE_CURRENT_PUBLICATION"], .error, .freezePublicationTarget,
          "INCIDENT_AUTOMATIC_CONTAINMENT"⟩
        (sampleIncident "UNSAFE_CURRENT_PUBLICATION") sampleContainCall
        sampleContainmentTables :=
  containment_repeatable_iff rfl rfl (.nil _)
    ⟨List.forall_mem_nil _, List.forall_mem_nil _⟩ rfl rfl

/-- A second call for the same incident raises, although a row of its action
would be kept. -/
theorem second_containment_raises :
    ∃ before,
      Exec ContainmentStep sampleContainmentTables
        [.contained sampleContainment
          (sampleIncident "UNSAFE_CURRENT_PUBLICATION") sampleContainCall]
        before ∧
      ({ sampleContainCall with
        freezeId := ⟨6, by decide⟩
        actionId := ⟨7, by decide⟩ } : ContainCall).Drawn before ∧
      sampleContainment.contain
          (sampleIncident "UNSAFE_CURRENT_PUBLICATION")
          { sampleContainCall with
            freezeId := ⟨6, by decide⟩
            actionId := ⟨7, by decide⟩ } before =
        .error "duplicate key value violates unique constraint" := by
  refine ⟨_, .single (.contained ⟨List.forall_mem_nil _,
    List.forall_mem_nil _⟩ rfl), ⟨?_, ?_⟩, rfl⟩
  · exact List.forall_mem_singleton.mpr fun _ => by decide
  · exact List.forall_mem_singleton.mpr (by decide)

end SanTanHeights.Operations
