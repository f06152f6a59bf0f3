import SanTanHeights.Publication.Service

/-!
# The pointer lifecycle

The operations of `ControlledPublicationLifecycle`, each in its caller's
transaction, and the route that a stable path resolves to.
-/

namespace SanTanHeights.Publication

open Foundation Foundation.Outcome

/-- The target that an operation without a stage names, with who acts and
why. -/
structure TargetCall where
  target : Target
  actor : String
  reasonCode : String
  correlationId : Option Uuid

/-- A row of the history about a target. -/
def TargetCall.record (call : TargetCall) (action : Action) (reportId : Uuid)
    (channel : Option Channel) (renderId : Option Uuid) :
    HistoryRecord where
  target := call.target
  reportId := reportId
  action := action
  actor := call.actor
  channel := channel
  renderId := renderId
  reasonCode := some call.reasonCode
  correlationId := call.correlationId

/-- The collaborators of `ControlledPublicationLifecycle`. -/
structure ControlledPublicationLifecycle where
  guard : Option GuardEngine
  hasFreshness : Bool
  hasFreezes : Bool
  hasHistory : Bool

inductive LifecycleStatus where
  | promoted
  | republished
  | unpublished
  | rolledBack
  | invalidated
  | withdrawn
  | noOp
  | blocked
  | stale
  | frozen
  deriving DecidableEq, Repr

/-- The statuses of an operation that put a render on its channel. -/
def LifecycleStatus.delivers : LifecycleStatus → Bool
  | .promoted => true
  | .republished => true
  | .rolledBack => true
  | _ => false

structure LifecycleResult where
  status : LifecycleStatus
  reasonCode : Option String
  deriving DecidableEq, Repr

namespace ControlledPublicationLifecycle

/-- The guard and freshness checks of `promote_render` and `rollback`: the
result with which they end the operation, if they do. -/
def check (service : ControlledPublicationLifecycle) (call : StageCall) :
    Except String (Option LifecycleResult) := do
  let guard := service.guard.elim ⟨true, []⟩ fun guard =>
    guard call.stage call.report call.render
  if guard.allowed = false then
    let reason ← orRaise guard.reasons.head? "tuple index out of range"
    return some ⟨.blocked, some reason⟩
  if service.hasFreshness then
    match call.freshness.status with
    | .fresh => return none
    | .stale => return some ⟨.stale, call.freshness.reasonCode⟩
    | .blocked => return some ⟨.blocked, call.freshness.reasonCode⟩
  return none

/-- The writes of `promote_render`. -/
def promoteWrites (hasHistory : Bool) (call : StageCall) (state : PublicationState) :
    PublicationState :=
  let stage := call.stage
  let recorded :=
    match call.priorChannel state with
    | some previous =>
        if hasHistory then
          recordPointerReplacement call previous.reportId previous.renderId
            call.report.reportId call.render.renderId
            "PRESENTATION_ONLY_PROMOTION" state
        else state
    | none => state
  (recorded.setChannelPointer stage.target stage.channel call.report.reportId
    call.render.renderId call.actor).appendHistory
    (call.record .renderPromoted call.report.reportId call.render.renderId
      (some "PRESENTATION_ONLY_PROMOTION"))

/-- `promote_render`. -/
def promoteRender (service : ControlledPublicationLifecycle) (call : StageCall)
    (database : Database) : Except String (LifecycleResult × Database) :=
  match frozenBy service.hasFreezes database call.stage.target
    call.stage.channel with
  | some (_, reason) => return (⟨.frozen, some reason⟩, database)
  | none => do
      let prior := call.priorChannel database.toPublicationState
      let current := call.priorReport database.toPublicationState
      if current.map CurrentReport.reportId ≠ some call.report.reportId then
        return (⟨.blocked, some "SEMANTIC_CURRENT_REPORT_MISMATCH"⟩, database)
      match ← service.check call with
      | some refused => return (refused, database)
      | none =>
          if prior.map ChannelPointer.renderId = some call.render.renderId then
            return (⟨.noOp, none⟩, database)
          return (⟨.promoted, none⟩, database.withState
              (promoteWrites service.hasHistory call database.toPublicationState))

/-- The row that `republish` adds to a promotion. -/
def recordRepublished (call : StageCall) (promoted : PublicationState) : PublicationState :=
  promoted.appendHistory
    (call.record .republished call.report.reportId call.render.renderId (some "REPUBLISH"))

/-- `republish`. -/
def republish (service : ControlledPublicationLifecycle) (call : StageCall)
    (database : Database) : Except String (LifecycleResult × Database) := do
  let (result, promoted) ← service.promoteRender call database
  if result.status = .promoted then
    return (⟨.republished, none⟩,
      promoted.withState (recordRepublished call promoted.toPublicationState))
  return (result, promoted)

/-- The writes of `rollback`. -/
def rollbackWrites (call : StageCall) (state : PublicationState) : PublicationState :=
  let stage := call.stage
  ((state.setCurrentReport stage.target stage.reportId call.actor
    ).setChannelPointer stage.target stage.channel stage.reportId
      stage.renderId call.actor).appendHistory
    (call.record .rolledBack stage.reportId stage.renderId (some "ROLLBACK"))

/-- `rollback`. -/
def rollback (service : ControlledPublicationLifecycle) (call : StageCall)
    (database : Database) : Except String (LifecycleResult × Database) :=
  let stage := call.stage
  match frozenBy service.hasFreezes database stage.target stage.channel with
  | some (_, reason) => return (⟨.frozen, some reason⟩, database)
  | none => do
      if database.wasPreviouslyPublished stage.target stage.channel
          stage.reportId stage.renderId = false then
        return (⟨.blocked, some "ROLLBACK_TARGET_NOT_IN_PUBLICATION_HISTORY"⟩, database)
      match ← service.check call with
      | some refused => return (refused, database)
      | none =>
          return (⟨.rolledBack, none⟩, database.withState
              (rollbackWrites call database.toPublicationState))

/-! ## Removing pointers -/

/-- The writes of `unpublish`, given the pointer it removes. -/
def unpublishWrites (call : TargetCall) (channel : Channel) (prior : ChannelPointer)
    (state : PublicationState) : PublicationState :=
  (state.clearChannelPointer call.target channel).appendHistory
    (call.record .unpublished prior.reportId (some channel) (some prior.renderId))

/-- `unpublish`. -/
def unpublish (service : ControlledPublicationLifecycle) (call : TargetCall)
    (channel : Channel) (database : Database) :
    Except String (LifecycleResult × Database) :=
  match frozenBy service.hasFreezes database call.target channel with
  | some (_, reason) => return (⟨.frozen, some reason⟩, database)
  | none =>
      match database.channelPointers call.target channel with
      | none => return (⟨.noOp, none⟩, database)
      | some prior =>
          return (⟨.unpublished, none⟩, database.withState
              (unpublishWrites call channel prior database.toPublicationState))

/-- The loop of `invalidate` and `withdraw` over the listed channels. -/
def clearChannels (call : TargetCall) (action : Action) (reportId : Uuid)
    (listed : List (Channel × Uuid)) (state : PublicationState) :
    PublicationState :=
  listed.foldl (fun state entry =>
      (state.clearChannelPointer call.target entry.1).appendHistory
        (call.record action reportId (some entry.1) (some entry.2)))
    state

/-- The writes of `invalidate`. -/
def invalidateWrites (call : TargetCall) (reportId : Uuid) (state : PublicationState) :
    PublicationState :=
  let cleared :=
    clearChannels call .invalidated reportId
      (state.listChannelPointersForReport call.target reportId) state
  if (cleared.reportCurrent call.target).map CurrentReport.reportId =
      some reportId then
    cleared.clearCurrentReport call.target
  else cleared

/-- `invalidate`. -/
def invalidate (call : TargetCall) (reportId : Uuid) (database : Database) :
    Except String (LifecycleResult × Database) :=
  let listed := database.listChannelPointersForReport call.target reportId
  let wasCurrent :=
    (database.reportCurrent call.target).map CurrentReport.reportId = some reportId
  return (⟨if listed ≠ [] ∨ wasCurrent then .invalidated else .noOp, none⟩,
    database.withState (invalidateWrites call reportId database.toPublicationState))

/-- The writes of `withdraw`, given the report that is current. -/
def withdrawWrites (call : TargetCall) (reportId : Uuid) (state : PublicationState) :
    PublicationState :=
  ((clearChannels call .withdrawn reportId
    (state.listChannelPointersForReport call.target reportId) state
    ).clearCurrentReport call.target).appendHistory
      (call.record .semanticWithdrawn reportId none none)

/-- `withdraw`. -/
def withdraw (call : TargetCall) (database : Database) :
    Except String (LifecycleResult × Database) :=
  match database.reportCurrent call.target with
  | none => return (⟨.noOp, none⟩, database)
  | some current =>
      return (⟨.withdrawn, none⟩, database.withState
          (withdrawWrites call current.reportId database.toPublicationState))

end ControlledPublicationLifecycle

/-! ## Routing -/

/-- What `StableDeliveryRouter.resolve` reads for a channel; the path depends
on the channel and the target alone. -/
structure DeliveryRoute where
  reportId : Uuid
  renderId : Uuid
  pointerVersion : Nat
  deriving DecidableEq

/-- `StableDeliveryRouter.resolve`. -/
def resolve (state : PublicationState) (target : Target) (channel : Channel) :
    Option DeliveryRoute :=
  (state.channelPointers target channel).map fun row =>
    ⟨row.reportId, row.renderId, row.pointerVersion⟩

end SanTanHeights.Publication
