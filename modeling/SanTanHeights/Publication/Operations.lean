import SanTanHeights.Foundation.Runs
import SanTanHeights.Publication.Lifecycle

/-!
# Publication runs

The seven operations as one, the writes that each performs when it is not
refused, and the transition system of their transactions.  A transaction
commits an operation as a whole or leaves nothing behind.
-/

namespace SanTanHeights.Publication

open Foundation Foundation.Outcome Foundation.Runs

/-! ## What each operation does -/

@[simp] theorem withState_publicationState (database : Database) (state : PublicationState) :
    (database.withState state).toPublicationState = state := rfl

/-- A staging transition touches the staging rows alone. -/
@[simp] theorem transition_publicationState (database : Database) (stagingId : Uuid)
    (fromState toState : StagingState) (reasonCode : Option String) :
    (database.transition stagingId fromState toState
      reasonCode).2.toPublicationState = database.toPublicationState := by
  unfold Database.transition
  split
  · rfl
  · split_ifs <;> rfl

@[simp] theorem transition_freezes (database : Database) (stagingId : Uuid)
    (fromState toState : StagingState) (reasonCode : Option String) :
    (database.transition stagingId fromState toState reasonCode).2.freezes = database.freezes := by
  unfold Database.transition
  split
  · rfl
  · split_ifs <;> rfl

variable {call : StageCall} {database next : Database}
  {service : ControlledPublicationLifecycle} {result : LifecycleResult}
  {operation : Operation} {answer : Answer} {operations : List Operation}

/-- A publication ends in one of two ways.  It is refused, and then its stage
alone may move, to `STALE` only past the freeze and the guard; or it passes
every check and writes. -/
theorem publish_cases {service : AtomicPublicationService} {result : PublicationResult}
    (ran : service.publish call database = .ok (result, next)) :
    (result.status ≠ .published ∧ ∃ toState reasonCode, (toState = .blocked ∨
        toState = .stale ∧ (service.guard call.stage call.report call.render).allowed = true) ∧
      next = (database.transition call.stage.stagingId
        call.stage.stagingState toState reasonCode).2) ∨
    (result = ⟨.published, []⟩ ∧
      frozenBy service.hasFreezes database call.stage.target call.stage.channel = none ∧
      (service.guard call.stage call.report call.render).allowed = true ∧
      (database.withState (publishWrites service.hasHistory call
          database.toPublicationState)).transition
        call.stage.stagingId call.stage.stagingState .published none = (true, next)) := by
  unfold AtomicPublicationService.publish at ran
  cases frozen : frozenBy service.hasFreezes database call.stage.target
    call.stage.channel with
  | some freeze =>
      simp only [frozen, pure_eq_ok, Prod.mk.injEq] at ran
      exact .inl ⟨ran.1 ▸ by rintro ⟨⟩, .blocked, _, .inl rfl, ran.2.symm⟩
  | none =>
      simp only [frozen] at ran
      cases allowed :
        (service.guard call.stage call.report call.render).allowed with
      | false =>
          simp only [allowed, if_true] at ran
          obtain ⟨reason, _, ended⟩ := bind_eq_ok.mp ran
          simp only [pure_eq_ok, Prod.mk.injEq] at ended
          exact .inl ⟨ended.1 ▸ by rintro ⟨⟩, .blocked, _, .inl rfl, ended.2.symm⟩
      | true =>
          simp only [allowed, Bool.true_eq_false, if_false] at ran
          cases status : call.freshness.status with
          | stale =>
              simp only [status, pure_eq_ok, Prod.mk.injEq] at ran
              exact .inl ⟨ran.1 ▸ by rintro ⟨⟩, .stale, _, .inr ⟨rfl, rfl⟩, ran.2.symm⟩
          | blocked =>
              simp only [status, pure_eq_ok, Prod.mk.injEq] at ran
              exact .inl ⟨ran.1 ▸ by rintro ⟨⟩, .blocked, _, .inl rfl, ran.2.symm⟩
          | fresh =>
              simp only [status, require_bind_eq_ok, pure_eq_ok, Prod.mk.injEq] at ran
              obtain ⟨moved, answered, ended⟩ := ran
              exact .inr ⟨answered.symm, rfl, rfl, Prod.ext moved ended⟩

namespace ControlledPublicationLifecycle

/-- What the configured guard and the configured freshness check ask. -/
structure Passes (service : ControlledPublicationLifecycle) (call : StageCall) : Prop where
  guard : ∀ guard, service.guard = some guard →
    (guard call.stage call.report call.render).allowed = true
  freshness : service.hasFreshness = true → call.freshness.status = .fresh

/-- What `rollback` asks before it writes. -/
structure MayRollBack (service : ControlledPublicationLifecycle) (call : StageCall)
    (database : Database) : Prop where
  unfrozen : frozenBy service.hasFreezes database call.stage.target call.stage.channel = none
  inHistory : database.wasPreviouslyPublished call.stage.target
    call.stage.channel call.stage.reportId call.stage.renderId = true
  passes : service.Passes call

/-- The checks end the operation exactly when one of them fails. -/
theorem check_cases {outcome : Option LifecycleResult}
    (ran : service.check call = .ok outcome) : (outcome = none ∧ service.Passes call) ∨
      (¬service.Passes call ∧ ∃ refused, outcome = some refused ∧
        (refused.status = .blocked ∨ refused.status = .stale)) := by
  unfold check at ran
  cases allowed : (service.guard.elim ⟨true, []⟩ fun guard =>
    guard call.stage call.report call.render).allowed with
  | false =>
      simp only [allowed, if_true] at ran
      obtain ⟨reason, -, ended⟩ := bind_eq_ok.mp ran
      rw [pure_eq_ok] at ended
      refine .inr ⟨fun passes => ?_, _, ended.symm, .inl rfl⟩
      cases configured : service.guard with
      | none => simp [configured] at allowed
      | some guard =>
          rw [configured] at allowed
          have accepted := passes.guard guard configured
          rw [Option.elim_some, accepted] at allowed
          cases allowed
  | true =>
      simp only [allowed, Bool.true_eq_false, if_false] at ran
      have accepts : ∀ guard, service.guard = some guard →
          (guard call.stage call.report call.render).allowed = true := by
        intro guard configured
        rwa [configured, Option.elim_some] at allowed
      cases asked : service.hasFreshness with
      | false =>
          simp only [asked, Bool.false_eq_true, if_false, pure_eq_ok] at ran
          exact .inl ⟨ran.symm, accepts, fun impossible => by
            rw [asked] at impossible
            cases impossible⟩
      | true =>
          simp only [asked, if_true] at ran
          cases status : call.freshness.status with
          | fresh =>
              simp only [status, pure_eq_ok] at ran
              exact .inl ⟨ran.symm, accepts, fun _ => status⟩
          | stale =>
              simp only [status, pure_eq_ok] at ran
              refine .inr ⟨fun passes => ?_, _, ran.symm, .inr rfl⟩
              rw [passes.freshness asked] at status
              cases status
          | blocked =>
              simp only [status, pure_eq_ok] at ran
              refine .inr ⟨fun passes => ?_, _, ran.symm, .inl rfl⟩
              rw [passes.freshness asked] at status
              cases status

/-- A promotion writes only when no freeze is reported, its report is current
and the checks pass. -/
theorem promoteRender_cases (ran : service.promoteRender call database = .ok (result, next)) :
    (result.status.delivers = false ∧ next = database) ∨
    (result = ⟨.promoted, none⟩ ∧
      frozenBy service.hasFreezes database call.stage.target call.stage.channel = none ∧
      (call.priorReport database.toPublicationState).map
          CurrentReport.reportId = some call.report.reportId ∧
      next = database.withState (promoteWrites service.hasHistory call
          database.toPublicationState)) := by
  unfold promoteRender at ran
  cases frozen : frozenBy service.hasFreezes database call.stage.target
    call.stage.channel with
  | some freeze =>
      simp only [frozen, pure_eq_ok, Prod.mk.injEq] at ran
      exact .inl ⟨ran.1 ▸ rfl, ran.2.symm⟩
  | none =>
      simp only [frozen] at ran
      split_ifs at ran with mismatch same
      · simp only [pure_eq_ok, Prod.mk.injEq] at ran
        exact .inl ⟨ran.1 ▸ rfl, ran.2.symm⟩
      · obtain ⟨outcome, checked, continued⟩ := bind_eq_ok.mp ran
        rcases check_cases checked with
          ⟨rfl, -⟩ | ⟨-, refused, rfl, status⟩
        · simp only [pure_eq_ok, Prod.mk.injEq] at continued
          exact .inl ⟨continued.1 ▸ rfl, continued.2.symm⟩
        · simp only [pure_eq_ok, Prod.mk.injEq] at continued
          rw [continued.1] at status
          refine .inl ⟨?_, continued.2.symm⟩
          rcases status with status | status <;> rw [status] <;> rfl
      · obtain ⟨outcome, checked, continued⟩ := bind_eq_ok.mp ran
        rcases check_cases checked with
          ⟨rfl, -⟩ | ⟨-, refused, rfl, status⟩
        · simp only [pure_eq_ok, Prod.mk.injEq] at continued
          exact .inr ⟨continued.1.symm, rfl, not_not.mp mismatch, continued.2.symm⟩
        · simp only [pure_eq_ok, Prod.mk.injEq] at continued
          rw [continued.1] at status
          refine .inl ⟨?_, continued.2.symm⟩
          rcases status with status | status <;> rw [status] <;> rfl

/-- A republication writes when its promotion does. -/
theorem republish_cases (ran : service.republish call database = .ok (result, next)) :
    (result.status.delivers = false ∧ next = database) ∨
    (result = ⟨.republished, none⟩ ∧
      frozenBy service.hasFreezes database call.stage.target call.stage.channel = none ∧
      (call.priorReport database.toPublicationState).map
          CurrentReport.reportId = some call.report.reportId ∧
      next = database.withState (recordRepublished call
          (promoteWrites service.hasHistory call database.toPublicationState))) := by
  unfold republish at ran
  obtain ⟨⟨promotion, promoted⟩, succeeded, continued⟩ := bind_eq_ok.mp ran
  rcases promoteRender_cases succeeded with
    ⟨refused, rfl⟩ | ⟨rfl, unfrozen, current, rfl⟩
  · have never : promotion.status ≠ .promoted := by
      intro same
      rw [same] at refused
      cases refused
    simp only [never, if_false, pure_eq_ok, Prod.mk.injEq] at continued
    exact .inl ⟨continued.1 ▸ refused, continued.2.symm⟩
  · simp only [if_true, pure_eq_ok, Prod.mk.injEq] at continued
    exact .inr ⟨continued.1.symm, unfrozen, current, continued.2.symm⟩

/-- A rollback writes exactly when no freeze is reported, the history shows
its render on the channel and the checks pass. -/
theorem rollback_cases (ran : service.rollback call database = .ok (result, next)) :
    ((result.status = .frozen ∨ result.status = .blocked ∨ result.status = .stale) ∧
      next = database ∧ ¬service.MayRollBack call database) ∨
    (result = ⟨.rolledBack, none⟩ ∧ service.MayRollBack call database ∧
      next = database.withState
        (rollbackWrites call database.toPublicationState)) := by
  unfold rollback at ran
  cases frozen : frozenBy service.hasFreezes database call.stage.target
    call.stage.channel with
  | some freeze =>
      simp only [frozen, pure_eq_ok, Prod.mk.injEq] at ran
      refine .inl ⟨.inl (ran.1 ▸ rfl), ran.2.symm, fun may => ?_⟩
      rw [may.unfrozen] at frozen
      cases frozen
  | none =>
      simp only [frozen] at ran
      split_ifs at ran with unknown
      · simp only [pure_eq_ok, Prod.mk.injEq] at ran
        refine .inl ⟨.inr (.inl (ran.1 ▸ rfl)), ran.2.symm, fun may => ?_⟩
        rw [may.inHistory] at unknown
        cases unknown
      · obtain ⟨outcome, checked, continued⟩ := bind_eq_ok.mp ran
        rcases check_cases checked with
          ⟨rfl, passes⟩ | ⟨fails, refused, rfl, status⟩
        · simp only [pure_eq_ok, Prod.mk.injEq] at continued
          exact .inr ⟨continued.1.symm, ⟨frozen, by simpa using unknown, passes⟩, continued.2.symm⟩
        · simp only [pure_eq_ok, Prod.mk.injEq] at continued
          exact .inl ⟨.inr (continued.1 ▸ status), continued.2.symm, fun may => fails may.passes⟩

/-- Unpublishing writes when no freeze is reported and there is a pointer. -/
theorem unpublish_cases {call : TargetCall} {channel : Channel}
    (ran : service.unpublish call channel database = .ok (result, next)) :
    result.status.delivers = false ∧
    (next = database ∨ (frozenBy service.hasFreezes database call.target channel = none ∧
      ∃ prior, database.channelPointers call.target channel = some prior ∧
        next = database.withState (unpublishWrites call channel prior
            database.toPublicationState))) := by
  unfold unpublish at ran
  cases frozen : frozenBy service.hasFreezes database call.target channel with
  | some freeze =>
      simp only [frozen, pure_eq_ok, Prod.mk.injEq] at ran
      exact ⟨ran.1 ▸ rfl, .inl ran.2.symm⟩
  | none =>
      simp only [frozen] at ran
      cases found : database.channelPointers call.target channel with
      | none =>
          simp only [found, pure_eq_ok, Prod.mk.injEq] at ran
          exact ⟨ran.1 ▸ rfl, .inl ran.2.symm⟩
      | some prior =>
          simp only [found, pure_eq_ok, Prod.mk.injEq] at ran
          exact ⟨ran.1 ▸ rfl, .inr ⟨rfl, prior, rfl, ran.2.symm⟩⟩

theorem invalidate_status {call : TargetCall} {reportId : Uuid}
    (ran : invalidate call reportId database = .ok (result, next)) :
    result.status.delivers = false := by
  simp only [invalidate, pure_eq_ok, Prod.mk.injEq] at ran
  rw [← ran.1]
  split_ifs <;> rfl

theorem withdraw_status {call : TargetCall}
    (ran : withdraw call database = .ok (result, next)) :
    result.status.delivers = false := by
  unfold withdraw at ran
  cases current : database.reportCurrent call.target with
  | none =>
      simp only [current, pure_eq_ok, Prod.mk.injEq] at ran
      exact ran.1 ▸ rfl
  | some row =>
      simp only [current, pure_eq_ok, Prod.mk.injEq] at ran
      exact ran.1 ▸ rfl

end ControlledPublicationLifecycle

/-! ## The operations as one -/

/-- A call of one of the seven operations. -/
inductive Operation where
  | publish (service : AtomicPublicationService) (call : StageCall)
  | promoteRender (service : ControlledPublicationLifecycle) (call : StageCall)
  | republish (service : ControlledPublicationLifecycle) (call : StageCall)
  | rollback (service : ControlledPublicationLifecycle) (call : StageCall)
  | unpublish (service : ControlledPublicationLifecycle) (call : TargetCall) (channel : Channel)
  | invalidate (call : TargetCall) (reportId : Uuid)
  | withdraw (call : TargetCall)

/-- What an operation answers. -/
inductive Answer where
  | publication (result : PublicationResult)
  | lifecycle (result : LifecycleResult)
  deriving DecidableEq

/-- The operation answers that it put a render on its channel. -/
def Answer.Delivers : Answer → Prop
  | .publication result => result.status = .published
  | .lifecycle result => result.status.delivers = true

namespace Operation

open ControlledPublicationLifecycle

/-- Run an operation on the tables. -/
def run : Operation → Database → Except String (Answer × Database)
  | .publish service call, database =>
      (service.publish call database).map (Prod.map .publication id)
  | .promoteRender service call, database =>
      (service.promoteRender call database).map (Prod.map .lifecycle id)
  | .republish service call, database =>
      (service.republish call database).map (Prod.map .lifecycle id)
  | .rollback service call, database =>
      (service.rollback call database).map (Prod.map .lifecycle id)
  | .unpublish service call channel, database =>
      (service.unpublish call channel database).map (Prod.map .lifecycle id)
  | .invalidate call reportId, database =>
      (ControlledPublicationLifecycle.invalidate call reportId database).map
        (Prod.map .lifecycle id)
  | .withdraw call, database =>
      (ControlledPublicationLifecycle.withdraw call database).map (Prod.map .lifecycle id)

/-- The pointer and history writes of an operation that is not refused. -/
def writes : Operation → PublicationState → PublicationState
  | .publish service call, state =>
      publishWrites service.hasHistory call state
  | .promoteRender service call, state =>
      promoteWrites service.hasHistory call state
  | .republish service call, state =>
      recordRepublished call (promoteWrites service.hasHistory call state)
  | .rollback _ call, state => rollbackWrites call state
  | .unpublish _ call channel, state =>
      (state.channelPointers call.target channel).elim state
        fun prior => unpublishWrites call channel prior state
  | .invalidate call reportId, state =>
      invalidateWrites call reportId state
  | .withdraw call, state =>
      (state.reportCurrent call.target).elim state
        fun current => withdrawWrites call current.reportId state

/-- The stage, the report and the render of an operation that sets a
channel. -/
def delivery : Operation → Option (StageCall × Uuid × Uuid)
  | .publish _ call => some (call, call.stage.reportId, call.stage.renderId)
  | .promoteRender _ call =>
      some (call, call.report.reportId, call.render.renderId)
  | .republish _ call =>
      some (call, call.report.reportId, call.render.renderId)
  | .rollback _ call => some (call, call.stage.reportId, call.stage.renderId)
  | .unpublish _ _ _ => none
  | .invalidate _ _ => none
  | .withdraw _ => none

/-- The freeze that the operation asks about and finds. -/
def frozenIn : Operation → Database → Option (Uuid × String)
  | .publish service call, database =>
      frozenBy service.hasFreezes database call.stage.target call.stage.channel
  | .promoteRender service call, database
  | .republish service call, database
  | .rollback service call, database =>
      frozenBy service.hasFreezes database call.stage.target call.stage.channel
  | .unpublish service call channel, database =>
      frozenBy service.hasFreezes database call.target channel
  | .invalidate _ _, _ => none
  | .withdraw _, _ => none

/-- Only `publish` answers with a publication result. -/
theorem publish_of_publication {result : PublicationResult}
    (ran : operation.run database = .ok (.publication result, next)) :
    ∃ service call, operation = .publish service call ∧
      service.publish call database = .ok (result, next) := by
  cases operation with
  | publish service call =>
      obtain ⟨⟨_, _⟩, published, ended⟩ := map_eq_ok.mp ran
      cases ended
      exact ⟨service, call, rfl, published⟩
  | _ =>
      rw [run] at ran
      obtain ⟨⟨_, _⟩, -, ended⟩ := map_eq_ok.mp ran
      cases ended

/-- An invalidation is never refused. -/
theorem run_invalidate {call : TargetCall} {reportId : Uuid}
    (ran : (invalidate call reportId).run database = .ok (answer, next)) :
    next = database.withState
      (invalidateWrites call reportId database.toPublicationState) := by
  rw [run] at ran
  obtain ⟨⟨_, _⟩, invalidated, ended⟩ := map_eq_ok.mp ran
  cases ended
  simp only [ControlledPublicationLifecycle.invalidate, pure_eq_ok, Prod.mk.injEq] at invalidated
  exact invalidated.2.symm

/-- A lifecycle operation leaves everything as it was, or no freeze held it
up and it made its writes. -/
theorem run_lifecycle_cases (ran : operation.run database = .ok (.lifecycle result, next)) :
    next = database ∨ (operation.frozenIn database = none ∧ next = database.withState
          (operation.writes database.toPublicationState)) := by
  cases operation with
  | publish service call =>
      obtain ⟨⟨_, _⟩, -, ended⟩ := map_eq_ok.mp ran
      cases ended
  | promoteRender service call =>
      obtain ⟨⟨_, _⟩, promoted, ended⟩ := map_eq_ok.mp ran
      cases ended
      rcases promoteRender_cases promoted with
        ⟨-, rfl⟩ | ⟨-, unfrozen, -, rfl⟩
      · exact .inl rfl
      · exact .inr ⟨unfrozen, rfl⟩
  | republish service call =>
      obtain ⟨⟨_, _⟩, republished, ended⟩ := map_eq_ok.mp ran
      cases ended
      rcases republish_cases republished with
        ⟨-, rfl⟩ | ⟨-, unfrozen, -, rfl⟩
      · exact .inl rfl
      · exact .inr ⟨unfrozen, rfl⟩
  | rollback service call =>
      obtain ⟨⟨_, _⟩, rolledBack, ended⟩ := map_eq_ok.mp ran
      cases ended
      rcases rollback_cases rolledBack with ⟨-, rfl, -⟩ | ⟨-, may, rfl⟩
      · exact .inl rfl
      · exact .inr ⟨may.unfrozen, rfl⟩
  | unpublish service call channel =>
      obtain ⟨⟨_, _⟩, unpublished, ended⟩ := map_eq_ok.mp ran
      cases ended
      rcases unpublish_cases unpublished with
        ⟨-, rfl | ⟨unfrozen, prior, found, rfl⟩⟩
      · exact .inl rfl
      · exact .inr ⟨unfrozen, by simp [writes, found]⟩
  | invalidate call reportId => exact .inr ⟨rfl, run_invalidate ran⟩
  | withdraw call =>
      obtain ⟨⟨_, _⟩, withdrawn, ended⟩ := map_eq_ok.mp ran
      cases ended
      unfold ControlledPublicationLifecycle.withdraw at withdrawn
      cases current : database.reportCurrent call.target with
      | none =>
          simp only [current, pure_eq_ok, Prod.mk.injEq] at withdrawn
          exact .inl withdrawn.2.symm
      | some row =>
          simp only [current, pure_eq_ok, Prod.mk.injEq] at withdrawn
          exact .inr ⟨rfl, by simp [writes, current, ← withdrawn.2]⟩

/-- A transition after some writes keeps them. -/
theorem transition_written {state : PublicationState} {stagingId : Uuid}
    {fromState toState : StagingState} {reasonCode : Option String}
    (moved : (database.withState state).transition stagingId fromState
      toState reasonCode = (true, next)) :
    next.toPublicationState = state := by
  rw [← congrArg (fun outcome => outcome.2.toPublicationState) moved,
    transition_publicationState, withState_publicationState]

/-- A committed operation leaves the pointers and the history as they were,
or no freeze held it up and it made its writes. -/
theorem run_cases (ran : operation.run database = .ok (answer, next)) :
    next.toPublicationState = database.toPublicationState ∨
      (operation.frozenIn database = none ∧ next.toPublicationState =
          operation.writes database.toPublicationState) := by
  cases answer with
  | lifecycle result =>
      rcases run_lifecycle_cases ran with rfl | ⟨unfrozen, rfl⟩
      · exact .inl rfl
      · exact .inr ⟨unfrozen, rfl⟩
  | publication result =>
      obtain ⟨service, call, rfl, published⟩ := publish_of_publication ran
      rcases publish_cases published with
        ⟨-, toState, reasonCode, -, rfl⟩ | ⟨-, unfrozen, -, moved⟩
      · exact .inl (transition_publicationState ..)
      · exact .inr ⟨unfrozen, transition_written moved⟩

/-- An operation answers that it delivered exactly when it set its channel;
otherwise it set none, or it was refused. -/
theorem run_delivery_cases (ran : operation.run database = .ok (answer, next)) :
    (¬answer.Delivers ∧ (next.toPublicationState = database.toPublicationState ∨
        (operation.delivery = none ∧ next.toPublicationState =
            operation.writes database.toPublicationState))) ∨
    (answer.Delivers ∧ operation.delivery.isSome ∧ next.toPublicationState =
        operation.writes database.toPublicationState) := by
  cases operation with
  | publish service call =>
      obtain ⟨⟨_, _⟩, published, ended⟩ := map_eq_ok.mp ran
      cases ended
      rcases publish_cases published with
        ⟨refused, toState, reasonCode, -, rfl⟩ | ⟨rfl, -, -, moved⟩
      · exact .inl ⟨refused, .inl (transition_publicationState ..)⟩
      · exact .inr ⟨rfl, rfl, transition_written moved⟩
  | promoteRender service call =>
      obtain ⟨⟨_, _⟩, promoted, ended⟩ := map_eq_ok.mp ran
      cases ended
      rcases promoteRender_cases promoted with
        ⟨refused, rfl⟩ | ⟨rfl, -, -, rfl⟩
      · exact .inl ⟨Bool.eq_false_iff.mp refused, .inl rfl⟩
      · exact .inr ⟨rfl, rfl, rfl⟩
  | republish service call =>
      obtain ⟨⟨_, _⟩, republished, ended⟩ := map_eq_ok.mp ran
      cases ended
      rcases republish_cases republished with
        ⟨refused, rfl⟩ | ⟨rfl, -, -, rfl⟩
      · exact .inl ⟨Bool.eq_false_iff.mp refused, .inl rfl⟩
      · exact .inr ⟨rfl, rfl, rfl⟩
  | rollback service call =>
      obtain ⟨⟨result, _⟩, rolledBack, ended⟩ := map_eq_ok.mp ran
      cases ended
      rcases rollback_cases rolledBack with ⟨refused, rfl, -⟩ | ⟨rfl, -, rfl⟩
      · refine .inl ⟨fun delivers => ?_, .inl rfl⟩
        have status : result.status.delivers = true := delivers
        rcases refused with same | same | same <;> rw [same] at status <;> cases status
      · exact .inr ⟨rfl, rfl, rfl⟩
  | unpublish service call channel =>
      obtain ⟨⟨_, _⟩, unpublished, ended⟩ := map_eq_ok.mp ran
      cases ended
      obtain ⟨refused, -⟩ := unpublish_cases unpublished
      refine .inl ⟨Bool.eq_false_iff.mp refused, ?_⟩
      rcases run_cases ran with kept | ⟨-, written⟩
      · exact .inl kept
      · exact .inr ⟨rfl, written⟩
  | invalidate call reportId =>
      have written := run_invalidate ran
      rw [run] at ran
      obtain ⟨⟨_, _⟩, invalidated, ended⟩ := map_eq_ok.mp ran
      cases ended
      exact .inl ⟨Bool.eq_false_iff.mp (invalidate_status invalidated),
        .inr ⟨rfl, by rw [written]; rfl⟩⟩
  | withdraw call =>
      obtain ⟨⟨_, _⟩, withdrawn, ended⟩ := map_eq_ok.mp ran
      cases ended
      refine .inl ⟨Bool.eq_false_iff.mp (withdraw_status withdrawn), ?_⟩
      rcases run_cases ran with kept | ⟨-, written⟩
      · exact .inl kept
      · exact .inr ⟨rfl, written⟩

/-- No operation touches a freeze. -/
theorem run_freezes (ran : operation.run database = .ok (answer, next)) :
    next.freezes = database.freezes := by
  cases answer with
  | lifecycle result =>
      rcases run_lifecycle_cases ran with rfl | ⟨-, rfl⟩ <;> rfl
  | publication result =>
      obtain ⟨service, call, rfl, published⟩ := publish_of_publication ran
      rcases publish_cases published with
        ⟨-, toState, reasonCode, -, rfl⟩ | ⟨-, -, -, moved⟩
      · exact transition_freezes ..
      · rw [← congrArg (fun outcome => outcome.2.freezes) moved, transition_freezes]
        rfl

end Operation

/-! ## Transactions -/

/-- What one transaction does to the publication tables. -/
inductive Event where
  | committed (operation : Operation) (answer : Answer)
  | rolledBack (operation : Operation)
  | staged (stage : PublicationStage)
  | frozen (freeze : PublicationFreeze)
  | released (isGlobal : Bool) (freezeId : Uuid)

/-- The columns of a stage that its unique constraint names. -/
def PublicationStage.key (stage : PublicationStage) : Target × Channel × Uuid × Uuid :=
  (stage.target, stage.channel, stage.reportId, stage.renderId)

/-- The transactions.  Any operation may raise, in a statement or for lack of
a row it refers to, and is then rolled back. -/
inductive Step : Database → Event → Database → Prop
  | committed {database next : Database} {operation : Operation}
      {answer : Answer} :
      operation.run database = .ok (answer, next) → Step database (.committed operation answer) next
  | rolledBack (database : Database) (operation : Operation) :
      Step database (.rolledBack operation) database
  | staged {database : Database} {stage : PublicationStage} :
      database.staging stage.stagingId = none →
      (∀ stagingId row, database.staging stagingId = some row → row.key ≠ stage.key) →
        Step database (.staged stage)
          { database with
            staging := Function.update database.staging stage.stagingId (some stage) }
  | frozen {database : Database} {freeze : PublicationFreeze} :
      freeze.released = false →
      (∀ other ∈ database.freezes, other.scope.isNone = freeze.scope.isNone →
          other.freezeId ≠ freeze.freezeId) →
      (∀ other ∈ database.freezes, other.released = false → other.scope ≠ freeze.scope) →
        Step database (.frozen freeze) (database.createFreeze freeze)
  | released (database : Database) (isGlobal : Bool) (freezeId : Uuid) :
      Step database (.released isGlobal freezeId) (database.releaseFreeze isGlobal freezeId)

/-- The tables before anything was published. -/
structure Unpublished (database : Database) : Prop where
  reportCurrent : ∀ target, database.reportCurrent target = none
  channelPointers : ∀ target channel, database.channelPointers target channel = none
  history : database.history = []

/-- The label of a transaction determines what it leaves. -/
theorem Step.determined {other : Database} {event : Event}
    (taken : Step database event next) (otherTaken : Step database event other) :
    next = other := by
  cases taken with
  | committed ran =>
      cases otherTaken with
      | committed otherRan =>
          rw [ran] at otherRan
          cases otherRan
          rfl
  | rolledBack operation => cases otherTaken; rfl
  | staged absent distinct => cases otherTaken; rfl
  | frozen active absent distinct => cases otherTaken; rfl
  | released isGlobal freezeId => cases otherTaken; rfl

/-- A transaction keeps the pointers and the history, or it commits the writes
of an operation. -/
theorem Step.cases {event : Event} (taken : Step database event next) :
    next.toPublicationState = database.toPublicationState ∨
      ∃ operation answer, event = .committed operation answer ∧
        operation.frozenIn database = none ∧
        next.toPublicationState =
          operation.writes database.toPublicationState := by
  cases taken with
  | committed ran =>
      rcases Operation.run_cases ran with kept | ⟨unfrozen, written⟩
      · exact .inl kept
      · exact .inr ⟨_, _, rfl, unfrozen, written⟩
  | rolledBack operation => exact .inl rfl
  | staged absent distinct => exact .inl rfl
  | frozen active absent distinct => exact .inl rfl
  | released isGlobal freezeId => exact .inl rfl

/-! ## Runs of committed operations -/

/-- Commit operations one after the other. -/
def commitAll (operations : List Operation) (database : Database) : Except String Database :=
  operations.foldlM
    (fun database operation => (operation.run database).map Prod.snd)
    database

theorem exists_exec_of_commitAll (committed : commitAll operations database = .ok next) :
    ∃ events, Exec Step database events next := by
  unfold commitAll at committed
  induction operations generalizing database with
  | nil =>
      rw [List.foldlM_nil, pure_eq_ok] at committed
      exact ⟨[], committed ▸ .nil database⟩
  | cons operation operations ih =>
      rw [List.foldlM_cons] at committed
      obtain ⟨middle, first, rest⟩ := bind_eq_ok.mp committed
      obtain ⟨⟨answer, _⟩, ran, rfl⟩ := map_eq_ok.mp first
      obtain ⟨events, run⟩ := ih rest
      exact ⟨_, .cons (.committed ran) run⟩

/-- Whether committing the operations ends in tables of some kind. -/
def commitsTo (operations : List Operation) (database : Database)
    (holds : Database → Bool) : Bool :=
  (commitAll operations database).toOption.any holds

theorem exists_exec_of_commitsTo {holds : Database → Bool}
    (committed : commitsTo operations database holds = true) :
    ∃ events next, Exec Step database events next ∧ holds next = true := by
  unfold commitsTo at committed
  cases outcome : commitAll operations database with
  | error message => simp [outcome, Except.toOption] at committed
  | ok next =>
      obtain ⟨events, run⟩ := exists_exec_of_commitAll outcome
      exact ⟨events, next, run, by
        simpa [outcome, Except.toOption] using committed⟩

/-- Whether one more operation, after committing the others, ends as
expected. -/
def commitsThen (operations : List Operation) (database : Database)
    (operation : Operation) (holds : Database → Answer → Database → Bool) : Bool :=
  commitsTo operations database fun before =>
    (operation.run before).toOption.any fun outcome =>
      holds before outcome.1 outcome.2

theorem exists_run_of_commitsThen {holds : Database → Answer → Database → Bool}
    (committed : commitsThen operations database operation holds = true) :
    ∃ events before answer after, Exec Step database events before ∧
      operation.run before = .ok (answer, after) ∧
      holds before answer after = true := by
  obtain ⟨events, before, run, ended⟩ := exists_exec_of_commitsTo committed
  cases outcome : operation.run before with
  | error message => simp [outcome, Except.toOption] at ended
  | ok next =>
      exact ⟨events, before, next.1, next.2, run, outcome, by
        simpa [outcome, Except.toOption] using ended⟩

/-! ## Sample calls -/

def sampleUuid (value : Nat) : Uuid :=
  .ofNat value

def sampleTarget : Target :=
  ⟨sampleUuid 1, .pub⟩

/-- A call that the publication guard accepts. -/
def sampleCall (stagingId reportId renderId : Nat) (channel : Channel) : StageCall where
  stage :=
    { stagingId := sampleUuid stagingId
      target := sampleTarget
      channel := channel
      reportId := sampleUuid reportId
      renderId := sampleUuid renderId
      stagingState := .staged
      requestedBy := "OPERATOR"
      reasonCode := none
      correlationId := none }
  report :=
    { reportId := sampleUuid reportId
      propertyId := sampleTarget.propertyId
      reportVariant := sampleTarget.reportVariant
      snapshotId := sampleUuid 2
      contentState := .ready
      qaStatus := .pass
      publicationEligible := true
      healthState := .clean }
  render :=
    { renderId := sampleUuid renderId
      reportId := sampleUuid reportId
      renderType := channelRender channel
      contentState := .ready
      qaStatus := .pass
      publicationEligible := true
      healthState := .clean
      storageUri := some "s3://renders"
      artifactHash := some "00" }
  actor := "PUBLICATION_SERVICE"
  freshness := ⟨.fresh, none⟩

def sampleTargetCall : TargetCall where
  target := sampleTarget
  actor := "PUBLICATION_SERVICE"
  reasonCode := "MANUAL"
  correlationId := none

def samplePublisher : AtomicPublicationService where
  guard := publicationGuard
  hasFreezes := true
  hasHistory := true

def sampleLifecycle : ControlledPublicationLifecycle where
  guard := some publicationGuard
  hasFreshness := true
  hasFreezes := true
  hasHistory := true

/-- Nothing published yet, and the stages of some calls. -/
def sampleDatabase (calls : List StageCall) (freezes : List PublicationFreeze) : Database where
  reportCurrent _ := none
  channelPointers _ _ := none
  history := []
  staging stagingId :=
    (calls.map StageCall.stage).find? fun stage =>
      stage.stagingId = stagingId
  freezes := freezes

theorem sampleDatabase_unpublished (calls : List StageCall) (freezes : List PublicationFreeze) :
    Unpublished (sampleDatabase calls freezes) :=
  ⟨fun _ => rfl, fun _ _ => rfl, rfl⟩

/-- Publish for a call. -/
def samplePublish (call : StageCall) : Operation :=
  .publish samplePublisher call

/-- The tables after a first publication on the web. -/
def sampleLive : Database :=
  ((commitAll [samplePublish (sampleCall 10 11 12 .web)]
    (sampleDatabase [sampleCall 10 11 12 .web] [])).toOption).getD (sampleDatabase [] [])

theorem sampleLive_published : (samplePublish (sampleCall 10 11 12 .web)).run
        (sampleDatabase [sampleCall 10 11 12 .web] []) =
      .ok (.publication ⟨.published, []⟩, sampleLive) := by
  rfl

end SanTanHeights.Publication
