import SanTanHeights.Publication.Replay

/-!
# Supersession evidence

Which operations record the render that a channel loses.  `publish` and
`promote_render` record it; `rollback` reads the pointer it replaces and
records nothing about it.
-/

namespace SanTanHeights.Publication

open Foundation Foundation.Runs

open ControlledPublicationLifecycle

/-- The supersession rows about a render on a channel. -/
def supersessions (rows : List HistoryRecord) (target : Target) (channel : Channel)
    (renderId : Uuid) : List HistoryRecord :=
  rows.filter fun record =>
    record.action = .superseded ∧ record.target = target ∧
      record.channel = some channel ∧ record.renderId = some renderId

/-- The stage of an operation that can set a channel, and whether the history
service is configured. -/
def Operation.onStage : Operation → Option (Bool × StageCall)
  | .publish service call => some (service.hasHistory, call)
  | .promoteRender service call
  | .republish service call
  | .rollback service call => some (service.hasHistory, call)
  | .unpublish _ _ _ => none
  | .invalidate _ _ => none
  | .withdraw _ => none

/-- The operation is a `rollback`. -/
def Operation.IsRollback : Operation → Prop
  | .rollback _ _ => True
  | _ => False

variable {call : StageCall} {state : PublicationState} {prior : ChannelPointer}

/-- A replacement is recorded once. -/
theorem supersessions_displacedRows (previousReport : ChannelPointer → Uuid) (newReport : Uuid)
    {newRender : Uuid} (reasonCode : String) (found : call.priorChannel state = some prior)
    (replaced : prior.renderId ≠ newRender) :
    supersessions (displacedRows true call previousReport newReport newRender reasonCode state)
        call.stage.target call.stage.channel prior.renderId =
      [call.record .superseded (previousReport prior) prior.renderId (some reasonCode)] := by
  unfold supersessions displacedRows replacementRows
  rw [found]
  simp only [if_true, if_pos replaced, List.filter_append]
  split_ifs <;> simp [StageCall.record]

theorem supersessions_append (first second : List HistoryRecord) (target : Target)
    (channel : Channel) (renderId : Uuid) :
    supersessions (first ++ second) target channel renderId =
      supersessions first target channel renderId ++ supersessions second target channel renderId :=
  List.filter_append ..

theorem supersessions_singleton {record : HistoryRecord} (other : record.action ≠ .superseded)
    (target : Target) (channel : Channel) (renderId : Uuid) :
    supersessions [record] target channel renderId = [] := by
  simp [supersessions, other]

/-- The promotion part of a replacement's evidence. -/
theorem supersessions_promotionRows {service : ControlledPublicationLifecycle}
    (configured : service.hasHistory = true) (found : call.priorChannel state = some prior)
    (replaced : prior.renderId ≠ call.render.renderId) :
    supersessions (Operation.evidence.promotionRows service call state)
        call.stage.target call.stage.channel prior.renderId =
      [call.record .superseded prior.reportId prior.renderId
        (some "PRESENTATION_ONLY_PROMOTION")] := by
  rw [Operation.evidence.promotionRows, supersessions_append, configured,
    supersessions_displacedRows _ _ _ found replaced,
    supersessions_singleton (by simp [StageCall.record]), List.append_nil]

/-- The evidence of a replacement, operation by operation. -/
theorem supersessions_evidence {operation : Operation} {delivered : Uuid × Uuid}
    (onStage : operation.onStage = some (true, call))
    (found : call.priorChannel state = some prior)
    (written : (operation.writes state).pointers.channels call.stage.target
      call.stage.channel = some delivered)
    (replaced : prior.renderId ≠ delivered.2) :
    (supersessions (operation.evidence state) call.stage.target
        call.stage.channel prior.renderId).length = 1 ↔
      ¬operation.IsRollback := by
  cases operation with
  | publish service publishing =>
      simp only [Operation.onStage, Option.some.injEq, Prod.mk.injEq] at onStage
      obtain ⟨configured, rfl⟩ := onStage
      refine iff_of_true ?_ not_false
      rw [Operation.writes, pointers_publishWrites,
        Pointers.channels_setChannel_same, Option.some.injEq] at written
      subst written
      rw [Operation.evidence, supersessions_append, configured,
        supersessions_displacedRows _ _ _ found replaced,
        supersessions_singleton (by simp [StageCall.record])]
      rfl
  | promoteRender service promoting =>
      simp only [Operation.onStage, Option.some.injEq, Prod.mk.injEq] at onStage
      obtain ⟨configured, rfl⟩ := onStage
      refine iff_of_true ?_ not_false
      rw [Operation.writes, pointers_promoteWrites,
        Pointers.channels_setChannel_same, Option.some.injEq] at written
      subst written
      rw [Operation.evidence, supersessions_promotionRows configured found replaced]
      rfl
  | republish service promoting =>
      simp only [Operation.onStage, Option.some.injEq, Prod.mk.injEq] at onStage
      obtain ⟨configured, rfl⟩ := onStage
      refine iff_of_true ?_ not_false
      rw [Operation.writes, recordRepublished,
        PublicationState.pointers_appendHistory, pointers_promoteWrites,
        Pointers.channels_setChannel_same, Option.some.injEq] at written
      subst written
      rw [Operation.evidence, supersessions_append,
        supersessions_promotionRows configured found replaced,
        supersessions_singleton (by simp [StageCall.record])]
      rfl
  | rollback service rolling =>
      simp only [Operation.onStage, Option.some.injEq, Prod.mk.injEq] at onStage
      obtain ⟨configured, rfl⟩ := onStage
      refine iff_of_false ?_ (not_not.mpr trivial)
      rw [Operation.evidence, supersessions_singleton (by simp [StageCall.record])]
      rintro ⟨⟩
  | unpublish service removing channel => cases onStage
  | invalidate removing reportId => cases onStage
  | withdraw removing => cases onStage

/-- In any run, an operation with a history service that replaces the render
of a channel appends exactly one supersession row about it, unless it is a
rollback. -/
theorem supersession_recorded_iff {start last : Database} {earlier later : List Event}
    {operation : Operation} {answer : Answer} {call : StageCall}
    (run : Exec Step start
      (earlier ++ .committed operation answer :: later) last)
    (onStage : operation.onStage = some (true, call)) :
    ∃ before after, Exec Step start earlier before ∧
      Step before (.committed operation answer) after ∧
      Exec Step after later last ∧
      ∀ prior next,
        before.channelPointers call.stage.target call.stage.channel =
          some prior →
        after.channelPointers call.stage.target call.stage.channel = some next →
        prior.renderId ≠ next.renderId →
          ((∃ rows, after.history = before.history ++ rows ∧
            (supersessions rows call.stage.target call.stage.channel
              prior.renderId).length = 1) ↔
            ¬operation.IsRollback) := by
  obtain ⟨before, after, reached, taken, rest⟩ := run.split_cons
  refine ⟨before, after, reached, taken, rest, ?_⟩
  intro prior next found written replaced
  rcases taken.cases with kept | ⟨_, _, same, -, changed⟩
  · rw [kept, found, Option.some.injEq] at written
    exact absurd (congrArg ChannelPointer.renderId written) replaced
  · cases same
    have delivered : (operation.writes before.toPublicationState
        ).pointers.channels call.stage.target call.stage.channel =
          some (next.reportId, next.renderId) := by
      rw [← changed]
      simp [PublicationState.pointers, written]
    rw [← supersessions_evidence onStage found delivered replaced, changed,
      operation.writes_history]
    constructor
    · rintro ⟨rows, appended, once⟩
      rwa [List.append_cancel_left appended]
    · intro once
      exact ⟨_, rfl, once⟩

theorem supersession_recorded_iff_sampleLive :
    ∃ before after, Exec Step sampleLive [] before ∧ Step before
        (.committed (.promoteRender sampleLifecycle
          (sampleCall 10 11 13 .web)) (.lifecycle ⟨.promoted, none⟩))
        after ∧
      Exec Step after [] (sampleLive.withState
          (promoteWrites true (sampleCall 10 11 13 .web)
            sampleLive.toPublicationState)) ∧
      ∀ prior next,
        before.channelPointers (sampleCall 10 11 13 .web).stage.target
          (sampleCall 10 11 13 .web).stage.channel = some prior →
        after.channelPointers (sampleCall 10 11 13 .web).stage.target
          (sampleCall 10 11 13 .web).stage.channel = some next →
        prior.renderId ≠ next.renderId →
          ((∃ rows, after.history = before.history ++ rows ∧
            (supersessions rows (sampleCall 10 11 13 .web).stage.target
              (sampleCall 10 11 13 .web).stage.channel
              prior.renderId).length = 1) ↔
            ¬(Operation.promoteRender sampleLifecycle
              (sampleCall 10 11 13 .web)).IsRollback) := by
  have promoted : Step sampleLive
      (.committed (.promoteRender sampleLifecycle (sampleCall 10 11 13 .web))
        (.lifecycle ⟨.promoted, none⟩))
      (sampleLive.withState (promoteWrites true (sampleCall 10 11 13 .web)
          sampleLive.toPublicationState)) :=
    .committed rfl
  exact supersession_recorded_iff (.single promoted) rfl

/-- A rollback to the first of two renders records nothing about the second. -/
theorem rollback_misses_supersession :
    ∃ start events before service call answer after prior next,
      Unpublished start ∧ Exec Step start events before ∧
      (Operation.rollback service call).run before = .ok (answer, after) ∧
      service.hasHistory = true ∧
      before.channelPointers call.stage.target call.stage.channel = some prior ∧
      after.channelPointers call.stage.target call.stage.channel = some next ∧
      prior.renderId ≠ next.renderId ∧
      ¬∃ rows, after.history = before.history ++ rows ∧
        (supersessions rows call.stage.target call.stage.channel
          prior.renderId).length = 1 := by
  have missed : commitsThen [samplePublish (sampleCall 10 11 12 .web),
        samplePublish (sampleCall 20 21 22 .web)]
      (sampleDatabase [sampleCall 10 11 12 .web, sampleCall 20 21 22 .web] [])
      (.rollback sampleLifecycle (sampleCall 10 11 12 .web))
      (fun before _ after =>
        (before.channelPointers sampleTarget .web).map
            ChannelPointer.renderId = some (sampleUuid 22) ∧
          (after.channelPointers sampleTarget .web).map
            ChannelPointer.renderId = some (sampleUuid 12) ∧
          supersessions (after.history.drop before.history.length)
            sampleTarget .web (sampleUuid 22) = []) = true := by
    decide +kernel
  obtain ⟨events, before, answer, after, run, rolledBack, ended⟩ :=
    exists_run_of_commitsThen missed
  obtain ⟨found, written, unrecorded⟩ := of_decide_eq_true ended
  obtain ⟨prior, found, displaced⟩ := Option.map_eq_some_iff.mp found
  obtain ⟨next, written, restored⟩ := Option.map_eq_some_iff.mp written
  refine ⟨_, events, before, sampleLifecycle, sampleCall 10 11 12 .web,
    answer, after, prior, next, sampleDatabase_unpublished _ _, run,
    rolledBack, rfl, found, written, ?_, ?_⟩
  · rw [displaced, restored]
    decide
  · rintro ⟨rows, appended, once⟩
    rw [appended, List.drop_left, ← displaced] at unrecorded
    have none_recorded : (supersessions rows sampleTarget .web
        prior.renderId).length = 1 := once
    rw [unrecorded] at none_recorded
    cases none_recorded

end SanTanHeights.Publication
