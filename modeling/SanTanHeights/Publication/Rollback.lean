import SanTanHeights.Publication.Replay

/-!
# Rollback

What a rollback may restore.  It asks the history whether the render was ever
delivered on the channel, and the guard and the freshness check whether it may
be delivered now.  An invalidation or a withdrawal in between does not count.
-/

namespace SanTanHeights.Publication

open Foundation Foundation.Outcome Foundation.Runs Shared

open ControlledPublicationLifecycle PublicationState

/-! ## What the history proves -/

/-- A render was delivered on a channel at some point of a run. -/
def Delivered (start : Database) (events : List Event) (target : Target)
    (channel : Channel) (delivered : Uuid × Uuid) : Prop :=
  ∃ earlier later state, events = earlier ++ later ∧
    Exec Step start earlier state ∧
    state.pointers.channels target channel = some delivered

variable {start : Database} {events : List Event} {channel : Channel}
  {state : PublicationState} {record : HistoryRecord} {renderId : Uuid}

theorem Delivered.concat {target : Target} {delivered : Uuid × Uuid}
    (past : Delivered start events target channel delivered) (event : Event) :
    Delivered start (events ++ [event]) target channel delivered := by
  obtain ⟨earlier, later, state, rfl, run, pointed⟩ := past
  exact ⟨earlier, later ++ [event], state, List.append_assoc .., run, pointed⟩

theorem not_publishing_of_mem_displacedRows {hasHistory : Bool} {call : StageCall}
    {previousReport : ChannelPointer → Uuid} {newReport newRender : Uuid} {reasonCode : String}
    (present : record ∈ displacedRows hasHistory call previousReport newReport
      newRender reasonCode state) :
    record.action ∉ publishingActions := by
  rcases action_of_mem_displacedRows present with same | same
  · rw [same]
    decide
  · rw [same]
    decide

theorem delivers_of_mem_promotionRows
    {service : ControlledPublicationLifecycle} {call : StageCall}
    (present : record ∈ Operation.evidence.promotionRows service call state)
    (publishing : record.action ∈ publishingActions) (onChannel : record.channel = some channel)
    (ofRender : record.renderId = some renderId) :
    (promoteWrites service.hasHistory call state).pointers.channels
        record.target channel = some (record.reportId, renderId) := by
  rcases List.mem_append.mp present with displaced | promoted
  · exact absurd publishing (not_publishing_of_mem_displacedRows displaced)
  · cases List.mem_singleton.mp promoted
    cases onChannel
    cases ofRender
    rw [pointers_promoteWrites]
    exact Pointers.channels_setChannel_same ..

/-- The rows that count as a publication name what their channel then
delivers. -/
theorem delivers_of_mem_evidence {operation : Operation}
    (present : record ∈ operation.evidence state)
    (publishing : record.action ∈ publishingActions) (onChannel : record.channel = some channel)
    (ofRender : record.renderId = some renderId) :
    (operation.writes state).pointers.channels record.target channel =
      some (record.reportId, renderId) := by
  cases operation with
  | publish service call =>
      rcases List.mem_append.mp present with displaced | published
      · exact absurd publishing (not_publishing_of_mem_displacedRows displaced)
      · cases List.mem_singleton.mp published
        cases onChannel
        cases ofRender
        rw [Operation.writes, pointers_publishWrites]
        exact Pointers.channels_setChannel_same ..
  | promoteRender service call =>
      exact delivers_of_mem_promotionRows present publishing onChannel ofRender
  | republish service call =>
      rw [Operation.writes, recordRepublished, pointers_appendHistory]
      rcases List.mem_append.mp present with promotion | republished
      · exact delivers_of_mem_promotionRows promotion publishing onChannel ofRender
      · cases List.mem_singleton.mp republished
        cases onChannel
        cases ofRender
        rw [pointers_promoteWrites]
        exact Pointers.channels_setChannel_same ..
  | rollback service call =>
      cases List.mem_singleton.mp present
      cases onChannel
      cases ofRender
      rw [Operation.writes, rollbackWrites, pointers_appendHistory, pointers_setChannelPointer]
      exact Pointers.channels_setChannel_same ..
  | unpublish service call removed =>
      rw [Operation.evidence] at present
      cases found : state.channelPointers call.target removed with
      | none => simp [found] at present
      | some prior =>
          rw [found, Option.elim_some, List.mem_singleton] at present
          subst present
          simp [TargetCall.record, publishingActions] at publishing
  | invalidate call reportId =>
      obtain ⟨entry, -, rfl⟩ := List.mem_map.mp present
      simp [TargetCall.record, publishingActions] at publishing
  | withdraw call =>
      rw [Operation.evidence] at present
      cases found : state.reportCurrent call.target with
      | none => simp [found] at present
      | some current =>
          rw [found, Option.elim_some] at present
          rcases List.mem_append.mp present with withdrawn | semantic
          · obtain ⟨entry, -, rfl⟩ := List.mem_map.mp withdrawn
            simp [TargetCall.record, publishingActions] at publishing
          · cases List.mem_singleton.mp semantic
            simp [TargetCall.record, publishingActions] at publishing

/-- Every row of the history that counts as a publication names a render that
was delivered on its channel. -/
def HistoryProves (start : Database) (events : List Event) (database : Database) : Prop :=
  ∀ record ∈ database.history, record.action ∈ publishingActions →
    ∀ channel renderId, record.channel = some channel →
      record.renderId = some renderId →
        Delivered start events record.target channel (record.reportId, renderId)

/-- What the history proves stays true along every run. -/
theorem historyProves_of_exec {database : Database} (unpublished : Unpublished start)
    (run : Exec Step start events database) :
    HistoryProves start events database := by
  have general : Exec Step start events database ∧
      HistoryProves start events database := by
    apply run.history_invariant
    · exact ⟨.nil start, by simp [HistoryProves, unpublished.history]⟩
    · rintro past before event after ⟨reached, known⟩ taken
      have extended := reached.append (.single taken)
      refine ⟨extended, ?_⟩
      intro record present publishing channel renderId onChannel ofRender
      rcases taken.cases with kept | ⟨operation, answer, -, -, written⟩
      · rw [kept] at present
        exact (known record present publishing channel renderId onChannel ofRender).concat event
      · rw [written, operation.writes_history] at present
        rcases List.mem_append.mp present with old | new
        · exact (known record old publishing channel renderId onChannel ofRender).concat event
        · refine ⟨past ++ [event], [], after, (List.append_nil _).symm, extended, ?_⟩
          rw [written]
          exact delivers_of_mem_evidence new publishing onChannel ofRender
  exact general.2

/-! ## What a rollback restores -/

theorem delivered_of_wasPreviouslyPublished {database : Database}
    (unpublished : Unpublished start) (run : Exec Step start events database)
    {target : Target} {reportId : Uuid}
    (known : database.wasPreviouslyPublished target channel reportId renderId = true) :
    Delivered start events target channel (reportId, renderId) := by
  obtain ⟨record, present, agrees⟩ := List.any_eq_true.mp known
  obtain ⟨rfl, onChannel, rfl, ofRender, publishing⟩ := of_decide_eq_true agrees
  exact historyProves_of_exec unpublished run record present publishing
    channel renderId onChannel ofRender

/-- In any run, a rollback either restores a render that was delivered on its
channel before, with the freeze, the guard and the freshness check agreeing,
or it is refused and changes nothing.  Whether the report was invalidated or
withdrawn in between makes no difference. -/
theorem rollback_restores_delivered {start last : Database} {earlier later : List Event}
    {service : ControlledPublicationLifecycle} {call : StageCall}
    {result : LifecycleResult} (unpublished : Unpublished start)
    (run : Exec Step start (earlier ++
        .committed (.rollback service call) (.lifecycle result) :: later)
      last) :
    ∃ before after, Exec Step start earlier before ∧
      Step before (.committed (.rollback service call) (.lifecycle result))
        after ∧
      Exec Step after later last ∧
      ((result.status = .rolledBack ∧ service.MayRollBack call before ∧
          Delivered start earlier call.stage.target call.stage.channel
            (call.stage.reportId, call.stage.renderId) ∧
          (service.guard = some publicationGuard →
            call.report.contentState = .ready ∧ call.report.qaStatus = .pass ∧
              call.report.publicationEligible = true ∧
              call.report.healthState = .clean) ∧
          after.pointers = (before.pointers.setCurrent call.stage.target
              (some call.stage.reportId)).setChannel call.stage.target
                call.stage.channel
                (some (call.stage.reportId, call.stage.renderId))) ∨
        ((result.status = .frozen ∨ result.status = .blocked ∨
            result.status = .stale) ∧
          ¬service.MayRollBack call before ∧ after = before)) := by
  obtain ⟨before, after, reached, taken, rest⟩ := run.split_cons
  refine ⟨before, after, reached, taken, rest, ?_⟩
  cases taken with
  | committed ran =>
      obtain ⟨⟨_, _⟩, rolledBack, ended⟩ := map_eq_ok.mp ran
      cases ended
      rcases rollback_cases rolledBack with
        ⟨refused, rfl, mayNot⟩ | ⟨rfl, may, rfl⟩
      · exact .inr ⟨refused, mayNot, rfl⟩
      · refine .inl ⟨rfl, may,
          delivered_of_wasPreviouslyPublished unpublished reached
            may.inHistory, fun configured => ?_, ?_⟩
        · exact report_eligible_of_publicationGuard
            (may.passes.guard _ configured)
        · simp [rollbackWrites]

theorem rollback_restores_delivered_sampleLive :
    ∃ before after, Exec Step (sampleDatabase [sampleCall 10 11 12 .web] [])
        [.committed (samplePublish (sampleCall 10 11 12 .web))
          (.publication ⟨.published, []⟩)] before ∧
      Step before
        (.committed (.rollback sampleLifecycle (sampleCall 10 11 12 .web))
          (.lifecycle ⟨.rolledBack, none⟩)) after ∧
      Exec Step after [] (sampleLive.withState
          (rollbackWrites (sampleCall 10 11 12 .web)
            sampleLive.toPublicationState)) ∧
      ((LifecycleStatus.rolledBack = .rolledBack ∧
          sampleLifecycle.MayRollBack (sampleCall 10 11 12 .web) before ∧
          Delivered (sampleDatabase [sampleCall 10 11 12 .web] [])
            [.committed (samplePublish (sampleCall 10 11 12 .web))
              (.publication ⟨.published, []⟩)]
            sampleTarget .web (sampleUuid 11, sampleUuid 12) ∧
          (sampleLifecycle.guard = some publicationGuard →
            ContentState.ready = .ready ∧ QaStatus.pass = .pass ∧
              true = true ∧ HealthState.clean = .clean) ∧
          after.pointers = (before.pointers.setCurrent sampleTarget
              (some (sampleUuid 11))).setChannel sampleTarget .web
                (some (sampleUuid 11, sampleUuid 12))) ∨
        ((LifecycleStatus.rolledBack = .frozen ∨
            LifecycleStatus.rolledBack = .blocked ∨
            LifecycleStatus.rolledBack = .stale) ∧
          ¬sampleLifecycle.MayRollBack (sampleCall 10 11 12 .web) before ∧
          after = before)) := by
  have rolledBack : Step sampleLive
      (.committed (.rollback sampleLifecycle (sampleCall 10 11 12 .web))
        (.lifecycle ⟨.rolledBack, none⟩))
      (sampleLive.withState (rollbackWrites (sampleCall 10 11 12 .web)
          sampleLive.toPublicationState)) :=
    .committed rfl
  exact rollback_restores_delivered (sampleDatabase_unpublished _ _)
    (.cons (.committed sampleLive_published) (.single rolledBack))

/-- A rollback brings back a report that was just invalidated. -/
theorem rollback_restores_invalidated :
    ∃ start events before record service call after, Unpublished start ∧
      Exec Step start events before ∧
      before.history.getLast? = some record ∧
      record.action = .invalidated ∧ record.target = call.stage.target ∧
      record.reportId = call.stage.reportId ∧
      (Operation.rollback service call).run before =
        .ok (.lifecycle ⟨.rolledBack, none⟩, after) ∧
      after.pointers ≠ before.pointers := by
  have restored : commitsThen [samplePublish (sampleCall 10 11 12 .web),
        .invalidate sampleTargetCall (sampleUuid 11)]
      (sampleDatabase [sampleCall 10 11 12 .web] [])
      (.rollback sampleLifecycle (sampleCall 10 11 12 .web))
      (fun before answer after =>
        answer = .lifecycle ⟨.rolledBack, none⟩ ∧
          (before.history.getLast?.any fun record =>
            record.action = .invalidated ∧ record.target = sampleTarget ∧
              record.reportId = sampleUuid 11) ∧
          after.pointers.current sampleTarget ≠
            before.pointers.current sampleTarget) = true := by
    decide +kernel
  obtain ⟨events, before, answer, after, run, rolledBack, ended⟩ :=
    exists_run_of_commitsThen restored
  obtain ⟨rfl, invalidated, moved⟩ := of_decide_eq_true ended
  obtain ⟨record, latest, about⟩ := (Option.any_eq_true _ _).mp invalidated
  obtain ⟨isInvalidated, ofTarget, ofReport⟩ := of_decide_eq_true about
  exact ⟨_, events, before, record, sampleLifecycle,
    sampleCall 10 11 12 .web, after, sampleDatabase_unpublished _ _, run,
    latest, isInvalidated, ofTarget, ofReport, rolledBack,
    fun same => moved (by rw [same])⟩

end SanTanHeights.Publication
