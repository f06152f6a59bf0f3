import SanTanHeights.Publication.Operations

/-!
# Effects of the publication operations

The history rows that the writes of each operation append, and which pointers
they set, keep or clear.  Supersession rows are only appended where a history
service is configured.
-/

namespace SanTanHeights.Publication

open Foundation

/-! ## Removing the pointers of a list of channels -/

section ClearChannels

open ControlledPublicationLifecycle

variable (call : TargetCall) (action : Action) (reportId : Uuid)

theorem clearChannels_cons (entry : Channel × Uuid) (listed : List (Channel × Uuid))
    (state : PublicationState) :
    clearChannels call action reportId (entry :: listed) state =
      clearChannels call action reportId listed
        ((state.clearChannelPointer call.target entry.1).appendHistory
          (call.record action reportId (some entry.1) (some entry.2))) := rfl

/-- One row for each channel that is cleared. -/
theorem clearChannels_history (listed : List (Channel × Uuid)) (state : PublicationState) :
    (clearChannels call action reportId listed state).history =
      state.history ++ listed.map fun entry =>
        call.record action reportId (some entry.1) (some entry.2) := by
  induction listed generalizing state with
  | nil => exact (List.append_nil _).symm
  | cons entry listed ih =>
      rw [clearChannels_cons, ih, List.map_cons, ← List.singleton_append, ← List.append_assoc]
      rfl

theorem clearChannels_reportCurrent
    (listed : List (Channel × Uuid)) (state : PublicationState) :
    (clearChannels call action reportId listed state).reportCurrent = state.reportCurrent := by
  induction listed generalizing state with
  | nil => rfl
  | cons entry listed ih =>
      rw [clearChannels_cons, ih]
      rfl

theorem clearChannels_channelPointers
    (listed : List (Channel × Uuid)) (state : PublicationState)
    (target : Target) (channel : Channel) :
    (clearChannels call action reportId listed state).channelPointers target
        channel =
      if target = call.target ∧ channel ∈ listed.map Prod.fst then none
      else state.channelPointers target channel := by
  induction listed generalizing state with
  | nil => simp [clearChannels]
  | cons entry listed ih =>
      rw [clearChannels_cons, ih]
      simp only [PublicationState.appendHistory, PublicationState.clearChannelPointer,
        PublicationState.channelPointers_writeChannel, List.map_cons, List.mem_cons]
      split_ifs <;> grind

end ClearChannels

variable {state : PublicationState} {operation : Operation}

/-- The channels of a target whose pointer names a report. -/
theorem mem_listed_channels {target : Target} {reportId : Uuid} {channel : Channel} :
    channel ∈ (state.listChannelPointersForReport target reportId).map
        Prod.fst ↔
      (state.channelPointers target channel).map ChannelPointer.reportId = some reportId := by
  simp only [List.mem_map, Prod.exists, exists_and_right, exists_eq_right,
    PublicationState.mem_listChannelPointersForReport, Option.map_eq_some_iff]
  constructor
  · rintro ⟨renderId, row, found, same, -⟩
    exact ⟨row, found, same⟩
  · rintro ⟨row, found, same⟩
    exact ⟨row.renderId, row, found, same, rfl⟩

/-! ## Supersession rows -/

/-- The rows of `record_pointer_replacement`. -/
def replacementRows (call : StageCall) (previousReport previousRender : Uuid)
    (newReport newRender : Uuid) (reasonCode : String) :
    List HistoryRecord :=
  (if previousRender ≠ newRender then
    [call.record .superseded previousReport previousRender (some reasonCode)]
  else []) ++
  (if previousReport ≠ newReport then
    [{ call.record .semanticSuperseded previousReport previousRender
        (some reasonCode) with
      channel := none
      renderId := none }]
  else [])

theorem recordPointerReplacement_eq (call : StageCall) (previousReport previousRender : Uuid)
    (newReport newRender : Uuid) (reasonCode : String) (state : PublicationState) :
    recordPointerReplacement call previousReport previousRender newReport
        newRender reasonCode state =
      { state with
        history := state.history ++
          replacementRows call previousReport previousRender newReport newRender reasonCode } := by
  unfold recordPointerReplacement replacementRows
  split_ifs <;> simp [PublicationState.appendHistory]

/-- The rows about a pointer that the stage's channel loses. -/
def displacedRows (hasHistory : Bool) (call : StageCall)
    (previousReport : ChannelPointer → Uuid) (newReport newRender : Uuid)
    (reasonCode : String) (state : PublicationState) : List HistoryRecord :=
  match call.priorChannel state with
  | some previous =>
      if hasHistory then
        replacementRows call (previousReport previous) previous.renderId
          newReport newRender reasonCode
      else []
  | none => []

theorem action_of_mem_replacementRows {call : StageCall} {previousReport previousRender : Uuid}
    {newReport newRender : Uuid} {reasonCode : String} {record : HistoryRecord}
    (present : record ∈ replacementRows call previousReport previousRender
      newReport newRender reasonCode) :
    record.action = .superseded ∨ record.action = .semanticSuperseded := by
  rcases List.mem_append.mp present with ofRender | ofReport
  · split_ifs at ofRender
    · rw [List.mem_singleton.mp ofRender]
      exact .inl rfl
    · cases ofRender
  · split_ifs at ofReport
    · rw [List.mem_singleton.mp ofReport]
      exact .inr rfl
    · cases ofReport

theorem action_of_mem_displacedRows {hasHistory : Bool} {call : StageCall}
    {previousReport : ChannelPointer → Uuid} {newReport newRender : Uuid}
    {reasonCode : String} {record : HistoryRecord}
    (present : record ∈ displacedRows hasHistory call previousReport newReport
      newRender reasonCode state) :
    record.action = .superseded ∨ record.action = .semanticSuperseded := by
  unfold displacedRows at present
  split at present
  · split_ifs at present
    · exact action_of_mem_replacementRows present
    · cases present
  · cases present

namespace Operation

/-- The rows that the writes of an operation append. -/
def evidence : Operation → PublicationState → List HistoryRecord
  | .publish service call, state =>
      displacedRows service.hasHistory call
        (fun previous => (call.priorReport state).elim previous.reportId CurrentReport.reportId)
        call.stage.reportId call.stage.renderId "PUBLISH_REPLACEMENT"
        state ++
      [call.record .published call.stage.reportId call.stage.renderId none]
  | .promoteRender service call, state =>
      promotionRows service call state
  | .republish service call, state =>
      promotionRows service call state ++
      [call.record .republished call.report.reportId call.render.renderId (some "REPUBLISH")]
  | .rollback _ call, _ =>
      [call.record .rolledBack call.stage.reportId call.stage.renderId (some "ROLLBACK")]
  | .unpublish _ call channel, state =>
      (state.channelPointers call.target channel).elim [] fun prior =>
        [call.record .unpublished prior.reportId (some channel) (some prior.renderId)]
  | .invalidate call reportId, state =>
      (state.listChannelPointersForReport call.target reportId).map fun entry =>
          call.record .invalidated reportId (some entry.1) (some entry.2)
  | .withdraw call, state =>
      (state.reportCurrent call.target).elim [] fun current =>
        ((state.listChannelPointersForReport call.target
          current.reportId).map fun entry =>
            call.record .withdrawn current.reportId (some entry.1) (some entry.2)) ++
        [call.record .semanticWithdrawn current.reportId none none]
where
  /-- The rows of `promote_render`. -/
  promotionRows (service : ControlledPublicationLifecycle)
      (call : StageCall) (state : PublicationState) : List HistoryRecord :=
    displacedRows service.hasHistory call ChannelPointer.reportId
      call.report.reportId call.render.renderId "PRESENTATION_ONLY_PROMOTION"
      state ++
    [call.record .renderPromoted call.report.reportId call.render.renderId
      (some "PRESENTATION_ONLY_PROMOTION")]

end Operation

/-- The three tables after the writes of `publish`. -/
theorem publishWrites_eq (service : AtomicPublicationService) (call : StageCall)
    (state : PublicationState) :
    publishWrites service.hasHistory call state =
      { reportCurrent :=
          (state.setCurrentReport call.stage.target call.stage.reportId call.actor).reportCurrent
        channelPointers :=
          (state.setChannelPointer call.stage.target call.stage.channel
            call.stage.reportId call.stage.renderId call.actor).channelPointers
        history :=
          state.history ++ (Operation.publish service call).evidence state } := by
  rw [Operation.evidence]
  unfold publishWrites displacedRows
  cases call.priorChannel state with
  | none => rfl
  | some previous =>
      cases service.hasHistory with
      | false => rfl
      | true =>
          simp only [if_true, recordPointerReplacement_eq, ← List.append_assoc]
          rfl

/-- The three tables after the writes of `promote_render`. -/
theorem promoteWrites_eq (service : ControlledPublicationLifecycle) (call : StageCall)
    (state : PublicationState) :
    ControlledPublicationLifecycle.promoteWrites service.hasHistory call state =
      { reportCurrent := state.reportCurrent
        channelPointers :=
          (state.setChannelPointer call.stage.target call.stage.channel
            call.report.reportId call.render.renderId call.actor).channelPointers
        history :=
          state.history ++ (Operation.promoteRender service call).evidence state } := by
  rw [Operation.evidence, Operation.evidence.promotionRows]
  unfold ControlledPublicationLifecycle.promoteWrites displacedRows
  cases call.priorChannel state with
  | none => rfl
  | some previous =>
      cases service.hasHistory with
      | false => rfl
      | true =>
          simp only [if_true, recordPointerReplacement_eq, ← List.append_assoc]
          rfl

/-- The writes of an operation append its evidence to the history. -/
theorem Operation.writes_history (operation : Operation) (state : PublicationState) :
    (operation.writes state).history = state.history ++ operation.evidence state := by
  cases operation with
  | publish service call => rw [writes, publishWrites_eq]
  | promoteRender service call => rw [writes, promoteWrites_eq]
  | republish service call =>
      simp only [writes, ControlledPublicationLifecycle.recordRepublished,
        PublicationState.appendHistory, promoteWrites_eq, evidence, List.append_assoc]
  | rollback service call => rfl
  | unpublish service call channel =>
      cases found : state.channelPointers call.target channel with
      | none => simp [writes, evidence, found]
      | some prior =>
          simp only [writes, evidence, found, Option.elim_some]
          rfl
  | invalidate call reportId =>
      simp only [writes, evidence, ControlledPublicationLifecycle.invalidateWrites]
      split_ifs
      · exact clearChannels_history ..
      · exact clearChannels_history ..
  | withdraw call =>
      cases found : state.reportCurrent call.target with
      | none => simp [writes, evidence, found]
      | some current =>
          simp only [writes, evidence, found, Option.elim_some,
            ControlledPublicationLifecycle.withdrawWrites, PublicationState.appendHistory,
            PublicationState.clearCurrentReport, clearChannels_history, List.append_assoc]

/-! ## Effect on the channel pointers -/

namespace Operation

open ControlledPublicationLifecycle PublicationState

/-- An operation that sets a channel sets that one alone. -/
theorem writes_channelPointers {call : StageCall} {reportId renderId : Uuid}
    (delivers : operation.delivery = some (call, reportId, renderId))
    (state : PublicationState) : (operation.writes state).channelPointers =
      (state.setChannelPointer call.stage.target call.stage.channel reportId
        renderId call.actor).channelPointers := by
  cases operation with
  | publish service publishing =>
      cases delivers
      rw [writes, publishWrites_eq]
  | promoteRender service promoting =>
      cases delivers
      rw [writes, promoteWrites_eq]
  | republish service promoting =>
      cases delivers
      rw [writes, promoteWrites_eq]
      rfl
  | rollback service rolling =>
      cases delivers
      rfl
  | unpublish service removing channel => cases delivers
  | invalidate removing reportId => cases delivers
  | withdraw removing => cases delivers

theorem clearChannels_keeps_or_clears (call : TargetCall) (action : Action) (reportId : Uuid)
    (listed : List (Channel × Uuid)) (state : PublicationState)
    (target : Target) (channel : Channel) :
    (clearChannels call action reportId listed state).channelPointers target
        channel = state.channelPointers target channel ∨
      (clearChannels call action reportId listed state).channelPointers target channel = none := by
  rw [clearChannels_channelPointers]
  split_ifs
  · exact .inr rfl
  · exact .inl rfl

theorem unpublish_channelPointers (service : ControlledPublicationLifecycle) (call : TargetCall)
    (removed : Channel) (state : PublicationState) (target : Target) (channel : Channel) :
    ((unpublish service call removed).writes state).channelPointers target
        channel =
      if target = call.target ∧ channel = removed then none
      else state.channelPointers target channel := by
  cases found : state.channelPointers call.target removed with
  | none =>
      rw [writes, found, Option.elim_none]
      split_ifs with same
      · rw [same.1, same.2, found]
      · rfl
  | some prior =>
      rw [writes, found, Option.elim_some]
      exact channelPointers_writeChannel ..

/-- An operation that sets no channel keeps a pointer or removes it. -/
theorem writes_keeps_or_clears (delivers : operation.delivery = none)
    (state : PublicationState) (target : Target) (channel : Channel) :
    (operation.writes state).channelPointers target channel =
        state.channelPointers target channel ∨
      (operation.writes state).channelPointers target channel = none := by
  cases operation with
  | publish service call => cases delivers
  | promoteRender service call => cases delivers
  | republish service call => cases delivers
  | rollback service call => cases delivers
  | unpublish service call removed =>
      rw [unpublish_channelPointers]
      split_ifs
      · exact .inr rfl
      · exact .inl rfl
  | invalidate call reportId =>
      simp only [writes, invalidateWrites]
      split_ifs
      · exact clearChannels_keeps_or_clears ..
      · exact clearChannels_keeps_or_clears ..
  | withdraw call =>
      rw [writes]
      cases state.reportCurrent call.target with
      | none => exact .inl rfl
      | some current => exact clearChannels_keeps_or_clears ..

theorem update_keeps_or_clears
    (reportCurrent : Target → Option CurrentReport) (cleared target : Target) :
    Function.update reportCurrent cleared none target = reportCurrent target ∨
      Function.update reportCurrent cleared none target = none := by
  by_cases same : target = cleared
  · subst same
    exact .inr (Function.update_self ..)
  · exact .inl (Function.update_of_ne same ..)

/-- An operation sets the semantic pointer of no other target than its
stage's. -/
theorem writes_reportCurrent_keeps_or_clears {target : Target}
    (elsewhere : ∀ call reportId renderId,
      operation.delivery = some (call, reportId, renderId) → call.stage.target ≠ target)
    (state : PublicationState) :
    (operation.writes state).reportCurrent target = state.reportCurrent target ∨
      (operation.writes state).reportCurrent target = none := by
  cases operation with
  | publish service call =>
      have other := elsewhere call _ _ rfl
      left
      rw [writes, publishWrites_eq]
      exact Function.update_of_ne other.symm ..
  | promoteRender service call =>
      left
      rw [writes, promoteWrites_eq]
  | republish service call =>
      left
      rw [writes, promoteWrites_eq]
      rfl
  | rollback service call =>
      have other := elsewhere call _ _ rfl
      exact .inl (Function.update_of_ne other.symm ..)
  | unpublish service call removed =>
      left
      rw [writes]
      cases state.channelPointers call.target removed <;> rfl
  | invalidate call reportId =>
      simp only [writes, invalidateWrites]
      split_ifs
      · rw [clearCurrentReport, clearChannels_reportCurrent]
        exact update_keeps_or_clears ..
      · exact .inl (congrFun (clearChannels_reportCurrent ..) target)
  | withdraw call =>
      rw [writes]
      cases state.reportCurrent call.target with
      | none => exact .inl rfl
      | some current =>
          rw [Option.elim_some, withdrawWrites, appendHistory,
            clearCurrentReport, clearChannels_reportCurrent]
          exact update_keeps_or_clears ..

end Operation

/-- No transaction rewrites the history. -/
theorem Step.history_prefix {database next : Database} {event : Event}
    (taken : Step database event next) :
    database.history <+: next.history := by
  rcases taken.cases with kept | ⟨operation, answer, -, -, written⟩
  · exact congrArg PublicationState.history kept ▸ List.prefix_rfl
  · rw [written, operation.writes_history]
    exact List.prefix_append ..

/-!
## Withdrawal

`withdraw` lists the channels to clear by the report that is semantic-current.
A channel that delivers another report, left there when a later publication
moved the semantic pointer on, keeps its pointer.
-/

open Foundation.Outcome Foundation.Runs

open ControlledPublicationLifecycle

/-- No pointer of a target is left. -/
def PublicationState.Withdrawn (state : PublicationState) (target : Target) : Prop :=
  state.reportCurrent target = none ∧ ∀ channel, state.channelPointers target channel = none

/-- Every channel of a target delivers the semantic-current report. -/
def PublicationState.Aligned (state : PublicationState) (target : Target) : Prop :=
  ∀ channel row, state.channelPointers target channel = some row →
    (state.reportCurrent target).map CurrentReport.reportId = some row.reportId

theorem withdrawWrites_reportCurrent
    (call : TargetCall) (reportId : Uuid) (state : PublicationState) :
    (withdrawWrites call reportId state).reportCurrent call.target = none := by
  simp [withdrawWrites, PublicationState.appendHistory, PublicationState.clearCurrentReport]

/-- A withdrawal clears the channels that deliver the current report and no
other. -/
theorem withdrawWrites_channelPointers
    (call : TargetCall) (reportId : Uuid) (state : PublicationState) (channel : Channel) :
    (withdrawWrites call reportId state).channelPointers call.target channel =
      if (state.channelPointers call.target channel).map
          ChannelPointer.reportId = some reportId then none
      else state.channelPointers call.target channel := by
  change (clearChannels call .withdrawn reportId _ state).channelPointers call.target channel = _
  rw [clearChannels_channelPointers]
  simp only [true_and, mem_listed_channels]

/-- A withdrawal leaves no pointer exactly when the channels were aligned. -/
theorem withdrawWrites_withdrawn_iff {call : TargetCall} {current : CurrentReport}
    (isCurrent : state.reportCurrent call.target = some current) :
    (withdrawWrites call current.reportId state).Withdrawn call.target ↔
      state.Aligned call.target := by
  unfold PublicationState.Withdrawn PublicationState.Aligned
  rw [isCurrent]
  constructor
  · rintro ⟨-, cleared⟩ channel row found
    have emptied := cleared channel
    rw [withdrawWrites_channelPointers, found] at emptied
    by_contra other
    rw [if_neg fun same => other same.symm] at emptied
    cases emptied
  · intro aligned
    refine ⟨withdrawWrites_reportCurrent .., fun channel => ?_⟩
    rw [withdrawWrites_channelPointers]
    cases found : state.channelPointers call.target channel with
    | none => exact ite_self _
    | some row => exact if_pos (aligned channel row found).symm

/-- In any run, a withdrawal that answers `WITHDRAWN` leaves no pointer of its
target exactly when every channel delivered the semantic-current report. -/
theorem withdraw_complete_iff
    {start last : Database} {earlier later : List Event} {call : TargetCall}
    {reason : Option String}
    (run : Exec Step start (earlier ++
        .committed (.withdraw call) (.lifecycle ⟨.withdrawn, reason⟩) ::
          later) last) :
    ∃ before after, Exec Step start earlier before ∧ Step before
        (.committed (.withdraw call) (.lifecycle ⟨.withdrawn, reason⟩))
        after ∧
      Exec Step after later last ∧
      (after.Withdrawn call.target ↔ before.Aligned call.target) := by
  obtain ⟨before, after, reached, taken, rest⟩ := run.split_cons
  refine ⟨before, after, reached, taken, rest, ?_⟩
  cases taken with
  | committed ran =>
      obtain ⟨⟨result, next⟩, withdrew, ended⟩ := map_eq_ok.mp ran
      cases ended
      unfold ControlledPublicationLifecycle.withdraw at withdrew
      cases isCurrent : before.reportCurrent call.target with
      | none => simp [isCurrent] at withdrew
      | some current =>
          simp only [isCurrent, pure_eq_ok, Prod.mk.injEq] at withdrew
          rw [← withdrew.2]
          exact withdrawWrites_withdrawn_iff isCurrent

theorem withdraw_complete_iff_sampleLive :
    ∃ before after, Exec Step (sampleDatabase [sampleCall 10 11 12 .web] [])
        [.committed (samplePublish (sampleCall 10 11 12 .web))
          (.publication ⟨.published, []⟩)] before ∧
      Step before (.committed (.withdraw sampleTargetCall)
          (.lifecycle ⟨.withdrawn, none⟩)) after ∧
      Exec Step after [] (sampleLive.withState
          (withdrawWrites sampleTargetCall (sampleUuid 11)
            sampleLive.toPublicationState)) ∧
      (after.Withdrawn sampleTarget ↔ before.Aligned sampleTarget) :=
  withdraw_complete_iff
    (.cons (.committed sampleLive_published) (.single (.committed rfl)))

/-- Once a second report was published on another channel, withdrawing leaves
the first report on its own. -/
theorem withdraw_leaves_channel :
    ∃ start events before call after, Unpublished start ∧
      Exec Step start events before ∧
      (Operation.withdraw call).run before =
        .ok (.lifecycle ⟨.withdrawn, none⟩, after) ∧
      ¬after.Withdrawn call.target := by
  have left : commitsThen [samplePublish (sampleCall 10 11 12 .web),
        samplePublish (sampleCall 20 21 22 .pdfDownload)]
      (sampleDatabase
        [sampleCall 10 11 12 .web, sampleCall 20 21 22 .pdfDownload] [])
      (.withdraw sampleTargetCall)
      (fun _ answer after =>
        answer = .lifecycle ⟨.withdrawn, none⟩ ∧
          (after.channelPointers sampleTarget .web).isSome) = true := by
    decide +kernel
  obtain ⟨events, before, answer, after, run, withdrew, ended⟩ :=
    exists_run_of_commitsThen left
  obtain ⟨rfl, present⟩ := of_decide_eq_true ended
  refine ⟨_, events, before, sampleTargetCall, after,
    sampleDatabase_unpublished _ _, run, withdrew, fun withdrawn => ?_⟩
  have emptied : after.channelPointers sampleTarget .web = none :=
    withdrawn.2 .web
  rw [emptied] at present
  cases present

end SanTanHeights.Publication
