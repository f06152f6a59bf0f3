import SanTanHeights.Publication.Evidence

/-!
# Replaying the publication history

The history is meant to be the log of the pointers: each row says what the
pointers of its target became.  Replaying the rows in order reproduces the
reports and renders that the pointers name, as long as no report is
invalidated that is semantic-current without being on any channel.
-/

namespace SanTanHeights.Publication

open Foundation Foundation.Runs Shared

/-! ## Pointers without their versions -/

/-- The reports and renders that the pointers name. -/
@[ext] structure Pointers where
  current : Target → Option Uuid
  channels : Target → Channel → Option (Uuid × Uuid)

namespace Pointers

/-- No pointer at all. -/
def empty : Pointers where
  current _ := none
  channels _ _ := none

def setCurrent (pointers : Pointers) (target : Target) (reportId : Option Uuid) : Pointers :=
  { pointers with
    current := Function.update pointers.current target reportId }

def setChannel (pointers : Pointers) (target : Target) (channel : Channel)
    (delivered : Option (Uuid × Uuid)) : Pointers :=
  { pointers with
    channels := Function.update pointers.channels target
      (Function.update (pointers.channels target) channel delivered) }

/-- A report is no longer current for a target. -/
def retract (pointers : Pointers) (target : Target) (reportId : Uuid) : Pointers :=
  if pointers.current target = some reportId then
    pointers.setCurrent target none
  else pointers

/-- What one row of the history says about the pointers. -/
def replayRecord (pointers : Pointers) (record : HistoryRecord) : Pointers :=
  match record.action, record.channel, record.renderId with
  | .published, some channel, some renderId
  | .rolledBack, some channel, some renderId =>
      (pointers.setCurrent record.target (some record.reportId)).setChannel
        record.target channel (some (record.reportId, renderId))
  | .renderPromoted, some channel, some renderId
  | .republished, some channel, some renderId =>
      pointers.setChannel record.target channel (some (record.reportId, renderId))
  | .unpublished, some channel, _
  | .withdrawn, some channel, _ =>
      pointers.setChannel record.target channel none
  | .invalidated, some channel, _ =>
      (pointers.retract record.target record.reportId).setChannel record.target channel none
  | .semanticWithdrawn, _, _ => pointers.setCurrent record.target none
  | _, _, _ => pointers

/-- The pointers that a history leads to. -/
def replay (history : List HistoryRecord) : Pointers :=
  history.foldl replayRecord empty

theorem channels_setChannel (pointers : Pointers) (target : Target) (channel : Channel)
    (delivered : Option (Uuid × Uuid)) (otherTarget : Target) (otherChannel : Channel) :
    (pointers.setChannel target channel delivered).channels otherTarget
        otherChannel =
      if otherTarget = target ∧ otherChannel = channel then delivered
      else pointers.channels otherTarget otherChannel := by
  unfold setChannel
  by_cases sameTarget : otherTarget = target
  · subst sameTarget
    simp [Function.update_apply]
  · simp [sameTarget]

@[simp] theorem channels_setChannel_same
    (pointers : Pointers) (target : Target) (channel : Channel)
    (delivered : Option (Uuid × Uuid)) :
    (pointers.setChannel target channel delivered).channels target channel = delivered := by
  rw [channels_setChannel, if_pos ⟨rfl, rfl⟩]

theorem setChannel_setChannel (pointers : Pointers) (target : Target) (channel : Channel)
    (first second : Option (Uuid × Uuid)) :
    (pointers.setChannel target channel first).setChannel target channel
        second = pointers.setChannel target channel second := by
  simp [setChannel]

theorem retract_setChannel (pointers : Pointers) (target : Target) (reportId : Uuid)
    (channel : Channel) (delivered : Option (Uuid × Uuid)) :
    (pointers.setChannel target channel delivered).retract target reportId =
      (pointers.retract target reportId).setChannel target channel delivered := by
  by_cases isCurrent : pointers.current target = some reportId
  · simp [retract, setChannel, setCurrent, isCurrent]
  · simp [retract, setChannel, isCurrent]

theorem retract_retract (pointers : Pointers) (target : Target) (reportId : Uuid) :
    (pointers.retract target reportId).retract target reportId =
      pointers.retract target reportId := by
  unfold retract
  split_ifs with isCurrent still
  · simp [setCurrent] at still
  · rfl
  · rfl

/-- Retracting changes the pointers exactly when the report was current. -/
theorem retract_eq_self {pointers : Pointers} {target : Target} {reportId : Uuid} :
    pointers.retract target reportId = pointers ↔ pointers.current target ≠ some reportId := by
  unfold retract
  split_ifs with isCurrent
  · refine iff_of_false (fun same => ?_) (not_not.mpr isCurrent)
    have cleared := congrArg (fun found => found.current target) same
    simp [setCurrent, isCurrent] at cleared
  · exact iff_of_true rfl isCurrent

end Pointers

/-- The reports and renders that the pointer tables name. -/
def PublicationState.pointers (state : PublicationState) : Pointers where
  current target := (state.reportCurrent target).map CurrentReport.reportId
  channels target channel :=
    (state.channelPointers target channel).map fun row =>
      (row.reportId, row.renderId)

namespace PublicationState

variable (state : PublicationState) (target : Target) (channel : Channel)

@[simp] theorem pointers_appendHistory (record : HistoryRecord) :
    (state.appendHistory record).pointers = state.pointers := rfl

@[simp] theorem pointers_setCurrentReport (reportId : Uuid) (actor : String) :
    (state.setCurrentReport target reportId actor).pointers =
      state.pointers.setCurrent target (some reportId) := by
  ext1
  · funext other
    by_cases same : other = target
    · subst same
      simp [pointers, setCurrentReport, Pointers.setCurrent, upsertCurrent]
    · simp [pointers, setCurrentReport, Pointers.setCurrent, same]
  · rfl

@[simp] theorem pointers_clearCurrentReport :
    (state.clearCurrentReport target).pointers = state.pointers.setCurrent target none := by
  ext1
  · funext other
    by_cases same : other = target
    · subst same
      simp [pointers, clearCurrentReport, Pointers.setCurrent]
    · simp [pointers, clearCurrentReport, Pointers.setCurrent, same]
  · rfl

theorem pointers_writeChannel (row : Option ChannelPointer) :
    (state.writeChannel target channel row).pointers =
      state.pointers.setChannel target channel
        (row.map fun row => (row.reportId, row.renderId)) := by
  ext1
  · rfl
  · funext otherTarget otherChannel
    simp only [pointers, channelPointers_writeChannel, Pointers.setChannel]
    by_cases sameTarget : otherTarget = target
    · subst sameTarget
      by_cases sameChannel : otherChannel = channel
      · subst sameChannel
        simp
      · simp [sameChannel]
    · simp [sameTarget]

@[simp] theorem pointers_setChannelPointer (reportId renderId : Uuid) (actor : String) :
    (state.setChannelPointer target channel reportId renderId actor).pointers =
      state.pointers.setChannel target channel (some (reportId, renderId)) := by
  rw [setChannelPointer, pointers_writeChannel]
  rfl

@[simp] theorem pointers_clearChannelPointer :
    (state.clearChannelPointer target channel).pointers =
      state.pointers.setChannel target channel none := by
  rw [clearChannelPointer, pointers_writeChannel]
  rfl

end PublicationState

/-! ## The history as a log -/

/-- Replaying the history gives the pointers. -/
def PublicationState.Logged (state : PublicationState) : Prop :=
  Pointers.replay state.history = state.pointers

/-- A logged state stays logged under new rows exactly when they account for
the new pointers. -/
theorem logged_iff_of_appended {before after : PublicationState} {rows : List HistoryRecord}
    (logged : before.Logged) (appended : after.history = before.history ++ rows) :
    after.Logged ↔ rows.foldl Pointers.replayRecord before.pointers = after.pointers := by
  have start : before.history.foldl Pointers.replayRecord Pointers.empty = before.pointers := logged
  rw [PublicationState.Logged, Pointers.replay, appended, List.foldl_append, start]

section Writes

open ControlledPublicationLifecycle

/-- Supersession rows say nothing about the pointers. -/
@[simp] theorem foldl_displacedRows (hasHistory : Bool) (call : StageCall)
    (previousReport : ChannelPointer → Uuid) (newReport newRender : Uuid)
    (reasonCode : String) (state : PublicationState) (pointers : Pointers) :
    (displacedRows hasHistory call previousReport newReport newRender
      reasonCode state).foldl Pointers.replayRecord pointers = pointers := by
  unfold displacedRows
  split
  · unfold replacementRows
    split_ifs <;> rfl
  · rfl

theorem pointers_publishWrites (service : AtomicPublicationService) (call : StageCall)
    (state : PublicationState) : (publishWrites service.hasHistory call state).pointers =
      (state.pointers.setCurrent call.stage.target
        (some call.stage.reportId)).setChannel call.stage.target
          call.stage.channel
          (some (call.stage.reportId, call.stage.renderId)) := by
  rw [publishWrites_eq, ← PublicationState.pointers_setCurrentReport,
    ← PublicationState.pointers_setChannelPointer]
  rfl

theorem pointers_promoteWrites (service : ControlledPublicationLifecycle) (call : StageCall)
    (state : PublicationState) : (promoteWrites service.hasHistory call state).pointers =
      state.pointers.setChannel call.stage.target call.stage.channel
        (some (call.report.reportId, call.render.renderId)) := by
  rw [promoteWrites_eq, ← PublicationState.pointers_setChannelPointer]
  rfl

theorem pointers_clearChannels (call : TargetCall) (action : Action) (reportId : Uuid)
    (listed : List (Channel × Uuid)) (state : PublicationState) :
    (clearChannels call action reportId listed state).pointers = listed.foldl
        (fun pointers entry =>
          pointers.setChannel call.target entry.1 none)
        state.pointers := by
  induction listed generalizing state with
  | nil => rfl
  | cons entry listed ih =>
      rw [clearChannels_cons, ih, List.foldl_cons, PublicationState.pointers_appendHistory,
        PublicationState.pointers_clearChannelPointer]

theorem pointers_invalidateWrites
    (call : TargetCall) (reportId : Uuid) (state : PublicationState) :
    (invalidateWrites call reportId state).pointers =
      ((state.listChannelPointersForReport call.target reportId).foldl
        (fun pointers entry => pointers.setChannel call.target entry.1 none)
        state.pointers).retract call.target reportId := by
  rw [← pointers_clearChannels call .invalidated reportId]
  simp only [invalidateWrites, apply_ite PublicationState.pointers,
    PublicationState.pointers_clearCurrentReport]
  rfl

/-- Retracting a report row by row retracts it once. -/
theorem Pointers.foldl_retract
    (target : Target) (reportId : Uuid) (listed : List (Channel × Uuid)) (pointers : Pointers) :
    listed.foldl (fun pointers entry =>
          (pointers.retract target reportId).setChannel target entry.1 none)
        (pointers.retract target reportId) =
      (listed.foldl
        (fun pointers entry => pointers.setChannel target entry.1 none)
        pointers).retract target reportId := by
  induction listed generalizing pointers with
  | nil => rfl
  | cons entry listed ih =>
      rw [List.foldl_cons, List.foldl_cons, retract_retract, ← retract_setChannel, ih]

/-- The rows of an invalidation account for it exactly when there are any, or
the report was not current. -/
theorem Pointers.foldl_retract_iff
    (target : Target) (reportId : Uuid) (listed : List (Channel × Uuid)) (pointers : Pointers) :
    listed.foldl (fun pointers entry =>
          (pointers.retract target reportId).setChannel target entry.1 none)
        pointers =
      (listed.foldl
        (fun pointers entry => pointers.setChannel target entry.1 none)
        pointers).retract target reportId ↔
      (pointers.current target = some reportId → listed ≠ []) := by
  cases listed with
  | nil =>
      rw [List.foldl_nil, List.foldl_nil, eq_comm, retract_eq_self]
      simp
  | cons entry listed =>
      refine iff_of_true ?_ fun _ => List.cons_ne_nil entry listed
      rw [List.foldl_cons, List.foldl_cons, ← retract_setChannel, foldl_retract]

theorem listed_ne_nil_iff {state : PublicationState} {target : Target} {reportId : Uuid} :
    state.listChannelPointersForReport target reportId ≠ [] ↔
      ∃ channel renderId, state.pointers.channels target channel = some (reportId, renderId) := by
  constructor
  · intro nonempty
    obtain ⟨⟨channel, renderId⟩, present⟩ := List.exists_mem_of_ne_nil _ nonempty
    obtain ⟨row, found, rfl, rfl⟩ :=
      PublicationState.mem_listChannelPointersForReport.mp present
    exact ⟨channel, row.renderId, by simp [PublicationState.pointers, found]⟩
  · rintro ⟨channel, renderId, delivered⟩
    obtain ⟨row, found, same⟩ := Option.map_eq_some_iff.mp delivered
    rw [Prod.mk.injEq] at same
    exact List.ne_nil_of_mem
      (PublicationState.mem_listChannelPointersForReport.mpr ⟨row, found, same⟩)

end Writes

/-- Where the history keeps up with an operation: a report that is invalidated
while it is semantic-current is on some channel. -/
def Operation.Evident (operation : Operation) (state : PublicationState) : Prop :=
  match operation with
  | .invalidate call reportId =>
      state.pointers.current call.target = some reportId →
        ∃ channel renderId, state.pointers.channels call.target channel = some (reportId, renderId)
  | _ => True

/-- The writes of an operation keep the history a log exactly when the
operation is evident. -/
theorem Operation.writes_logged_iff {operation : Operation} {state : PublicationState}
    (logged : state.Logged) : (operation.writes state).Logged ↔ operation.Evident state := by
  rw [logged_iff_of_appended logged (operation.writes_history state)]
  cases operation with
  | publish service call =>
      refine iff_of_true ?_ trivial
      rw [evidence, List.foldl_append, foldl_displacedRows]
      exact (pointers_publishWrites ..).symm
  | promoteRender service call =>
      refine iff_of_true ?_ trivial
      rw [evidence, evidence.promotionRows, List.foldl_append, foldl_displacedRows]
      exact (pointers_promoteWrites ..).symm
  | republish service call =>
      refine iff_of_true ?_ trivial
      rw [evidence, evidence.promotionRows, List.foldl_append,
        List.foldl_append, foldl_displacedRows]
      exact (Pointers.setChannel_setChannel ..).trans (pointers_promoteWrites ..).symm
  | rollback service call =>
      refine iff_of_true ?_ trivial
      simp only [writes, ControlledPublicationLifecycle.rollbackWrites,
        PublicationState.pointers_appendHistory, PublicationState.pointers_setChannelPointer,
        PublicationState.pointers_setCurrentReport]
      rfl
  | unpublish service call channel =>
      refine iff_of_true ?_ trivial
      cases found : state.channelPointers call.target channel with
      | none => simp [evidence, writes, found]
      | some prior =>
          simp only [evidence, writes, found, Option.elim_some,
            ControlledPublicationLifecycle.unpublishWrites,
            PublicationState.pointers_appendHistory,
            PublicationState.pointers_clearChannelPointer]
          rfl
  | withdraw call =>
      refine iff_of_true ?_ trivial
      cases found : state.reportCurrent call.target with
      | none => simp [evidence, writes, found]
      | some current =>
          simp only [evidence, writes, found, Option.elim_some,
            ControlledPublicationLifecycle.withdrawWrites,
            PublicationState.pointers_appendHistory,
            PublicationState.pointers_clearCurrentReport,
            pointers_clearChannels, List.foldl_append, List.foldl_map]
          rfl
  | invalidate call reportId =>
      rw [evidence, List.foldl_map, writes, pointers_invalidateWrites]
      refine (Pointers.foldl_retract_iff call.target reportId _ _).trans ?_
      rw [Evident, listed_ne_nil_iff]

/-- A committed operation keeps the history a log exactly when it is
evident. -/
theorem Operation.run_logged_iff
    {operation : Operation} {before after : Database} {answer : Answer}
    (logged : before.Logged) (ran : operation.run before = .ok (answer, after)) :
    after.Logged ↔ operation.Evident before.toPublicationState := by
  rw [← Operation.writes_logged_iff logged]
  cases operation with
  | invalidate call reportId =>
      rw [Operation.run_invalidate ran]
      rfl
  | _ =>
      refine iff_of_true ?_ ((writes_logged_iff logged).mpr trivial)
      rcases run_cases ran with kept | ⟨-, written⟩
      · rw [kept]
        exact logged
      · rw [written]
        exact (writes_logged_iff logged).mpr trivial

/-- Where the history keeps up with a transaction. -/
def Event.Evident (event : Event) (database : Database) : Prop :=
  match event with
  | .committed operation _ => operation.Evident database.toPublicationState
  | _ => True

/-- A transaction keeps the history a log exactly when it is evident. -/
theorem Step.logged_iff {before after : Database} {event : Event}
    (logged : before.Logged) (taken : Step before event after) :
    after.Logged ↔ event.Evident before := by
  cases taken with
  | committed ran => exact Operation.run_logged_iff logged ran
  | rolledBack operation => exact iff_of_true logged trivial
  | staged absent distinct => exact iff_of_true logged trivial
  | frozen active absent distinct => exact iff_of_true logged trivial
  | released isGlobal freezeId => exact iff_of_true logged trivial

theorem Unpublished.logged {database : Database} (unpublished : Unpublished database) :
    database.Logged := by
  rw [PublicationState.Logged, unpublished.history]
  ext1
  · funext target
    simp [Pointers.replay, Pointers.empty, PublicationState.pointers, unpublished.reportCurrent]
  · funext target channel
    simp [Pointers.replay, Pointers.empty, PublicationState.pointers, unpublished.channelPointers]

/-- After every run of evident transactions the history is the log of the
pointers.  The next transaction keeps it so exactly when it is evident too,
and then it only changes a pointer with a new row. -/
theorem history_logs_pointers {start database : Database} {events : List Event}
    (unpublished : Unpublished start)
    (run : Exec (Guarded Step Event.Evident) start events database) :
    database.Logged ∧ ∀ event next, Step database event next →
        (next.Logged ↔ event.Evident database) ∧
          (event.Evident database → next.pointers ≠ database.pointers →
            database.history.length < next.history.length) := by
  obtain ⟨logged, decides⟩ :=
    run.guarded_invariant (fun database => database.Logged)
      unpublished.logged fun _ _ _ => Step.logged_iff
  refine ⟨logged, fun event next taken =>
    ⟨decides event next taken, fun evident changed => ?_⟩⟩
  have extended := taken.history_prefix
  apply lt_of_le_of_ne extended.length_le
  intro sameLength
  apply changed
  have still : Pointers.replay next.history = next.pointers :=
    (decides event next taken).mpr evident
  rw [← still, ← extended.eq_of_length sameLength]
  exact logged

theorem history_logs_pointers_sampleLive :
    sampleLive.Logged ∧ ∀ event next, Step sampleLive event next →
        (next.Logged ↔ event.Evident sampleLive) ∧ (event.Evident sampleLive →
            next.pointers ≠ sampleLive.pointers →
              sampleLive.history.length < next.history.length) :=
  history_logs_pointers (sampleDatabase_unpublished _ _)
    (.single ⟨.committed sampleLive_published, trivial⟩)

/-- Invalidating a report that is current but on no channel leaves no row: the
history still says that it is current. -/
theorem history_misses_invalidation :
    ∃ start events final, Unpublished start ∧ Exec Step start events final ∧
      ¬final.Logged := by
  have missed : commitsTo [samplePublish (sampleCall 10 11 12 .web),
        .unpublish sampleLifecycle sampleTargetCall .web,
        .invalidate sampleTargetCall (sampleUuid 11)]
      (sampleDatabase [sampleCall 10 11 12 .web] [])
      (fun next => (Pointers.replay next.history).current sampleTarget ≠
        next.pointers.current sampleTarget) = true := by
    decide +kernel
  obtain ⟨events, final, run, differs⟩ := exists_exec_of_commitsTo missed
  refine ⟨_, events, final, sampleDatabase_unpublished _ _, run,
    fun logged => ?_⟩
  have same : Pointers.replay final.history = final.pointers := logged
  rw [same] at differs
  simp at differs

end SanTanHeights.Publication
