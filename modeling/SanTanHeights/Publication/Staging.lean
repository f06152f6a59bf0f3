import SanTanHeights.Publication.Replay

/-!
# Staging states

The states in which a stage ends, under publications that pass the stage as it
was loaded.  A refused publication moves its stage to `BLOCKED` from whatever
state the stage is in, so a second publication of a published stage blocks it.
-/

namespace SanTanHeights.Publication

open Foundation Foundation.Outcome Foundation.Runs

/-! ## Transitions -/

/-- A transition moves one row, and only from the state it names. -/
theorem transition_staging (database : Database) (stagingId : Uuid)
    (fromState toState : StagingState) (reasonCode : Option String) (other : Uuid) :
    (database.transition stagingId fromState toState reasonCode).2.staging
        other =
      (database.staging other).map fun row =>
        if other = stagingId ∧ row.stagingState = fromState then
          { row with stagingState := toState, reasonCode := reasonCode }
        else row := by
  unfold Database.transition
  cases found : database.staging stagingId with
  | none =>
      by_cases same : other = stagingId
      · rw [same, found]
        rfl
      · simp [same]
  | some row =>
      by_cases same : other = stagingId
      · subst same
        by_cases inState : row.stagingState = fromState
        · simp [found, inState]
        · simp [found, inState]
      · by_cases inState : row.stagingState = fromState
        · simp [inState, same]
        · simp [inState, same]

variable {database before after : Database} {stagingId : Uuid}
  {toState : StagingState} {reasonCode : Option String}
  {row : PublicationStage} {service : AtomicPublicationService}
  {call : StageCall} {answer : Answer}

/-- A transition that succeeds found its row in the state it names. -/
theorem transition_succeeds {next : Database} {fromState : StagingState}
    (moved : database.transition stagingId fromState toState reasonCode = (true, next)) :
    ∃ row, database.staging stagingId = some row ∧ row.stagingState = fromState := by
  unfold Database.transition at moved
  cases found : database.staging stagingId with
  | none => simp [found] at moved
  | some row =>
      simp only [found] at moved
      split_ifs at moved with inState
      · exact ⟨row, rfl, inState⟩
      · simp at moved

/-! ## Runs of publications -/

/-- A stage as it was loaded, perhaps some time ago. -/
def AsLoaded (database : Database) (stage : PublicationStage) : Prop :=
  ∃ row, database.staging stage.stagingId = some row ∧ row.key = stage.key

/-- The transactions of a run of publications with the publication guard. -/
def Event.Publishes (event : Event) (database : Database) : Prop :=
  match event with
  | .committed (.publish service call) _ =>
      service.guard = publicationGuard ∧ AsLoaded database call.stage
  | .committed _ _ => False
  | _ => True

/-- No publication passes a stage that ended otherwise than `BLOCKED` in the
state it ended in. -/
def Event.Spares (event : Event) (database : Database) : Prop :=
  match event with
  | .committed (.publish _ call) _ =>
      ∀ row, database.staging call.stage.stagingId = some row →
        row.stagingState = call.stage.stagingState →
          row.stagingState.active = true ∨ row.stagingState = .blocked
  | _ => True

/-- The stages that ended stay in the state they ended in. -/
def EndedKept (before after : Database) : Prop :=
  ∀ stagingId row, before.staging stagingId = some row →
    row.stagingState.active = false →
      (after.staging stagingId).map PublicationStage.stagingState = some row.stagingState

/-- No stage becomes `BLOCKED` whose render its channel delivers. -/
def LiveNotBlocked (before after : Database) : Prop :=
  ∀ stagingId row next, before.staging stagingId = some row →
    before.pointers.channels row.target row.channel = some (row.reportId, row.renderId) →
    after.staging stagingId = some next → next.stagingState ≠ .blocked

/-- Stages have distinct keys, and what a channel delivers was published from
a stage. -/
structure StagingInvariant (database : Database) : Prop where
  distinct : ∀ left right leftRow rightRow,
    database.staging left = some leftRow →
    database.staging right = some rightRow →
    leftRow.key = rightRow.key → left = right
  published : ∀ target channel reportId renderId,
    database.pointers.channels target channel = some (reportId, renderId) →
      ∃ stagingId row, database.staging stagingId = some row ∧
        row.key = (target, channel, reportId, renderId) ∧
        row.stagingState = .published

/-- A stage whose render is live has ended as published. -/
theorem StagingInvariant.published_of_live (invariant : StagingInvariant database)
    (found : database.staging stagingId = some row)
    (live : database.pointers.channels row.target row.channel = some (row.reportId, row.renderId)) :
    row.stagingState = .published := by
  obtain ⟨other, published, otherFound, sameKey, isPublished⟩ :=
    invariant.published _ _ _ _ live
  obtain rfl := invariant.distinct _ _ _ _ otherFound found sameKey
  rw [otherFound, Option.some.injEq] at found
  rw [← found]
  exact isPublished

/-! ## What a publication moves -/

/-- The staging rows after a transition. -/
def Moved (stage : PublicationStage) (toState : StagingState)
    (reasonCode : Option String) (before after : Database) : Prop :=
  ∀ other, after.staging other = (before.staging other).map fun row =>
      if other = stage.stagingId ∧ row.stagingState = stage.stagingState then
        { row with stagingState := toState, reasonCode := reasonCode }
      else row

/-- The pointers move to a stage only along with its row. -/
def Pointed (stage : PublicationStage) (toState : StagingState)
    (before after : Database) : Prop :=
  after.pointers = before.pointers ∨ (toState = .published ∧ after.pointers =
        (before.pointers.setCurrent stage.target
          (some stage.reportId)).setChannel stage.target stage.channel
            (some (stage.reportId, stage.renderId)) ∧
      ∃ row, before.staging stage.stagingId = some row ∧ row.stagingState = stage.stagingState)

/-- A publication with the publication guard moves its stage to `BLOCKED`
unless the stage was passed as active, and moves the pointers only along with
the stage. -/
theorem publish_moves {result : PublicationResult} (guarded : service.guard = publicationGuard)
    (published : service.publish call before = .ok (result, after)) :
    ∃ toState reasonCode, Moved call.stage toState reasonCode before after ∧
      (toState = .blocked ∨ call.stage.stagingState.active = true) ∧
      Pointed call.stage toState before after := by
  have active : (service.guard call.stage call.report
      call.render).allowed = true → call.stage.stagingState.active = true := by
    intro allowed
    by_contra inactive
    rw [guarded, (publicationGuard_of_not_active
      (Bool.eq_false_iff.mpr inactive) call.report call.render).1] at allowed
    cases allowed
  rcases publish_cases published with
    ⟨-, toState, reasonCode, moved, rfl⟩ | ⟨-, -, allowed, moved⟩
  · refine ⟨toState, reasonCode, fun _ => transition_staging .., ?_,
      .inl ?_⟩
    · rcases moved with blocked | ⟨-, allowed⟩
      · exact .inl blocked
      · exact .inr (active allowed)
    · rw [transition_publicationState]
  · have ended := congrArg Prod.snd moved
    simp only at ended
    subst ended
    refine ⟨.published, none, fun _ => transition_staging ..,
      .inr (active allowed), .inr ⟨rfl, ?_, ?found⟩⟩
    case found =>
      obtain ⟨row, found, inState⟩ := transition_succeeds moved
      exact ⟨row, found, inState⟩
    rw [transition_publicationState, withState_publicationState, pointers_publishWrites]

/-- The stages that ended are kept exactly when the publication spares
them. -/
theorem endedKept_iff_of_moved (moved : Moved call.stage toState reasonCode before after)
    (blocked : toState = .blocked ∨ call.stage.stagingState.active = true) :
    EndedKept before after ↔ (Event.committed (.publish service call) answer).Spares before := by
  constructor
  · intro kept row found passed
    by_contra unspared
    rw [not_or, Bool.not_eq_true] at unspared
    obtain ⟨inactive, notBlocked⟩ := unspared
    have same := kept _ row found inactive
    rw [moved, found] at same
    simp only [passed, and_self, if_true, Option.map_some, Option.some.injEq] at same
    rcases blocked with blocked | active
    · rw [passed, ← same, blocked] at notBlocked
      exact notBlocked rfl
    · rw [passed, active] at inactive
      cases inactive
  · intro spares stagingId row found inactive
    rw [moved, found, Option.map_some, Option.map_some, Option.some.injEq]
    split_ifs with passed
    · obtain ⟨rfl, passed⟩ := passed
      rcases spares row found passed with active | isBlocked
      · rw [active] at inactive
        cases inactive
      · rcases blocked with blocked | active
        · rw [blocked, isBlocked]
        · rw [passed, active] at inactive
          cases inactive
    · rfl

/-- A publication that spares the ended stages keeps the invariant. -/
theorem stagingInvariant_of_moved (invariant : StagingInvariant before)
    (loaded : AsLoaded before call.stage)
    (spares : (Event.committed (.publish service call) answer).Spares before)
    (moved : Moved call.stage toState reasonCode before after)
    (pointed : Pointed call.stage toState before after) :
    StagingInvariant after := by
  have origin : ∀ stagingId next, after.staging stagingId = some next →
      ∃ row, before.staging stagingId = some row ∧ next.key = row.key := by
    intro stagingId next found
    rw [moved] at found
    obtain ⟨row, existed, rfl⟩ := Option.map_eq_some_iff.mp found
    refine ⟨row, existed, ?_⟩
    split_ifs <;> rfl
  refine ⟨?_, ?_⟩
  · intro left right leftRow rightRow leftFound rightFound sameKey
    obtain ⟨leftOld, leftExisted, leftKey⟩ := origin _ _ leftFound
    obtain ⟨rightOld, rightExisted, rightKey⟩ := origin _ _ rightFound
    exact invariant.distinct _ _ _ _ leftExisted rightExisted
      (leftKey.symm.trans (sameKey.trans rightKey))
  · intro target channel reportId renderId delivered
    rcases pointed with same | ⟨rfl, set, stored⟩
    · rw [same] at delivered
      obtain ⟨stagingId, row, found, sameKey, isPublished⟩ :=
        invariant.published _ _ _ _ delivered
      refine ⟨stagingId, row, ?_, sameKey, isPublished⟩
      rw [moved, found, Option.map_some, if_neg]
      rintro ⟨rfl, passed⟩
      rcases spares row found passed with active | isBlocked
      · rw [isPublished] at active
        cases active
      · rw [isPublished] at isBlocked
        cases isBlocked
    · rw [set, Pointers.channels_setChannel] at delivered
      split_ifs at delivered with here
      · obtain ⟨rfl, rfl⟩ := here
        cases delivered
        obtain ⟨row, found, sameKey⟩ := loaded
        obtain ⟨_, again, passed⟩ := stored
        rw [found, Option.some.injEq] at again
        subst again
        refine ⟨call.stage.stagingId,
          { row with stagingState := .published, reasonCode := reasonCode },
          ?_, sameKey, rfl⟩
        rw [moved, found, Option.map_some, if_pos ⟨rfl, passed⟩]
      · obtain ⟨stagingId, row, found, sameKey, isPublished⟩ :=
          invariant.published _ _ _ _ delivered
        refine ⟨stagingId, _, by rw [moved, found, Option.map_some], ?_, ?_⟩
        · split_ifs
          · exact sameKey
          · exact sameKey
        · split_ifs
          · rfl
          · exact isPublished

/-- A publication of a loaded stage that spares the ended stages keeps the
invariant. -/
theorem publish_stagingInvariant (invariant : StagingInvariant before)
    (publishes : (Event.committed (.publish service call) answer).Publishes before)
    (spares : (Event.committed (.publish service call) answer).Spares before)
    (ran : (Operation.publish service call).run before = .ok (answer, after)) :
    StagingInvariant after := by
  obtain ⟨⟨result, _⟩, published, ended⟩ := map_eq_ok.mp ran
  cases ended
  obtain ⟨toState, reasonCode, moved, -, pointed⟩ := publish_moves publishes.1 published
  exact stagingInvariant_of_moved invariant publishes.2 spares moved pointed

/-- A new row leaves the rows that exist. -/
theorem update_of_found {staging : Uuid → Option PublicationStage} {newId : Uuid}
    {stage : PublicationStage} (absent : staging newId = none)
    (found : staging stagingId = some row) :
    Function.update staging newId (some stage) stagingId = some row := by
  rw [Function.update_of_ne, found]
  rintro rfl
  rw [absent] at found
  cases found

/-- A new stage has a key of its own, so no channel delivers its render. -/
theorem staged_stagingInvariant {stage : PublicationStage}
    (invariant : StagingInvariant database) (absent : database.staging stage.stagingId = none)
    (distinct : ∀ stagingId row, database.staging stagingId = some row → row.key ≠ stage.key) :
    StagingInvariant
      { database with
        staging := Function.update database.staging stage.stagingId (some stage) } := by
  refine ⟨?_, ?_⟩
  · intro left right leftRow rightRow leftFound rightFound sameKey
    simp only [Function.update_apply] at leftFound rightFound
    split_ifs at leftFound rightFound with isLeft isRight isRight
    · rw [isLeft, isRight]
    · cases leftFound
      exact absurd sameKey.symm (distinct _ _ rightFound)
    · cases rightFound
      exact absurd sameKey (distinct _ _ leftFound)
    · exact invariant.distinct _ _ _ _ leftFound rightFound sameKey
  · intro target channel reportId renderId delivered
    obtain ⟨stagingId, row, found, sameKey, isPublished⟩ :=
      invariant.published _ _ _ _ delivered
    exact ⟨stagingId, row, update_of_found absent found, sameKey, isPublished⟩

/-- Every transaction of a run of publications that spares the ended stages
keeps the invariant. -/
theorem Step.stagingInvariant {event : Event} (invariant : StagingInvariant before)
    (publishes : event.Publishes before) (spares : event.Spares before)
    (taken : Step before event after) :
    StagingInvariant after := by
  cases taken with
  | committed ran =>
      rename_i operation answer
      cases operation with
      | publish service call =>
          exact publish_stagingInvariant invariant publishes spares ran
      | _ => exact publishes.elim
  | rolledBack operation => exact invariant
  | staged absent distinct =>
      exact staged_stagingInvariant invariant absent distinct
  | frozen active absent distinct => exact ⟨invariant.1, invariant.2⟩
  | released isGlobal freezeId => exact ⟨invariant.1, invariant.2⟩

/-- A transaction of a run of publications keeps the stages that ended exactly
when it spares them. -/
theorem Step.endedKept_iff {event : Event} (publishes : event.Publishes before)
    (taken : Step before event after) :
    EndedKept before after ↔ event.Spares before := by
  cases taken with
  | committed ran =>
      rename_i operation answer
      cases operation with
      | publish service call =>
          obtain ⟨⟨result, _⟩, published, ended⟩ := map_eq_ok.mp ran
          cases ended
          obtain ⟨toState, reasonCode, moved, blocked, -⟩ := publish_moves publishes.1 published
          exact endedKept_iff_of_moved moved blocked
      | _ => exact publishes.elim
  | staged absent distinct =>
      refine iff_of_true ?_ trivial
      intro stagingId row found _
      exact congrArg _ (update_of_found absent found)
  | rolledBack operation =>
      exact iff_of_true (fun stagingId row found _ => by rw [found]; rfl) trivial
  | frozen active absent distinct =>
      exact iff_of_true (fun stagingId row found _ => by
          rw [Database.createFreeze, found]; rfl) trivial
  | released isGlobal freezeId =>
      exact iff_of_true (fun stagingId row found _ => by
          rw [Database.releaseFreeze, found]; rfl) trivial

/-- In runs of publications that spared the stages that ended, the next
transaction keeps every ended stage in its state, and no stage becomes
`BLOCKED` whose render is live, exactly when it spares them too. -/
theorem ended_stages_final_iff {start database : Database} {events : List Event}
    (unpublished : Unpublished start)
    (distinct : ∀ left right leftRow rightRow,
      start.staging left = some leftRow →
      start.staging right = some rightRow →
      leftRow.key = rightRow.key → left = right)
    (run : Exec (Guarded Step fun event database =>
        event.Publishes database ∧ event.Spares database)
      start events database) :
    ∀ event next, Step database event next → event.Publishes database →
      ((EndedKept database next ∧ LiveNotBlocked database next) ↔
        event.Spares database) := by
  have invariant : StagingInvariant database := by
    apply run.invariant
    · refine ⟨distinct, fun target channel reportId renderId delivered => ?_⟩
      simp [PublicationState.pointers, unpublished.channelPointers] at delivered
    · rintro before event after held ⟨taken, publishes, spares⟩
      exact taken.stagingInvariant held publishes spares
  intro event next taken publishes
  have decides := taken.endedKept_iff publishes
  refine ⟨fun kept => decides.mp kept.1, fun spares => ?_⟩
  refine ⟨decides.mpr spares, ?_⟩
  intro stagingId row moved found live movedFound isBlocked
  have isPublished := invariant.published_of_live found live
  have same := decides.mpr spares stagingId row found (by rw [isPublished]; rfl)
  rw [movedFound, Option.map_some, Option.some.injEq, isBlocked,
    isPublished] at same
  cases same

theorem sampleDatabase_singleton
    (found : (sampleDatabase [call] []).staging stagingId = some row) :
    stagingId = call.stage.stagingId := by
  have same := List.find?_some found
  have present := List.mem_of_find?_eq_some found
  rw [List.map_singleton, List.mem_singleton] at present
  rw [← present]
  exact (of_decide_eq_true same).symm

/-- The sample stage as it is loaded after its publication. -/
def sampleRepeated : StageCall :=
  let call := sampleCall 10 11 12 .web
  { call with stage := { call.stage with stagingState := .published } }

theorem ended_stages_final_iff_sampleLive :
    (EndedKept sampleLive
        (sampleLive.transition (sampleUuid 10) .published .blocked
          (some "PUBLICATION_STAGE_NOT_ACTIVE")).2 ∧
      LiveNotBlocked sampleLive
        (sampleLive.transition (sampleUuid 10) .published .blocked
          (some "PUBLICATION_STAGE_NOT_ACTIVE")).2) ↔
      (Event.committed (samplePublish sampleRepeated) (.publication
          ⟨.blocked, ["PUBLICATION_STAGE_NOT_ACTIVE"]⟩)).Spares
            sampleLive := by
  have repeated : Step sampleLive (.committed (samplePublish sampleRepeated)
        (.publication ⟨.blocked, ["PUBLICATION_STAGE_NOT_ACTIVE"]⟩))
      (sampleLive.transition (sampleUuid 10) .published .blocked
        (some "PUBLICATION_STAGE_NOT_ACTIVE")).2 :=
    .committed rfl
  exact ended_stages_final_iff (sampleDatabase_unpublished _ _)
    (fun _ _ _ _ leftFound rightFound _ =>
      (sampleDatabase_singleton leftFound).trans
        (sampleDatabase_singleton rightFound).symm)
    (.single ⟨.committed sampleLive_published,
      ⟨rfl, (sampleCall 10 11 12 .web).stage, rfl, rfl⟩,
      fun _ found _ => by cases found; exact .inl rfl⟩)
    _ _ repeated ⟨rfl, sampleRepeated.stage, rfl, rfl⟩

/-- Publishing a published stage once more blocks it, with its render live. -/
theorem repeated_publication_blocks :
    ∃ (start before after : Database) (events : List Event)
      (service : AtomicPublicationService) (call : StageCall)
      (answer : Answer),
      Unpublished start ∧ Exec Step start events before ∧
      service.guard = publicationGuard ∧
      before.staging call.stage.stagingId = some call.stage ∧
      call.stage.stagingState = .published ∧
      before.pointers.channels call.stage.target call.stage.channel =
        some (call.stage.reportId, call.stage.renderId) ∧
      (Operation.publish service call).run before = .ok (answer, after) ∧
      (after.staging call.stage.stagingId).map
        PublicationStage.stagingState = some .blocked := by
  have blocked : commitsThen [samplePublish (sampleCall 10 11 12 .web)]
      (sampleDatabase [sampleCall 10 11 12 .web] [])
      (samplePublish sampleRepeated)
      (fun before _ after =>
        before.staging (sampleUuid 10) = some sampleRepeated.stage ∧
          before.pointers.channels sampleTarget .web =
            some (sampleUuid 11, sampleUuid 12) ∧
          (after.staging (sampleUuid 10)).map
            PublicationStage.stagingState = some .blocked) = true := by
    decide +kernel
  obtain ⟨events, before, answer, after, run, published, ended⟩ :=
    exists_run_of_commitsThen blocked
  obtain ⟨loaded, live, isBlocked⟩ := of_decide_eq_true ended
  exact ⟨_, before, after, events, samplePublisher, sampleRepeated, answer,
    sampleDatabase_unpublished _ _, run, rfl, loaded, rfl, live, published,
    isBlocked⟩

end SanTanHeights.Publication
