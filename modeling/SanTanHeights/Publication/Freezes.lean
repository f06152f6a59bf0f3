import SanTanHeights.Publication.Evidence

/-!
# Freezes

A freeze in force on a channel refuses every operation that asks about it, and
the pointer of the channel then stays as it is until the freeze is released,
unless an invalidation or a withdrawal removes it.
-/

namespace SanTanHeights.Publication

open Foundation Foundation.Runs

/-- The channel that an operation with freezes configured asks about. -/
def Operation.asksAbout : Operation → Option (Target × Channel)
  | .publish service call =>
      if service.hasFreezes then some (call.stage.target, call.stage.channel)
      else none
  | .promoteRender service call
  | .republish service call
  | .rollback service call =>
      if service.hasFreezes then some (call.stage.target, call.stage.channel)
      else none
  | .unpublish service call channel =>
      if service.hasFreezes then some (call.target, channel) else none
  | .invalidate _ _ => none
  | .withdraw _ => none

/-- The answer to an operation that a freeze holds up. -/
def Answer.IsFrozenFor (reasonCode : String) : Answer → Prop
  | .publication result => result = ⟨.blocked, [reasonCode]⟩
  | .lifecycle result => result = ⟨.frozen, some reasonCode⟩

/-- The reported freeze covers the channel, and none that does is more
recent. -/
structure IsLatest (database : Database) (target : Target) (channel : Channel)
    (latest : PublicationFreeze) : Prop where
  active : latest ∈ database.freezes
  covers : latest.Covers target channel
  last : ∀ other ∈ database.freezes, other.Covers target channel →
    other.createdAt ≤ latest.createdAt

variable {database before after : Database} {target : Target}
  {channel : Channel} {freeze : PublicationFreeze} {operation : Operation}
  {event : Event}

/-- Some freeze is reported whenever one is in force. -/
theorem exists_activeFreeze (active : freeze ∈ database.freezes)
    (covers : freeze.Covers target channel) :
    ∃ latest, IsLatest database target channel latest ∧
      database.activeFreeze target channel = some (latest.freezeId, latest.reasonCode) := by
  have inForce : freeze ∈ database.freezes.filter fun freeze =>
      freeze.Covers target channel :=
    List.mem_filter.mpr ⟨active, decide_eq_true covers⟩
  cases found : (database.freezes.filter fun freeze =>
      freeze.Covers target channel).argmax PublicationFreeze.createdAt with
  | none =>
      rw [List.argmax_eq_none.mp found] at inForce
      cases inForce
  | some latest =>
      obtain ⟨present, covered⟩ := List.mem_filter.mp (List.argmax_mem found)
      refine ⟨latest, ⟨present, of_decide_eq_true covered, ?_⟩, ?_⟩
      · intro other otherActive otherCovers
        exact List.le_of_mem_argmax
          (List.mem_filter.mpr ⟨otherActive, decide_eq_true otherCovers⟩)
          found
      · rw [Database.activeFreeze, found, Option.map_some]

/-- An operation that asks about a frozen channel is refused. -/
theorem Operation.run_of_frozen {freezeId : Uuid} {reasonCode : String}
    (asks : operation.asksAbout = some (target, channel))
    (frozen : database.activeFreeze target channel = some (freezeId, reasonCode)) :
    ∃ answer next, operation.run database = .ok (answer, next) ∧
      next.toPublicationState = database.toPublicationState ∧
      answer.IsFrozenFor reasonCode := by
  cases operation with
  | publish service call =>
      rw [asksAbout] at asks
      split_ifs at asks with configured
      cases asks
      refine ⟨.publication ⟨.blocked, [reasonCode]⟩,
        (database.transition call.stage.stagingId call.stage.stagingState
          .blocked (some reasonCode)).2,
        ?_, transition_publicationState .., rfl⟩
      simp only [run, AtomicPublicationService.publish, frozenBy, configured, if_true, frozen]
      rfl
  | promoteRender service call =>
      rw [asksAbout] at asks
      split_ifs at asks with configured
      cases asks
      refine ⟨.lifecycle ⟨.frozen, some reasonCode⟩, database, ?_, rfl, rfl⟩
      simp only [run, ControlledPublicationLifecycle.promoteRender, frozenBy,
        configured, if_true, frozen]
      rfl
  | republish service call =>
      rw [asksAbout] at asks
      split_ifs at asks with configured
      cases asks
      refine ⟨.lifecycle ⟨.frozen, some reasonCode⟩, database, ?_, rfl, rfl⟩
      simp only [run, ControlledPublicationLifecycle.republish,
        ControlledPublicationLifecycle.promoteRender, frozenBy, configured, if_true, frozen]
      rfl
  | rollback service call =>
      rw [asksAbout] at asks
      split_ifs at asks with configured
      cases asks
      refine ⟨.lifecycle ⟨.frozen, some reasonCode⟩, database, ?_, rfl, rfl⟩
      simp only [run, ControlledPublicationLifecycle.rollback, frozenBy,
        configured, if_true, frozen]
      rfl
  | unpublish service call removed =>
      rw [asksAbout] at asks
      split_ifs at asks with configured
      cases asks
      refine ⟨.lifecycle ⟨.frozen, some reasonCode⟩, database, ?_, rfl, rfl⟩
      simp only [run, ControlledPublicationLifecycle.unpublish, frozenBy,
        configured, if_true, frozen]
      rfl
  | invalidate call reportId => cases asks
  | withdraw call => cases asks

/-! ## While a freeze is in force -/

/-- The operation removes pointers without asking about freezes. -/
def Operation.IsRemoval : Operation → Prop
  | .invalidate _ _ => True
  | .withdraw _ => True
  | _ => False

/-- A transaction that does not release a freeze, of a service that asks about
freezes. -/
def Event.Respects (freeze : PublicationFreeze) : Event → Prop
  | .committed operation _ =>
      operation.IsRemoval ∨ operation.asksAbout.isSome
  | .released isGlobal freezeId =>
      ¬(freeze.freezeId = freezeId ∧ freeze.scope.isNone = isGlobal)
  | _ => True

/-- The freeze stays in force. -/
theorem Step.keeps_freeze (active : freeze ∈ before.freezes)
    (respects : event.Respects freeze) (taken : Step before event after) :
    freeze ∈ after.freezes := by
  cases taken with
  | committed ran =>
      rw [Operation.run_freezes ran]
      exact active
  | rolledBack operation => exact active
  | staged absent distinct => exact active
  | frozen fresh absent distinct => exact List.mem_append_left _ active
  | released isGlobal freezeId =>
      exact List.mem_map.mpr ⟨freeze, active, if_neg respects⟩

theorem frozenIn_eq_bind (operation : Operation) (database : Database) :
    operation.frozenIn database = operation.asksAbout.bind fun asked =>
        database.activeFreeze asked.1 asked.2 := by
  cases operation <;>
    simp only [Operation.frozenIn, Operation.asksAbout, frozenBy, Option.bind_none] <;>
    split_ifs <;> rfl

/-- An operation that sets a channel asks about that one. -/
theorem Operation.asked_of_delivery
    {asked : Target × Channel} {call : StageCall} {reportId renderId : Uuid}
    (asks : operation.asksAbout = some asked)
    (delivers : operation.delivery = some (call, reportId, renderId)) :
    asked = (call.stage.target, call.stage.channel) := by
  cases operation <;> cases delivers <;>
    exact (Option.some.inj (Option.ite_none_right_eq_some.mp asks).2).symm

/-- An operation leaves the channels alone that it does not ask about. -/
theorem Operation.writes_elsewhere {asked : Target × Channel}
    (asks : operation.asksAbout = some asked) (elsewhere : asked ≠ (target, channel))
    (state : PublicationState) : (operation.writes state).channelPointers target channel =
      state.channelPointers target channel := by
  cases delivers : operation.delivery with
  | some delivery =>
      obtain ⟨call, reportId, renderId⟩ := delivery
      rw [writes_channelPointers delivers, PublicationState.setChannelPointer,
        PublicationState.channelPointers_writeChannel, if_neg]
      rintro ⟨rfl, rfl⟩
      exact elsewhere (asked_of_delivery asks delivers)
  | none =>
      cases operation with
      | publish service call => cases delivers
      | promoteRender service call => cases delivers
      | republish service call => cases delivers
      | rollback service call => cases delivers
      | unpublish service call removed =>
          rw [asksAbout, Option.ite_none_right_eq_some, Option.some.injEq]
            at asks
          rw [unpublish_channelPointers, if_neg]
          rintro ⟨rfl, rfl⟩
          exact elsewhere asks.2.symm
      | invalidate call reportId => cases asks
      | withdraw call => cases asks

/-- An operation that was not held up asked about no frozen channel. -/
theorem Operation.not_asked_of_unfrozen (active : freeze ∈ database.freezes)
    (covers : freeze.Covers target channel) (unfrozen : operation.frozenIn database = none) :
    operation.asksAbout ≠ some (target, channel) := by
  intro asks
  obtain ⟨latest, -, found⟩ := exists_activeFreeze active covers
  rw [frozenIn_eq_bind, asks, Option.bind_some, found] at unfrozen
  cases unfrozen

theorem Operation.delivery_of_removal (removal : operation.IsRemoval) :
    operation.delivery = none := by
  cases operation <;> first | rfl | cases removal

/-- The writes of an operation that no freeze held up spare every channel that
is frozen, or remove its pointer without asking. -/
theorem Operation.writes_frozen_channel (active : freeze ∈ database.freezes)
    (covers : freeze.Covers target channel)
    (asks : operation.IsRemoval ∨ operation.asksAbout.isSome)
    (unfrozen : operation.frozenIn database = none) (state : PublicationState) :
    (operation.writes state).channelPointers target channel =
        state.channelPointers target channel ∨
      ((operation.writes state).channelPointers target channel = none ∧ operation.IsRemoval) := by
  rcases asks with removal | asks
  · rcases writes_keeps_or_clears (delivery_of_removal removal) state target
      channel with kept | cleared
    · exact .inl kept
    · exact .inr ⟨cleared, removal⟩
  · obtain ⟨asked, asks⟩ := Option.isSome_iff_exists.mp asks
    left
    apply writes_elsewhere asks
    rintro rfl
    exact not_asked_of_unfrozen active covers unfrozen asks

/-- A transaction that changes the pointer of a frozen channel is an
invalidation or a withdrawal that removes it. -/
theorem Step.frozen_channel (active : freeze ∈ before.freezes)
    (covers : freeze.Covers target channel) (respects : event.Respects freeze)
    (taken : Step before event after) :
    after.channelPointers target channel =
        before.channelPointers target channel ∨
      (after.channelPointers target channel = none ∧
        ∃ operation answer, event = .committed operation answer ∧ operation.IsRemoval) := by
  rcases taken.cases with kept | ⟨operation, answer, rfl, unfrozen, written⟩
  · exact .inl (by rw [kept])
  · rw [written]
    rcases Operation.writes_frozen_channel active covers respects unfrozen
      before.toPublicationState with same | ⟨cleared, removal⟩
    · exact .inl same
    · exact .inr ⟨cleared, operation, answer, rfl, removal⟩

/-- The same for the semantic pointer of a target that is frozen on every
channel. -/
theorem Step.frozen_target (active : freeze ∈ before.freezes)
    (covers : ∀ channel, freeze.Covers target channel)
    (respects : event.Respects freeze) (taken : Step before event after) :
    after.reportCurrent target = before.reportCurrent target ∨
      after.reportCurrent target = none := by
  rcases taken.cases with kept | ⟨operation, answer, rfl, unfrozen, written⟩
  · exact .inl (by rw [kept])
  · rw [written]
    apply Operation.writes_reportCurrent_keeps_or_clears
    rintro call reportId renderId delivers rfl
    rcases respects with removal | asks
    · rw [Operation.delivery_of_removal removal] at delivers
      cases delivers
    · obtain ⟨asked, asks⟩ := Option.isSome_iff_exists.mp asks
      rw [Operation.asked_of_delivery asks delivers] at asks
      exact Operation.not_asked_of_unfrozen active (covers _) unfrozen asks

/-- What a freeze in force keeps along a run. -/
structure Held (freeze : PublicationFreeze) (target : Target) (channel : Channel)
    (database last : Database) : Prop where
  active : freeze ∈ last.freezes
  channelPointer :
    last.channelPointers target channel =
        database.channelPointers target channel ∨
      last.channelPointers target channel = none
  reportCurrent :
    (∀ channel, freeze.Covers target channel) →
      last.reportCurrent target = database.reportCurrent target ∨ last.reportCurrent target = none

theorem held_of_exec {last : Database} {events : List Event}
    (active : freeze ∈ database.freezes) (covers : freeze.Covers target channel)
    (run : Exec (Guarded Step fun event _ => event.Respects freeze) database events last) :
    Held freeze target channel database last := by
  apply run.invariant
  · exact ⟨active, .inl rfl, fun _ => .inl rfl⟩
  · rintro before event after held ⟨taken, respects⟩
    refine ⟨taken.keeps_freeze held.active respects, ?_, fun everywhere => ?_⟩
    · rcases taken.frozen_channel held.active covers respects with
        same | ⟨cleared, -⟩
      · rw [same]
        exact held.channelPointer
      · exact .inr cleared
    · rcases taken.frozen_target held.active everywhere respects with
        same | cleared
      · rw [same]
        exact held.reportCurrent everywhere
      · exact .inr cleared

/-- While a freeze is in force, every operation that asks about its channel is
refused, with the reason of a most recent freeze of the channel, and moves
nothing.  As long as the freeze is not released, the pointer stays or is
removed, and only an invalidation or a withdrawal removes it. -/
theorem frozen_channel_is_held
    {database : Database} {freeze : PublicationFreeze} {target : Target}
    {channel : Channel} (active : freeze ∈ database.freezes)
    (covers : freeze.Covers target channel) :
    (∀ operation : Operation, operation.asksAbout = some (target, channel) →
        ∃ answer next latest, operation.run database = .ok (answer, next) ∧
          next.toPublicationState = database.toPublicationState ∧
          IsLatest database target channel latest ∧
          answer.IsFrozenFor latest.reasonCode) ∧
    ∀ events last,
      Exec (Guarded Step fun event _ => event.Respects freeze) database
        events last →
      Held freeze target channel database last ∧
      ∀ event next, Step last event next → event.Respects freeze →
        next.channelPointers target channel ≠
            last.channelPointers target channel →
          next.channelPointers target channel = none ∧
            ∃ operation answer, event = .committed operation answer ∧
              operation.IsRemoval := by
  constructor
  · intro operation asks
    obtain ⟨latest, isLatest, found⟩ := exists_activeFreeze active covers
    obtain ⟨answer, next, ran, kept, refused⟩ :=
      Operation.run_of_frozen asks found
    exact ⟨answer, next, latest, ran, kept, isLatest, refused⟩
  · intro events last run
    have held := held_of_exec active covers run
    refine ⟨held, fun event next taken respects changed => ?_⟩
    rcases taken.frozen_channel held.active covers respects with
      same | removed
    · exact absurd same changed
    · exact removed

/-- A freeze of the sample target. -/
def sampleFreeze (freezeId : Nat) (channel : Option Channel) (reasonCode : String) :
    PublicationFreeze where
  freezeId := sampleUuid freezeId
  scope := some (sampleTarget, channel)
  reasonCode := reasonCode
  createdAt := freezeId
  released := false

theorem frozen_channel_is_held_sample :
    (∀ operation : Operation, operation.asksAbout = some (sampleTarget, .web) →
        ∃ answer next latest, operation.run
              (sampleDatabase [] [sampleFreeze 1 none "LEGAL_HOLD"]) =
            .ok (answer, next) ∧
          next.toPublicationState = (sampleDatabase []
              [sampleFreeze 1 none "LEGAL_HOLD"]).toPublicationState ∧
          IsLatest (sampleDatabase [] [sampleFreeze 1 none "LEGAL_HOLD"])
            sampleTarget .web latest ∧
          answer.IsFrozenFor latest.reasonCode) ∧
    ∀ events last, Exec (Guarded Step fun event _ =>
          event.Respects (sampleFreeze 1 none "LEGAL_HOLD"))
        (sampleDatabase [] [sampleFreeze 1 none "LEGAL_HOLD"]) events last →
      Held (sampleFreeze 1 none "LEGAL_HOLD") sampleTarget .web
        (sampleDatabase [] [sampleFreeze 1 none "LEGAL_HOLD"]) last ∧
      ∀ event next, Step last event next →
        event.Respects (sampleFreeze 1 none "LEGAL_HOLD") →
        next.channelPointers sampleTarget .web ≠
            last.channelPointers sampleTarget .web →
          next.channelPointers sampleTarget .web = none ∧
            ∃ operation answer, event = .committed operation answer ∧
              operation.IsRemoval :=
  frozen_channel_is_held List.mem_cons_self (by decide)

theorem exec_sampleFreezes :
    ∃ events, Exec Step (sampleDatabase [] []) events (sampleDatabase []
        [sampleFreeze 1 none "LEGAL_HOLD", sampleFreeze 2 (some .web) "OUTAGE"]) := by
  have first : Step (sampleDatabase [] [])
      (.frozen (sampleFreeze 1 none "LEGAL_HOLD"))
      (sampleDatabase [] [sampleFreeze 1 none "LEGAL_HOLD"]) :=
    .frozen rfl (by simp [sampleDatabase]) (by simp [sampleDatabase])
  have second : Step (sampleDatabase [] [sampleFreeze 1 none "LEGAL_HOLD"])
      (.frozen (sampleFreeze 2 (some .web) "OUTAGE"))
      (sampleDatabase [] [sampleFreeze 1 none "LEGAL_HOLD", sampleFreeze 2 (some .web) "OUTAGE"]) :=
    .frozen rfl (by decide) (by decide)
  exact ⟨_, .cons first (.single second)⟩

/-- Of two freezes of one channel only the more recent is given as the
reason. -/
theorem frozen_reason_of_other_freeze :
    ∃ (start database : Database) (events : List Event)
      (freeze : PublicationFreeze) (target : Target) (channel : Channel)
      (operation : Operation) (answer : Answer) (next : Database),
      Unpublished start ∧ Exec Step start events database ∧
      freeze ∈ database.freezes ∧ freeze.Covers target channel ∧
      operation.asksAbout = some (target, channel) ∧
      operation.run database = .ok (answer, next) ∧
      ¬answer.IsFrozenFor freeze.reasonCode := by
  obtain ⟨events, run⟩ := exec_sampleFreezes
  refine ⟨_, _, events, sampleFreeze 1 none "LEGAL_HOLD", sampleTarget, .web,
    .unpublish sampleLifecycle sampleTargetCall .web,
    .lifecycle ⟨.frozen, some "OUTAGE"⟩, _, sampleDatabase_unpublished _ _,
    run, List.mem_cons_self, by decide, rfl, rfl, ?_⟩
  simp [Answer.IsFrozenFor, sampleFreeze]

end SanTanHeights.Publication
