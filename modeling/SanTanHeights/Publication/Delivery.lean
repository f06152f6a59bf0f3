import SanTanHeights.Publication.Rollback

/-!
# Versions of delivered pointers

The version of a channel pointer rises with every write of its row.  Removing
the pointer deletes the row, so a channel that is set again starts at version
one, and a stable path then repeats the versions of earlier deliveries.
-/

namespace SanTanHeights.Publication

open Foundation Foundation.Runs

open ControlledPublicationLifecycle PublicationState

/-- What the route delivers. -/
def DeliveryRoute.delivered (route : DeliveryRoute) : Uuid × Uuid :=
  (route.reportId, route.renderId)

/-- A route that a path resolved to at some point of a run. -/
def ResolvedTo (start : Database) (events : List Event) (target : Target)
    (channel : Channel) (route : DeliveryRoute) : Prop :=
  ∃ earlier later state, events = earlier ++ later ∧
    Exec Step start earlier state ∧
    resolve state.toPublicationState target channel = some route

/-- The history has a row that set a channel. -/
def WasSet (state : PublicationState) (target : Target) (channel : Channel) : Prop :=
  ∃ record ∈ state.history, record.target = target ∧
    record.channel = some channel ∧ record.renderId.isSome ∧ record.action ∈ publishingActions

/-- An operation that delivers to a channel without a pointer finds no row in
the history that set that channel before. -/
def Event.Continues (event : Event) (database : Database) : Prop :=
  match event with
  | .committed operation answer =>
      answer.Delivers → ∀ call reportId renderId,
        operation.delivery = some (call, reportId, renderId) →
          database.channelPointers call.stage.target call.stage.channel = none →
            ¬WasSet database.toPublicationState call.stage.target call.stage.channel
  | _ => True

variable {target : Target} {channel : Channel} {route : DeliveryRoute}
  {start after before database : Database} {events : List Event}
  {event : Event}

theorem resolve_eq_some {state : PublicationState} :
    resolve state target channel = some route ↔
      ∃ row, state.channelPointers target channel = some row ∧
        route = ⟨row.reportId, row.renderId, row.pointerVersion⟩ := by
  rw [resolve, Option.map_eq_some_iff]
  exact exists_congr fun row => and_congr_right fun _ => eq_comm

/-- A resolved route of a longer run was resolved before, or is resolved at
its end. -/
theorem ResolvedTo.concat_cases (run : Exec Step start (events ++ [event]) after)
    (past : ResolvedTo start (events ++ [event]) target channel route) :
    ResolvedTo start events target channel route ∨
      resolve after.toPublicationState target channel = some route := by
  obtain ⟨earlier, later, state, split, reached, resolved⟩ := past
  rcases List.eq_nil_or_concat later with rfl | ⟨later, latest, rfl⟩
  · rw [List.append_nil] at split
    subst split
    obtain rfl := Exec.deterministic (fun taken => taken.determined) run reached
    exact .inr resolved
  · rw [List.concat_eq_append, ← List.append_assoc] at split
    obtain ⟨rfl, -⟩ := List.append_inj' split rfl
    exact .inl ⟨earlier, later, state, rfl, reached, resolved⟩

/-! ## What a transaction does to a pointer -/

theorem wasSet_of_delivers {operation : Operation} {call : StageCall} {reportId renderId : Uuid}
    (delivers : operation.delivery = some (call, reportId, renderId))
    (state : PublicationState) :
    WasSet (operation.writes state) call.stage.target call.stage.channel := by
  unfold WasSet
  rw [operation.writes_history]
  cases operation with
  | publish service publishing =>
      cases delivers
      refine ⟨call.record .published call.stage.reportId call.stage.renderId
        none, ?_, rfl, rfl, rfl,
        by simp [StageCall.record, publishingActions]⟩
      simp [Operation.evidence]
  | promoteRender service promoting =>
      cases delivers
      refine ⟨call.record .renderPromoted call.report.reportId
        call.render.renderId (some "PRESENTATION_ONLY_PROMOTION"), ?_, rfl,
        rfl, rfl, by simp [StageCall.record, publishingActions]⟩
      simp [Operation.evidence, Operation.evidence.promotionRows]
  | republish service promoting =>
      cases delivers
      refine ⟨call.record .republished call.report.reportId
        call.render.renderId (some "REPUBLISH"), ?_, rfl, rfl, rfl,
        by simp [StageCall.record, publishingActions]⟩
      simp [Operation.evidence]
  | rollback service rolling =>
      cases delivers
      refine ⟨call.record .rolledBack call.stage.reportId call.stage.renderId
        (some "ROLLBACK"), ?_, rfl, rfl, rfl,
        by simp [StageCall.record, publishingActions]⟩
      simp [Operation.evidence]
  | unpublish service removing channel => cases delivers
  | invalidate removing reportId => cases delivers
  | withdraw removing => cases delivers

/-- A transaction keeps a pointer, removes it, or sets it with a delivery and
a row in the history. -/
theorem Step.channelPointer_cases
    (taken : Step before event after) (target : Target) (channel : Channel) :
    after.channelPointers target channel =
        before.channelPointers target channel ∨
      after.channelPointers target channel = none ∨
      ∃ operation answer call reportId renderId,
        event = .committed operation answer ∧ answer.Delivers ∧
        operation.delivery = some (call, reportId, renderId) ∧
        call.stage.target = target ∧ call.stage.channel = channel ∧
        after.toPublicationState = operation.writes before.toPublicationState ∧
        after.channelPointers target channel =
          some (upsertChannel (before.channelPointers target channel)
            reportId renderId call.actor) := by
  cases taken with
  | committed ran =>
      rcases Operation.run_delivery_cases ran with
        ⟨-, kept | ⟨none, written⟩⟩ | ⟨answered, delivers, written⟩
      · exact .inl (by rw [kept])
      · rw [written]
        rcases Operation.writes_keeps_or_clears none
          before.toPublicationState target channel with kept | cleared
        · exact .inl kept
        · exact .inr (.inl cleared)
      · obtain ⟨⟨call, reportId, renderId⟩, delivers⟩ := Option.isSome_iff_exists.mp delivers
        have set : after.channelPointers target channel =
            if target = call.stage.target ∧ channel = call.stage.channel then
              some (upsertChannel (before.channelPointers call.stage.target call.stage.channel)
                reportId renderId call.actor)
            else before.channelPointers target channel := by
          rw [written, Operation.writes_channelPointers delivers]
          exact channelPointers_writeChannel ..
        split_ifs at set with here
        · obtain ⟨rfl, rfl⟩ := here
          exact .inr (.inr ⟨_, _, call, reportId, renderId, rfl, answered,
            delivers, rfl, rfl, written, set⟩)
        · exact .inl set
  | rolledBack operation => exact .inl rfl
  | staged absent distinct => exact .inl rfl
  | frozen active absent distinct => exact .inl rfl
  | released isGlobal freezeId => exact .inl rfl

theorem Step.channelPointer_of_delivers
    {operation : Operation} {answer : Answer} {call : StageCall}
    {reportId renderId : Uuid} (taken : Step before (.committed operation answer) after)
    (answered : answer.Delivers)
    (delivers : operation.delivery = some (call, reportId, renderId)) :
    after.channelPointers call.stage.target call.stage.channel =
      some (upsertChannel (before.channelPointers call.stage.target call.stage.channel)
        reportId renderId call.actor) := by
  cases taken with
  | committed ran =>
      rcases Operation.run_delivery_cases ran with
        ⟨refused, -⟩ | ⟨-, -, written⟩
      · exact absurd answered refused
      · rw [written, Operation.writes_channelPointers delivers,
          setChannelPointer, channelPointers_writeChannel, if_pos ⟨rfl, rfl⟩]

/-! ## Versions along a run -/

/-- What a run says about the versions of a channel: they are positive, every
pointer came with a row in the history, and the present pointer has the
greatest version so far, which belongs to its delivery alone. -/
structure VersionInvariant (start : Database) (events : List Event) (database : Database) :
    Prop where
  wasSet : ∀ target channel route,
    ResolvedTo start events target channel route → WasSet database.toPublicationState target channel
  positive : ∀ target channel route,
    ResolvedTo start events target channel route → 0 < route.pointerVersion
  greatest : ∀ target channel past route,
    ResolvedTo start events target channel past →
    resolve database.toPublicationState target channel = some route →
      past.pointerVersion ≤ route.pointerVersion ∧
        (past.delivered ≠ route.delivered → past.pointerVersion < route.pointerVersion)

theorem WasSet.extend {before after : PublicationState} (wasSet : WasSet before target channel)
    (extended : before.history <+: after.history) :
    WasSet after target channel := by
  obtain ⟨record, present, about⟩ := wasSet
  exact ⟨record, extended.subset present, about⟩

/-- What a path resolves to now counts as resolved. -/
theorem resolvedTo_of_exec (run : Exec Step start events database)
    (resolved : resolve database.toPublicationState target channel = some route) :
    ResolvedTo start events target channel route :=
  ⟨events, [], database, (List.append_nil events).symm, run, resolved⟩

theorem not_resolvedTo_nil (unpublished : Unpublished start) :
    ¬ResolvedTo start [] target channel route := by
  rintro ⟨earlier, later, state, split, reached, resolved⟩
  obtain ⟨rfl, rfl⟩ := List.append_eq_nil_iff.mp split.symm
  cases reached
  simp [resolve, unpublished.channelPointers] at resolved

/-- A route after a transaction was there before, or the transaction set it
with the next version of its row. -/
theorem Step.resolve_cases (taken : Step before event after)
    (resolved : resolve after.toPublicationState target channel = some route) :
    resolve before.toPublicationState target channel = some route ∨
      (WasSet after.toPublicationState target channel ∧ route.pointerVersion =
          ((resolve before.toPublicationState target channel).elim 1
            fun prior => prior.pointerVersion + 1) ∧
        (event.Continues before → resolve before.toPublicationState target channel = none →
            ¬WasSet before.toPublicationState target channel)) := by
  obtain ⟨row, found, rfl⟩ := resolve_eq_some.mp resolved
  rcases taken.channelPointer_cases target channel with
    kept | cleared | ⟨operation, answer, call, reportId, renderId, rfl,
      answered, delivers, rfl, rfl, written, set⟩
  · rw [found] at kept
    exact .inl (resolve_eq_some.mpr ⟨row, kept.symm, rfl⟩)
  · rw [found] at cleared
    cases cleared
  · refine .inr ⟨?_, ?_, ?_⟩
    · rw [written]
      exact wasSet_of_delivers delivers _
    · rw [found, Option.some.injEq] at set
      rw [set, resolve]
      cases before.channelPointers call.stage.target call.stage.channel with
      | none => rfl
      | some prior => rfl
    · intro continues unresolved
      exact continues answered call reportId renderId delivers
        (Option.map_eq_none_iff.mp unresolved)

/-- A pointer that is set gets a version above all earlier ones, if its
channel was not set before or still has a pointer. -/
theorem VersionInvariant.lt_of_set {past : DeliveryRoute}
    (known : VersionInvariant start events before)
    (version : route.pointerVersion = (resolve before.toPublicationState target channel).elim 1
        fun prior => prior.pointerVersion + 1)
    (first : resolve before.toPublicationState target channel = none →
      ¬WasSet before.toPublicationState target channel)
    (old : ResolvedTo start events target channel past) :
    past.pointerVersion < route.pointerVersion := by
  cases prior : resolve before.toPublicationState target channel with
  | none => exact absurd (known.wasSet _ _ _ old) (first prior)
  | some previous =>
      rw [version, prior]
      exact Nat.lt_succ_of_le (known.greatest _ _ _ _ old prior).1

/-- A transaction that continues its channel keeps what a run says about the
versions. -/
theorem VersionInvariant.step (known : VersionInvariant start events before)
    (run : Exec Step start events before) (taken : Step before event after)
    (continues : event.Continues before) :
    VersionInvariant start (events ++ [event]) after := by
  have extended := run.append (.single taken)
  refine ⟨?_, ?_, ?_⟩
  · intro target channel route past
    rcases past.concat_cases extended with past | resolved
    · exact (known.wasSet _ _ _ past).extend taken.history_prefix
    · rcases taken.resolve_cases resolved with kept | ⟨wasSet, -, -⟩
      · exact (known.wasSet _ _ _ (resolvedTo_of_exec run kept)).extend taken.history_prefix
      · exact wasSet
  · intro target channel route past
    rcases past.concat_cases extended with past | resolved
    · exact known.positive _ _ _ past
    · rcases taken.resolve_cases resolved with kept | ⟨-, version, -⟩
      · exact known.positive _ _ _ (resolvedTo_of_exec run kept)
      · rw [version]
        cases resolve before.toPublicationState target channel with
        | none => exact Nat.one_pos
        | some prior => exact Nat.succ_pos _
  · intro target channel past route resolvedPast resolved
    rcases resolvedPast.concat_cases extended with old | current
    · rcases taken.resolve_cases resolved with kept | ⟨-, version, first⟩
      · exact known.greatest _ _ _ _ old kept
      · have rises := known.lt_of_set version (first continues) old
        exact ⟨rises.le, fun _ => rises⟩
    · rw [resolved, Option.some.injEq] at current
      subst current
      exact ⟨le_rfl, fun differs => absurd rfl differs⟩

theorem versionInvariant_of_exec (unpublished : Unpublished start)
    (run : Exec (Guarded Step Event.Continues) start events database) :
    Exec Step start events database ∧ VersionInvariant start events database := by
  apply run.history_invariant
  · refine ⟨.nil start, ?_, ?_, ?_⟩
    · intro target channel route past
      exact absurd past (not_resolvedTo_nil unpublished)
    · intro target channel route past
      exact absurd past (not_resolvedTo_nil unpublished)
    · intro target channel past route resolvedPast
      exact absurd resolvedPast (not_resolvedTo_nil unpublished)
  · rintro past before event after ⟨reached, known⟩ ⟨taken, continues⟩
    exact ⟨reached.append (.single taken), known.step reached taken continues⟩

/-- A change of what a path resolves to carries a version above all earlier
ones. -/
def VersionRises (start : Database) (events : List Event) (before after : Database)
    (target : Target) (channel : Channel) : Prop :=
  ∀ route, resolve after.toPublicationState target channel = some route →
    (resolve before.toPublicationState target channel).map
        DeliveryRoute.delivered ≠ some route.delivered →
      ∀ past, ResolvedTo start events target channel past →
        past.pointerVersion < route.pointerVersion

/-- A channel that the history shows as set was resolved by its path. -/
theorem exists_resolvedTo_of_wasSet (unpublished : Unpublished start)
    (run : Exec Step start events database)
    (wasSet : WasSet database.toPublicationState target channel) :
    ∃ past, ResolvedTo start events target channel past := by
  obtain ⟨record, present, rfl, onChannel, hasRender, publishing⟩ := wasSet
  obtain ⟨renderId, ofRender⟩ := Option.isSome_iff_exists.mp hasRender
  obtain ⟨earlier, later, state, split, reached, delivered⟩ :=
    historyProves_of_exec unpublished run record present publishing channel
      renderId onChannel ofRender
  obtain ⟨row, found, -⟩ := Option.map_eq_some_iff.mp delivered
  exact ⟨_, earlier, later, state, split, reached, resolve_eq_some.mpr ⟨row, found, rfl⟩⟩

/-- In runs whose deliveries continue their channels, versions never fall and
two deliveries never share one.  The next transaction raises the version with
every change exactly when it continues its channel too. -/
theorem pointer_versions_rise_iff {start database : Database} {events : List Event}
    (unpublished : Unpublished start)
    (run : Exec (Guarded Step Event.Continues) start events database) :
    (∀ target channel past route, ResolvedTo start events target channel past →
      resolve database.toPublicationState target channel = some route →
        past.pointerVersion ≤ route.pointerVersion ∧
          (past.delivered ≠ route.delivered →
            past.pointerVersion < route.pointerVersion)) ∧
    ∀ event next, Step database event next →
      ((∀ target channel,
        VersionRises start events database next target channel) ↔
        event.Continues database) := by
  obtain ⟨reached, known⟩ := versionInvariant_of_exec unpublished run
  refine ⟨known.greatest, fun event next taken => ⟨?_, ?_⟩⟩
  · intro rises
    cases event with
    | committed operation answer =>
        intro answered call reportId renderId delivers absent wasSet
        have set := taken.channelPointer_of_delivers answered delivers
        obtain ⟨past, old⟩ :=
          exists_resolvedTo_of_wasSet unpublished reached wasSet
        have below := rises call.stage.target call.stage.channel _
          (resolve_eq_some.mpr ⟨_, set, rfl⟩)
          (by simp [resolve, absent]) past old
        have positive := known.positive _ _ _ old
        rw [absent] at below
        exact absurd below (Nat.not_lt.mpr positive)
    | _ => trivial
  · intro continues target channel route resolved changed past old
    rcases taken.resolve_cases resolved with kept | ⟨-, version, first⟩
    · rw [kept] at changed
      exact absurd rfl changed
    · exact known.lt_of_set version (first continues) old

theorem pointer_versions_rise_iff_sampleLive :
    (∀ target channel past route,
      ResolvedTo (sampleDatabase [sampleCall 10 11 12 .web] [])
        [.committed (samplePublish (sampleCall 10 11 12 .web))
          (.publication ⟨.published, []⟩)] target channel past →
      resolve sampleLive.toPublicationState target channel = some route →
        past.pointerVersion ≤ route.pointerVersion ∧
          (past.delivered ≠ route.delivered →
            past.pointerVersion < route.pointerVersion)) ∧
    ∀ event next, Step sampleLive event next →
      ((∀ target channel,
        VersionRises (sampleDatabase [sampleCall 10 11 12 .web] [])
          [.committed (samplePublish (sampleCall 10 11 12 .web))
            (.publication ⟨.published, []⟩)] sampleLive next target
          channel) ↔
        event.Continues sampleLive) :=
  pointer_versions_rise_iff (sampleDatabase_unpublished _ _)
    (.single ⟨.committed sampleLive_published, fun _ _ _ _ _ _ wasSet => by
      obtain ⟨record, present, -⟩ := wasSet
      cases present⟩)

/-- The tables after a first publication, with the stage of a second. -/
def sampleFirst : Database :=
  ((commitAll [samplePublish (sampleCall 10 11 12 .web)]
    (sampleDatabase [sampleCall 10 11 12 .web, sampleCall 20 21 22 .web]
      [])).toOption).getD (sampleDatabase [] [])

theorem sampleFirst_published : (samplePublish (sampleCall 10 11 12 .web)).run
        (sampleDatabase [sampleCall 10 11 12 .web, sampleCall 20 21 22 .web] []) =
      .ok (.publication ⟨.published, []⟩, sampleFirst) := by
  rfl

/-- Two reports delivered one after the other, with the pointer removed in
between, carry the same version. -/
theorem pointer_version_repeats :
    ∃ (start database : Database) (events : List Event) (target : Target)
      (channel : Channel) (past route : DeliveryRoute),
      Unpublished start ∧ Exec Step start events database ∧
      ResolvedTo start events target channel past ∧
      resolve database.toPublicationState target channel = some route ∧
      past.delivered ≠ route.delivered ∧
      past.pointerVersion = route.pointerVersion := by
  have repeats : commitsTo [.unpublish sampleLifecycle sampleTargetCall .web,
        samplePublish (sampleCall 20 21 22 .web)] sampleFirst
      (fun database =>
        resolve database.toPublicationState sampleTarget .web =
          some ⟨sampleUuid 21, sampleUuid 22, 1⟩) = true := by
    decide +kernel
  obtain ⟨events, database, run, ended⟩ := exists_exec_of_commitsTo repeats
  exact ⟨_, database, _, sampleTarget, .web,
    ⟨sampleUuid 11, sampleUuid 12, 1⟩, ⟨sampleUuid 21, sampleUuid 22, 1⟩,
    sampleDatabase_unpublished _ _,
    .cons (.committed sampleFirst_published) run,
    ⟨_, events, sampleFirst, rfl, .single (.committed sampleFirst_published),
      rfl⟩,
    of_decide_eq_true ended, by decide, rfl⟩

end SanTanHeights.Publication
