import SanTanHeights.Release.Validation

/-!
# Queueing for generation

`coordinate` queues a report, a render and the item itself, one after the
other, and goes on with the next item when one of these raises.  What an item
queued before it was blocked stays, for the transaction of the caller to
commit or roll back.
-/

namespace SanTanHeights.Release

open Foundation Foundation.Outcome

namespace GenerationAttempt

/-- `coordinate` takes up an item in one of these states. -/
def TakenUp (attempt : GenerationAttempt) : Prop :=
  attempt.item.itemState ∈ [ItemState.pending, .failed, .blocked]

instance (attempt : GenerationAttempt) : Decidable attempt.TakenUp :=
  inferInstanceAs (Decidable (_ ∈ _))

/-- A render is to be queued: the item has a channel, and there is a function
for it. -/
def NeedsRender (attempt : GenerationAttempt) (hasQueueRender : Bool) : Prop :=
  (attempt.item.channel.isSome && hasQueueRender) = true

instance (attempt : GenerationAttempt) (hasQueueRender : Bool) :
    Decidable (attempt.NeedsRender hasQueueRender) :=
  inferInstanceAs (Decidable (_ = true))

/-- What is queued for an item that is not blocked. -/
def due (hasQueueRender : Bool) (attempt : GenerationAttempt) : List GenerationRequest :=
  ⟨attempt.item.releaseItemId, .report⟩ ::
    if attempt.NeedsRender hasQueueRender then
      [⟨attempt.item.releaseItemId, .render⟩]
    else []

/-- What is queued for an item until a function raises. -/
def requested (hasQueueRender : Bool) (attempt : GenerationAttempt) : List GenerationRequest :=
  match attempt.queueReport with
  | .error _ => []
  | .ok () =>
      ⟨attempt.item.releaseItemId, .report⟩ ::
        if attempt.NeedsRender hasQueueRender then
          match attempt.queueRender with
          | .error _ => []
          | .ok () => [⟨attempt.item.releaseItemId, .render⟩]
        else []

/-- What is queued for an item, if it is taken up. -/
def left (hasQueueRender : Bool) (attempt : GenerationAttempt) : List GenerationRequest :=
  if attempt.TakenUp then attempt.requested hasQueueRender else []

end GenerationAttempt

/-! ## One item -/

theorem requests_of_updateItem {before after : Database} {releaseItemId : Uuid}
    {states : List ItemState} {toState : ItemState}
    {lastErrorCode : Option String} {updated : Bool}
    (ran : before.updateItem releaseItemId states toState lastErrorCode = .ok (updated, after)) :
    after.requests = before.requests := by
  unfold Database.updateItem at ran
  split at ran
  · cases ran
    rfl
  · split_ifs at ran
    · obtain ⟨_, -, ended⟩ := bind_eq_ok.mp ran
      cases ended
      rfl
    · cases ran
      rfl

theorem requests_of_transition {toState : ItemState} {audit : Audit} {before after : Database}
    {item : ReleaseItemRecord} (ran : transition toState audit before item = .ok after) :
    after.requests = before.requests := by
  obtain ⟨-, continued⟩ := require_bind_eq_ok.mp ran
  obtain ⟨⟨updated, moved⟩, update, ended⟩ := bind_eq_ok.mp continued
  obtain ⟨-, ended⟩ := require_bind_eq_ok.mp ended
  cases ended
  have kept : moved.requests = before.requests := requests_of_updateItem update
  exact kept

/-- What an attempt leaves, queued or blocked. -/
structure Queueing (hasQueueRender : Bool) (attempt : GenerationAttempt)
    (before : Database) (done : Bool) (after : Database) : Prop where
  requests : after.requests = before.requests ++ attempt.requested hasQueueRender
  queued : done = true →
    attempt.requested hasQueueRender = attempt.due hasQueueRender ∧
      before.itemState attempt.item.releaseItemId = some attempt.item.itemState ∧
      after.itemState = Function.update before.itemState
        attempt.item.releaseItemId (some .generationQueued)
  blocked : done = false → after.itemState = before.itemState

theorem queueGeneration_queueing (hasQueueRender : Bool) (audit : Audit) (database : Database)
    (attempt : GenerationAttempt) :
    Queueing hasQueueRender attempt database
      (queueGeneration hasQueueRender audit database attempt).1
      (queueGeneration hasQueueRender audit database attempt).2 := by
  -- The last of the three, after everything that is due was queued.
  have moved : ∀ {before after : Database},
      transition .generationQueued
        { audit with reasonCode := some "RELEASE_GENERATION_QUEUED" }
        before attempt.item = .ok after →
      before.itemState = database.itemState →
      before.requests = database.requests ++ attempt.requested hasQueueRender →
      attempt.requested hasQueueRender = attempt.due hasQueueRender →
      Queueing hasQueueRender attempt database true after := by
    intro before after ran states requests complete
    obtain ⟨-, stored, moved⟩ := transition_moves ran
    have entered : after.itemState = Function.update before.itemState
        attempt.item.releaseItemId (some .generationQueued) :=
      congrArg ItemLog.states moved
    refine ⟨(requests_of_transition ran).trans requests, fun _ => ?_,
      by rintro ⟨⟩⟩
    rw [← states]
    exact ⟨complete, stored, entered⟩
  unfold queueGeneration
  cases report : attempt.queueReport with
  | error message =>
      refine ⟨?_, by rintro ⟨⟩, fun _ => rfl⟩
      rw [GenerationAttempt.requested, report, List.append_nil]
  | ok value =>
      dsimp only
      split_ifs with needed
      · change attempt.NeedsRender hasQueueRender at needed
        cases render : attempt.queueRender with
        | error message =>
            refine ⟨?_, by rintro ⟨⟩, fun _ => rfl⟩
            rw [GenerationAttempt.requested, report, render]
            dsimp only
            rw [if_pos needed]
            rfl
        | ok value =>
            have complete : attempt.requested hasQueueRender =
                attempt.due hasQueueRender := by
              rw [GenerationAttempt.requested, report, render]
              rfl
            have requests : ((database.request attempt.item .report).request
                attempt.item .render).requests =
                  database.requests ++ attempt.requested hasQueueRender := by
              rw [complete, GenerationAttempt.due, if_pos needed]
              simp [Database.request]
            dsimp only
            split
            · rename_i ran
              exact moved ran rfl requests complete
            · exact ⟨requests, by rintro ⟨⟩, fun _ => rfl⟩
      · change ¬ attempt.NeedsRender hasQueueRender at needed
        have complete : attempt.requested hasQueueRender =
            attempt.due hasQueueRender := by
          rw [GenerationAttempt.requested, report]
          dsimp only
          rw [if_neg needed, GenerationAttempt.due, if_neg needed]
        have requests : (database.request attempt.item .report).requests =
            database.requests ++ attempt.requested hasQueueRender := by
          rw [complete, GenerationAttempt.due, if_neg needed]
          rfl
        split
        · rename_i ran
          exact moved ran rfl requests complete
        · exact ⟨requests, by rintro ⟨⟩, fun _ => rfl⟩

/-! ## All items -/

/-- What a call does to the items that it lists. -/
structure Coordinated (hasQueueRender : Bool) (attempts : List GenerationAttempt)
    (before : Database) (result : GenerationResult) (after : Database) :
    Prop where
  requests : after.requests = before.requests ++
    attempts.flatMap (GenerationAttempt.left hasQueueRender)
  queued : ∀ releaseItemId ∈ result.queued,
    after.itemState releaseItemId = some .generationQueued ∧
      ∃ attempt ∈ attempts, attempt.item.releaseItemId = releaseItemId ∧
        attempt.left hasQueueRender = attempt.due hasQueueRender
  kept : ∀ releaseItemId, releaseItemId ∉ result.queued →
    after.itemState releaseItemId = before.itemState releaseItemId
  listed : ∀ releaseItemId,
    releaseItemId ∈ result.queued ∨ releaseItemId ∈ result.blocked ↔
      ∃ attempt ∈ attempts, attempt.TakenUp ∧ attempt.item.releaseItemId = releaseItemId

theorem coordinateItem_coordinated {hasQueueRender : Bool} {audit : Audit}
    {attempts : List GenerationAttempt} {attempt : GenerationAttempt}
    {before : Database} {state : GenerationResult × Database}
    (coordinated : Coordinated hasQueueRender attempts before state.1 state.2) :
    Coordinated hasQueueRender (attempts ++ [attempt]) before
      (coordinateItem hasQueueRender audit state attempt).1
      (coordinateItem hasQueueRender audit state attempt).2 := by
  obtain ⟨result, database⟩ := state
  obtain ⟨requests, queued, kept, listed⟩ := coordinated
  dsimp only at requests queued kept listed
  have earlier : ∀ releaseItemId,
      (∃ other ∈ attempts ++ [attempt], other.TakenUp ∧
        other.item.releaseItemId = releaseItemId) ↔
        (releaseItemId ∈ result.queued ∨ releaseItemId ∈ result.blocked) ∨
          (attempt.TakenUp ∧ attempt.item.releaseItemId = releaseItemId) := by
    intro releaseItemId
    rw [listed]
    simp only [List.mem_append, List.mem_singleton, or_and_right, exists_or, exists_eq_left]
  have still : ∀ releaseItemId,
      (∃ other ∈ attempts, other.item.releaseItemId = releaseItemId ∧
        other.left hasQueueRender = other.due hasQueueRender) →
      ∃ other ∈ attempts ++ [attempt],
        other.item.releaseItemId = releaseItemId ∧
          other.left hasQueueRender = other.due hasQueueRender :=
    fun _ ⟨other, present, own⟩ =>
      ⟨other, List.mem_append_left _ present, own⟩
  unfold coordinateItem
  dsimp only
  split_ifs with takenUp
  · change attempt.TakenUp at takenUp
    have leaves : attempt.left hasQueueRender = attempt.requested hasQueueRender := if_pos takenUp
    have queueing := queueGeneration_queueing hasQueueRender audit database attempt
    split
    · rename_i next outcome
      rw [outcome] at queueing
      obtain ⟨complete, -, states⟩ := queueing.queued rfl
      dsimp only at states
      refine ⟨?_, ?_, ?_, ?_⟩
      · rw [queueing.requests, requests, List.flatMap_append,
          List.flatMap_singleton, leaves, List.append_assoc]
      · intro releaseItemId present
        rw [states, Function.update_apply]
        rcases List.mem_append.mp present with old | new
        · refine ⟨?_, still _ (queued releaseItemId old).2⟩
          rw [(queued releaseItemId old).1, ite_self]
        · rw [List.mem_singleton] at new
          rw [if_pos new]
          exact ⟨rfl, attempt, List.mem_append_right _ (List.mem_singleton_self _), new.symm,
            leaves.trans complete⟩
      · intro releaseItemId absent
        rw [List.mem_append, not_or, List.mem_singleton] at absent
        rw [states, Function.update_of_ne absent.2]
        exact kept releaseItemId absent.1
      · intro releaseItemId
        rw [earlier, List.mem_append, List.mem_singleton]
        simp only [takenUp, true_and, @eq_comm _ releaseItemId]
        exact or_right_comm
    · rename_i next outcome
      rw [outcome] at queueing
      have states := queueing.blocked rfl
      dsimp only at states
      refine ⟨?_, ?_, ?_, ?_⟩
      · rw [queueing.requests, requests, List.flatMap_append,
          List.flatMap_singleton, leaves, List.append_assoc]
      · intro releaseItemId present
        rw [states]
        exact ⟨(queued releaseItemId present).1, still _ (queued releaseItemId present).2⟩
      · rw [states]
        exact kept
      · intro releaseItemId
        rw [earlier, List.mem_append, List.mem_singleton]
        simp only [takenUp, true_and, @eq_comm _ releaseItemId]
        exact or_assoc.symm
  · change ¬ attempt.TakenUp at takenUp
    refine ⟨?_, ?_, kept, ?_⟩
    · rw [requests, List.flatMap_append, List.flatMap_singleton,
        GenerationAttempt.left, if_neg takenUp, List.append_nil]
    · intro releaseItemId present
      exact ⟨(queued releaseItemId present).1, still _ (queued releaseItemId present).2⟩
    · intro releaseItemId
      rw [earlier]
      exact (or_iff_left fun taken => takenUp taken.1).symm

/-- An item that is listed as queued is queued with all that is due for it.
An item that is listed as blocked keeps its state, and what was queued for it
before a function raised stays queued; nothing else is queued or moved. -/
theorem generation_coordinated (hasQueueRender : Bool) (attempts : List GenerationAttempt)
    (audit : Audit) (before : Database) :
    Coordinated hasQueueRender attempts before
      (coordinate hasQueueRender attempts audit before).1
      (coordinate hasQueueRender attempts audit before).2 := by
  suffices general : ∀ done (state : GenerationResult × Database),
      Coordinated hasQueueRender done before state.1 state.2 →
        Coordinated hasQueueRender (done ++ attempts) before
          (attempts.foldl (coordinateItem hasQueueRender audit) state).1
          (attempts.foldl (coordinateItem hasQueueRender audit) state).2 by
    apply general []
    exact ⟨(List.append_nil _).symm, nofun, fun _ _ => rfl, by simp⟩
  induction attempts with
  | nil =>
      intro done state coordinated
      rwa [List.append_nil]
  | cons attempt attempts inductionHypothesis =>
      intro done state coordinated
      have rest := inductionHypothesis (done ++ [attempt]) _
        (@coordinateItem_coordinated _ audit _ _ _ _ coordinated)
      rwa [List.append_assoc] at rest

/-- The report of an item stays queued although its render was refused and
the item is listed as blocked. -/
theorem blocked_report_stays_queued :
    let (result, after) := coordinate true
      [⟨sampleItem .pending, .ok (), .error "render queue unavailable"⟩]
      sampleAudit samplePending
    result.blocked = [⟨5, by decide⟩] ∧
      after.requests = [⟨⟨5, by decide⟩, .report⟩] := by
  decide

end SanTanHeights.Release
