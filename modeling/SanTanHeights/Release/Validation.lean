import SanTanHeights.Release.Runs

/-!
# Validation before publication

An item that enters `PUBLISHING` should have been validated, staged and
approved since it was last queued for generation.  `ITEM_TRANSITIONS` lets a
blocked item be resumed as `STAGED` or `APPROVED` wherever it was blocked, so
runs keep the property only while no item is resumed further than it got.
-/

namespace SanTanHeights.Release

open Foundation Foundation.Outcome Foundation.Runs

/-! ## What a trail shows -/

/-- The states since an item last entered `GENERATION_QUEUED`, or since the
start. -/
def sinceQueued (trail : List ItemState) : List ItemState :=
  trail.rtakeWhile fun state => state ≠ .generationQueued

variable {state : ItemState} {row : ReleaseItemHistory} {log next : ItemLog}

theorem sinceQueued_concat (other : state ≠ .generationQueued) (trail : List ItemState) :
    sinceQueued (trail ++ [state]) = sinceQueued trail ++ [state] := by
  apply List.rtakeWhile_concat_pos
  exact decide_eq_true other

/-- The states that an item must have been in, in order, to be in a state past
generation. -/
def credentials : ItemState → List ItemState
  | .validated => [.validated]
  | .staged => [.validated, .staged]
  | .approved => [.validated, .staged, .approved]
  | _ => []

/-- The trail of an item accounts for its state. -/
def Earned (state : ItemState) (trail : List ItemState) : Prop :=
  (credentials state).Sublist (sinceQueued trail)

/-- Whenever the item entered `PUBLISHING`, it had been validated, then staged,
then approved since it was last queued. -/
def PublishedValidated (trail : List ItemState) : Prop :=
  ∀ earlier later, trail = earlier ++ .publishing :: later →
    [ItemState.validated, .staged, .approved].Sublist (sinceQueued earlier)

/-- A blocked item has been far enough to be resumed in a state. -/
def MayResume (trail : List ItemState) : ItemState → Prop
  | .staged => [ItemState.validated].Sublist (sinceQueued trail)
  | .approved => [ItemState.validated, .staged].Sublist (sinceQueued trail)
  | _ => True

/-- One more state on a trail. -/
theorem PublishedValidated.concat {trail : List ItemState}
    (validated : PublishedValidated trail)
    (approved : state = .publishing → Earned .approved trail) :
    PublishedValidated (trail ++ [state]) := by
  intro earlier later parts
  rcases later.eq_nil_or_concat with rfl | ⟨later, last, rfl⟩
  · obtain ⟨rfl, same⟩ := List.append_inj' parts rfl
    exact approved (List.singleton_inj.mp same)
  · rw [List.concat_eq_append, ← List.cons_append, ← List.append_assoc]
      at parts
    obtain ⟨rfl, -⟩ := List.append_inj' parts rfl
    exact validated earlier later rfl

/-- Entering a state past validation by the way earns it. -/
theorem earned_concat_iff {trail : List ItemState}
    (resumed : state = .staged ∨ state = .approved) :
    Earned state (trail ++ [state]) ↔ MayResume trail state := by
  rcases resumed with rfl | rfl
  · have apart : ItemState.staged ≠ .generationQueued := nofun
    rw [Earned, sinceQueued_concat apart]
    change ([ItemState.validated] ++ [ItemState.staged]).Sublist _ ↔ _
    exact List.append_sublist_append_right _
  · have apart : ItemState.approved ≠ .generationQueued := nofun
    rw [Earned, sinceQueued_concat apart]
    change ([ItemState.validated, .staged] ++ [ItemState.approved]).Sublist _ ↔ _
    exact List.append_sublist_append_right _

theorem mayResume_of_not_resumes (forward : ¬row.Resumes)
    (trail : List ItemState) (blocked : row.fromState = .blocked) :
    MayResume trail row.toState := by
  cases toState : row.toState with
  | staged => exact (forward ⟨blocked, .inl toState⟩).elim
  | approved => exact (forward ⟨blocked, .inr toState⟩).elim
  | _ => exact trivial

/-- A move keeps an item's trail in order, unless it resumes the item further
than it got. -/
theorem Earned.concat {fromState toState : ItemState} {trail : List ItemState}
    (earned : Earned fromState trail) (allowed : toState ∈ itemTransitions fromState)
    (resumes : fromState = .blocked → MayResume trail toState) :
    Earned toState (trail ++ [toState]) := by
  cases toState with
  | validated =>
      have apart : ItemState.validated ≠ .generationQueued := nofun
      rw [Earned, sinceQueued_concat apart]
      exact List.sublist_append_right _ _
  | staged =>
      rw [earned_concat_iff (.inl rfl)]
      cases fromState with
      | validated => exact earned
      | blocked => exact resumes rfl
      | _ => simp [itemTransitions] at allowed
  | approved =>
      rw [earned_concat_iff (.inr rfl)]
      cases fromState with
      | staged => exact earned
      | blocked => exact resumes rfl
      | _ => simp [itemTransitions] at allowed
  | _ => exact List.nil_sublist _

/-! ## What runs keep -/

/-- Every item's trail accounts for its state, and shows no publication
without validation. -/
structure Sound (states : Uuid → Option ItemState) (trail : Uuid → List ItemState) : Prop where
  earned : ∀ releaseItemId state, states releaseItemId = some state →
    Earned state (trail releaseItemId)
  validated : ∀ releaseItemId, PublishedValidated (trail releaseItemId)

/-- Every item is `PENDING`. -/
def Pending (database : Database) : Prop :=
  ∀ releaseItemId state, database.itemState releaseItemId = some state → state = .pending

theorem Pending.sound {database : Database} (pending : Pending database) :
    Sound database.itemState (Traced.start database).trail := by
  constructor
  · intro releaseItemId state stored
    rw [pending releaseItemId state stored]
    exact List.nil_sublist _
  · intro releaseItemId earlier later parts
    cases earlier <;> cases parts

section

variable {states : Uuid → Option ItemState} {trail : Uuid → List ItemState}

/-- An item enters a state that it earns. -/
theorem Sound.enter {releaseItemId : Uuid} {toState : ItemState} (sound : Sound states trail)
    (earned : Earned toState (trail releaseItemId ++ [toState]))
    (approved : toState = .publishing → Earned .approved (trail releaseItemId)) :
    Sound (Function.update states releaseItemId (some toState))
      (Release.enter trail (releaseItemId, toState)) := by
  constructor
  · intro other state stored
    by_cases same : other = releaseItemId
    · subst same
      rw [Function.update_self, Option.some.injEq] at stored
      rw [Release.enter, Function.update_self, ← stored]
      exact earned
    · rw [Function.update_of_ne same] at stored
      rw [Release.enter, Function.update_of_ne same]
      exact sound.earned other state stored
  · intro other
    by_cases same : other = releaseItemId
    · subst same
      rw [Release.enter, Function.update_self]
      exact (sound.validated other).concat approved
    · rw [Release.enter, Function.update_of_ne same]
      exact sound.validated other

/-- One move that resumes no item further than it got. -/
theorem Sound.move (sound : Sound log.states trail) (moves : Moves log row next)
    (resumes : row.fromState = .blocked → MayResume (trail row.releaseItemId) row.toState) :
    Sound next.states (Release.enter trail (row.releaseItemId, row.toState)) := by
  have earned := sound.earned _ _ moves.stored
  rw [moves.moved]
  apply sound.enter
  · exact earned.concat moves.allowed resumes
  · intro publishes
    have allowed := moves.allowed
    rw [publishes] at allowed
    cases fromState : row.fromState with
    | approved => exact fromState ▸ earned
    | _ => simp [fromState, itemTransitions] at allowed

/-- A chain of moves that resumes nothing. -/
theorem Sound.moves {rows : List ReleaseItemHistory} (sound : Sound log.states trail)
    (moved : Exec Moves log rows next) (forward : ∀ row ∈ rows, ¬row.Resumes) :
    Sound next.states
      ((rows.map fun row => (row.releaseItemId, row.toState)).foldl Release.enter trail) := by
  induction moved generalizing trail with
  | nil log => exact sound
  | cons taken _ ih =>
      rw [List.forall_mem_cons] at forward
      rw [List.map_cons, List.foldl_cons]
      exact ih (sound.move taken (mayResume_of_not_resumes forward.1 _)) forward.2

end

/-- A transition that resumes a blocked item resumes it no further than it
got. -/
def Event.ResumesEarned (event : Event) (before : Traced) : Prop :=
  match event with
  | .committed (.transition item toState _) =>
      item.itemState = .blocked → MayResume (before.trail item.releaseItemId) toState
  | _ => True

/-- A transition keeps the trails in order exactly when it resumes no item
further than it got. -/
theorem Sound.transition_iff {trail : Uuid → List ItemState}
    (sound : Sound log.states trail) (moves : Moves log row next) :
    Sound next.states (Release.enter trail (row.releaseItemId, row.toState)) ↔
      (row.fromState = .blocked → MayResume (trail row.releaseItemId) row.toState) := by
  refine ⟨fun after blocked => ?_, sound.move moves⟩
  have stored : next.states row.releaseItemId = some row.toState := by
    rw [moves.moved]
    exact Function.update_self _ _ _
  have earned := after.earned _ _ stored
  rw [Release.enter, Function.update_self] at earned
  cases toState : row.toState with
  | staged =>
      rw [toState] at earned
      exact (earned_concat_iff (.inl rfl)).mp earned
  | approved =>
      rw [toState] at earned
      exact (earned_concat_iff (.inr rfl)).mp earned
  | _ => exact trivial

/-- A transaction keeps the trails in order exactly when it resumes no item
further than it got. -/
theorem Step.sound_iff {before after : Traced} {event : Event}
    (sound : Sound before.database.itemState before.trail) (taken : Step before event after) :
    Sound after.database.itemState after.trail ↔ event.ResumesEarned before := by
  cases taken with
  | rolledBack => exact iff_of_true sound trivial
  | committed committed =>
      rename_i call
      obtain ⟨database, ran, rfl⟩ := map_eq_ok.mp committed
      rcases ServiceCall.run_cases ran with
        ⟨item, toState, audit, rfl, moves⟩ | ⟨releaseItemId, rfl, written⟩ |
        ⟨other, entered, rows, moved, forward⟩
      · have entered : (ServiceCall.transition item toState audit).entered
            before.database database = [(item.releaseItemId, toState)] := by
          change (database.history.drop before.database.history.length).map _ = _
          rw [drop_history (.single moves)]
          rfl
        rw [entered]
        exact sound.transition_iff moves
      · refine iff_of_true ?_ trivial
        change Sound database.itemState _
        rw [written, ServiceCall.entered]
        split_ifs
        · exact sound.enter (List.nil_sublist _) (by rintro ⟨⟩)
        · exact sound
      · have earned : (Event.committed call).ResumesEarned before := by
          cases call with
          | transition item toState audit => exact (other _ _ _ rfl).elim
          | _ => exact trivial
        refine iff_of_true ?_ earned
        rw [entered, drop_history moved]
        exact sound.moves moved forward

/-- In runs that resume no blocked item further than it got, every item that
enters `PUBLISHING` has been validated, then staged, then approved since it was
last queued; and the next transaction keeps the trails in order exactly when it
resumes no item further either. -/
theorem published_items_validated {start : Database} {reached : Traced} {events : List Event}
    (pending : Pending start)
    (run : Exec (Guarded Step Event.ResumesEarned) (.start start) events
      reached) :
    (∀ releaseItemId, PublishedValidated (reached.trail releaseItemId)) ∧
      ∀ event after, Step reached event after →
        (Sound after.database.itemState after.trail ↔
          event.ResumesEarned reached) := by
  obtain ⟨sound, decides⟩ := run.guarded_invariant
    (fun traced => Sound traced.database.itemState traced.trail)
    pending.sound fun before event after held taken => taken.sound_iff held
  exact ⟨sound.validated, decides⟩

/-! ## One item -/

/-- The calls commit one after the other. -/
def commitAll (calls : List ServiceCall) (start : Traced) : Except String Traced :=
  calls.foldlM Traced.commit start

theorem exec_of_commitAll {condition : Event → Traced → Prop}
    {calls : List ServiceCall} {start reached : Traced}
    (met : ∀ call ∈ calls, ∀ before, condition (.committed call) before)
    (committed : commitAll calls start = .ok reached) :
    Exec (Guarded Step condition) start (calls.map .committed) reached := by
  induction calls generalizing start with
  | nil =>
      rw [commitAll, List.foldlM_nil, pure_eq_ok] at committed
      rw [committed]
      exact .nil reached
  | cons call calls ih =>
      rw [commitAll, List.foldlM_cons] at committed
      obtain ⟨next, first, rest⟩ := bind_eq_ok.mp committed
      rw [List.forall_mem_cons] at met
      exact .cons ⟨.committed first, met.1 start⟩ (ih met.2 rest)

/-- An item as it is loaded in a state. -/
def sampleItem (state : ItemState) : ReleaseItemRecord where
  releaseItemId := 5
  releaseId := 1
  propertyId := 2
  reportVariant := "PUBLIC"
  membershipOrdinal := 1
  channel := some "WEB"
  itemState := state
  targetSnapshotId := none
  targetReportId := some 3
  targetRenderId := some 4
  targetSemanticFingerprint := none
  targetPresentationFingerprint := none
  lastErrorCode := none

/-- A release with a manifest. -/
def sampleRelease : ReleaseRecord where
  releaseId := 1
  policyVersion := some "1.0.0"
  membershipFingerprint := some (String.ofList (List.replicate 64 'a'))
  manifestFingerprint := some (String.ofList (List.replicate 64 'b'))
  totalItemCount := 1

/-- The release with its item in `PENDING`. -/
def samplePending : Database where
  releases := [sampleRelease]
  manifests := []
  items := [sampleItem .pending]
  history := []
  approvals := []
  requests := []
  referenced := ⟨[], [], [], []⟩

theorem samplePending_pending : Pending samplePending := by
  intro releaseItemId state stored
  obtain ⟨item, found, rfl⟩ := Option.map_eq_some_iff.mp stored
  have present := List.mem_of_find?_eq_some found
  rw [List.mem_singleton.mp present]
  rfl

def sampleAudit : Audit :=
  ⟨"RELEASE_SERVICE", none, none⟩

/-- The publication of one item that succeeds. -/
def samplePublish : ServiceCall :=
  .publish ⟨⟨0, fun _ _ => true⟩, 100, by decide⟩
    [⟨sampleItem .approved, .ok ⟨"PUBLISHED", none⟩⟩] sampleAudit

/-- The way from `PENDING` through every service. -/
def sampleCalls : List ServiceCall :=
  [.coordinate true [⟨sampleItem .pending, .ok (), .ok ()⟩] sampleAudit,
    .transition (sampleItem .generationQueued) .generating sampleAudit,
    .transition (sampleItem .generating) .generated sampleAudit,
    .transition (sampleItem .generated) .validated sampleAudit,
    .stage [sampleItem .validated] sampleAudit,
    .approve sampleRelease [sampleItem .staged] "OPERATOR" "RELEASE_APPROVED" none,
    samplePublish]

/-- Where calls lead an item. -/
def sampleTrail (calls : List ServiceCall) : Option (List ItemState) :=
  (commitAll calls (.start samplePending)).toOption.map fun reached =>
    reached.trail 5

theorem exists_of_sampleTrail {calls : List ServiceCall} {states : List ItemState}
    (leads : sampleTrail calls = some states) :
    ∃ reached, commitAll calls (.start samplePending) = .ok reached ∧
      reached.trail ⟨5, by decide⟩ = states := by
  unfold sampleTrail at leads
  cases committed : commitAll calls (.start samplePending) with
  | error message =>
      rw [committed] at leads
      cases leads
  | ok reached =>
      rw [committed] at leads
      exact ⟨reached, rfl, Option.some.inj leads⟩

theorem sampleCalls_earned :
    ∀ call ∈ sampleCalls, ∀ before, (Event.committed call).ResumesEarned before := by
  simp [sampleCalls, samplePublish, Event.ResumesEarned, sampleItem]

theorem published_items_validated_sample :
    PublishedValidated [.generationQueued, .generating, .generated,
      .validated, .staged, .approved, .publishing, .published] := by
  have leads : sampleTrail sampleCalls = some [.generationQueued,
      .generating, .generated, .validated, .staged, .approved, .publishing,
      .published] := by
    decide +kernel
  obtain ⟨reached, committed, trail⟩ := exists_of_sampleTrail leads
  have validated := (published_items_validated samplePending_pending
    (exec_of_commitAll sampleCalls_earned committed)).1 ⟨5, by decide⟩
  rwa [trail] at validated

/-- An item that is blocked at once can be resumed as approved, and is then
published without validation. -/
theorem unvalidated_item_published :
    ∃ (start : Database) (reached : Traced) (events : List Event)
      (releaseItemId : Uuid),
      Pending start ∧ Exec Step (.start start) events reached ∧
      reached.trail releaseItemId =
        [.blocked, .approved, .publishing, .published] ∧
      ¬PublishedValidated (reached.trail releaseItemId) := by
  have leads : sampleTrail
      [.transition (sampleItem .pending) .blocked sampleAudit,
        .transition (sampleItem .blocked) .approved sampleAudit,
        samplePublish] =
      some [.blocked, .approved, .publishing, .published] := by
    decide +kernel
  obtain ⟨reached, committed, trail⟩ := exists_of_sampleTrail leads
  have run : Exec (Guarded Step fun _ _ => True) _ _ reached :=
    exec_of_commitAll (fun _ _ _ => trivial) committed
  refine ⟨samplePending, reached, _, ⟨5, by decide⟩, samplePending_pending,
    run.of_guarded, trail, ?_⟩
  rw [trail]
  intro validated
  have shown := validated [.blocked, .approved] [.published] rfl
  revert shown
  decide

end SanTanHeights.Release
