import SanTanHeights.Foundation.Runs
import SanTanHeights.Release.Lifecycle

/-!
# Release runs

Every service moves items one state at a time: what it does to their states
and their history is a chain of moves along `ITEM_TRANSITIONS`.  A run of
transactions carries the states that each item has been in beside the
database, since the recovery action moves items without recording it.
-/

namespace SanTanHeights.Release

open Foundation Foundation.Outcome Foundation.Runs

/-! ## Moves -/

/-- The states of the items, and what is recorded of them. -/
@[ext] structure ItemLog where
  states : Uuid → Option ItemState
  history : List ReleaseItemHistory

def Database.itemLog (database : Database) : ItemLog where
  states := database.itemState
  history := database.history

/-- A recorded move of an item. -/
def ItemLog.move (log : ItemLog) (row : ReleaseItemHistory) : ItemLog where
  states := Function.update log.states row.releaseItemId (some row.toState)
  history := log.history ++ [row]

/-- A move that `ITEM_TRANSITIONS` allows from the stored state. -/
structure Moves (before : ItemLog) (row : ReleaseItemHistory) (after : ItemLog) : Prop where
  allowed : row.toState ∈ itemTransitions row.fromState
  stored : before.states row.releaseItemId = some row.fromState
  moved : after = before.move row

variable {rows : List ReleaseItemHistory} {toState : ItemState} {audit : Audit}
  {before after : Database} {item : ReleaseItemRecord}
  {items : List ReleaseItemRecord} {count : Nat}

/-- What a chain of moves appends to the history. -/
theorem history_of_moves {before after : ItemLog} (moved : Exec Moves before rows after) :
    after.history = before.history ++ rows := by
  have initial : before.history = before.history ++ [] := by simp
  apply moved.history_invariant initial
  intro earlier log row next held taken
  rw [taken.moved, ItemLog.move, held, List.append_assoc]

/-- An item is put into a state. -/
def settle (states : Uuid → Option ItemState) (entry : Uuid × ItemState) :
    Uuid → Option ItemState :=
  Function.update states entry.1 (some entry.2)

/-- Where a chain of moves leaves the items. -/
theorem states_of_moves {before after : ItemLog} (moved : Exec Moves before rows after) :
    after.states =
      (rows.map fun row => (row.releaseItemId, row.toState)).foldl settle before.states := by
  induction moved with
  | nil log => rfl
  | cons taken _ ih =>
      rw [ih, taken.moved]
      rfl

/-- A transition is a move. -/
theorem transition_moves (ran : transition toState audit before item = .ok after) :
    Moves before.itemLog (item.historyRow toState audit) after.itemLog := by
  unfold transition at ran
  obtain ⟨allowed, continued⟩ := require_bind_eq_ok.mp ran
  obtain ⟨⟨updated, written⟩, update, ended⟩ := bind_eq_ok.mp continued
  simp only [require_bind_eq_ok, pure_eq_ok] at ended
  obtain ⟨rfl, rfl⟩ := ended
  rcases Database.updateItem_cases update with
    ⟨impossible, -, -⟩ | ⟨-, ⟨fromState, listed, stored⟩, history, states⟩
  · cases impossible
  · rw [List.mem_singleton] at listed
    rw [listed] at stored
    refine ⟨allowed, stored, ?_⟩
    rw [ItemLog.move, Database.itemLog, Database.itemLog, ItemLog.mk.injEq]
    exact ⟨states, congrArg (· ++ _) history⟩

/-! ## Chains of moves -/

/-- A move out of `BLOCKED` into a state past validation. -/
def ReleaseItemHistory.Resumes (row : ReleaseItemHistory) : Prop :=
  row.fromState = .blocked ∧ (row.toState = .staged ∨ row.toState = .approved)

/-- A chain of moves that resumes nothing. -/
def Advances (before after : Database) : Prop :=
  ∃ rows, Exec Moves before.itemLog rows after.itemLog ∧ ∀ row ∈ rows, ¬row.Resumes

namespace Advances

variable {first middle last : Database}

theorem of_eq (same : last.itemLog = first.itemLog) : Advances first last := by
  refine ⟨[], ?_, by simp⟩
  rw [same]
  exact .nil _

theorem trans (earlier : Advances first middle) (later : Advances middle last) :
    Advances first last := by
  obtain ⟨rows, moved, forward⟩ := earlier
  obtain ⟨others, continued, onward⟩ := later
  refine ⟨rows ++ others, moved.append continued, ?_⟩
  intro row present
  rcases List.mem_append.mp present with present | present
  · exact forward row present
  · exact onward row present

/-- A transition that resumes nothing. -/
theorem of_transition (ran : transition toState audit first item = .ok last)
    (forward : ¬(item.historyRow toState audit).Resumes) :
    Advances first last := by
  refine ⟨[item.historyRow toState audit], .single (transition_moves ran), ?_⟩
  intro row present
  rw [List.mem_singleton.mp present]
  exact forward

/-- A transition into a state that nothing resumes to. -/
theorem of_transition_to (ran : transition toState audit first item = .ok last)
    (notStaged : toState ≠ .staged) (notApproved : toState ≠ .approved) :
    Advances first last := by
  apply of_transition ran
  rintro ⟨-, isStaged | isApproved⟩
  · exact notStaged isStaged
  · exact notApproved isApproved

/-- A transition of an item that is not blocked. -/
theorem of_transition_from (ran : transition toState audit first item = .ok last)
    (notBlocked : item.itemState ≠ .blocked) :
    Advances first last := by
  apply of_transition ran
  exact fun resumes => notBlocked resumes.1

/-- A loop whose turns advance advances. -/
theorem of_foldlM {σ α : Type} {f : σ → α → Except String σ} (database : σ → Database)
    {items : List α} {state final : σ}
    (turn : ∀ item ∈ items, ∀ state next, f state item = .ok next →
      Advances (database state) (database next))
    (ran : items.foldlM f state = .ok final) :
    Advances (database state) (database final) := by
  induction items generalizing state with
  | nil =>
      rw [List.foldlM_nil, pure_eq_ok] at ran
      rw [ran]
      exact of_eq rfl
  | cons item items ih =>
      rw [List.foldlM_cons] at ran
      obtain ⟨next, taken, rest⟩ := bind_eq_ok.mp ran
      rw [List.forall_mem_cons] at turn
      exact (turn.1 _ _ taken).trans (ih turn.2 rest)

end Advances

/-! ## The services -/

theorem queueGeneration_advances (hasQueueRender : Bool) (audit : Audit) (database : Database)
    (attempt : GenerationAttempt) :
    Advances database (queueGeneration hasQueueRender audit database attempt).2 := by
  have requested : ∀ (before : Database) (kind : GenerationKind),
      Advances before (before.request attempt.item kind) :=
    fun _ _ => .of_eq rfl
  unfold queueGeneration
  dsimp only
  split
  · exact .of_eq rfl
  · split_ifs
    · split
      · exact requested _ _
      · refine (requested _ .report).trans ((requested _ .render).trans ?_)
        split
        · rename_i ran
          exact .of_transition_to ran (by rintro ⟨⟩) (by rintro ⟨⟩)
        · exact .of_eq rfl
    · refine (requested _ .report).trans ?_
      split
      · rename_i ran
        exact .of_transition_to ran (by rintro ⟨⟩) (by rintro ⟨⟩)
      · exact .of_eq rfl

theorem coordinateItem_advances (hasQueueRender : Bool) (audit : Audit)
    (state : GenerationResult × Database) (attempt : GenerationAttempt) :
    Advances state.2 (coordinateItem hasQueueRender audit state attempt).2 := by
  obtain ⟨result, database⟩ := state
  have advances := queueGeneration_advances hasQueueRender audit database attempt
  unfold coordinateItem
  dsimp only
  split_ifs
  · split
    · rename_i queued
      rw [queued] at advances
      exact advances
    · rename_i blocked
      rw [blocked] at advances
      exact advances
  · exact .of_eq rfl

theorem coordinate_advances (hasQueueRender : Bool) (attempts : List GenerationAttempt)
    (audit : Audit) (database : Database) :
    Advances database (coordinate hasQueueRender attempts audit database).2 := by
  suffices general : ∀ state : GenerationResult × Database, Advances state.2
        (attempts.foldl (coordinateItem hasQueueRender audit) state).2 from
    general (⟨[], []⟩, database)
  induction attempts with
  | nil => exact fun state => .of_eq rfl
  | cons attempt attempts ih =>
      intro state
      exact (coordinateItem_advances _ _ _ _).trans (ih _)

theorem stage_advances (ran : stage items audit before = .ok (count, after)) :
    Advances before after := by
  simp only [stage, require_bind_eq_ok] at ran
  obtain ⟨-, validated, continued⟩ := ran
  obtain ⟨staged, moved, ended⟩ := bind_eq_ok.mp continued
  cases ended
  refine .of_foldlM id ?_ moved
  intro item present state next taken
  apply Advances.of_transition_from taken
  rw [validated item present]
  exact nofun

theorem approve_advances {release : ReleaseRecord} {approvedBy reasonCode status : String}
    {correlationId : Option Uuid}
    (ran : approve release items approvedBy reasonCode correlationId before = .ok (status, after)) :
    Advances before after := by
  unfold approve at ran
  obtain ⟨fingerprint, -, continued⟩ := bind_eq_ok.mp ran
  obtain ⟨⟨-, staged⟩, continued⟩ := require_bind_eq_ok.mp continued
  obtain ⟨decided, inserted, continued⟩ := bind_eq_ok.mp continued
  obtain ⟨approved, moved, ended⟩ := bind_eq_ok.mp continued
  cases ended
  simp only [Database.insertApproval, checkHash, require_bind_eq_ok, pure_eq_ok] at inserted
  have recorded : Advances before decided := by
    rw [← inserted.2.2]
    exact .of_eq rfl
  refine recorded.trans (.of_foldlM id ?_ moved)
  intro item present state next taken
  apply Advances.of_transition_from taken
  rw [staged item present]
  exact nofun

theorem cancel_advances (ran : cancel items audit before = .ok (count, after)) :
    Advances before after := by
  unfold cancel at ran
  obtain ⟨-, continued⟩ := require_bind_eq_ok.mp ran
  obtain ⟨cancelled, moved, ended⟩ := bind_eq_ok.mp continued
  cases ended
  refine .of_foldlM id ?_ moved
  intro item _ state next taken
  exact .of_transition_to taken nofun nofun

theorem publishItem_advances {rollout next : Rollout} {attempt : PublicationAttempt}
    (ran : publishItem audit rollout attempt = .ok next) :
    Advances rollout.database next.database := by
  unfold publishItem at ran
  obtain ⟨started, begun, continued⟩ := bind_eq_ok.mp ran
  obtain ⟨outcome, -, continued⟩ := bind_eq_ok.mp continued
  have publishing : Advances rollout.database started := .of_transition_to begun nofun nofun
  dsimp only at continued
  split_ifs at continued
  · obtain ⟨published, moved, ended⟩ := bind_eq_ok.mp continued
    cases ended
    exact publishing.trans (.of_transition_to moved nofun nofun)
  · obtain ⟨failed, moved, ended⟩ := bind_eq_ok.mp continued
    cases ended
    exact publishing.trans (.of_transition_to moved nofun nofun)

theorem publishChunks_advances {policy : PartialFailurePolicyEngine}
    {chunks : List (List PublicationAttempt)} {rollout final : Rollout}
    (ran : publishChunks policy audit chunks rollout = .ok final) :
    Advances rollout.database final.database := by
  induction chunks generalizing rollout with
  | nil =>
      rw [publishChunks, pure_eq_ok] at ran
      rw [ran]
      exact .of_eq rfl
  | cons chunk chunks ih =>
      rw [publishChunks] at ran
      obtain ⟨next, published, continued⟩ := bind_eq_ok.mp ran
      have advances : Advances rollout.database next.database :=
        .of_foldlM Rollout.database (fun _ _ _ _ taken => publishItem_advances taken) published
      split_ifs at continued
      · rw [pure_eq_ok] at continued
        rw [← continued]
        exact advances
      · exact advances.trans (ih continued)

theorem rollback_advances {attempts : List PublicationAttempt}
    (ran : rollback attempts audit before = .ok (count, after)) :
    Advances before after := by
  unfold rollback at ran
  obtain ⟨rolledBack, moved, ended⟩ := bind_eq_ok.mp ran
  cases ended
  refine .of_foldlM id ?_ moved
  intro attempt _ state next taken
  unfold rollbackItem at taken
  obtain ⟨outcome, -, continued⟩ := bind_eq_ok.mp taken
  obtain ⟨-, transitioned⟩ := require_bind_eq_ok.mp continued
  exact .of_transition_to transitioned nofun nofun

/-! ## Runs of the services -/

/-- A call of one of the services, or of the recovery action. -/
inductive ServiceCall where
  | coordinate (hasQueueRender : Bool) (attempts : List GenerationAttempt) (audit : Audit)
  | transition (item : ReleaseItemRecord) (toState : ItemState) (audit : Audit)
  | stage (items : List ReleaseItemRecord) (audit : Audit)
  | approve (release : ReleaseRecord) (items : List ReleaseItemRecord)
      (approvedBy reasonCode : String) (correlationId : Option Uuid)
  | publish (service : ChunkedPublicationService)
      (attempts : List PublicationAttempt) (audit : Audit)
  | rollback (attempts : List PublicationAttempt) (audit : Audit)
  | cancel (items : List ReleaseItemRecord) (audit : Audit)
  | retryReleaseItem (releaseItemId : Uuid)

namespace ServiceCall

/-- What a call leaves. -/
def run (call : ServiceCall) (database : Database) : Except String Database :=
  match call with
  | .coordinate hasQueueRender attempts audit =>
      .ok (Release.coordinate hasQueueRender attempts audit database).2
  | .transition item toState audit =>
      Release.transition toState audit database item
  | .stage items audit => (Release.stage items audit database).map Prod.snd
  | .approve release items approvedBy reasonCode correlationId =>
      (Release.approve release items approvedBy reasonCode correlationId database).map Prod.snd
  | .publish service attempts audit =>
      (service.publish attempts audit database).map Rollout.database
  | .rollback attempts audit =>
      (Release.rollback attempts audit database).map Prod.snd
  | .cancel items audit => (Release.cancel items audit database).map Prod.snd
  | .retryReleaseItem releaseItemId =>
      (Release.retryReleaseItem releaseItemId database).map Prod.snd

/-- The states that items enter while a call runs, in order.  All moves are
read off the history, but the recovery action writes no history. -/
def entered (call : ServiceCall) (before after : Database) : List (Uuid × ItemState) :=
  match call with
  | .retryReleaseItem releaseItemId =>
      if before.itemState releaseItemId = some .failed ∨
          before.itemState releaseItemId = some .blocked then
        [(releaseItemId, .generationQueued)]
      else []
  | _ => (after.history.drop before.history.length).map fun row =>
      (row.releaseItemId, row.toState)

/-- A call is a transition, the recovery action, or a service, which resumes
nothing. -/
theorem run_cases {call : ServiceCall} (ran : call.run before = .ok after) :
    (∃ item toState audit, call = .transition item toState audit ∧
      Moves before.itemLog (item.historyRow toState audit) after.itemLog) ∨
    (∃ releaseItemId, call = .retryReleaseItem releaseItemId ∧ after.itemState =
        (call.entered before after).foldl settle before.itemState) ∨
    ((∀ item toState audit, call ≠ .transition item toState audit) ∧ call.entered before after =
        (after.history.drop before.history.length).map (fun row =>
          (row.releaseItemId, row.toState)) ∧
      Advances before after) := by
  cases call with
  | transition item toState audit =>
      exact .inl ⟨item, toState, audit, rfl, transition_moves ran⟩
  | retryReleaseItem releaseItemId =>
      refine .inr (.inl ⟨releaseItemId, rfl, ?_⟩)
      obtain ⟨⟨updated, next⟩, retried, ended⟩ := map_eq_ok.mp ran
      cases ended
      unfold Release.retryReleaseItem at retried
      rcases Database.updateItem_cases retried with
        ⟨-, rfl, absent⟩ | ⟨-, ⟨fromState, listed, stored⟩, -, states⟩
      · have nothing : ¬(next.itemState releaseItemId = some .failed ∨
            next.itemState releaseItemId = some .blocked) :=
          not_or.mpr ⟨absent _ (by simp), absent _ (by simp)⟩
        rw [entered, if_neg nothing]
        rfl
      · have retriable : before.itemState releaseItemId = some .failed ∨
            before.itemState releaseItemId = some .blocked := by
          rw [stored]
          simpa using listed
        rw [entered, if_pos retriable]
        exact states
  | coordinate hasQueueRender attempts audit =>
      cases ran
      exact .inr (.inr ⟨fun _ _ _ => ServiceCall.noConfusion, rfl, coordinate_advances _ _ _ _⟩)
  | stage items audit =>
      obtain ⟨⟨count, next⟩, staged, rfl⟩ := map_eq_ok.mp ran
      exact .inr (.inr ⟨fun _ _ _ => ServiceCall.noConfusion, rfl, stage_advances staged⟩)
  | approve release items approvedBy reasonCode correlationId =>
      obtain ⟨⟨status, next⟩, approved, rfl⟩ := map_eq_ok.mp ran
      exact .inr (.inr ⟨fun _ _ _ => ServiceCall.noConfusion, rfl, approve_advances approved⟩)
  | publish service attempts audit =>
      obtain ⟨rollout, published, rfl⟩ := map_eq_ok.mp ran
      exact .inr (.inr ⟨fun _ _ _ => ServiceCall.noConfusion, rfl,
        publishChunks_advances published⟩)
  | rollback attempts audit =>
      obtain ⟨⟨count, next⟩, rolledBack, rfl⟩ := map_eq_ok.mp ran
      exact .inr (.inr ⟨fun _ _ _ => ServiceCall.noConfusion, rfl, rollback_advances rolledBack⟩)
  | cancel items audit =>
      obtain ⟨⟨count, next⟩, cancelled, rfl⟩ := map_eq_ok.mp ran
      exact .inr (.inr ⟨fun _ _ _ => ServiceCall.noConfusion, rfl, cancel_advances cancelled⟩)

end ServiceCall

/-- A database with the states that each item has entered so far. -/
structure Traced where
  database : Database
  trail : Uuid → List ItemState

/-- An item enters a state. -/
def enter (trail : Uuid → List ItemState) (entry : Uuid × ItemState) : Uuid → List ItemState :=
  Function.update trail entry.1 (trail entry.1 ++ [entry.2])

/-- Nothing was done before a run. -/
def Traced.start (database : Database) : Traced where
  database := database
  trail := fun _ => []

/-- A transaction that commits a call. -/
def Traced.commit (before : Traced) (call : ServiceCall) : Except String Traced :=
  (call.run before.database).map fun database =>
    ⟨database, (call.entered before.database database).foldl enter before.trail⟩

/-- What a chain of moves adds to the history. -/
theorem drop_history (moved : Exec Moves before.itemLog rows after.itemLog) :
    after.history.drop before.history.length = rows := by
  have appended : after.history = before.history ++ rows := history_of_moves moved
  rw [appended, List.drop_left]

/-- What a transaction ends with. -/
inductive Event where
  | committed (call : ServiceCall)
  | rolledBack (call : ServiceCall)

/-- A transaction commits what a call did, or is rolled back, as it is when
the call raises. -/
inductive Step : Traced → Event → Traced → Prop
  | committed {before after : Traced} {call : ServiceCall} :
      before.commit call = .ok after → Step before (.committed call) after
  | rolledBack (before : Traced) (call : ServiceCall) : Step before (.rolledBack call) before

end SanTanHeights.Release
