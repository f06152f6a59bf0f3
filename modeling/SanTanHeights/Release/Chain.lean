import SanTanHeights.Release.Validation

/-!
# The history of an item as a chain

Every move that the services make is recorded, so that the rows of an item
lead from `PENDING` to its stored state.  The recovery action moves an item
and records nothing: from then on the rows end in a state that the item has
left.
-/

namespace SanTanHeights.Release

open Foundation Foundation.Outcome Foundation.Runs Foundation.Chains

/-- The history rows of an item, in order. -/
def ItemLog.rowsOf (log : ItemLog) (releaseItemId : Uuid) : List ReleaseItemHistory :=
  log.history.filter fun row => row.releaseItemId = releaseItemId

/-- The rows of every item lead from `PENDING` to its stored state. -/
def ItemLog.Linked (log : ItemLog) : Prop :=
  ∀ releaseItemId state, log.states releaseItemId = some state →
    Leads ReleaseItemHistory.fromState ReleaseItemHistory.toState
      .pending (log.rowsOf releaseItemId) state

/-- Items that have not been worked on. -/
structure Fresh (database : Database) : Prop where
  pending : Pending database
  unrecorded : database.history = []

theorem Fresh.linked {database : Database} (fresh : Fresh database) :
    database.itemLog.Linked := by
  intro releaseItemId state stored
  rw [ItemLog.rowsOf, Database.itemLog, fresh.unrecorded, List.filter_nil]
  exact (fresh.pending releaseItemId state stored).symm

/-! ## Moves -/

theorem ItemLog.rowsOf_move (log : ItemLog) (row : ReleaseItemHistory) (releaseItemId : Uuid) :
    (log.move row).rowsOf releaseItemId =
      if row.releaseItemId = releaseItemId then
        log.rowsOf releaseItemId ++ [row]
      else log.rowsOf releaseItemId := by
  unfold rowsOf move
  rw [List.filter_append, List.filter_singleton]
  split_ifs with own
  · rw [decide_eq_true own, cond_true]
  · rw [decide_eq_false own, cond_false, List.append_nil]

/-- A recorded move adds the next row. -/
theorem ItemLog.Linked.move {before after : ItemLog} {row : ReleaseItemHistory}
    (linked : before.Linked) (moves : Moves before row after) :
    after.Linked := by
  intro releaseItemId state stored
  rw [moves.moved, ItemLog.rowsOf_move]
  rw [moves.moved] at stored
  change Function.update before.states row.releaseItemId (some row.toState)
    releaseItemId = some state at stored
  by_cases own : row.releaseItemId = releaseItemId
  · subst own
    have entered : row.toState = state := by
      rw [Function.update_self] at stored
      exact Option.some.inj stored
    have recorded := linked row.releaseItemId row.fromState moves.stored
    rw [if_pos rfl, leads_concat_iff]
    exact ⟨recorded, entered⟩
  · rw [Function.update_of_ne (Ne.symm own)] at stored
    rw [if_neg own]
    exact linked releaseItemId state stored

theorem ItemLog.Linked.moves {before after : ItemLog} {rows : List ReleaseItemHistory}
    (linked : before.Linked) (moved : Exec Moves before rows after) :
    after.Linked := by
  apply moved.invariant linked
  intro earlier row later held taken
  exact held.move taken

/-- Every call but the recovery action makes a chain of moves. -/
theorem ServiceCall.moves_of_run {call : ServiceCall} {before after : Database}
    (ran : call.run before = .ok after)
    (service : ∀ releaseItemId, call ≠ .retryReleaseItem releaseItemId) :
    ∃ rows, Exec Moves before.itemLog rows after.itemLog := by
  rcases ServiceCall.run_cases ran with
    ⟨item, toState, audit, -, moves⟩ | ⟨releaseItemId, retries, -⟩ |
    ⟨-, -, rows, moved, -⟩
  · exact ⟨_, .single moves⟩
  · exact absurd retries (service releaseItemId)
  · exact ⟨rows, moved⟩

/-! ## The recovery action -/

/-- An item that the recovery action moves. -/
def Database.Retriable (database : Database) (releaseItemId : Uuid) : Prop :=
  database.itemState releaseItemId = some .failed ∨ database.itemState releaseItemId = some .blocked

/-- The recovery action keeps the chains exactly when it moves nothing. -/
theorem retryReleaseItem_linked_iff
    {releaseItemId : Uuid} {before after : Database} {updated : Bool}
    (linked : before.itemLog.Linked)
    (retried : retryReleaseItem releaseItemId before = .ok (updated, after)) :
    after.itemLog.Linked ↔ ¬before.Retriable releaseItemId := by
  unfold retryReleaseItem at retried
  rcases Database.updateItem_cases retried with
    ⟨-, rfl, absent⟩ | ⟨-, ⟨fromState, listed, stored⟩, history, states⟩
  · have idle : ¬after.Retriable releaseItemId :=
      not_or.mpr ⟨absent _ (by simp), absent _ (by simp)⟩
    exact iff_of_true linked idle
  · have left : before.Retriable releaseItemId := by
      rw [Database.Retriable, stored]
      simpa using listed
    apply iff_of_false _ (not_not.mpr left)
    intro relinked
    have entered : after.itemState releaseItemId =
        some .generationQueued := by
      rw [states, Function.update_self]
    -- The rows are those from before, and these end in the state left.
    have unchanged : after.itemLog.rowsOf releaseItemId =
        before.itemLog.rowsOf releaseItemId := by
      unfold ItemLog.rowsOf Database.itemLog
      rw [history]
    have earlier := linked releaseItemId fromState stored
    have later := relinked releaseItemId _ entered
    rw [unchanged] at later
    rw [earlier.unique later] at listed
    revert listed
    decide

/-! ## Runs -/

/-- A transaction that does not move an item without recording it. -/
def Event.Records (event : Event) (before : Traced) : Prop :=
  match event with
  | .committed (.retryReleaseItem releaseItemId) =>
      ¬before.database.Retriable releaseItemId
  | _ => True

theorem Step.linked_iff {before after : Traced} {event : Event}
    (linked : before.database.itemLog.Linked) (taken : Step before event after) :
    after.database.itemLog.Linked ↔ event.Records before := by
  cases taken with
  | rolledBack call => exact iff_of_true linked trivial
  | @committed _ call committed =>
      obtain ⟨database, ran, rfl⟩ := map_eq_ok.mp committed
      by_cases retries : ∃ releaseItemId, call = .retryReleaseItem releaseItemId
      · obtain ⟨releaseItemId, rfl⟩ := retries
        obtain ⟨⟨updated, after⟩, retried, rfl⟩ := map_eq_ok.mp ran
        exact retryReleaseItem_linked_iff linked retried
      · rw [not_exists] at retries
        obtain ⟨rows, moved⟩ := ServiceCall.moves_of_run ran retries
        apply iff_of_true (linked.moves moved)
        cases call with
        | retryReleaseItem releaseItemId =>
            exact absurd rfl (retries releaseItemId)
        | _ => trivial

/-- From fresh items, the history stays a chain for every item as long as the
recovery action finds none to move, and a step breaks the chains exactly when
it does. -/
theorem item_history_chained {start : Database} {reached : Traced} {events : List Event}
    (fresh : Fresh start)
    (run : Exec (Guarded Step Event.Records) (.start start) events reached) :
    reached.database.itemLog.Linked ∧ ∀ event after, Step reached event after →
        (after.database.itemLog.Linked ↔ event.Records reached) := by
  apply run.guarded_invariant fun traced => traced.database.itemLog.Linked
  · exact fresh.linked
  · intro before event after linked taken
    exact taken.linked_iff linked

theorem samplePending_fresh : Fresh samplePending := ⟨samplePending_pending, rfl⟩

/-- The item blocked by a transition of its own. -/
def sampleBlocking : ServiceCall :=
  .transition (sampleItem .pending) .blocked sampleAudit

/-- The stored state of the item after some calls, and the ends of its
rows. -/
def sampleChain (calls : List ServiceCall) :
    Option (Option ItemState × List (ItemState × ItemState)) :=
  (commitAll calls (.start samplePending)).toOption.map fun reached =>
    (reached.database.itemState 5,
      (reached.database.itemLog.rowsOf 5).map fun row =>
        (row.fromState, row.toState))

theorem exists_of_sampleChain {calls : List ServiceCall} {state : Option ItemState}
    {rows : List (ItemState × ItemState)} (leads : sampleChain calls = some (state, rows)) :
    ∃ reached, commitAll calls (.start samplePending) = .ok reached ∧
      reached.database.itemState ⟨5, by decide⟩ = state ∧
      (reached.database.itemLog.rowsOf ⟨5, by decide⟩).map (fun row =>
        (row.fromState, row.toState)) = rows := by
  unfold sampleChain at leads
  cases committed : commitAll calls (.start samplePending) with
  | error message =>
      rw [committed] at leads
      cases leads
  | ok reached =>
      rw [committed] at leads
      have both := Prod.mk.inj (Option.some.inj leads)
      exact ⟨reached, rfl, both.1, both.2⟩

theorem item_history_chained_sample :
    ∃ reached : Traced,
      reached.database.itemState ⟨5, by decide⟩ = some .blocked ∧
      reached.database.itemLog.Linked := by
  have leads : sampleChain [sampleBlocking] =
      some (some .blocked, [(.pending, .blocked)]) := by
    decide +kernel
  obtain ⟨reached, committed, stored, -⟩ := exists_of_sampleChain leads
  have recorded : ∀ call ∈ [sampleBlocking], ∀ before,
      (Event.committed call).Records before := by
    simp [sampleBlocking, Event.Records]
  have chained := item_history_chained samplePending_fresh
    (exec_of_commitAll recorded committed)
  exact ⟨reached, stored, chained.1⟩

/-- An item that is blocked and then retried is queued, but its history ends
in `BLOCKED`. -/
theorem retried_item_unrecorded :
    ∃ (start : Database) (reached : Traced) (events : List Event),
      Fresh start ∧ Exec Step (.start start) events reached ∧
      ¬reached.database.itemLog.Linked := by
  have leads : sampleChain [sampleBlocking, .retryReleaseItem ⟨5, by decide⟩] =
      some (some .generationQueued, [(.pending, .blocked)]) := by
    decide +kernel
  obtain ⟨reached, committed, stored, rows⟩ := exists_of_sampleChain leads
  have run : Exec (Guarded Step fun _ _ => True) _ _ reached :=
    exec_of_commitAll (fun _ _ _ => trivial) committed
  refine ⟨samplePending, reached, _, samplePending_fresh, run.of_guarded, ?_⟩
  intro linked
  have chain := linked ⟨5, by decide⟩ .generationQueued stored
  obtain ⟨row, single, ends⟩ := List.map_eq_singleton_iff.mp rows
  rw [single] at chain
  have entered : row.toState = .blocked := (Prod.mk.inj ends).2
  rw [Leads, Leads, entered] at chain
  cases chain.2

end SanTanHeights.Release
