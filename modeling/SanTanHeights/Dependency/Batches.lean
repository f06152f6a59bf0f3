import Mathlib.Data.String.Basic
import SanTanHeights.Foundation.Keyed
import SanTanHeights.Foundation.Runs
import SanTanHeights.Foundation.Tables
import SanTanHeights.Foundation.Uuid
import SanTanHeights.Shared.Vocabulary

/-!
# Dependency change batches

The tables `orchestration.dependency_change_batches` and
`dependency_change_items`, and `DependencyChangeBatchRepository`.  The
identifiers that the code draws are arguments.  A statement that raises leaves
nothing behind.
-/

namespace SanTanHeights.Dependency

open Foundation Foundation.Outcome Foundation.Runs Shared

/-- `dependency_change_batches.batch_state`. -/
inductive BatchState where
  | discovering
  | evaluating
  | complete
  | partialFailure
  | blocked
  deriving DecidableEq, Repr

/-- `dependency_change_items.item_state`. -/
inductive ItemState where
  | pending
  | evaluating
  | complete
  | failed
  | blocked
  deriving DecidableEq, Repr

/-- The states that `COUNTS` may list. -/
def itemStates : List ItemState :=
  [.pending, .evaluating, .complete, .failed, .blocked]

/-- A row of `orchestration.dependency_change_batches`. -/
structure DependencyChangeBatch where
  batchId : Uuid
  dependencyType : String
  sourceChangeId : String
  oldVersion : Option String
  newVersion : Option String
  batchState : BatchState
  candidatePropertyCount : Nat
  evaluatedPropertyCount : Nat
  affectedPropertyCount : Int
  completedAt : Option Time
  correlationId : Uuid
  deriving DecidableEq

/-- A row of `orchestration.dependency_change_items`. -/
structure DependencyChangeItem where
  itemId : Uuid
  batchId : Uuid
  propertyId : Uuid
  dependencyId : String
  oldFingerprint : Option String
  newFingerprint : Option String
  changeClass : String
  requiredStateBlocked : Bool
  itemState : ItemState
  resultSummary : Option (List (String × Nat))
  lastErrorCode : Option String
  evaluatedAt : Option Time
  deriving DecidableEq

/-- The batch tables, and the properties that items may refer to. -/
structure BatchTables where
  properties : List Uuid
  batches : Table DependencyChangeBatch.batchId
  items : Table DependencyChangeItem.itemId

/-- What `create_batch` is given. -/
structure NewBatch where
  dependencyType : String
  sourceChangeId : String
  correlationId : Uuid
  oldVersion : Option String
  newVersion : Option String

/-- What `add_item` is given. -/
structure NewItem where
  batchId : Uuid
  propertyId : Uuid
  dependencyId : String
  changeClass : String
  oldFingerprint : Option String
  newFingerprint : Option String
  requiredStateBlocked : Bool

/-- The row of `INSERT_BATCH`. -/
def NewBatch.row (new : NewBatch) (batchId : Uuid) : DependencyChangeBatch where
  batchId := batchId
  dependencyType := new.dependencyType
  sourceChangeId := new.sourceChangeId
  oldVersion := new.oldVersion
  newVersion := new.newVersion
  batchState := .discovering
  candidatePropertyCount := 0
  evaluatedPropertyCount := 0
  affectedPropertyCount := 0
  completedAt := none
  correlationId := new.correlationId

/-- The row of `INSERT_ITEM`. -/
def NewItem.row (new : NewItem) (itemId : Uuid) : DependencyChangeItem where
  itemId := itemId
  batchId := new.batchId
  propertyId := new.propertyId
  dependencyId := new.dependencyId
  oldFingerprint := new.oldFingerprint
  newFingerprint := new.newFingerprint
  changeClass := new.changeClass
  requiredStateBlocked := new.requiredStateBlocked
  itemState := .pending
  resultSummary := none
  lastErrorCode := none
  evaluatedAt := none

/-- What `reconcile_batch` computes and returns. -/
structure Reconciliation where
  batchState : BatchState
  candidatePropertyCount : Nat
  evaluatedPropertyCount : Nat
  affectedPropertyCount : Int
  itemStateCounts : List (ItemState × Nat)
  deriving DecidableEq

/-- The state that `reconcile_batch` derives from its counts. -/
def reconciledState (counts : ItemState → Nat) : BatchState :=
  if counts .failed ≠ 0 then .partialFailure
  else if counts .blocked ≠ 0 then .blocked
  else if counts .pending ≠ 0 ∨ counts .evaluating ≠ 0 then .evaluating
  else .complete

/-- The states with which `UPDATE_BATCH` stores a completion time. -/
def BatchState.Completed (state : BatchState) : Prop :=
  state ∈ [BatchState.complete, .partialFailure, .blocked]

instance (state : BatchState) : Decidable state.Completed := inferInstanceAs (Decidable (_ ∈ _))

/-- The assignments of `UPDATE_BATCH`. -/
def DependencyChangeBatch.reconciled
    (batch : DependencyChangeBatch) (outcome : Reconciliation) (now : Time) :
    DependencyChangeBatch :=
  { batch with
    batchState := outcome.batchState
    candidatePropertyCount := outcome.candidatePropertyCount
    evaluatedPropertyCount := outcome.evaluatedPropertyCount
    affectedPropertyCount := outcome.affectedPropertyCount
    completedAt := if outcome.batchState.Completed then some now else none }

theorem completedAt_reconciled
    {batch : DependencyChangeBatch} {outcome : Reconciliation} {now : Time} :
    (batch.reconciled outcome now).completedAt.isSome ↔ outcome.batchState.Completed := by
  unfold DependencyChangeBatch.reconciled
  split_ifs with completed <;> simp [completed]

namespace BatchTables

/-- `create_batch`, with the identifier it draws. -/
def createBatch (tables : BatchTables) (batchId : Uuid) (new : NewBatch) :
    Except String (Uuid × BatchTables) :=
  match tables.batches.rows.find? fun batch =>
      batch.dependencyType = new.dependencyType ∧ batch.sourceChangeId = new.sourceChangeId with
  | some existing => return (existing.batchId, tables)
  | none => do
      let inserted ← orRaise (tables.batches.insert (new.row batchId))
        "duplicate key value violates unique constraint"
      return (batchId, { tables with batches := inserted })

/-- `add_item`, with the identifier it draws. -/
def addItem (tables : BatchTables) (itemId : Uuid) (new : NewItem) :
    Except String (Option Uuid × BatchTables) :=
  if ∃ item ∈ tables.items.rows, item.batchId = new.batchId ∧
      item.propertyId = new.propertyId ∧
      item.dependencyId = new.dependencyId then
    return (none, tables)
  else do
    let inserted ← orRaise (tables.items.insert (new.row itemId))
      "duplicate key value violates unique constraint"
    require ((tables.batches.find new.batchId).isSome ∧ new.propertyId ∈ tables.properties)
      "violates foreign key constraint"
    return (some itemId, { tables with items := inserted })

/-- `CLAIM_ITEMS`: rows that other transactions have locked are skipped. -/
def claimable (tables : BatchTables) (batchId : Uuid) (limit : Nat)
    (locked : List Uuid) : List DependencyChangeItem :=
  (Sorting.sortedBy
    (fun item => toLex (item.propertyId.value, item.dependencyId))
    (tables.items.rows.filter fun item =>
      item.batchId = batchId ∧ item.itemState = .pending ∧ item.itemId ∉ locked)).take limit

/-- `claim_items`. -/
def claimItems (tables : BatchTables) (batchId : Uuid) (limit : Int) (locked : List Uuid) :
    Except String (List DependencyChangeItem × BatchTables) := do
  require (0 ≤ limit) "LIMIT must not be negative"
  let claimed := tables.claimable batchId limit.toNat locked
  return (claimed, { tables with
    items := tables.items.update
      (fun item => item.itemId ∈ claimed.map DependencyChangeItem.itemId ∧
        item.itemState = .pending)
      (fun item => { item with itemState := .evaluating }) fun _ => rfl })

/-- `complete_item`. -/
def completeItem (tables : BatchTables) (itemId : Uuid) (summary : List (String × Nat))
    (now : Time) : BatchTables :=
  { tables with
    items := tables.items.update (fun item => item.itemId = itemId)
      (fun item => { item with
        itemState := .complete
        resultSummary := some summary
        evaluatedAt := some now
        lastErrorCode := none }) fun _ => rfl }

/-- `fail_item`. -/
def failItem (tables : BatchTables) (itemId : Uuid) (errorCode : String)
    (now : Time) : BatchTables :=
  { tables with
    items := tables.items.update (fun item => item.itemId = itemId)
      (fun item => { item with
        itemState := .failed
        lastErrorCode := some errorCode
        evaluatedAt := some now }) fun _ => rfl }

/-- The number of items of a batch in a state. -/
def count (tables : BatchTables) (batchId : Uuid) (state : ItemState) : Nat :=
  tables.items.rows.countP fun item =>
    item.batchId = batchId ∧ item.itemState = state

/-- `COUNTS` lists the states that occur. -/
def counts (tables : BatchTables) (batchId : Uuid) : List (ItemState × Nat) :=
  Keyed.tally itemStates (tables.count batchId)

/-- What `reconcile_batch` reads off the counts. -/
def reconciliation (tables : BatchTables) (batchId : Uuid) (affectedItems : Int) :
    Reconciliation :=
  let counts := tables.counts batchId
  let get := fun state => (counts.lookup state).getD 0
  { batchState := reconciledState get
    candidatePropertyCount := (counts.map Prod.snd).sum
    evaluatedPropertyCount := ([ItemState.complete, .failed, .blocked].map get).sum
    affectedPropertyCount := affectedItems
    itemStateCounts := counts }

/-- `reconcile_batch`. -/
def reconcileBatch (tables : BatchTables) (batchId : Uuid) (affectedItems : Int)
    (now : Time) : Except String (Reconciliation × BatchTables) := do
  let outcome := tables.reconciliation batchId affectedItems
  require ((tables.batches.find batchId).isSome →
      0 ≤ affectedItems ∧ affectedItems < 2 ^ 31 ∧ outcome.candidatePropertyCount < 2 ^ 31)
    "violates check constraint"
  return (outcome, { tables with
    batches := tables.batches.update (fun batch => batch.batchId = batchId)
      (fun batch => batch.reconciled outcome now) fun _ => rfl })

end BatchTables

/-! ## Counting -/

/-- An item of a batch that has not been evaluated. -/
def DependencyChangeItem.Unfinished (item : DependencyChangeItem) (batchId : Uuid) : Prop :=
  item.batchId = batchId ∧ (item.itemState = .pending ∨ item.itemState = .evaluating)

section Counting

variable {tables : BatchTables} {batchId : Uuid}

theorem count_ne_zero_iff {state : ItemState} :
    tables.count batchId state ≠ 0 ↔ ∃ item ∈ tables.items.rows,
        item.batchId = batchId ∧ item.itemState = state := by
  simp [BatchTables.count, Nat.pos_iff_ne_zero.symm, List.countP_pos_iff]

/-- What `reconcile_batch` looks up is the number of items. -/
theorem lookup_counts (state : ItemState) :
    ((tables.counts batchId).lookup state).getD 0 = tables.count batchId state := by
  have listed : state ∈ itemStates := by cases state <;> decide
  rw [BatchTables.counts, Keyed.getD_lookup_tally, if_pos listed]

variable (tables batchId)

theorem reconciliation_state (affectedItems : Int) :
    (tables.reconciliation batchId affectedItems).batchState =
      reconciledState (tables.count batchId) := by
  unfold BatchTables.reconciliation
  simp only [lookup_counts]

theorem reconciliation_evaluated (affectedItems : Int) :
    (tables.reconciliation batchId affectedItems).evaluatedPropertyCount =
      tables.count batchId .complete + tables.count batchId .failed +
        tables.count batchId .blocked := by
  unfold BatchTables.reconciliation
  simp only [lookup_counts, List.map_cons, List.map_nil, List.sum_cons, List.sum_nil]
  omega

theorem reconciliation_candidate (affectedItems : Int) :
    (tables.reconciliation batchId affectedItems).candidatePropertyCount =
      tables.count batchId .pending + tables.count batchId .evaluating +
        (tables.reconciliation batchId affectedItems).evaluatedPropertyCount
    := by
  rw [reconciliation_evaluated]
  unfold BatchTables.reconciliation BatchTables.counts
  simp only [Keyed.sum_tally, itemStates, List.map_cons, List.map_nil, List.sum_cons, List.sum_nil]
  omega

/-- Whether a batch has unfinished items is read off two counts. -/
theorem none_unfinished_iff : (∀ item ∈ tables.items.rows, ¬item.Unfinished batchId) ↔
      tables.count batchId .pending = 0 ∧ tables.count batchId .evaluating = 0 := by
  rw [← not_iff_not, not_and_or, ← ne_eq, ← ne_eq, count_ne_zero_iff,
    count_ne_zero_iff, ← exists_or]
  simp only [DependencyChangeItem.Unfinished, not_forall, not_not, exists_prop, and_or_left]

/-- All items are evaluated exactly when none is unfinished. -/
theorem evaluated_eq_candidate_iff (affectedItems : Int) :
    (tables.reconciliation batchId affectedItems).evaluatedPropertyCount =
        (tables.reconciliation batchId affectedItems).candidatePropertyCount ↔
      ∀ item ∈ tables.items.rows, ¬item.Unfinished batchId := by
  rw [none_unfinished_iff, reconciliation_candidate]
  omega

end Counting

/-! ## Runs -/

/-- An operation of the repository. -/
inductive BatchOperation where
  | createBatch (batchId : Uuid) (new : NewBatch)
  | addItem (itemId : Uuid) (new : NewItem)
  | claimItems (batchId : Uuid) (limit : Int) (locked : List Uuid)
  | completeItem (itemId : Uuid) (summary : List (String × Nat))
  | failItem (itemId : Uuid) (errorCode : String)
  | reconcileBatch (batchId : Uuid) (affectedItems : Int)

/-- What an operation leaves. -/
def BatchOperation.run (operation : BatchOperation) (now : Time) (tables : BatchTables) :
    Except String BatchTables :=
  match operation with
  | .createBatch batchId new =>
      (tables.createBatch batchId new).map Prod.snd
  | .addItem itemId new => (tables.addItem itemId new).map Prod.snd
  | .claimItems batchId limit locked =>
      (tables.claimItems batchId limit locked).map Prod.snd
  | .completeItem itemId summary =>
      .ok (tables.completeItem itemId summary now)
  | .failItem itemId errorCode => .ok (tables.failItem itemId errorCode now)
  | .reconcileBatch batchId affectedItems =>
      (tables.reconcileBatch batchId affectedItems now).map Prod.snd

/-- No batches. -/
def BatchTables.start (properties : List Uuid) : BatchTables where
  properties := properties
  batches := .empty _
  items := .empty _

inductive BatchEvent where
  | performed (operation : BatchOperation) (now : Time)
  | rolledBack (operation : BatchOperation)

/-- An operation takes effect, or its transaction is rolled back, as it is
when the operation raises. -/
inductive BatchStep : BatchTables → BatchEvent → BatchTables → Prop
  | performed {before after : BatchTables} {operation : BatchOperation}
      {now : Time} :
      operation.run now before = .ok after →
      BatchStep before (.performed operation now) after
  | rolledBack (before : BatchTables) (operation : BatchOperation) :
      BatchStep before (.rolledBack operation) before

theorem BatchTables.createBatch_items
    {before after : BatchTables} {batchId created : Uuid} {new : NewBatch}
    (ran : before.createBatch batchId new = .ok (created, after)) :
    after.items = before.items := by
  unfold createBatch at ran
  split at ran
  · cases ran
    rfl
  · obtain ⟨inserted, -, ended⟩ := bind_eq_ok.mp ran
    cases ended
    rfl

/-- An item is added, or is there. -/
theorem BatchTables.addItem_cases
    {before after : BatchTables} {itemId : Uuid} {added : Option Uuid} {new : NewItem}
    (ran : before.addItem itemId new = .ok (added, after)) :
    after = before ∨ ∃ inserted, after = { before with items := inserted } ∧
      before.items.insert (new.row itemId) = some inserted := by
  unfold addItem at ran
  split_ifs at ran
  · cases ran
    exact .inl rfl
  · obtain ⟨inserted, made, continued⟩ := bind_eq_ok.mp ran
    obtain ⟨-, ended⟩ := require_bind_eq_ok.mp continued
    cases ended
    exact .inr ⟨inserted, rfl, orRaise_eq_ok.mp made⟩

/-- No operation blocks an item. -/
theorem not_blocked_of_run {properties : List Uuid} {events : List BatchEvent}
    {reached : BatchTables} (run : Exec BatchStep (.start properties) events reached) :
    ∀ item ∈ reached.items.rows, item.itemState ≠ .blocked := by
  apply run.invariant
  · exact fun _ => nofun
  · intro before event after unblocked taken
    cases taken with
    | rolledBack => exact unblocked
    | @performed _ operation now ran =>
        cases operation with
        | createBatch batchId new =>
            obtain ⟨⟨created, tables⟩, made, rfl⟩ := map_eq_ok.mp ran
            rw [(BatchTables.createBatch_items made)]
            exact unblocked
        | addItem itemId new =>
            obtain ⟨⟨added, tables⟩, made, rfl⟩ := map_eq_ok.mp ran
            rcases BatchTables.addItem_cases made with
              rfl | ⟨inserted, rfl, added⟩
            · exact unblocked
            · exact Table.forall_insert added unblocked nofun
        | claimItems batchId limit locked =>
            obtain ⟨⟨claimed, tables⟩, made, rfl⟩ := map_eq_ok.mp ran
            obtain ⟨-, ended⟩ := require_bind_eq_ok.mp made
            cases ended
            refine Table.forall_update unblocked ?_ (by exact fun _ => rfl)
            exact fun item _ _ => ItemState.noConfusion
        | completeItem itemId summary =>
            cases ran
            refine Table.forall_update unblocked ?_ (by exact fun _ => rfl)
            exact fun item _ _ => ItemState.noConfusion
        | failItem itemId errorCode =>
            cases ran
            refine Table.forall_update unblocked ?_ (by exact fun _ => rfl)
            exact fun item _ _ => ItemState.noConfusion
        | reconcileBatch batchId affectedItems =>
            obtain ⟨⟨outcome, tables⟩, made, rfl⟩ := map_eq_ok.mp ran
            obtain ⟨-, ended⟩ := require_bind_eq_ok.mp made
            cases ended
            exact unblocked

/-- What `reconcile_batch` stores in a batch. -/
structure Settled (tables : BatchTables) (batch : DependencyChangeBatch) : Prop where
  completed : batch.completedAt.isSome ↔
    batch.batchState = .complete ∨ batch.batchState = .partialFailure
  complete : batch.batchState = .complete →
    (∀ item ∈ tables.items.rows, ¬item.Unfinished batch.batchId) ∧
      batch.evaluatedPropertyCount = batch.candidatePropertyCount
  failed : batch.batchState = .partialFailure ↔ ∃ item ∈ tables.items.rows,
      item.batchId = batch.batchId ∧ item.itemState = .failed
  evaluated :
    batch.evaluatedPropertyCount = batch.candidatePropertyCount ↔
      ∀ item ∈ tables.items.rows, ¬item.Unfinished batch.batchId

/-- A reconciled batch is complete only when all its items are evaluated, but
a failed item completes it as a partial failure whatever the others are. -/
theorem settled_of_reconcile {tables after : BatchTables} {batchId : Uuid} {affectedItems : Int}
    {now : Time} {outcome : Reconciliation}
    (unblocked : ∀ item ∈ tables.items.rows, item.itemState ≠ .blocked)
    (ran : tables.reconcileBatch batchId affectedItems now = .ok (outcome, after))
    {batch : DependencyChangeBatch} (present : batch ∈ after.batches.rows)
    (own : batch.batchId = batchId) :
    Settled tables batch := by
  obtain ⟨-, ended⟩ := require_bind_eq_ok.mp ran
  cases ended
  obtain ⟨prior, -, changed⟩ := List.mem_map.mp present
  have same : prior.batchId = batchId := by
    rw [← own, ← changed]
    split_ifs <;> rfl
  rw [if_pos same] at changed
  clear own present
  subst same changed
  have state := reconciliation_state tables prior.batchId affectedItems
  have evaluated := evaluated_eq_candidate_iff tables prior.batchId affectedItems
  have unfinished := none_unfinished_iff tables prior.batchId
  have failed : tables.count prior.batchId .failed ≠ 0 ↔ _ := count_ne_zero_iff
  have notBlocked : tables.count prior.batchId .blocked = 0 := by
    by_contra occurs
    obtain ⟨item, listed, -, blocked⟩ := count_ne_zero_iff.mp occurs
    exact unblocked item listed blocked
  rw [reconciledState, notBlocked] at state
  by_cases noFailure : tables.count prior.batchId .failed = 0
  · rw [if_neg (not_not.mpr noFailure), if_neg (not_not.mpr rfl)] at state
    have without := not_iff_not.mpr failed
    split_ifs at state with some
    · refine ⟨completedAt_reconciled.trans ?_, fun complete => ?_, ?_,
        evaluated⟩
      · rw [state]
        refine iff_of_false (by decide) ?_
        rintro (complete | failure)
        · exact absurd (state.symm.trans complete) nofun
        · exact absurd (state.symm.trans failure) nofun
      · exact absurd (state.symm.trans complete) nofun
      · refine iff_of_false (fun stored => ?_) (without.mp (not_not.mpr ‹_›))
        exact absurd (state.symm.trans stored) nofun
    · have all : ∀ item ∈ tables.items.rows,
          ¬item.Unfinished prior.batchId := by
        rw [unfinished]
        omega
      refine ⟨completedAt_reconciled.trans ?_, fun _ => ?_, ?_, evaluated⟩
      · rw [state]
        exact iff_of_true (by decide) (.inl state)
      · exact ⟨all, evaluated.mpr all⟩
      · refine iff_of_false (fun stored => ?_) (without.mp (not_not.mpr ‹_›))
        exact absurd (state.symm.trans stored) nofun
  · rw [if_pos noFailure] at state
    refine ⟨completedAt_reconciled.trans ?_, fun complete => ?_, ?_, evaluated⟩
    · rw [state]
      exact iff_of_true (by decide) (.inr state)
    · exact absurd (state.symm.trans complete) nofun
    · exact iff_of_true state (failed.mp noFailure)

/-- Whenever a batch is reconciled in a run, it is complete only when all its
items are evaluated, and otherwise a partial failure exactly when one of them
has failed, whatever the others are. -/
theorem batches_settled {properties : List Uuid} {events : List BatchEvent}
    {reached : BatchTables} (run : Exec BatchStep (.start properties) events reached)
    {batchId : Uuid} {affectedItems : Int} {now : Time} {after : BatchTables}
    (taken : BatchStep reached
      (.performed (.reconcileBatch batchId affectedItems) now) after) :
    ∀ batch ∈ after.batches.rows, batch.batchId = batchId →
      Settled reached batch := by
  intro batch present own
  cases taken with
  | performed ran =>
      obtain ⟨⟨outcome, tables⟩, made, rfl⟩ := map_eq_ok.mp ran
      exact settled_of_reconcile (not_blocked_of_run run) made present own

/-! ## An early failure -/

/-- The step of an event, computed. -/
def BatchTables.advance (before : BatchTables) (event : BatchEvent) :
    Except String BatchTables :=
  match event with
  | .performed operation now => operation.run now before
  | .rolledBack _ => .ok before

theorem BatchStep.of_advance (before : BatchTables) (event : BatchEvent) (after : BatchTables)
    (advanced : before.advance event = .ok after) :
    BatchStep before event after := by
  cases event with
  | performed operation now => exact .performed advanced
  | rolledBack operation =>
      cases advanced
      exact .rolledBack before operation

def sampleBatch : NewBatch :=
  ⟨"PARCEL_GEOMETRY", "source-1", 9, none, none⟩

def sampleItem (propertyId : Uuid) : NewItem :=
  ⟨1, propertyId, "rear", "NORMAL_UPDATE", none, none, false⟩

/-- A batch of two items, of which the first has failed. -/
def sampleFailure : List BatchEvent :=
  [.performed (.createBatch 1 sampleBatch) 0, .performed (.addItem 2 (sampleItem 4)) 0,
    .performed (.addItem 3 (sampleItem 5)) 0, .performed (.claimItems 1 1 []) 0,
    .performed (.failItem 2 "BULK_IMPACT_EVALUATION_FAILED") 0]

/-- The batch is reconciled while its second item is pending. -/
def sampleReconcile : BatchEvent :=
  .performed (.reconcileBatch 1 0) 0

instance (item : DependencyChangeItem) (batchId : Uuid) : Decidable (item.Unfinished batchId) :=
  inferInstanceAs (Decidable (_ ∧ _))

/-- A batch that is stored as completed with an item unfinished. -/
def Hasty (tables after : BatchTables) : Prop :=
  ∃ batch ∈ after.batches.rows, batch.batchId = 1 ∧
    batch.completedAt.isSome = true ∧
    (∃ item ∈ tables.items.rows, item.Unfinished batch.batchId) ∧
    batch.evaluatedPropertyCount ≠ batch.candidatePropertyCount

instance (tables after : BatchTables) : Decidable (Hasty tables after) :=
  inferInstanceAs (Decidable (∃ batch ∈ after.batches.rows, _))

theorem sampleReconcile_hasty :
    ∃ reached after,
      Exec BatchStep (.start [⟨4, by decide⟩, ⟨5, by decide⟩]) sampleFailure reached ∧
      BatchStep reached sampleReconcile after ∧ Hasty reached after := by
  have hasty : ((sampleFailure.foldlM BatchTables.advance
      (.start [⟨4, by decide⟩, ⟨5, by decide⟩])).toOption.bind fun reached =>
        (reached.advance sampleReconcile).toOption.map fun after =>
          decide (Hasty reached after)) = some true := by
    decide +kernel
  obtain ⟨reached, ran, rest⟩ := Option.bind_eq_some_iff.mp hasty
  obtain ⟨after, taken, holds⟩ := Option.map_eq_some_iff.mp rest
  exact ⟨reached, after, Exec.of_foldlM BatchStep.of_advance (toOption_eq_some.mp ran),
    .of_advance _ _ _ (toOption_eq_some.mp taken), of_decide_eq_true holds⟩

theorem batches_settled_sample :
    ∃ (reached after : BatchTables) (batch : DependencyChangeBatch),
      batch ∈ after.batches.rows ∧
      batch.batchState = .partialFailure ∧
      ∃ item ∈ reached.items.rows,
        item.batchId = batch.batchId ∧ item.itemState = .failed := by
  obtain ⟨reached, after, run, taken, batch, present, own, stored,
    ⟨item, listed, unfinished⟩, -⟩ := sampleReconcile_hasty
  have settled := batches_settled run taken batch present own
  have failure : batch.batchState = .partialFailure := by
    rcases settled.completed.mp stored with complete | failure
    · exact absurd unfinished ((settled.complete complete).1 item listed)
    · exact failure
  exact ⟨reached, after, batch, present, failure, settled.failed.mp failure⟩

/-- A batch with a failed and a pending item is completed with one of two
items evaluated. -/
theorem batch_completed_with_pending_item :
    ∃ (properties : List Uuid) (events : List BatchEvent)
      (reached after : BatchTables) (batchId : Uuid) (affectedItems : Int)
      (now : Time) (batch : DependencyChangeBatch),
      Exec BatchStep (.start properties) events reached ∧
      BatchStep reached
        (.performed (.reconcileBatch batchId affectedItems) now) after ∧
      batch ∈ after.batches.rows ∧ batch.completedAt.isSome ∧
      (∃ item ∈ reached.items.rows, item.Unfinished batch.batchId) ∧
      batch.evaluatedPropertyCount ≠ batch.candidatePropertyCount := by
  obtain ⟨reached, after, run, taken, batch, present, -, stored, unfinished,
    differs⟩ := sampleReconcile_hasty
  exact ⟨_, _, reached, after, _, _, _, batch, run, taken, present, stored,
    unfinished, differs⟩

end SanTanHeights.Dependency
