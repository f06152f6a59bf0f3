import SanTanHeights.Release.Tables

/-!
# Release item lifecycle

`ReleaseItemLifecycle.transition` and the services built on it.  Objects that
a service is given are compared with the stored rows only through their state,
which the update of a transition checks again.  What the injected functions
answer comes with the objects they are called on.
-/

namespace SanTanHeights.Release

open Foundation Foundation.Outcome

/-- `ITEM_TRANSITIONS`. -/
def itemTransitions : ItemState → List ItemState
  | .pending => [.generationQueued, .blocked, .cancelled]
  | .generationQueued => [.generating, .blocked, .failed, .cancelled]
  | .generating => [.generated, .blocked, .failed, .cancelled]
  | .generated => [.validated, .blocked, .failed, .cancelled]
  | .validated => [.staged, .blocked, .cancelled]
  | .staged => [.approved, .blocked, .cancelled]
  | .approved => [.publishing, .blocked, .cancelled]
  | .publishing => [.published, .failed, .blocked]
  | .published => [.rolledBack]
  | .blocked => [.generationQueued, .validated, .staged, .approved, .cancelled]
  | .failed => [.generationQueued, .cancelled]
  | .rolledBack => []
  | .cancelled => []

/-- Who moves an item, and why. -/
structure Audit where
  actor : String
  reasonCode : Option String
  correlationId : Option Uuid

/-- The history row of a move. -/
def ReleaseItemRecord.historyRow
    (item : ReleaseItemRecord) (toState : ItemState) (audit : Audit) :
    ReleaseItemHistory where
  releaseItemId := item.releaseItemId
  releaseId := item.releaseId
  fromState := item.itemState
  toState := toState
  reasonCode := audit.reasonCode
  actor := audit.actor
  correlationId := audit.correlationId

/-- `ReleaseItemLifecycle.transition`. -/
def transition (toState : ItemState) (audit : Audit) (database : Database)
    (item : ReleaseItemRecord) : Except String Database := do
  require (toState ∈ itemTransitions item.itemState)
    ("illegal release item transition " ++ item.itemState.code ++ "->" ++ toState.code)
  let (updated, moved) ← database.updateItem item.releaseItemId
    [item.itemState] toState audit.reasonCode
  require (updated = true) "release item state changed concurrently"
  return { moved with
    history := moved.history ++ [item.historyRow toState audit] }

/-! ## Generation -/

/-- An item, with what `queue_report` and `queue_render` do when they are
called on it. -/
structure GenerationAttempt where
  item : ReleaseItemRecord
  queueReport : Except String Unit
  queueRender : Except String Unit

structure GenerationResult where
  queued : List Uuid
  blocked : List Uuid
  deriving DecidableEq

/-- What an injected function queued. -/
def Database.request (database : Database) (item : ReleaseItemRecord) (kind : GenerationKind) :
    Database :=
  { database with
    requests := database.requests ++ [⟨item.releaseItemId, kind⟩] }

/-- The body of the `try` block of `coordinate`.  An exception ends it where
it is raised, and what was done before stays. -/
def queueGeneration (hasQueueRender : Bool) (audit : Audit) (database : Database)
    (attempt : GenerationAttempt) : Bool × Database :=
  let move := fun before : Database =>
    match transition .generationQueued
      { audit with reasonCode := some "RELEASE_GENERATION_QUEUED" } before
      attempt.item with
    | .ok after => (true, after)
    | .error _ => (false, before)
  match attempt.queueReport with
  | .error _ => (false, database)
  | .ok () =>
      let reported := database.request attempt.item .report
      if attempt.item.channel.isSome && hasQueueRender then
        match attempt.queueRender with
        | .error _ => (false, reported)
        | .ok () => move (reported.request attempt.item .render)
      else move reported

/-- One turn of the loop of `coordinate`. -/
def coordinateItem (hasQueueRender : Bool) (audit : Audit)
    (state : GenerationResult × Database) (attempt : GenerationAttempt) :
    GenerationResult × Database :=
  let (result, database) := state
  let releaseItemId := attempt.item.releaseItemId
  if attempt.item.itemState ∈ [ItemState.pending, .failed, .blocked] then
    match queueGeneration hasQueueRender audit database attempt with
    | (true, next) =>
        ({ result with queued := result.queued ++ [releaseItemId] }, next)
    | (false, next) =>
        ({ result with blocked := result.blocked ++ [releaseItemId] }, next)
  else (result, database)

/-- `BulkGenerationCoordinator.coordinate`. -/
def coordinate (hasQueueRender : Bool) (attempts : List GenerationAttempt)
    (audit : Audit) (database : Database) : GenerationResult × Database :=
  attempts.foldl (coordinateItem hasQueueRender audit) (⟨[], []⟩, database)

/-! ## Staging, approval and cancellation -/

/-- `ReleaseStagingService.stage`. -/
def stage (items : List ReleaseItemRecord) (audit : Audit) (database : Database) :
    Except String (Nat × Database) := do
  require (items ≠ []) "release has no items"
  require (∀ item ∈ items, item.itemState = .validated)
    "all release items must be VALIDATED before staging"
  let staged ← items.foldlM
    (transition .staged { audit with reasonCode := some "RELEASE_STAGED" })
    database
  return (items.length, staged)

/-- The `INSERT` of `approve`. -/
def Database.insertApproval (database : Database) (approval : ReleaseApproval) :
    Except String Database := do
  checkHash (some approval.manifestFingerprint) "manifest_fingerprint"
  require (database.findRelease approval.releaseId).isSome
    "violates foreign key constraint"
  return { database with approvals := database.approvals ++ [approval] }

/-- `ReleaseApprovalService.approve`. -/
def approve (release : ReleaseRecord) (items : List ReleaseItemRecord)
    (approvedBy reasonCode : String) (correlationId : Option Uuid)
    (database : Database) : Except String (String × Database) := do
  let fingerprint ← orRaise
    (release.manifestFingerprint.filter fun text => text ≠ "")
    "release manifest must be frozen before approval"
  require (items ≠ [] ∧ ∀ item ∈ items, item.itemState = .staged)
    "all release items must be STAGED before approval"
  let decided ← database.insertApproval
    ⟨release.releaseId, fingerprint, "APPROVED", approvedBy, reasonCode⟩
  let approved ← items.foldlM
    (transition .approved ⟨approvedBy, some reasonCode, correlationId⟩) decided
  return ("APPROVED", approved)

/-- `CANCELLABLE`. -/
def cancellable : List ItemState :=
  [.pending, .generationQueued, .generating, .generated, .validated, .staged,
    .approved, .blocked, .failed]

/-- `ReleaseCancellationService.cancel`. -/
def cancel (items : List ReleaseItemRecord) (audit : Audit) (database : Database) :
    Except String (Nat × Database) := do
  require (∀ item ∈ items, item.itemState ∉ [ItemState.publishing, .published, .rolledBack])
    "release with publication activity requires rollback, not cancellation"
  let affected := items.filter fun item => item.itemState ∈ cancellable
  let cancelled ← affected.foldlM (transition .cancelled audit) database
  return (affected.length, cancelled)

/-! ## Publication -/

/-- What `publish_item` and `rollback_item` return. -/
structure ItemOutcome where
  status : String
  reasonCode : Option String

/-- An item, with what the injected function does when it is called on it. -/
structure PublicationAttempt where
  item : ReleaseItemRecord
  outcome : Except String ItemOutcome

/-- `PartialFailurePolicyEngine`.  Whether `failed / total` is within
`max_ratio` is a comparison of floating-point numbers. -/
structure PartialFailurePolicyEngine where
  maxCount : Int
  withinRatio : Nat → Nat → Bool

/-- `evaluate`: whether the action is `HALT`. -/
def PartialFailurePolicyEngine.halts
    (policy : PartialFailurePolicyEngine) (failed succeeded : Nat) : Bool :=
  !(failed ≤ policy.maxCount && policy.withinRatio failed (failed + succeeded))

/-- `ChunkedPublicationService`. -/
structure ChunkedPublicationService where
  policy : PartialFailurePolicyEngine
  chunkSize : Nat
  positive : 0 < chunkSize

/-- The counters of `publish`, and the database it works on. -/
structure Rollout where
  published : Nat
  failed : Nat
  halted : Bool
  database : Database

/-- One turn of the inner loop of `publish`. -/
def publishItem (audit : Audit) (rollout : Rollout) (attempt : PublicationAttempt) :
    Except String Rollout := do
  let started ← transition .publishing
    { audit with reasonCode := some "RELEASE_ITEM_PUBLISHING" }
    rollout.database attempt.item
  let outcome ← attempt.outcome
  let proxy := { attempt.item with itemState := .publishing }
  if outcome.status = "PUBLISHED" then
    let published ← transition .published
      { audit with reasonCode := some "RELEASE_ITEM_PUBLISHED" } started proxy
    return { rollout with
      published := rollout.published + 1
      database := published }
  else
    let reasonCode := (outcome.reasonCode.filter fun text => text ≠ "").getD
      "RELEASE_ITEM_PUBLICATION_FAILED"
    let failed ← transition .failed
      { audit with reasonCode := some reasonCode } started proxy
    return { rollout with
      failed := rollout.failed + 1
      database := failed }

/-- The outer loop of `publish`. -/
def publishChunks (policy : PartialFailurePolicyEngine) (audit : Audit) :
    List (List PublicationAttempt) → Rollout → Except String Rollout
  | [], rollout => return rollout
  | chunk :: chunks, rollout => do
      let next ← chunk.foldlM (publishItem audit) rollout
      if policy.halts next.failed next.published then
        return { next with halted := true }
      publishChunks policy audit chunks next

/-- The slices `items[pos:pos+size]` for `pos` in `range(0, len(items), size)`
of at most `fuel` items. -/
def slices {α : Type} (size : Nat) : Nat → List α → List (List α)
  | 0, _ => []
  | _, [] => []
  | fuel + 1, item :: items =>
      (item :: items).take size :: slices size fuel ((item :: items).drop size)

/-- `ChunkedPublicationService.publish`. -/
def ChunkedPublicationService.publish (service : ChunkedPublicationService)
    (attempts : List PublicationAttempt) (audit : Audit)
    (database : Database) : Except String Rollout :=
  let eligible := attempts.filter fun attempt =>
    attempt.item.itemState = .approved
  publishChunks service.policy audit
    (slices service.chunkSize eligible.length eligible)
    ⟨0, 0, false, database⟩

/-- One turn of the loop of `rollback`. -/
def rollbackItem (audit : Audit) (database : Database) (attempt : PublicationAttempt) :
    Except String Database := do
  let outcome ← attempt.outcome
  require (outcome.status = "ROLLED_BACK") "release rollback failed"
  transition .rolledBack { audit with reasonCode := some "RELEASE_ROLLBACK" } database attempt.item

/-- `ReleaseRollbackService.rollback`. -/
def rollback (attempts : List PublicationAttempt) (audit : Audit)
    (database : Database) : Except String (Nat × Database) := do
  let published := attempts.filter fun attempt =>
    attempt.item.itemState = .published
  let ordered := published.mergeSort fun left right =>
    right.item.membershipOrdinal ≤ left.item.membershipOrdinal
  let rolledBack ← ordered.foldlM (rollbackItem audit) database
  return (ordered.length, rolledBack)

/-- The `RETRY_RELEASE_ITEM` branch of `ExplicitRecoveryActions.execute`; the
flag says whether the action succeeded. -/
def retryReleaseItem (releaseItemId : Uuid) (database : Database) :
    Except String (Bool × Database) :=
  database.updateItem releaseItemId [.failed, .blocked] .generationQueued none

end SanTanHeights.Release
