import SanTanHeights.Foundation.Outcome
import SanTanHeights.Foundation.Sha256
import SanTanHeights.Foundation.Tables
import SanTanHeights.Foundation.Uuid
import SanTanHeights.Shared.Vocabulary

/-!
# Regeneration jobs

The table `orchestration.regeneration_jobs` and the statements of
`RegenerationJobRepository`.  A job that a statement has changed stays locked
until the transaction ends, so that statements take effect one at a time; one
that raises leaves nothing behind.
-/

namespace SanTanHeights.Regeneration

open Foundation Foundation.Outcome Shared

/-- `JOB_STATES`. -/
inductive JobState where
  | queued
  | claimed
  | running
  | retryWait
  | blocked
  | stale
  | succeeded
  | failed
  | cancelled
  | noOp
  deriving DecidableEq, Repr

/-- `ACTIVE_JOB_STATES`. -/
def JobState.Active (state : JobState) : Prop :=
  state ∈ [JobState.queued, .claimed, .running, .retryWait]

instance (state : JobState) : Decidable state.Active := inferInstanceAs (Decidable (_ ∈ _))

/-- The states of a job that a worker holds. -/
def JobState.Held (state : JobState) : Prop :=
  state = .claimed ∨ state = .running

instance (state : JobState) : Decidable state.Held := inferInstanceAs (Decidable (_ ∨ _))

theorem JobState.Held.active {state : JobState} (held : state.Held) : state.Active := by
  rcases held with rfl | rfl <;> decide

/-- `RegenerationJob`, and a row of `orchestration.regeneration_jobs`. -/
structure RegenerationJob where
  jobId : Uuid
  propertyId : Uuid
  reportVariant : String
  triggerType : String
  targetSnapshotId : Uuid
  priorityClass : String
  priorityScore : Int
  jobTargetKey : String
  correlationId : Uuid
  jobState : JobState
  triggerEventId : Option Uuid
  oldReportId : Option Uuid
  attemptCount : Nat
  maxAttempts : Int
  workerId : Option String
  claimedAt : Option Time
  lastHeartbeatAt : Option Time
  leaseExpiresAt : Option Time
  queuedAt : Option Time
  startedAt : Option Time
  completedAt : Option Time
  nextRetryAt : Option Time
  inputHash : Option String
  completionReportId : Option Uuid
  failureStage : Option String
  failureCode : Option String
  failureMessageSafe : Option String
  staleReasonCode : Option String
  releaseId : Option Uuid
  deriving DecidableEq

/-- The columns of the index `regeneration_jobs_one_active_target_uq`. -/
def RegenerationJob.target (job : RegenerationJob) : Uuid × String × String :=
  (job.propertyId, job.reportVariant, job.jobTargetKey)

/-- The rows of other tables that a job refers to. -/
structure Referenced where
  properties : List Uuid
  variants : List String
  events : List Uuid
  snapshots : List Uuid
  reasonCodes : List String

/-- The jobs, and what they may refer to. -/
structure JobTables where
  referenced : Referenced
  jobs : Table RegenerationJob.jobId

/-! ## What the statements do to a job -/

/-- The condition of `candidate` in `CLAIM_NEXT`. -/
def RegenerationJob.Claimable (job : RegenerationJob) (now : Time) : Prop :=
  job.jobState = .queued ∨ (job.jobState = .retryWait ∧
      ∀ nextRetryAt ∈ job.nextRetryAt, nextRetryAt ≤ now)

instance (job : RegenerationJob) (now : Time) : Decidable (job.Claimable now) :=
  inferInstanceAs (Decidable (_ ∨ _))

/-- The assignments of `CLAIM_NEXT`. -/
def RegenerationJob.claim
    (job : RegenerationJob) (workerId : String) (leaseExpiresAt now : Time) :
    RegenerationJob :=
  { job with
    jobState := .claimed
    workerId := some workerId
    claimedAt := some now
    lastHeartbeatAt := some now
    leaseExpiresAt := some leaseExpiresAt
    attemptCount := job.attemptCount + 1 }

/-- A job that a worker holds in one of some states. -/
def RegenerationJob.HeldBy (job : RegenerationJob) (jobId : Uuid) (workerId : String)
    (states : List JobState) : Prop :=
  job.jobId = jobId ∧ job.workerId = some workerId ∧ job.jobState ∈ states

instance (job : RegenerationJob) (jobId : Uuid) (workerId : String)
    (states : List JobState) : Decidable (job.HeldBy jobId workerId states) :=
  inferInstanceAs (Decidable (_ ∧ _))

/-- The lease of a job has not expired. -/
def RegenerationJob.Leased (job : RegenerationJob) (now : Time) : Prop :=
  ∃ leaseExpiresAt ∈ job.leaseExpiresAt, now < leaseExpiresAt

instance (job : RegenerationJob) (now : Time) : Decidable (job.Leased now) :=
  inferInstanceAs (Decidable (∃ _ ∈ job.leaseExpiresAt, _))

/-- The assignments of `START_RUNNING`. -/
def RegenerationJob.start (job : RegenerationJob) (now : Time) : RegenerationJob :=
  { job with
    jobState := .running
    startedAt := some (job.startedAt.getD now) }

/-- The assignments of `HEARTBEAT`. -/
def RegenerationJob.heartbeat
    (job : RegenerationJob) (leaseExpiresAt now : Time) : RegenerationJob :=
  { job with
    lastHeartbeatAt := some now
    leaseExpiresAt := some leaseExpiresAt }

/-- The columns that a job loses with its worker. -/
def RegenerationJob.release (job : RegenerationJob) : RegenerationJob :=
  { job with
    workerId := none
    claimedAt := none
    lastHeartbeatAt := none
    leaseExpiresAt := none }

/-- What is recorded of a failure. -/
structure Failure where
  stage : String
  code : String
  messageSafe : Option String

def RegenerationJob.record (job : RegenerationJob) (failure : Failure) : RegenerationJob :=
  { job with
    failureStage := some failure.stage
    failureCode := some failure.code
    failureMessageSafe := failure.messageSafe }

/-- The assignments of `SET_RETRY_WAIT`. -/
def RegenerationJob.retryWait (job : RegenerationJob) (nextRetryAt : Time) (failure : Failure) :
    RegenerationJob :=
  { job.release.record failure with
    jobState := .retryWait
    nextRetryAt := some nextRetryAt }

/-- The assignments of `SET_FAILED`. -/
def RegenerationJob.terminate (job : RegenerationJob) (state : JobState) (failure : Failure)
    (now : Time) : RegenerationJob :=
  { job.release.record failure with
    jobState := state
    completedAt := some now }

/-- The assignments of `COMPLETE_SUCCESS`. -/
def RegenerationJob.complete (job : RegenerationJob) (state : JobState) (reportId : Uuid)
    (inputHash : String) (now : Time) : RegenerationJob :=
  { job.release with
    jobState := state
    completedAt := some now
    completionReportId := some reportId
    inputHash := some inputHash }

/-- The assignments of `MARK_STALE`. -/
def RegenerationJob.markStale (job : RegenerationJob) (reasonCode : String) (now : Time) :
    RegenerationJob :=
  { job.release with
    jobState := .stale
    completedAt := some now
    staleReasonCode := some reasonCode }

/-! ## The statements -/

/-- `PRIORITY_CLASSES`. -/
def priorityClasses : List String :=
  ["CRITICAL", "HIGH", "NORMAL", "BULK", "LOW"]

/-- The check constraints on a new job. -/
def RegenerationJob.Checked (job : RegenerationJob) : Prop :=
  job.priorityClass ∈ priorityClasses ∧
    -(2 ^ 31 : Int) ≤ job.priorityScore ∧ job.priorityScore < 2 ^ 31 ∧
    Sha256.isHex64 job.jobTargetKey = true ∧
    1 ≤ job.maxAttempts ∧ job.maxAttempts < 2 ^ 31 ∧
    (∀ inputHash ∈ job.inputHash, Sha256.isHex64 inputHash = true) ∧
    (job.jobState.Held → job.workerId.isSome = true ∧ job.leaseExpiresAt.isSome = true)

instance (job : RegenerationJob) : Decidable job.Checked := inferInstanceAs (Decidable (_ ∧ _))

/-- The foreign keys of a job. -/
def JobTables.RefersTo (tables : JobTables) (job : RegenerationJob) : Prop :=
  job.propertyId ∈ tables.referenced.properties ∧
    job.reportVariant ∈ tables.referenced.variants ∧
    (∀ eventId ∈ job.triggerEventId, eventId ∈ tables.referenced.events) ∧
    job.targetSnapshotId ∈ tables.referenced.snapshots ∧
    (∀ reasonCode ∈ job.staleReasonCode, reasonCode ∈ tables.referenced.reasonCodes)

instance (tables : JobTables) (job : RegenerationJob) : Decidable (tables.RefersTo job) :=
  inferInstanceAs (Decidable (_ ∧ _))

namespace JobTables

/-- `RegenerationJobRepository.insert`. -/
def insert (tables : JobTables) (job : RegenerationJob) (now : Time) :
    Except String JobTables := do
  require (job.jobState ∈ [JobState.queued, .blocked, .stale, .cancelled])
    "new regeneration job must start in a non-running state"
  require (job.jobTargetKey.length = 64)
    "job_target_key must be a SHA-256 hex digest"
  let row := { job with queuedAt := some (job.queuedAt.getD now) }
  require row.Checked "violates check constraint"
  require (row.jobState.Active → ∀ other ∈ tables.jobs.rows,
      other.jobState.Active → other.target ≠ row.target)
    "duplicate key value violates unique constraint"
  let inserted ← orRaise (tables.jobs.insert row)
    "duplicate key value violates unique constraint"
  require (tables.RefersTo row) "violates foreign key constraint"
  return { tables with jobs := inserted }

/-- `RegenerationJobRepository.find_active`. -/
def findActive (tables : JobTables) (propertyId : Uuid) (reportVariant : String)
    (jobTargetKey : String) : Option Uuid :=
  ((Sorting.sortedBy (fun job => toLex (job.queuedAt.getD 0, job.jobId.value))
    (tables.jobs.rows.filter fun job =>
      job.jobState.Active ∧ job.target = (propertyId, reportVariant, jobTargetKey))).head?).map
    RegenerationJob.jobId

/-- `candidate` in `CLAIM_NEXT`: jobs that other transactions have locked are
skipped. -/
def candidate (tables : JobTables) (locked : List Uuid) (now : Time) : Option RegenerationJob :=
  (Sorting.sortedBy (fun job => toLex (-job.priorityScore,
      toLex (job.queuedAt.getD 0, job.jobId.value)))
    (tables.jobs.rows.filter fun job =>
      job.Claimable now ∧ job.jobId ∉ locked)).head?

/-- `RegenerationJobRepository.claim_next`. -/
def claimNext (tables : JobTables) (workerId : String) (leaseExpiresAt : Time)
    (locked : List Uuid) (now : Time) :
    Except String (Option RegenerationJob × JobTables) :=
  match tables.candidate locked now with
  | none => return (none, tables)
  | some job => do
      require (job.attemptCount + 1 < 2 ^ 31) "integer out of range"
      return (some (job.claim workerId leaseExpiresAt now), { tables with
        jobs := tables.jobs.update (fun row => row.jobId = job.jobId)
          (fun row => row.claim workerId leaseExpiresAt now) fun _ => rfl })

/-- An `UPDATE ... RETURNING` of at most one job; the flag says whether there
was one. -/
def updateJob (tables : JobTables) (guard : RegenerationJob → Prop)
    [DecidablePred guard] (change : RegenerationJob → RegenerationJob)
    (keeps : ∀ job, (change job).jobId = job.jobId) : Bool × JobTables :=
  (decide (∃ job ∈ tables.jobs.rows, guard job),
    { tables with jobs := tables.jobs.update guard change keeps })

/-- `RegenerationJobRepository.start_running`. -/
def startRunning (tables : JobTables) (jobId : Uuid) (workerId : String) (now : Time) :
    Bool × JobTables :=
  tables.updateJob
    (fun job => job.HeldBy jobId workerId [.claimed] ∧ job.Leased now)
    (fun job => job.start now) fun _ => rfl

/-- `RegenerationJobRepository.heartbeat`. -/
def heartbeat (tables : JobTables) (jobId : Uuid) (workerId : String)
    (leaseExpiresAt now : Time) : Bool × JobTables :=
  tables.updateJob
    (fun job => job.HeldBy jobId workerId [.running] ∧ job.Leased now)
    (fun job => job.heartbeat leaseExpiresAt now) fun _ => rfl

/-- `RegenerationJobRepository.set_retry_wait`. -/
def setRetryWait (tables : JobTables) (jobId : Uuid) (workerId : String)
    (nextRetryAt : Time) (failure : Failure) : Bool × JobTables :=
  tables.updateJob (fun job => job.HeldBy jobId workerId [.claimed, .running])
    (fun job => job.retryWait nextRetryAt failure) fun _ => rfl

/-- `RegenerationJobRepository.set_terminal_failure`; no caller leaves the
worker out. -/
def setTerminalFailure (tables : JobTables) (jobId : Uuid) (state : JobState)
    (failure : Failure) (workerId : String) (now : Time) :
    Except String (Bool × JobTables) := do
  require (state ∈ [JobState.failed, .blocked])
    "terminal failure state must be FAILED or BLOCKED"
  return tables.updateJob
    (fun job => job.HeldBy jobId workerId [.claimed, .running, .retryWait])
    (fun job => job.terminate state failure now) fun _ => rfl

/-- `RegenerationJobRepository.complete_success`. -/
def completeSuccess (tables : JobTables) (jobId : Uuid) (workerId : String)
    (reportId : Uuid) (inputHash : String) (state : JobState) (now : Time) :
    Except String (Bool × JobTables) := do
  require (state ∈ [JobState.succeeded, .noOp])
    "success state must be SUCCEEDED or NO_OP"
  require (inputHash.length = 64) "input_hash must be a SHA-256 hex digest"
  let guard := fun job : RegenerationJob =>
    job.HeldBy jobId workerId [.running]
  require ((∃ job ∈ tables.jobs.rows, guard job) → Sha256.isHex64 inputHash = true)
    "violates check constraint"
  return tables.updateJob guard
    (fun job => job.complete state reportId inputHash now) fun _ => rfl

/-- `RegenerationJobRepository.mark_stale`. -/
def markStale (tables : JobTables) (jobId : Uuid) (workerId reasonCode : String)
    (now : Time) : Except String (Bool × JobTables) := do
  let guard := fun job : RegenerationJob =>
    job.HeldBy jobId workerId [.claimed, .running]
  require ((∃ job ∈ tables.jobs.rows, guard job) →
      reasonCode ∈ tables.referenced.reasonCodes)
    "violates foreign key constraint"
  return tables.updateJob guard
    (fun job => job.markStale reasonCode now) fun _ => rfl

end JobTables

/-- A statement on the jobs. -/
inductive Statement where
  | insert (job : RegenerationJob)
  | claimNext (workerId : String) (leaseExpiresAt : Time) (locked : List Uuid)
  | startRunning (jobId : Uuid) (workerId : String)
  | heartbeat (jobId : Uuid) (workerId : String) (leaseExpiresAt : Time)
  | setRetryWait (jobId : Uuid) (workerId : String) (nextRetryAt : Time) (failure : Failure)
  | setTerminalFailure (jobId : Uuid) (state : JobState) (failure : Failure) (workerId : String)
  | completeSuccess (jobId : Uuid) (workerId : String) (reportId : Uuid)
      (inputHash : String) (state : JobState)
  | markStale (jobId : Uuid) (workerId reasonCode : String)

/-- The worker that a statement names. -/
def Statement.worker : Statement → Option String
  | .insert _ => none
  | .claimNext workerId _ _ => some workerId
  | .startRunning _ workerId => some workerId
  | .heartbeat _ workerId _ => some workerId
  | .setRetryWait _ workerId _ _ => some workerId
  | .setTerminalFailure _ _ _ workerId => some workerId
  | .completeSuccess _ workerId _ _ _ => some workerId
  | .markStale _ workerId _ => some workerId

/-- What a statement leaves. -/
def Statement.run (statement : Statement) (now : Time)
    (tables : JobTables) : Except String JobTables :=
  match statement with
  | .insert job => tables.insert job now
  | .claimNext workerId leaseExpiresAt locked =>
      (tables.claimNext workerId leaseExpiresAt locked now).map Prod.snd
  | .startRunning jobId workerId =>
      .ok (tables.startRunning jobId workerId now).2
  | .heartbeat jobId workerId leaseExpiresAt =>
      .ok (tables.heartbeat jobId workerId leaseExpiresAt now).2
  | .setRetryWait jobId workerId nextRetryAt failure =>
      .ok (tables.setRetryWait jobId workerId nextRetryAt failure).2
  | .setTerminalFailure jobId state failure workerId =>
      (tables.setTerminalFailure jobId state failure workerId now).map Prod.snd
  | .completeSuccess jobId workerId reportId inputHash state =>
      (tables.completeSuccess jobId workerId reportId inputHash state now).map Prod.snd
  | .markStale jobId workerId reasonCode =>
      (tables.markStale jobId workerId reasonCode now).map Prod.snd

/-! ## What a statement does to a job -/

/-- What a statement does to a job that it finds. -/
inductive Effect where
  | kept
  | claimed (workerId : String) (leaseExpiresAt : Time)
  | started
  | prolonged (leaseExpiresAt : Time)
  | retried (nextRetryAt : Time) (failure : Failure)
  | terminated (state : JobState) (failure : Failure)
  | completed (state : JobState) (reportId : Uuid) (inputHash : String)
  | outdated (reasonCode : String)

def Effect.apply (effect : Effect) (now : Time) (job : RegenerationJob) : RegenerationJob :=
  match effect with
  | .kept => job
  | .claimed workerId leaseExpiresAt => job.claim workerId leaseExpiresAt now
  | .started => job.start now
  | .prolonged leaseExpiresAt => job.heartbeat leaseExpiresAt now
  | .retried nextRetryAt failure => job.retryWait nextRetryAt failure
  | .terminated state failure => job.terminate state failure now
  | .completed state reportId inputHash =>
      job.complete state reportId inputHash now
  | .outdated reasonCode => job.markStale reasonCode now

def Statement.effect (statement : Statement) (now : Time) (tables : JobTables)
    (job : RegenerationJob) : Effect :=
  match statement with
  | .insert _ => .kept
  | .claimNext workerId leaseExpiresAt locked =>
      if tables.candidate locked now = some job then
        .claimed workerId leaseExpiresAt
      else .kept
  | .startRunning jobId workerId =>
      if job.HeldBy jobId workerId [.claimed] ∧ job.Leased now then .started
      else .kept
  | .heartbeat jobId workerId leaseExpiresAt =>
      if job.HeldBy jobId workerId [.running] ∧ job.Leased now then
        .prolonged leaseExpiresAt
      else .kept
  | .setRetryWait jobId workerId nextRetryAt failure =>
      if job.HeldBy jobId workerId [.claimed, .running] then
        .retried nextRetryAt failure
      else .kept
  | .setTerminalFailure jobId state failure workerId =>
      if job.HeldBy jobId workerId [.claimed, .running, .retryWait] then
        .terminated state failure
      else .kept
  | .completeSuccess jobId workerId reportId inputHash state =>
      if job.HeldBy jobId workerId [.running] then
        .completed state reportId inputHash
      else .kept
  | .markStale jobId workerId reasonCode =>
      if job.HeldBy jobId workerId [.claimed, .running] then
        .outdated reasonCode
      else .kept

variable {now : Time} {job : RegenerationJob} {before after : JobTables}
  {statement : Statement}

/-- The job that a claim takes was claimable, and no other transaction had
locked it. -/
theorem JobTables.mem_of_candidate {tables : JobTables} {locked : List Uuid}
    (taken : tables.candidate locked now = some job) :
    job ∈ tables.jobs.rows ∧ job.Claimable now ∧ job.jobId ∉ locked := by
  have sorted := List.mem_of_head? taken
  rw [Sorting.mem_sortedBy, List.mem_filter] at sorted
  simpa using sorted

/-- A new job is added under an identifier of its own, and shares its target
with no active job. -/
theorem JobTables.insert_eq_ok (ran : before.insert job now = .ok after) :
    ∃ row inserted,
      row = { job with queuedAt := some (job.queuedAt.getD now) } ∧
      after = { before with jobs := inserted } ∧
      before.jobs.insert row = some inserted ∧ row.Checked ∧
      (row.jobState.Active → ∀ other ∈ before.jobs.rows,
        other.jobState.Active → other.target ≠ row.target) := by
  simp only [insert, require_bind_eq_ok] at ran
  obtain ⟨-, -, checked, unique, continued⟩ := ran
  obtain ⟨inserted, added, continued⟩ := bind_eq_ok.mp continued
  obtain ⟨-, ended⟩ := require_bind_eq_ok.mp continued
  exact ⟨_, inserted, rfl, (pure_eq_ok.mp ended).symm, orRaise_eq_ok.mp added, checked, unique⟩

/-- What a claim returns and leaves. -/
theorem JobTables.claimNext_cases
    {workerId : String} {leaseExpiresAt : Time} {locked : List Uuid}
    {claimed : Option RegenerationJob}
    (ran : before.claimNext workerId leaseExpiresAt locked now = .ok (claimed, after)) :
    (before.candidate locked now = none ∧ claimed = none ∧ after = before) ∨
    ∃ job, before.candidate locked now = some job ∧
      claimed = some (job.claim workerId leaseExpiresAt now) ∧
      after = { before with
        jobs := before.jobs.update (fun row => row.jobId = job.jobId)
          (fun row => row.claim workerId leaseExpiresAt now)
          fun _ => rfl } := by
  unfold claimNext at ran
  cases taken : before.candidate locked now with
  | none =>
      simp only [taken, pure_eq_ok, Prod.mk.injEq] at ran
      exact .inl ⟨rfl, ran.1.symm, ran.2.symm⟩
  | some job =>
      simp only [taken, require_bind_eq_ok, pure_eq_ok, Prod.mk.injEq] at ran
      exact .inr ⟨job, rfl, ran.2.1.symm, ran.2.2.symm⟩

/-- What a statement leaves under a key at which it finds a job. -/
theorem Statement.find_of_run (ran : statement.run now before = .ok after)
    {jobId : Uuid} (found : before.jobs.find jobId = some job) :
    after.jobs.find jobId = some ((statement.effect now before job).apply now job) := by
  have updated : ∀ (guard : RegenerationJob → Prop) [DecidablePred guard]
      (change : RegenerationJob → RegenerationJob) (effect : Effect)
      (keeps : ∀ row, (change row).jobId = row.jobId),
      effect.apply now job = change job →
      (before.jobs.update guard change keeps).find jobId =
        some ((if guard job then effect else .kept).apply now job) := by
    intro guard _ change effect keeps applied
    rw [Table.find_update, found, Option.map_some]
    split_ifs
    · rw [applied]
    · rfl
  cases statement with
  | insert new =>
      obtain ⟨row, inserted, -, rfl, added, -⟩ := JobTables.insert_eq_ok ran
      exact Table.find_insert_of_find added found
  | claimNext workerId leaseExpiresAt locked =>
      obtain ⟨⟨claimed, tables⟩, made, rfl⟩ := map_eq_ok.mp ran
      rcases JobTables.claimNext_cases made with
        ⟨idle, -, rfl⟩ | ⟨other, taken, -, rfl⟩
      · rw [effect, idle, if_neg nofun]
        exact found
      · have same : job.jobId = other.jobId ↔
            before.candidate locked now = some job := by
          rw [taken, Option.some.injEq]
          constructor
          · intro shared
            have itself := Table.find_of_mem (JobTables.mem_of_candidate taken).1
            rw [← shared, Table.key_of_find found, found, Option.some.injEq] at itself
            exact itself.symm
          · exact fun shared => shared ▸ rfl
        rw [effect, ← if_congr same rfl rfl]
        exact updated _ _ (.claimed workerId leaseExpiresAt) (by exact fun _ => rfl) rfl
  | startRunning target workerId =>
      cases ran
      exact updated _ _ .started (by exact fun _ => rfl) rfl
  | heartbeat target workerId leaseExpiresAt =>
      cases ran
      exact updated _ _ (.prolonged leaseExpiresAt) (by exact fun _ => rfl) rfl
  | setRetryWait target workerId nextRetryAt failure =>
      cases ran
      exact updated _ _ (.retried nextRetryAt failure) (by exact fun _ => rfl) rfl
  | setTerminalFailure target state failure workerId =>
      obtain ⟨⟨updatedAny, tables⟩, made, rfl⟩ := map_eq_ok.mp ran
      obtain ⟨-, ended⟩ := require_bind_eq_ok.mp made
      cases ended
      exact updated _ _ (.terminated state failure) (by exact fun _ => rfl) rfl
  | completeSuccess target workerId reportId inputHash state =>
      obtain ⟨⟨updatedAny, tables⟩, made, rfl⟩ := map_eq_ok.mp ran
      simp only [JobTables.completeSuccess, require_bind_eq_ok] at made
      obtain ⟨-, -, -, ended⟩ := made
      cases ended
      exact updated _ _ (.completed state reportId inputHash) (by exact fun _ => rfl) rfl
  | markStale target workerId reasonCode =>
      obtain ⟨⟨updatedAny, tables⟩, made, rfl⟩ := map_eq_ok.mp ran
      obtain ⟨-, ended⟩ := require_bind_eq_ok.mp made
      cases ended
      exact updated _ _ (.outdated reasonCode) (by exact fun _ => rfl) rfl

/-- What a statement leaves under a key at which it finds no job. -/
theorem Statement.new_of_run (ran : statement.run now before = .ok after) {jobId : Uuid}
    (missing : before.jobs.find jobId = none) (found : after.jobs.find jobId = some job) :
    ∃ new, statement = .insert new ∧
      job = { new with queuedAt := some (new.queuedAt.getD now) } ∧
      job.Checked ∧
      (job.jobState.Active → ∀ other ∈ before.jobs.rows,
        other.jobState.Active → other.target ≠ job.target) := by
  have updated : ∀ (guard : RegenerationJob → Prop) [DecidablePred guard]
      (change : RegenerationJob → RegenerationJob)
      (keeps : ∀ row, (change row).jobId = row.jobId),
      (before.jobs.update guard change keeps).find jobId ≠ some job := by
    intro guard _ change keeps present
    rw [Table.find_update, missing] at present
    cases present
  cases statement with
  | insert new =>
      obtain ⟨row, inserted, rfl, rfl, added, checked, unique⟩ := JobTables.insert_eq_ok ran
      change inserted.find jobId = some job at found
      rw [Table.find_insert added, missing] at found
      split_ifs at found
      cases found
      exact ⟨new, rfl, rfl, checked, unique⟩
  | claimNext workerId leaseExpiresAt locked =>
      obtain ⟨⟨claimed, tables⟩, made, rfl⟩ := map_eq_ok.mp ran
      rcases JobTables.claimNext_cases made with
        ⟨-, -, rfl⟩ | ⟨other, -, -, rfl⟩
      · exact absurd (missing.symm.trans found) nofun
      · exact absurd found (updated _ _ (by exact fun _ => rfl))
  | startRunning target workerId =>
      cases ran
      exact absurd found (updated _ _ (by exact fun _ => rfl))
  | heartbeat target workerId leaseExpiresAt =>
      cases ran
      exact absurd found (updated _ _ (by exact fun _ => rfl))
  | setRetryWait target workerId nextRetryAt failure =>
      cases ran
      exact absurd found (updated _ _ (by exact fun _ => rfl))
  | setTerminalFailure target state failure workerId =>
      obtain ⟨⟨updatedAny, tables⟩, made, rfl⟩ := map_eq_ok.mp ran
      obtain ⟨-, ended⟩ := require_bind_eq_ok.mp made
      cases ended
      exact absurd found (updated _ _ (by exact fun _ => rfl))
  | completeSuccess target workerId reportId inputHash state =>
      obtain ⟨⟨updatedAny, tables⟩, made, rfl⟩ := map_eq_ok.mp ran
      simp only [JobTables.completeSuccess, require_bind_eq_ok] at made
      obtain ⟨-, -, -, ended⟩ := made
      cases ended
      exact absurd found (updated _ _ (by exact fun _ => rfl))
  | markStale target workerId reasonCode =>
      obtain ⟨⟨updatedAny, tables⟩, made, rfl⟩ := map_eq_ok.mp ran
      obtain ⟨-, ended⟩ := require_bind_eq_ok.mp made
      cases ended
      exact absurd found (updated _ _ (by exact fun _ => rfl))

/-- A job that a statement leaves was there before, or is new. -/
theorem Statement.mem_of_run (ran : statement.run now before = .ok after)
    (present : job ∈ after.jobs.rows) :
    (∃ prior ∈ before.jobs.rows, job = (statement.effect now before prior).apply now prior) ∨
    ∃ new, statement = .insert new ∧
      job = { new with queuedAt := some (new.queuedAt.getD now) } ∧
      job.Checked ∧
      (job.jobState.Active → ∀ other ∈ before.jobs.rows,
        other.jobState.Active → other.target ≠ job.target) := by
  have found := Table.find_of_mem present
  cases earlier : before.jobs.find job.jobId with
  | none => exact .inr (Statement.new_of_run ran earlier found)
  | some prior =>
      rw [Statement.find_of_run ran earlier, Option.some.injEq] at found
      exact .inl ⟨prior, (Table.find_eq_some_iff.mp earlier).1, found.symm⟩

/-- A job that was there before is left as the statement changes it. -/
theorem Statement.mem_run_of_mem (ran : statement.run now before = .ok after)
    (present : job ∈ before.jobs.rows) :
    (statement.effect now before job).apply now job ∈ after.jobs.rows := by
  have found := Statement.find_of_run ran (Table.find_of_mem present)
  exact (Table.find_eq_some_iff.mp found).1

/-- When a statement has an effect on a job. -/
inductive Effect.Allowed :
    Effect → Statement → Time → RegenerationJob → Prop
  | kept {statement : Statement} {now : Time} {job : RegenerationJob} :
      Allowed .kept statement now job
  | claimed {workerId : String} {leaseExpiresAt now : Time}
      {locked : List Uuid} {job : RegenerationJob} :
      job.Claimable now →
      Allowed (.claimed workerId leaseExpiresAt) (.claimNext workerId leaseExpiresAt locked) now job
  | started {workerId : String} {now : Time} {job : RegenerationJob} :
      job.workerId = some workerId → job.jobState = .claimed →
      Allowed .started (.startRunning job.jobId workerId) now job
  | prolonged {workerId : String} {leaseExpiresAt now : Time}
      {job : RegenerationJob} :
      job.workerId = some workerId → job.jobState = .running →
      Allowed (.prolonged leaseExpiresAt) (.heartbeat job.jobId workerId leaseExpiresAt) now job
  | retried {workerId : String} {nextRetryAt now : Time} {failure : Failure}
      {job : RegenerationJob} :
      job.workerId = some workerId → job.jobState.Held →
      Allowed (.retried nextRetryAt failure)
        (.setRetryWait job.jobId workerId nextRetryAt failure) now job
  | terminated {workerId : String} {state : JobState} {failure : Failure}
      {now : Time} {job : RegenerationJob} :
      state = .failed ∨ state = .blocked →
      job.workerId = some workerId →
      job.jobState.Held ∨ job.jobState = .retryWait →
      Allowed (.terminated state failure)
        (.setTerminalFailure job.jobId state failure workerId) now job
  | completed {workerId inputHash : String} {state : JobState}
      {reportId : Uuid} {now : Time} {job : RegenerationJob} :
      state = .succeeded ∨ state = .noOp →
      job.workerId = some workerId → job.jobState = .running →
      Allowed (.completed state reportId inputHash)
        (.completeSuccess job.jobId workerId reportId inputHash state) now job
  | outdated {workerId reasonCode : String} {now : Time}
      {job : RegenerationJob} :
      job.workerId = some workerId → job.jobState.Held →
      Allowed (.outdated reasonCode) (.markStale job.jobId workerId reasonCode) now job

theorem Statement.allowed_of_run
    (ran : statement.run now before = .ok after) (job : RegenerationJob) :
    (statement.effect now before job).Allowed statement now job := by
  cases statement with
  | insert new => exact .kept
  | claimNext workerId leaseExpiresAt locked =>
      unfold effect
      dsimp only
      split_ifs with taken
      · exact .claimed (JobTables.mem_of_candidate taken).2.1
      · exact .kept
  | startRunning target workerId =>
      unfold effect
      dsimp only
      split_ifs with held
      · obtain ⟨⟨rfl, own, state⟩, -⟩ := held
        exact .started own (List.mem_singleton.mp state)
      · exact .kept
  | heartbeat target workerId leaseExpiresAt =>
      unfold effect
      dsimp only
      split_ifs with held
      · obtain ⟨⟨rfl, own, state⟩, -⟩ := held
        exact .prolonged own (List.mem_singleton.mp state)
      · exact .kept
  | setRetryWait target workerId nextRetryAt failure =>
      unfold effect
      dsimp only
      split_ifs with held
      · obtain ⟨rfl, own, state⟩ := held
        exact .retried own (by simpa [JobState.Held] using state)
      · exact .kept
  | setTerminalFailure target state failure workerId =>
      obtain ⟨⟨updatedAny, tables⟩, made, -⟩ := map_eq_ok.mp ran
      have final := (require_bind_eq_ok.mp made).1
      unfold effect
      dsimp only
      split_ifs with held
      · obtain ⟨rfl, own, prior⟩ := held
        refine .terminated (by simpa using final) own ?_
        simpa [JobState.Held, or_assoc] using prior
      · exact .kept
  | completeSuccess target workerId reportId inputHash state =>
      obtain ⟨⟨updatedAny, tables⟩, made, -⟩ := map_eq_ok.mp ran
      have final := (require_bind_eq_ok.mp made).1
      unfold effect
      dsimp only
      split_ifs with held
      · obtain ⟨rfl, own, prior⟩ := held
        exact .completed (by simpa using final) own (List.mem_singleton.mp prior)
      · exact .kept
  | markStale target workerId reasonCode =>
      unfold effect
      dsimp only
      split_ifs with held
      · obtain ⟨rfl, own, state⟩ := held
        exact .outdated own (by simpa [JobState.Held] using state)
      · exact .kept

/-!
## Requeueing a regeneration job

The statement of the recovery command `REQUEUE_REGENERATION_JOB`.  A statement
that names a column that its table does not have raises, whatever its rows
are.
-/

/-- The columns of `orchestration.regeneration_jobs`. -/
def columns : List String :=
  ["job_id", "property_id", "report_variant", "trigger_event_id",
    "trigger_type", "target_snapshot_id", "old_report_id", "priority_class",
    "priority_score", "job_target_key", "job_state", "attempt_count",
    "max_attempts", "worker_id", "claimed_at", "last_heartbeat_at",
    "lease_expires_at", "queued_at", "started_at", "completed_at",
    "next_retry_at", "input_hash", "completion_report_id", "failure_stage",
    "failure_code", "failure_message_safe", "stale_reason_code",
    "release_id", "correlation_id", "created_at", "updated_at"]

/-- The columns that the statement names. -/
def requeueColumns : List String :=
  ["job_state", "worker_id", "lease_expires_at", "next_attempt_at", "updated_at", "job_id"]

/-- The assignments of the statement to the columns of a job. -/
def RegenerationJob.requeue (job : RegenerationJob) : RegenerationJob :=
  { job with
    jobState := .queued
    workerId := none
    leaseExpiresAt := none }

theorem RegenerationJob.jobId_requeue (job : RegenerationJob) : job.requeue.jobId = job.jobId := rfl

/-- A job that the statement requeues. -/
def RegenerationJob.Requeueable (job : RegenerationJob) : Prop :=
  job.jobState ∈ [JobState.failed, .blocked, .stale]

instance (job : RegenerationJob) : Decidable job.Requeueable :=
  inferInstanceAs (Decidable (_ ∈ _))

/-- The statement, on a table with some columns.  A requeued job is active, so
that the unique index applies to it. -/
def JobTables.requeue (schema : List String) (tables : JobTables) (jobId : Uuid) :
    Except String (Bool × JobTables) := do
  require (∀ column ∈ requeueColumns, column ∈ schema) "column does not exist"
  let guard := fun job : RegenerationJob =>
    job.jobId = jobId ∧ job.Requeueable
  require (∀ job ∈ tables.jobs.rows, guard job →
      ∀ other ∈ tables.jobs.rows, other.jobState.Active → other.target ≠ job.target)
    "duplicate key value violates unique constraint"
  return tables.updateJob guard RegenerationJob.requeue
    RegenerationJob.jobId_requeue

/-- The table has no `next_attempt_at`. -/
theorem JobTables.requeue_columns (tables : JobTables) (jobId : Uuid) :
    tables.requeue columns jobId = .error "column does not exist" := by
  have missing : ¬ ∀ column ∈ requeueColumns, column ∈ columns := by
    decide
  unfold requeue require
  rw [if_neg missing]
  rfl

end SanTanHeights.Regeneration
