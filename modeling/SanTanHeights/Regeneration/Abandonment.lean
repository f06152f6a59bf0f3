import SanTanHeights.Regeneration.Safety

/-!
# Abandoned jobs

Nothing but the calls of its worker changes a job that a worker holds.  A
lease that expires takes the calls of the worker away as well, and gives the
job to no one else.
-/

namespace SanTanHeights.Regeneration

open Foundation Foundation.Outcome Foundation.Runs Shared

/-- The lease of a job has expired. -/
def RegenerationJob.Expired (job : RegenerationJob) (now : Time) : Prop :=
  ∃ leaseExpiresAt ∈ job.leaseExpiresAt, leaseExpiresAt ≤ now

instance (job : RegenerationJob) (now : Time) : Decidable (job.Expired now) :=
  inferInstanceAs (Decidable (∃ _ ∈ job.leaseExpiresAt, _))

/-- Some worker claims a job. -/
def JobTables.CanClaim (tables : JobTables) (job : RegenerationJob) (now : Time) : Prop :=
  ∃ workerId leaseExpiresAt locked claimed after,
    tables.claimNext workerId leaseExpiresAt locked now =
        .ok (some claimed, after) ∧
      claimed.jobId = job.jobId

/-- The worker that makes the call of an event. -/
def Event.worker : Event → Option String
  | .made call _ => call.worker
  | .rolledBack call => call.worker

theorem RegenerationJob.Claimable.not_held
    {job : RegenerationJob} {now : Time} (claimable : job.Claimable now) :
    ¬ job.jobState.Held := by
  rcases claimable with queued | ⟨waiting, -⟩
  · rw [queued]
    decide
  · rw [waiting]
    decide

/-- A claim gives no job that is held. -/
theorem JobTables.not_canClaim_of_held {tables : JobTables} {job : RegenerationJob} {now : Time}
    (present : job ∈ tables.jobs.rows) (held : job.jobState.Held) :
    ¬ tables.CanClaim job now := by
  rintro ⟨workerId, leaseExpiresAt, locked, claimed, after, ran, same⟩
  rcases JobTables.claimNext_cases ran with
    ⟨-, idle, -⟩ | ⟨taken, candidate, claims, -⟩
  · cases idle
  · cases claims
    have claimable := JobTables.mem_of_candidate candidate
    have found := Table.find_of_mem claimable.1
    change taken.jobId = job.jobId at same
    rw [same, Table.find_of_mem present, Option.some.injEq] at found
    rw [← found] at claimable
    exact claimable.2.1.not_held held

/-- Where active jobs have different targets, the queue answers with the
active job of a target. -/
theorem JobTables.findActive_eq_some {tables : JobTables} {job : RegenerationJob}
    (unique : ∀ job ∈ tables.jobs.rows, ∀ other ∈ tables.jobs.rows,
      job.jobState.Active → other.jobState.Active → job.target = other.target → job = other)
    (present : job ∈ tables.jobs.rows) (active : job.jobState.Active) :
    tables.findActive job.propertyId job.reportVariant job.jobTargetKey = some job.jobId := by
  unfold findActive
  generalize sorted : Sorting.sortedBy (fun job : RegenerationJob =>
      toLex (job.queuedAt.getD 0, job.jobId.value))
    (tables.jobs.rows.filter fun other => other.jobState.Active ∧ other.target =
        (job.propertyId, job.reportVariant, job.jobTargetKey)) = answers
  have answered : ∀ other, other ∈ answers ↔
      other ∈ tables.jobs.rows ∧ other.jobState.Active ∧ other.target = job.target := by
    intro other
    rw [← sorted, Sorting.mem_sortedBy, List.mem_filter, decide_eq_true_iff]
    rfl
  cases answers with
  | nil => cases (answered job).mpr ⟨present, active, rfl⟩
  | cons first rest =>
      obtain ⟨firstPresent, firstActive, same⟩ := (answered first).mp List.mem_cons_self
      have itself := unique first firstPresent job present firstActive active same
      rw [itself]
      rfl

/-- Only a statement of its worker changes a job that is held. -/
theorem Effect.Allowed.apply_of_held
    {effect : Effect} {statement : Statement} {now : Time} {job : RegenerationJob}
    (allowed : effect.Allowed statement now job) (held : job.jobState.Held)
    (other : ∀ workerId ∈ statement.worker, job.workerId ≠ some workerId) :
    effect.apply now job = job := by
  cases allowed with
  | kept => rfl
  | claimed claimable => exact absurd held claimable.not_held
  | started own _ => exact absurd own (other _ rfl)
  | prolonged own _ => exact absurd own (other _ rfl)
  | retried own _ => exact absurd own (other _ rfl)
  | terminated _ own _ => exact absurd own (other _ rfl)
  | completed _ own _ => exact absurd own (other _ rfl)
  | outdated own _ => exact absurd own (other _ rfl)

variable {policy : RetryPolicy} {before after : Regenerating} {event : Event}
  {job : RegenerationJob}

theorem mem_of_step_of_held (taken : Step policy before event after)
    (present : job ∈ before.tables.jobs.rows) (held : job.jobState.Held)
    (other : ∀ workerId ∈ event.worker, job.workerId ≠ some workerId) :
    job ∈ after.tables.jobs.rows := by
  cases taken with
  | rolledBack call => exact present
  | @made _ call now made =>
      obtain ⟨statement, stated, ran, -⟩ := Regenerating.make_eq_ok made
      have allowed := Statement.allowed_of_run ran job
      have left := Statement.mem_run_of_mem ran present
      rwa [allowed.apply_of_held held] at left
      intro workerId names
      rw [Call.worker_of_statement stated] at names
      exact other workerId names

/-- A job that its worker has abandoned stays as it is. -/
theorem mem_of_run_of_held
    {history : List Event} (run : Exec (Step policy) before history after)
    (present : job ∈ before.tables.jobs.rows) (held : job.jobState.Held)
    (others : ∀ event ∈ history, ∀ workerId ∈ event.worker, job.workerId ≠ some workerId) :
    job ∈ after.tables.jobs.rows := by
  induction run with
  | nil state => exact present
  | cons taken _ ih =>
      rw [List.forall_mem_cons] at others
      apply ih _ others.2
      exact mem_of_step_of_held taken present held others.1

/-- Active jobs have different targets in every run. -/
theorem unique_of_run {referenced : Referenced} {history : List Event}
    (run : Exec (Step policy) (.start referenced) history after) :
    ∀ job ∈ after.tables.jobs.rows, ∀ other ∈ after.tables.jobs.rows,
      job.jobState.Active → other.jobState.Active → job.target = other.target → job = other := by
  apply run.invariant
  · exact (safe_start policy referenced).unique
  · intro before event after unique taken
    cases taken with
    | rolledBack call => exact unique
    | @made _ call now made =>
        obtain ⟨statement, -, ran, -⟩ := Regenerating.make_eq_ok made
        exact Statement.unique_of_run ran unique

/-- A job in `CLAIMED` or `RUNNING` whose worker makes no further call is never
taken over, and stays the active job of its target. -/
theorem abandoned_job_stays {policy : RetryPolicy} {referenced : Referenced}
    {before after : Regenerating} {earlier later : List Event} {job : RegenerationJob}
    (reached : Exec (Step policy) (.start referenced) earlier before)
    (present : job ∈ before.tables.jobs.rows) (held : job.jobState.Held)
    (continued : Exec (Step policy) before later after)
    (others : ∀ event ∈ later, ∀ workerId ∈ event.worker,
      job.workerId ≠ some workerId) :
    job ∈ after.tables.jobs.rows ∧ (∀ now, ¬ after.tables.CanClaim job now) ∧
      after.tables.findActive job.propertyId job.reportVariant
        job.jobTargetKey = some job.jobId := by
  have left := mem_of_run_of_held continued present held others
  refine ⟨left, fun now => JobTables.not_canClaim_of_held left held, ?_⟩
  apply JobTables.findActive_eq_some _ left held.active
  exact unique_of_run (reached.append continued)

/-! ## A worker that is gone -/

/-- A job is claimed. -/
def sampleClaim : List Event :=
  [.made (.queue (sampleRequest 4 2)) 0, .made (.claimNext "worker-1" sampleManager [] 0) 0]

theorem sampleClaim_run :
    ∃ before : Regenerating,
      Exec (Step repositoryPolicy) (.start sampleReferenced) sampleClaim before ∧
      sampleCopy 0 ∈ before.tables.jobs.rows := by
  have claimed : ((sampleClaim.foldlM (Regenerating.advance repositoryPolicy)
      (.start sampleReferenced)).toOption.map fun before =>
        decide (sampleCopy 0 ∈ before.tables.jobs.rows)) = some true := by
    decide +kernel
  obtain ⟨before, ran, present⟩ := Option.map_eq_some_iff.mp claimed
  refine ⟨before, ?_, of_decide_eq_true present⟩
  exact Exec.of_foldlM Step.of_advance (toOption_eq_some.mp ran)

theorem abandoned_job_stays_sample :
    ∃ before : Regenerating, sampleCopy 0 ∈ before.tables.jobs.rows ∧
      ∀ now, ¬ before.tables.CanClaim (sampleCopy 0) now := by
  obtain ⟨before, run, present⟩ := sampleClaim_run
  have stays := abandoned_job_stays run present (.inl rfl)
    (.single (.rolledBack before (.claimNext "worker-2" sampleManager [] 0)))
    (by decide)
  exact ⟨before, stays.1, stays.2.1⟩

/-- A minute after its only claim a job has an expired lease, and no worker
can claim it. -/
theorem expired_job_unclaimable :
    ∃ (referenced : Referenced) (history : List Event) (last : Regenerating)
      (job : RegenerationJob) (now : Time),
      Exec (Step repositoryPolicy) (.start referenced) history last ∧
      job ∈ last.tables.jobs.rows ∧ job.jobState.Held ∧ job.Expired now ∧
      ¬ last.tables.CanClaim job now := by
  obtain ⟨last, run, present⟩ := sampleClaim_run
  refine ⟨sampleReferenced, sampleClaim, last, sampleCopy 0, seconds 60, run,
    present, .inl rfl, by decide, ?_⟩
  exact JobTables.not_canClaim_of_held present (.inl rfl)

end SanTanHeights.Regeneration
