import SanTanHeights.Regeneration.Abandonment

/-!
# What a worker reports

`process` answers with a status that its path through the code fixes.  The
update before it is guarded, and its result is not looked at.  Between the
start of a job and that update, other callers of the repository may execute
any statements, among them a terminal failure that names no worker.
-/

namespace SanTanHeights.Regeneration

open Foundation Foundation.Outcome Foundation.Runs Shared

/-! ## Statuses -/

/-- The states of its job that a status of `process` stands for. -/
def reportedStates (status : String) : List JobState :=
  if status = "SUCCEEDED" then [.succeeded]
  else if status = "NO_OP" then [.noOp]
  else if status = "STALE" then [.stale]
  else if status = "BLOCKED" then [.blocked]
  else if status = "FAILED_OR_RETRY" ∨ status = "VALIDATION_FAILED" then
    [.retryWait, .failed, .blocked]
  else []

/-- The states in which a statement that ends the processing of a job looks
for it. -/
def Statement.sought : Statement → List JobState
  | .setRetryWait _ _ _ _ => [.claimed, .running]
  | .setTerminalFailure _ _ _ _ => [.claimed, .running, .retryWait]
  | .completeSuccess _ _ _ _ _ => [.running]
  | .markStale _ _ _ => [.claimed, .running]
  | _ => []

/-- A statement moves the job of a worker to a state that a status stands
for, if it finds the job. -/
def Statement.Ends (statement : Statement) (jobId : Uuid) (workerId status : String) : Prop :=
  ∃ ending : Effect, (∀ now tables job, statement.effect now tables job =
      if job.HeldBy jobId workerId statement.sought then ending else .kept) ∧
    ∀ now job, (ending.apply now job).jobState ∈ reportedStates status

theorem Statement.ends_setTerminalFailure
    {jobId : Uuid} {workerId status : String} {state : JobState}
    {failure : Failure} (reported : state ∈ reportedStates status) :
    (Statement.setTerminalFailure jobId state failure workerId).Ends jobId workerId status :=
  ⟨.terminated state failure, fun _ _ _ => rfl, fun _ _ => reported⟩

/-- A failure is retried or ends the job. -/
theorem Statement.ends_handleFailure
    {policy : RetryPolicy} {jobId : Uuid} {workerId status : String}
    {failure : Failure} {attemptCount : Nat} {maxAttempts : Int} {utcnow : Time}
    (failed : reportedStates status = [.retryWait, .failed, .blocked]) :
    (handleFailure policy jobId workerId failure attemptCount maxAttempts
      utcnow).Ends jobId workerId status := by
  unfold handleFailure
  cases acts : (policy.classify failure.code attemptCount maxAttempts).action with
  | retry =>
      simp only [acts]
      refine ⟨.retried _ failure, fun _ _ _ => rfl, fun _ _ => ?_⟩
      rw [failed]
      exact List.mem_cons_self
  | block =>
      simp only [acts]
      apply Statement.ends_setTerminalFailure
      rw [failed]
      simp
  | fail =>
      simp only [acts]
      apply Statement.ends_setTerminalFailure
      rw [failed]
      simp

/-- The statement before a status moves the job where the status says, if it
finds the job. -/
theorem ends_of_conclude {service : Option RetryPolicy} {workerId status : String}
    {job : RegenerationJob} {outcome : BuildOutcome} {utcnow : Time} {statement : Statement}
    (concluded : conclude service workerId job outcome utcnow = .ok (statement, status)) :
    statement.Ends job.jobId workerId status := by
  cases outcome with
  | stale reasonCode =>
      cases concluded
      exact ⟨.outdated _, fun _ _ _ => rfl, fun _ _ => List.mem_cons_self⟩
  | blocked reasonCode =>
      cases concluded
      exact Statement.ends_setTerminalFailure List.mem_cons_self
  | raised failureCode className =>
      cases service with
      | none => cases concluded
      | some policy =>
          cases concluded
          exact Statement.ends_handleFailure rfl
  | invalid failureCode =>
      cases service with
      | none =>
          cases concluded
          exact Statement.ends_setTerminalFailure (by decide)
      | some policy =>
          cases concluded
          exact Statement.ends_handleFailure rfl
  | built reportId inputHash reusedExisting =>
      cases concluded
      refine ⟨.completed _ reportId inputHash, fun _ _ _ => rfl, ?_⟩
      intro now job
      cases reusedExisting <;> exact List.mem_cons_self

theorem Effect.jobId_apply (effect : Effect) (now : Time) (job : RegenerationJob) :
    (effect.apply now job).jobId = job.jobId := by
  cases effect <;> rfl

/-! ## Other callers -/

/-- A call of another caller of the repository, which may leave out the worker
of a terminal failure. -/
inductive RepositoryCall where
  | stated (statement : Statement)
  | unowned (jobId : Uuid) (state : JobState) (failure : Failure)

theorem RegenerationJob.terminate_jobId
    (job : RegenerationJob) (state : JobState) (failure : Failure)
    (now : Time) : (job.terminate state failure now).jobId = job.jobId := rfl

/-- `set_terminal_failure` without a worker. -/
def JobTables.setUnownedFailure (tables : JobTables) (jobId : Uuid) (state : JobState)
    (failure : Failure) (now : Time) : Except String (Bool × JobTables) := do
  require (state ∈ [JobState.failed, .blocked])
    "terminal failure state must be FAILED or BLOCKED"
  return tables.updateJob (fun job => job.jobId = jobId ∧
      job.jobState ∈ [JobState.claimed, .running, .retryWait])
    (fun job => job.terminate state failure now)
    (RegenerationJob.terminate_jobId · state failure now)

/-- What a call leaves. -/
def RepositoryCall.run (call : RepositoryCall) (now : Time) (tables : JobTables) :
    Except String JobTables :=
  match call with
  | .stated statement => statement.run now tables
  | .unowned jobId state failure =>
      (tables.setUnownedFailure jobId state failure now).map Prod.snd

/-- A call of another caller takes effect at a time. -/
def RepositoryStep (before : JobTables) (event : RepositoryCall × Time) (after : JobTables) :
    Prop :=
  event.1.run event.2 before = .ok after

/-! ## Processing -/

/-- A call of `process` that has returned a status: the job was started, other
callers went on meanwhile, and the statement before the status took effect. -/
structure Processed where
  service : Option RetryPolicy
  workerId : String
  job : RegenerationJob
  outcome : BuildOutcome
  utcnow : Time
  startedAt : Time
  endedAt : Time
  others : List (RepositoryCall × Time)
  statement : Statement
  status : String
  first : JobTables
  middle : JobTables
  last : JobTables
  started : (first.startRunning job.jobId workerId startedAt).1 = true
  meanwhile : Exec RepositoryStep (first.startRunning job.jobId workerId startedAt).2 others middle
  concluded : conclude service workerId job outcome utcnow = .ok (statement, status)
  ended : statement.run endedAt middle = .ok last

namespace Processed

/-- The job is in a state that the status stands for. -/
def Truthful (call : Processed) : Prop :=
  ∃ row ∈ call.last.jobs.rows, row.jobId = call.job.jobId ∧
    row.jobState ∈ reportedStates call.status

/-- The last statement finds the job in the hands of its worker, or the job is
where the status says already. -/
def Found (call : Processed) : Prop :=
  ∃ row ∈ call.middle.jobs.rows, row.jobId = call.job.jobId ∧
    (row.HeldBy call.job.jobId call.workerId call.statement.sought ∨
      row.jobState ∈ reportedStates call.status)

/-- What `process` answers is the state of the job just when its last
statement finds the job, or the job is there already. -/
theorem truthful_iff_found (call : Processed) : call.Truthful ↔ call.Found := by
  obtain ⟨ending, effects, reported⟩ := ends_of_conclude call.concluded
  constructor
  · rintro ⟨row, present, own, state⟩
    rcases Statement.mem_of_run call.ended present with
      ⟨prior, earlier, rfl⟩ | ⟨new, inserts, -⟩
    · rw [Effect.jobId_apply] at own
      refine ⟨prior, earlier, own, ?_⟩
      rw [effects] at state
      split_ifs at state with held
      · exact .inl held
      · exact .inr state
    · have names := worker_of_conclude call.concluded
      rw [inserts] at names
      cases names
  · rintro ⟨row, present, own, found⟩
    refine ⟨_, Statement.mem_run_of_mem call.ended present, ?_, ?_⟩
    · rw [Effect.jobId_apply]
      exact own
    · rw [effects]
      split_ifs with held
      · exact reported _ _
      · exact found.resolve_left held

end Processed

/-! ## A job that is ended meanwhile -/

/-- A job that worker-1 has claimed. -/
def sampleClaimed : JobTables where
  referenced := sampleReferenced
  jobs := ⟨[sampleCopy 0], List.nodup_singleton _⟩

/-- An operator ends the job while its report is being built. -/
def sampleOperator : RepositoryCall :=
  .unowned (sampleCopy 0).jobId .failed sampleTimeout

/-- The statement of a worker that has built the report. -/
def sampleCompletion : Statement :=
  .completeSuccess (sampleCopy 0).jobId "worker-1" 5
    (String.ofList (List.replicate 64 'a')) .succeeded

/-- A worker answers that it succeeded, and its job has failed. -/
theorem failed_job_reported_succeeded :
    ∃ call : Processed, call.status = "SUCCEEDED" ∧ ¬call.Truthful := by
  let running :=
    (sampleClaimed.startRunning (sampleCopy 0).jobId "worker-1" 0).2
  have reached : ((do
      let middle ← sampleOperator.run 0 running
      let last ← sampleCompletion.run 0 middle
      return (middle, last)).toOption.map
        fun reached : JobTables × JobTables =>
          decide (∀ row ∈ reached.2.jobs.rows,
            row.jobState = JobState.failed)) =
      some true := by
    decide +kernel
  obtain ⟨⟨middle, last⟩, ran, failed⟩ := Option.map_eq_some_iff.mp reached
  obtain ⟨middle, meanwhile, rest⟩ := bind_eq_ok.mp (toOption_eq_some.mp ran)
  obtain ⟨last, ended, same⟩ := bind_eq_ok.mp rest
  cases same
  refine ⟨⟨none, "worker-1", sampleCopy 0, .built ⟨5, by decide⟩
    (String.ofList (List.replicate 64 'a')) false, 0, 0, 0,
    [(sampleOperator, 0)], sampleCompletion, "SUCCEEDED", sampleClaimed,
    middle, last, by decide +kernel, .single meanwhile, rfl, ended⟩, rfl, ?_⟩
  rintro ⟨row, present, -, succeeded⟩
  rw [of_decide_eq_true failed row present] at succeeded
  cases List.mem_singleton.mp succeeded

end SanTanHeights.Regeneration
