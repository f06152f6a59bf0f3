import SanTanHeights.Foundation.Runs
import SanTanHeights.Foundation.Text
import SanTanHeights.Regeneration.Jobs

/-!
# Regeneration workers

`RetryPolicy`, `RegenerationRetryService` and `RegenerationWorker`, and what
any number of workers do side by side.  A worker acts on the copy of a job
that `claim_next` gave it, which the stored job may have left behind.
-/

namespace SanTanHeights.Regeneration

open Foundation Foundation.Outcome Shared

/-! ## The retry policy -/

/-- `action` of a retry rule. -/
inductive RetryAction where
  | retry
  | block
  | fail
  deriving DecidableEq, Repr

/-- A rule of the retry registry. -/
structure RetryRule where
  ruleId : String
  failureCode : String
  action : RetryAction
  deriving DecidableEq

/-- `RetryDecision`. -/
structure RetryDecision where
  action : RetryAction
  ruleId : String
  registryVersion : String
  delaySeconds : Option Nat
  deriving DecidableEq

/-- `RetryPolicy`, with what `from_repository` checks. -/
structure RetryPolicy where
  version : String
  rules : List RetryRule
  defaultAction : RetryAction
  base : Nat
  maximum : Nat
  distinct : (rules.map RetryRule.failureCode).Nodup
  failsClosed : defaultAction ≠ .retry

namespace RetryPolicy

/-- The delay before another attempt. -/
def delay (policy : RetryPolicy) (attemptCount : Nat) : Nat :=
  min policy.maximum (policy.base * 2 ^ (attemptCount - 1))

/-- `classify`. -/
def classify (policy : RetryPolicy) (failureCode : String) (attemptCount : Nat)
    (maxAttempts : Int) : RetryDecision :=
  let rule := policy.rules.find? fun rule => rule.failureCode = failureCode
  let action := (rule.map RetryRule.action).getD policy.defaultAction
  let ruleId := (rule.map RetryRule.ruleId).getD "RETRY_DEFAULT_FAIL_CLOSED"
  if action = .retry ∧ maxAttempts ≤ attemptCount then
    ⟨.fail, "RETRY_ATTEMPTS_EXHAUSTED", policy.version, none⟩
  else
    ⟨action, ruleId, policy.version,
      if action = .retry then some (policy.delay attemptCount) else none⟩

theorem delay_le (policy : RetryPolicy) (attemptCount : Nat) :
    policy.delay attemptCount ≤ policy.maximum :=
  Nat.min_le_left _ _

/-- A retry leaves another attempt, as far as the given counts say. -/
theorem lt_of_classify_retry {policy : RetryPolicy} {failureCode : String} {attemptCount : Nat}
    {maxAttempts : Int}
    (retries : (policy.classify failureCode attemptCount maxAttempts).action = .retry) :
    (attemptCount : Int) < maxAttempts ∧
      (policy.classify failureCode attemptCount maxAttempts).delaySeconds =
        some (policy.delay attemptCount) := by
  unfold classify at retries ⊢
  dsimp only at retries ⊢
  split_ifs at retries ⊢ with exhausted acts
  · exact ⟨not_le.mp fun reached => exhausted ⟨acts, reached⟩, rfl⟩
  · exact absurd retries acts

end RetryPolicy

/-- `registries/regeneration/retry-policy.yaml`. -/
def repositoryPolicy : RetryPolicy where
  version := "1.0.0"
  rules :=
    [⟨"RETRY_DB_TEMPORARY", "DB_TEMPORARY_FAILURE", .retry⟩,
      ⟨"RETRY_STORAGE_TEMPORARY", "STORAGE_TEMPORARY_FAILURE", .retry⟩,
      ⟨"RETRY_WORKER_INTERRUPTED", "WORKER_INTERRUPTED", .retry⟩,
      ⟨"RETRY_TIMEOUT", "TIMEOUT", .retry⟩, ⟨"RETRY_DEADLOCK", "DEADLOCK", .retry⟩,
      ⟨"BLOCK_SNAPSHOT_INVALID", "SNAPSHOT_INVALID", .block⟩,
      ⟨"BLOCK_REQUIRED_FINDING_MISSING", "REQUIRED_FINDING_MISSING", .block⟩,
      ⟨"BLOCK_REPORT_SCHEMA_UNSUPPORTED", "UNSUPPORTED_REPORT_SCHEMA", .block⟩,
      ⟨"BLOCK_VARIANT_POLICY_UNRESOLVED", "VARIANT_POLICY_UNRESOLVED", .block⟩,
      ⟨"BLOCK_CLASSIFICATION_VIOLATION", "CLASSIFICATION_VIOLATION", .block⟩]
  defaultAction := .block
  base := 30
  maximum := 900
  distinct := by decide
  failsClosed := by decide

/-- The statement of `RegenerationRetryService.handle_failure`, which reads
the attempts off its arguments and the time off its own clock. -/
def handleFailure (policy : RetryPolicy) (jobId : Uuid) (workerId : String)
    (failure : Failure) (attemptCount : Nat) (maxAttempts : Int) (utcnow : Time) : Statement :=
  let decision := policy.classify failure.code attemptCount maxAttempts
  match decision.action with
  | .retry =>
      .setRetryWait jobId workerId (utcnow + seconds (decision.delaySeconds.getD 0)) failure
  | .block => .setTerminalFailure jobId .blocked failure workerId
  | .fail => .setTerminalFailure jobId .failed failure workerId

/-- A failure that is retried waits for the delay decided on. -/
theorem handleFailure_eq_setRetryWait
    {policy : RetryPolicy} {jobId target : Uuid} {workerId other : String}
    {failure recorded : Failure} {attemptCount : Nat} {maxAttempts : Int}
    {utcnow nextRetryAt : Time}
    (retries : handleFailure policy jobId workerId failure attemptCount
      maxAttempts utcnow = .setRetryWait target other nextRetryAt recorded) :
    (policy.classify failure.code attemptCount maxAttempts).delaySeconds =
        some (policy.delay attemptCount) ∧
      nextRetryAt = utcnow + seconds (policy.delay attemptCount) := by
  unfold handleFailure at retries
  cases acts : (policy.classify failure.code attemptCount maxAttempts).action with
  | retry =>
      have delayed := (RetryPolicy.lt_of_classify_retry acts).2
      simp only [acts, delayed, Option.getD_some, Statement.setRetryWait.injEq] at retries
      exact ⟨delayed, retries.2.2.1.symm⟩
  | block =>
      simp only [acts] at retries
      cases retries
  | fail =>
      simp only [acts] at retries
      cases retries

/-- A failure inserts no job. -/
theorem handleFailure_ne_insert {policy : RetryPolicy} {jobId : Uuid} {workerId : String}
    {failure : Failure} {attemptCount : Nat} {maxAttempts : Int}
    {utcnow : Time} {new : RegenerationJob} :
    handleFailure policy jobId workerId failure attemptCount maxAttempts utcnow ≠ .insert new := by
  unfold handleFailure
  cases acts : (policy.classify failure.code attemptCount
      maxAttempts).action <;> simp only [acts] <;> exact nofun

/-- The worker that reports a failure is the one that must hold the job. -/
theorem worker_handleFailure {policy : RetryPolicy} {jobId : Uuid} {workerId : String}
    {failure : Failure} {attemptCount : Nat} {maxAttempts : Int} {utcnow : Time} :
    (handleFailure policy jobId workerId failure attemptCount maxAttempts
      utcnow).worker = some workerId := by
  unfold handleFailure
  cases acts : (policy.classify failure.code attemptCount
      maxAttempts).action <;> simp only [acts, Statement.worker]

/-! ## The worker -/

/-- `text or default` on a text that may be null. -/
def orDefault (text : Option String) (default : String) : String :=
  (text.filter fun text => text ≠ "").getD default

/-- What the freshness checker and the build service make of a job. -/
inductive BuildOutcome where
  | stale (reasonCode : Option String)
  | blocked (reasonCode : Option String)
  | raised (failureCode : Option String) (className : String)
  | invalid (failureCode : Option String)
  | built (reportId : Uuid) (inputHash : String) (reusedExisting : Bool)

/-- The failure that `process` hands to the retry service. -/
def BuildOutcome.failure : BuildOutcome → Option Failure
  | .raised failureCode className =>
      some ⟨"REPORT_BUILD", failureCode.getD "REPORT_BUILD_FAILED", some className⟩
  | .invalid failureCode =>
      some ⟨"REPORT_VALIDATION", orDefault failureCode "REPORT_VALIDATION_FAILED", none⟩
  | _ => none

/-- The statement with which `process` ends after `start`, for a worker with
or without a retry service. -/
def conclude (service : Option RetryPolicy) (workerId : String)
    (job : RegenerationJob) (outcome : BuildOutcome) (utcnow : Time) :
    Except String (Statement × String) :=
  match outcome with
  | .stale reasonCode =>
      return (.markStale job.jobId workerId
        (orDefault reasonCode "VARIANT_SEMANTIC_FINGERPRINT_CHANGED"), "STALE")
  | .blocked reasonCode =>
      return (.setTerminalFailure job.jobId .blocked
        ⟨"FRESHNESS", orDefault reasonCode "FRESHNESS_BLOCKED", none⟩ workerId, "BLOCKED")
  | .raised failureCode className =>
      match service with
      | none => throw className
      | some policy =>
          return (handleFailure policy job.jobId workerId
            ⟨"REPORT_BUILD", failureCode.getD "REPORT_BUILD_FAILED", some className⟩
            job.attemptCount job.maxAttempts utcnow, "FAILED_OR_RETRY")
  | .invalid failureCode =>
      let failure : Failure := ⟨"REPORT_VALIDATION",
        orDefault failureCode "REPORT_VALIDATION_FAILED", none⟩
      match service with
      | none =>
          return (.setTerminalFailure job.jobId .blocked failure workerId,
            "VALIDATION_FAILED")
      | some policy =>
          return (handleFailure policy job.jobId workerId failure
            job.attemptCount job.maxAttempts utcnow, "VALIDATION_FAILED")
  | .built reportId inputHash reusedExisting =>
      let state := if reusedExisting then JobState.noOp else .succeeded
      return (.completeSuccess job.jobId workerId reportId inputHash state,
        if reusedExisting then "NO_OP" else "SUCCEEDED")

/-- Processing ends with the retry service, or neither inserts nor retries. -/
theorem conclude_cases {service : Option RetryPolicy} {workerId status : String}
    {job : RegenerationJob} {outcome : BuildOutcome} {utcnow : Time} {statement : Statement}
    (concluded : conclude service workerId job outcome utcnow = .ok (statement, status)) :
    (∃ policy failure, service = some policy ∧ outcome.failure = some failure ∧
      statement = handleFailure policy job.jobId workerId failure
        job.attemptCount job.maxAttempts utcnow) ∨
    ((∀ new, statement ≠ .insert new) ∧ ∀ jobId own nextRetryAt failure,
        statement ≠ .setRetryWait jobId own nextRetryAt failure) := by
  cases outcome with
  | raised failureCode className =>
      cases service with
      | none => cases concluded
      | some policy =>
          rw [conclude, pure_eq_ok, Prod.mk.injEq] at concluded
          exact .inl ⟨policy, _, rfl, rfl, concluded.1.symm⟩
  | invalid failureCode =>
      cases service with
      | none =>
          rw [conclude, pure_eq_ok, Prod.mk.injEq] at concluded
          rw [← concluded.1]
          exact .inr ⟨fun _ => Statement.noConfusion, fun _ _ _ _ => Statement.noConfusion⟩
      | some policy =>
          rw [conclude, pure_eq_ok, Prod.mk.injEq] at concluded
          exact .inl ⟨policy, _, rfl, rfl, concluded.1.symm⟩
  | stale reasonCode =>
      rw [conclude, pure_eq_ok, Prod.mk.injEq] at concluded
      rw [← concluded.1]
      exact .inr ⟨fun _ => Statement.noConfusion, fun _ _ _ _ => Statement.noConfusion⟩
  | blocked reasonCode =>
      rw [conclude, pure_eq_ok, Prod.mk.injEq] at concluded
      rw [← concluded.1]
      exact .inr ⟨fun _ => Statement.noConfusion, fun _ _ _ _ => Statement.noConfusion⟩
  | built reportId inputHash reusedExisting =>
      rw [conclude, pure_eq_ok, Prod.mk.injEq] at concluded
      rw [← concluded.1]
      exact .inr ⟨fun _ => Statement.noConfusion, fun _ _ _ _ => Statement.noConfusion⟩

/-- The worker that concludes is the one that must hold the job. -/
theorem worker_of_conclude {service : Option RetryPolicy} {workerId status : String}
    {job : RegenerationJob} {outcome : BuildOutcome} {utcnow : Time} {statement : Statement}
    (concluded : conclude service workerId job outcome utcnow = .ok (statement, status)) :
    statement.worker = some workerId := by
  cases outcome with
  | raised failureCode className =>
      cases service with
      | none => cases concluded
      | some policy =>
          rw [conclude, pure_eq_ok, Prod.mk.injEq] at concluded
          rw [← concluded.1]
          exact worker_handleFailure
  | invalid failureCode =>
      cases service with
      | none =>
          rw [conclude, pure_eq_ok, Prod.mk.injEq] at concluded
          rw [← concluded.1, Statement.worker]
      | some policy =>
          rw [conclude, pure_eq_ok, Prod.mk.injEq] at concluded
          rw [← concluded.1]
          exact worker_handleFailure
  | stale reasonCode =>
      rw [conclude, pure_eq_ok, Prod.mk.injEq] at concluded
      rw [← concluded.1, Statement.worker]
  | blocked reasonCode =>
      rw [conclude, pure_eq_ok, Prod.mk.injEq] at concluded
      rw [← concluded.1, Statement.worker]
  | built reportId inputHash reusedExisting =>
      rw [conclude, pure_eq_ok, Prod.mk.injEq] at concluded
      rw [← concluded.1, Statement.worker]

/-- `RegenerationLeaseManager`, with the check of its constructor. -/
structure RegenerationLeaseManager where
  leaseSeconds : Int
  longEnough : 30 ≤ leaseSeconds

/-- `_expiry`. -/
def RegenerationLeaseManager.expiry
    (manager : RegenerationLeaseManager) (utcnow : Time) : Time :=
  utcnow + seconds manager.leaseSeconds

/-! ## Queueing -/

/-- What `queue` puts into a new job. -/
structure JobRequest where
  jobId : Uuid
  propertyId : Uuid
  reportVariant : String
  triggerType : String
  targetSnapshotId : Uuid
  priorityClass : String
  priorityScore : Int
  jobTargetKey : String
  correlationId : Uuid
  triggerEventId : Option Uuid
  oldReportId : Option Uuid
  maxAttempts : Int
  releaseId : Option Uuid

/-- The job that `queue` inserts. -/
def JobRequest.job (request : JobRequest) : RegenerationJob where
  jobId := request.jobId
  propertyId := request.propertyId
  reportVariant := request.reportVariant
  triggerType := request.triggerType
  targetSnapshotId := request.targetSnapshotId
  priorityClass := request.priorityClass
  priorityScore := request.priorityScore
  jobTargetKey := request.jobTargetKey
  correlationId := request.correlationId
  jobState := .queued
  triggerEventId := request.triggerEventId
  oldReportId := request.oldReportId
  attemptCount := 0
  maxAttempts := request.maxAttempts
  workerId := none
  claimedAt := none
  lastHeartbeatAt := none
  leaseExpiresAt := none
  queuedAt := none
  startedAt := none
  completedAt := none
  nextRetryAt := none
  inputHash := none
  completionReportId := none
  failureStage := none
  failureCode := none
  failureMessageSafe := none
  staleReasonCode := none
  releaseId := request.releaseId

/-! ## Workers side by side -/

/-- The jobs, the copies that each worker was given and the ones it has
started to process, and the delays of the retries of each job. -/
structure Regenerating where
  tables : JobTables
  copies : List (String × RegenerationJob)
  processing : List (String × RegenerationJob)
  retries : Uuid → List Nat

/-- No jobs. -/
def Regenerating.start (referenced : Referenced) : Regenerating where
  tables := ⟨referenced, .empty _⟩
  copies := []
  processing := []
  retries := fun _ => []

/-- A call of the queue or of a worker. -/
inductive Call where
  | queue (request : JobRequest)
  | claimNext (workerId : String) (manager : RegenerationLeaseManager)
      (locked : List Uuid) (utcnow : Time)
  | start (jobId : Uuid) (workerId : String)
  | heartbeat (jobId : Uuid) (workerId : String)
      (manager : RegenerationLeaseManager) (utcnow : Time)
  | process (workerId : String) (job : RegenerationJob)
  | conclude (workerId : String) (job : RegenerationJob) (serviced : Bool)
      (outcome : BuildOutcome) (utcnow : Time)
  | handleFailure (workerId : String) (job : RegenerationJob) (failure : Failure) (utcnow : Time)

variable {policy : RetryPolicy} {workerId : String} {utcnow : Time}
  {call : Call}

namespace Call

/-- The statement of a call. -/
def statement (policy : RetryPolicy) : Call → Except String Statement
  | .queue request => return .insert request.job
  | .claimNext workerId manager locked utcnow =>
      return .claimNext workerId (manager.expiry utcnow) locked
  | .start jobId workerId => return .startRunning jobId workerId
  | .heartbeat jobId workerId manager utcnow =>
      return .heartbeat jobId workerId (manager.expiry utcnow)
  | .process workerId job => return .startRunning job.jobId workerId
  | .conclude workerId job serviced outcome utcnow =>
      (Regeneration.conclude (if serviced then some policy else none) workerId
        job outcome utcnow).map Prod.fst
  | .handleFailure workerId job failure utcnow =>
      return Regeneration.handleFailure policy job.jobId workerId failure
        job.attemptCount job.maxAttempts utcnow

/-- The attempts on the copy that a call acts on. -/
def attemptCount : Call → Nat
  | .conclude _ job _ _ _ => job.attemptCount
  | .handleFailure _ job _ _ => job.attemptCount
  | _ => 0

/-- What the retry service decides during a call. -/
def decision (policy : RetryPolicy) : Call → Option RetryDecision
  | .conclude _ job true outcome _ =>
      outcome.failure.map fun failure =>
        policy.classify failure.code job.attemptCount job.maxAttempts
  | .handleFailure _ job failure _ =>
      some (policy.classify failure.code job.attemptCount job.maxAttempts)
  | _ => none

/-- A call that retries a job has decided to do so, after a delay that grows
with the attempts on its copy. -/
theorem decision_of_statement {jobId : Uuid} {nextRetryAt : Time} {failure : Failure}
    (retries : call.statement policy = .ok (.setRetryWait jobId workerId nextRetryAt failure)) :
    (call.decision policy).bind RetryDecision.delaySeconds =
      some (policy.delay call.attemptCount) := by
  cases call with
  | conclude own job serviced outcome utcnow =>
      obtain ⟨⟨made, status⟩, concluded, rfl⟩ := map_eq_ok.mp retries
      rcases conclude_cases concluded with
        ⟨other, failed, serves, fails, decided⟩ | ⟨-, noRetry⟩
      · cases serviced with
        | false => cases serves
        | true =>
            cases serves
            rw [decision, fails]
            exact (handleFailure_eq_setRetryWait decided.symm).1
      · exact absurd rfl (noRetry jobId workerId nextRetryAt failure)
  | handleFailure own job reported utcnow =>
      injection retries with decided
      exact (handleFailure_eq_setRetryWait decided).1
  | queue _ => cases retries
  | claimNext _ _ _ _ => cases retries
  | start _ _ => cases retries
  | heartbeat _ _ _ _ => cases retries
  | process _ _ => cases retries

/-- Only the queue inserts jobs. -/
theorem queue_of_statement {new : RegenerationJob}
    (inserts : call.statement policy = .ok (.insert new)) :
    ∃ request : JobRequest, new = request.job := by
  cases call with
  | queue request =>
      cases inserts
      exact ⟨request, rfl⟩
  | conclude own job serviced outcome utcnow =>
      obtain ⟨⟨made, status⟩, concluded, rfl⟩ := map_eq_ok.mp inserts
      rcases conclude_cases concluded with
        ⟨other, failed, -, -, decided⟩ | ⟨noInsert, -⟩
      · exact absurd decided.symm handleFailure_ne_insert
      · exact absurd rfl (noInsert new)
  | handleFailure own job reported utcnow =>
      injection inserts with decided
      exact absurd decided handleFailure_ne_insert
  | claimNext _ _ _ _ => cases inserts
  | start _ _ => cases inserts
  | heartbeat _ _ _ _ => cases inserts
  | process _ _ => cases inserts

/-- The worker that makes a call. -/
def worker : Call → Option String
  | .queue _ => none
  | .claimNext workerId _ _ _ => some workerId
  | .start _ workerId => some workerId
  | .heartbeat _ workerId _ _ => some workerId
  | .process workerId _ => some workerId
  | .conclude workerId _ _ _ _ => some workerId
  | .handleFailure workerId _ _ _ => some workerId

/-- The statement of a call names the worker that makes it. -/
theorem worker_of_statement {statement : Statement}
    (stated : call.statement policy = .ok statement) :
    statement.worker = call.worker := by
  cases call with
  | conclude workerId job serviced outcome utcnow =>
      obtain ⟨⟨made, status⟩, concluded, rfl⟩ := map_eq_ok.mp stated
      exact worker_of_conclude concluded
  | handleFailure workerId job failure utcnow =>
      injection stated with decided
      rw [← decided]
      exact worker_handleFailure
  | queue request =>
      cases stated
      rfl
  | claimNext workerId manager locked utcnow =>
      cases stated
      rfl
  | start jobId workerId =>
      cases stated
      rfl
  | heartbeat jobId workerId manager utcnow =>
      cases stated
      rfl
  | process workerId job =>
      cases stated
      rfl

/-- A worker processes a job that it was given, and concludes what it has
started to process. -/
def Possible (call : Call) (before : Regenerating) : Prop :=
  match call with
  | .claimNext workerId _ _ _ => Text.isBlank workerId = false
  | .process workerId job => (workerId, job) ∈ before.copies
  | .conclude workerId job _ _ _ => (workerId, job) ∈ before.processing
  | .handleFailure workerId job _ _ => (workerId, job) ∈ before.copies
  | _ => True

instance (call : Call) (before : Regenerating) : Decidable (call.Possible before) := by
  unfold Possible
  split <;> infer_instance

/-- The copies that workers have been given after a call. -/
def copies (call : Call) (now : Time) (before : Regenerating) :
    List (String × RegenerationJob) :=
  match call with
  | .claimNext workerId manager locked utcnow =>
      before.copies ++ ((before.tables.candidate locked now).map fun job =>
          (workerId, job.claim workerId (manager.expiry utcnow) now)).toList
  | _ => before.copies

/-- The copies under way after a call. -/
def processing (call : Call) (now : Time) (before : Regenerating) :
    List (String × RegenerationJob) :=
  match call with
  | .process workerId job =>
      if (before.tables.startRunning job.jobId workerId now).1 then
        before.processing ++ [(workerId, job)]
      else before.processing
  | .conclude workerId job _ _ _ => before.processing.erase (workerId, job)
  | _ => before.processing

end Call

/-- The delays of the retries of a job after a statement. -/
def Regenerating.delayed (before : Regenerating) (statement : Statement)
    (decision : Option RetryDecision) (now : Time) : Uuid → List Nat :=
  fun jobId =>
    match before.tables.jobs.find jobId with
    | none => before.retries jobId
    | some job =>
        match statement.effect now before.tables job with
        | .retried _ _ =>
            before.retries jobId ++ (decision.bind RetryDecision.delaySeconds).toList
        | _ => before.retries jobId

/-- A call takes effect at a time, or its transaction is rolled back, as it is
when a statement raises. -/
inductive Event where
  | made (call : Call) (now : Time)
  | rolledBack (call : Call)

/-- What a call that takes effect leaves. -/
def Regenerating.make (policy : RetryPolicy) (before : Regenerating) (call : Call)
    (now : Time) : Except String Regenerating := do
  require (call.Possible before) "nothing to do"
  let statement ← call.statement policy
  let tables ← statement.run now before.tables
  return {
    tables := tables
    copies := call.copies now before
    processing := call.processing now before
    retries := before.delayed statement (call.decision policy) now }

/-- A call that takes effect runs its statement. -/
theorem Regenerating.make_eq_ok {before after : Regenerating} {now : Time}
    (made : before.make policy call now = .ok after) :
    ∃ statement, call.statement policy = .ok statement ∧
      statement.run now before.tables = .ok after.tables ∧
      after.retries = before.delayed statement (call.decision policy) now := by
  simp only [make, require_bind_eq_ok] at made
  obtain ⟨statement, stated, continued⟩ := bind_eq_ok.mp made.2
  obtain ⟨tables, ran, ended⟩ := bind_eq_ok.mp continued
  cases ended
  exact ⟨statement, stated, ran, rfl⟩

inductive Step (policy : RetryPolicy) :
    Regenerating → Event → Regenerating → Prop
  | made {before after : Regenerating} {call : Call} {now : Time} :
      before.make policy call now = .ok after →
      Step policy before (.made call now) after
  | rolledBack (before : Regenerating) (call : Call) : Step policy before (.rolledBack call) before

/-- The step of an event, computed. -/
def Regenerating.advance (policy : RetryPolicy) (before : Regenerating) (event : Event) :
    Except String Regenerating :=
  match event with
  | .made call now => before.make policy call now
  | .rolledBack _ => .ok before

theorem Step.of_advance (before : Regenerating) (event : Event) (after : Regenerating)
    (advanced : before.advance policy event = .ok after) :
    Step policy before event after := by
  cases event with
  | made call now => exact .made advanced
  | rolledBack call =>
      cases advanced
      exact .rolledBack before call

end SanTanHeights.Regeneration
