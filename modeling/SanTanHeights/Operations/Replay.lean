import SanTanHeights.Operations.Recovery
import SanTanHeights.Regeneration.Safety

/-!
# Replaying recovery commands

A command is recorded once and its row stays as it is, whatever else happens.
A later call for it finds the row, unless the incident has by then left the
states that admit the command: the registry is asked before the row is looked
up.
-/

namespace SanTanHeights.Operations

open Foundation Foundation.Outcome Foundation.Runs Shared

/-- What happens between two calls: an execution takes effect or is rolled
back, or other code changes the tables that actions change. -/
inductive RecoveryEvent where
  | executed (request : RecoveryRequest) (now : Time)
  | rolledBack (request : RecoveryRequest)
  | changed

inductive RecoveryStep (registry : RecoveryActionRegistry) (actions : Actions) :
    RecoveryTables → RecoveryEvent → RecoveryTables → Prop
  | executed {before after : RecoveryTables} {request : RecoveryRequest}
      {now : Time} {execution : Execution} :
      before.execute registry actions request now = .ok (execution, after) →
      RecoveryStep registry actions before (.executed request now) after
  | rolledBack (before : RecoveryTables) (request : RecoveryRequest) :
      RecoveryStep registry actions before (.rolledBack request) before
  | changed (before : RecoveryTables) (operations : OperationsTables) :
      RecoveryStep registry actions before .changed { before with operations := operations }

/-- A request for the command of another one. -/
structure RecoveryRequest.Repeats (later earlier : RecoveryRequest) : Prop where
  incident : later.incident.incidentId = earlier.incident.incidentId
  commandType : later.commandType = earlier.commandType
  payload : later.payload = earlier.payload
  idempotencyKey : later.idempotencyKey = earlier.idempotencyKey

namespace RecoveryTables

variable {before after : RecoveryTables} {registry : RecoveryActionRegistry}
  {actions : Actions} {request : RecoveryRequest} {now : Time}
  {execution : Execution}

theorem insertCommand_eq_ok {command : RecoveryCommand}
    (ran : before.insertCommand command = .ok after) :
    (∀ row ∈ before.commands.rows, row.recoveryCommandId ≠ command.recoveryCommandId) ∧
    before.commands.insert command = some after.commands ∧
    after.operations = before.operations := by
  simp only [insertCommand, require_bind_eq_ok] at ran
  obtain ⟨-, fresh, continued⟩ := ran
  obtain ⟨inserted, added, ended⟩ := bind_eq_ok.mp continued
  obtain ⟨-, same⟩ := require_bind_eq_ok.mp ended
  cases same
  exact ⟨fresh, orRaise_eq_ok.mp added, rfl⟩

theorem appendHistory_eq_ok
    {entry : CommandHistory} (ran : before.appendHistory entry = .ok after) :
    after.commands = before.commands ∧ after.operations = before.operations := by
  obtain ⟨-, ended⟩ := require_bind_eq_ok.mp ran
  cases ended
  exact ⟨rfl, rfl⟩

/-- A change of status changes the row of its command. -/
theorem find_setStatus {commandId : Uuid} {status : CommandStatus} {result : Payload}
    (key : Uuid × String) : (before.setStatus commandId status result now).commands.find key =
      (before.commands.find key).map fun row =>
        if row.recoveryCommandId = commandId then row.enter status result now
        else row := by
  unfold setStatus
  rw [Table.find_update]

/-- A new command is recorded as its action ends, and the others stay as they
are. -/
theorem perform_eq_ok {requestHash : String}
    (ran : before.perform actions request requestHash now = .ok (execution, after)) :
    (∃ row, after.commands.find request.key = some row ∧
      row.requestHash = requestHash ∧ row.result = execution.result) ∧
    before.commands.Extends after.commands ∧
    ∃ outcome, actions request.incident request.commandType request.payload
        request.requestedBy now before.operations = .ok (outcome, after.operations) ∧
      execution.result.status = (ending request.reasonCode outcome).status := by
  unfold perform at ran
  obtain ⟨inserted, inserting, continued⟩ := bind_eq_ok.mp ran
  obtain ⟨requested, requesting, continued⟩ := bind_eq_ok.mp continued
  obtain ⟨running, starting, continued⟩ := bind_eq_ok.mp continued
  obtain ⟨⟨outcome, operations⟩, acted, continued⟩ := bind_eq_ok.mp continued
  obtain ⟨finished, finishing, ended⟩ := bind_eq_ok.mp continued
  rw [pure_eq_ok, Prod.mk.injEq] at ended
  obtain ⟨rfl, rfl⟩ := ended
  obtain ⟨fresh, added, inserts⟩ := insertCommand_eq_ok inserting
  obtain ⟨requests, requestedSame⟩ := appendHistory_eq_ok requesting
  obtain ⟨starts, runningSame⟩ := appendHistory_eq_ok starting
  obtain ⟨finishes, finishedSame⟩ := appendHistory_eq_ok finishing
  have left : ∀ key, finished.commands.find key =
      ((inserted.commands.find key).map fun row =>
        if row.recoveryCommandId = request.commandId then
          row.enter .running [] now
        else row).map fun row =>
          if row.recoveryCommandId = request.commandId then
            row.enter (ending request.reasonCode outcome).status
              (ending request.reasonCode outcome).detail now
          else row := by
    intro key
    rw [finishes, find_setStatus]
    change Option.map _ (running.commands.find key) = _
    rw [starts, find_setStatus, requests]
  refine ⟨?_, ?_, outcome, ?_, rfl⟩
  · refine ⟨((request.row requestHash).enter .running [] now).enter
      (ending request.reasonCode outcome).status
      (ending request.reasonCode outcome).detail now, ?_, rfl, rfl⟩
    have new : inserted.commands.find request.key =
        some (request.row requestHash) := by
      rw [Table.find_insert added]
      exact if_pos rfl
    have own : (request.row requestHash).recoveryCommandId = request.commandId := rfl
    have stillOwn : ((request.row requestHash).enter .running []
        now).recoveryCommandId = request.commandId := rfl
    rw [left, new, Option.map_some, if_pos own, Option.map_some, if_pos stillOwn]
  · intro key row found
    have other : row.recoveryCommandId ≠ request.commandId :=
      fresh row (Table.find_eq_some_iff.mp found).1
    rw [left, Table.find_insert_of_find added found]
    rw [Option.map_some, if_neg other, Option.map_some, if_neg other]
  · have untouched : running.operations = before.operations :=
      runningSame.trans (requestedSame.trans inserts)
    rw [untouched] at acted
    rw [acted, finishedSame]
    rfl

/-- An execution records its result under its key, and keeps what is there. -/
theorem execute_eq_ok
    (ran : before.execute registry actions request now = .ok (execution, after)) :
    (∃ row, after.commands.find request.key = some row ∧
      sha256Canonical request.json = .ok row.requestHash ∧ row.result = execution.result) ∧
    before.commands.Extends after.commands := by
  unfold execute at ran
  obtain ⟨⟨⟩, -, continued⟩ := bind_eq_ok.mp ran
  obtain ⟨requestHash, hashed, continued⟩ := bind_eq_ok.mp continued
  cases found : before.commands.find request.key with
  | none =>
      simp only [found] at continued
      obtain ⟨⟨row, recorded, sameHash, same⟩, keeps, -⟩ := perform_eq_ok continued
      exact ⟨⟨row, recorded, sameHash ▸ hashed, same⟩, keeps⟩
  | some row =>
      simp only [found, require_bind_eq_ok] at continued
      obtain ⟨sameHash, ended⟩ := continued
      cases ended
      exact ⟨⟨row, found, sameHash ▸ hashed, rfl⟩, .refl _⟩

/-- No step changes a recorded command. -/
theorem extends_of_step {event : RecoveryEvent}
    (taken : RecoveryStep registry actions before event after) :
    before.commands.Extends after.commands := by
  cases taken with
  | executed ran => exact (execute_eq_ok ran).2
  | rolledBack request => exact .refl _
  | changed operations => exact .refl _

theorem extends_of_run {history : List RecoveryEvent}
    (run : Exec (RecoveryStep registry actions) before history after) :
    before.commands.Extends after.commands := by
  induction run with
  | nil state => exact .refl _
  | cons taken _ ih =>
      exact (extends_of_step taken).trans ih

/-- A request that was executed has the payload that its command requires. -/
theorem complete_of_execute
    (ran : before.execute registry actions request now = .ok (execution, after)) :
    ∃ rule, registry.rule request.commandType = some rule ∧
      rule.requiredPayload.filter (RecoveryActionRegistry.isMissing request.payload) = [] := by
  unfold execute at ran
  obtain ⟨⟨⟩, valid, -⟩ := bind_eq_ok.mp ran
  obtain ⟨rule, found, -, complete⟩ := RecoveryActionRegistry.validate_eq_ok.mp valid
  exact ⟨rule, found, complete⟩

/-- A recorded command is replayed exactly in the states that admit it. -/
theorem execute_of_recorded {row : RecoveryCommand}
    (recorded : before.commands.find request.key = some row)
    (hashed : sha256Canonical request.json = .ok row.requestHash) :
    before.execute registry actions request now =
        .ok (⟨row.result, none⟩, before) ↔
      registry.validate request.commandType request.payload
        request.incident.incidentState = .ok () := by
  unfold execute
  rw [hashed, recorded]
  constructor
  · intro ran
    obtain ⟨⟨⟩, valid, -⟩ := bind_eq_ok.mp ran
    exact valid
  · intro valid
    exact bind_eq_ok.mpr ⟨(), valid, bind_eq_ok.mpr ⟨row.requestHash, rfl,
      require_bind_eq_ok.mpr ⟨rfl, rfl⟩⟩⟩

end RecoveryTables

/-- A command that was executed is replayed by every later call for it exactly
when the incident is in a state that admits the command: the call then returns
the recorded status under the same identifier and changes nothing. -/
theorem recovery_replays {registry : RecoveryActionRegistry} {actions : Actions}
    {before middle after : RecoveryTables} {request later : RecoveryRequest}
    {execution : Execution} {now then_ : Time} {history : List RecoveryEvent}
    (executed : before.execute registry actions request now =
      .ok (execution, middle))
    (run : Exec (RecoveryStep registry actions) middle history after)
    (repeats : later.Repeats request) :
    after.execute registry actions later then_ =
        .ok (⟨execution.result, none⟩, after) ↔
      ∃ rule, registry.rule later.commandType = some rule ∧
        later.incident.incidentState ∈ rule.allowedIncidentStates := by
  obtain ⟨⟨row, recorded, hashed, same⟩, -⟩ :=
    RecoveryTables.execute_eq_ok executed
  have kept := RecoveryTables.extends_of_run run _ _ recorded
  have sameKey : later.key = request.key := by
    unfold RecoveryRequest.key
    rw [repeats.incident, repeats.idempotencyKey]
  have sameJson : later.json = request.json := by
    unfold RecoveryRequest.json
    rw [repeats.incident, repeats.commandType, repeats.payload]
  rw [← sameKey] at kept
  rw [← sameJson] at hashed
  rw [← same, RecoveryTables.execute_of_recorded kept hashed,
    RecoveryActionRegistry.validate_eq_ok]
  constructor
  · rintro ⟨rule, found, admits, -⟩
    exact ⟨rule, found, admits⟩
  · rintro ⟨rule, found, admits⟩
    obtain ⟨other, otherFound, complete⟩ :=
      RecoveryTables.complete_of_execute executed
    rw [← repeats.commandType, found, Option.some.injEq] at otherFound
    rw [← repeats.payload, ← otherFound] at complete
    exact ⟨rule, found, admits, complete⟩

/-! ## A command that leaves the states that admit it -/

/-- A contained incident, and no commands. -/
def sampleTables : RecoveryTables where
  commands := .empty _
  commandHistory := []
  operations := {
    incidents := {
      incidents := ⟨[⟨1, .contained, none, none, none, none⟩],
        by decide⟩
      history := []
      reasonCodes := ["RECOVERY_COMMAND_REQUESTED", "INCIDENT_RECOVERED"] }
    publication := {
      reportCurrent := fun _ => none
      channelPointers := fun _ _ => none
      history := []
      staging := fun _ => none
      freezes := [] }
    jobs := ⟨⟨[], [], [], [], []⟩, .empty _⟩
    release := ⟨[], [], [], [], [], [], ⟨[], [], [], []⟩⟩ }

def sampleActions : ExplicitRecoveryActions where
  freezes := none
  incidents := true
  str := Json.textD
  str_text := Json.textD_str

/-- `RESOLVE_INCIDENT`, for an incident in a state. -/
def sampleResolve (state : IncidentState) : RecoveryRequest where
  incident := ⟨1, state, none⟩
  commandType := "RESOLVE_INCIDENT"
  payload := []
  idempotencyKey := "key"
  requestedBy := "operator"
  reasonCode := "RECOVERY_COMMAND_REQUESTED"
  commandId := 2

theorem sampleResolve_executes :
    ∃ execution middle,
      sampleTables.execute repositoryRegistry sampleActions.execute
        (sampleResolve .contained) 0 = .ok (execution, middle) ∧
      execution.result.status = .succeeded ∧
      (middle.operations.incidents.incidents.find ⟨1, by decide⟩).map
        IncidentRow.incident = some ⟨⟨1, by decide⟩, .resolved, none⟩ := by
  have written : (canonicalText
      (sampleResolve .contained).json).isSome = true := by
    decide
  obtain ⟨text, canonical⟩ := Option.isSome_iff_exists.mp written
  have hashed := sha256Canonical_eq_ok.mpr
    ⟨String.ofList text, congrArg (Option.map String.ofList) canonical, rfl⟩
  have isHash := Sha256.isHex64_hexdigest (String.ofList text)
  have performed : ∃ executed, sampleTables.perform sampleActions.execute
      (sampleResolve .contained) (Sha256.hexdigest (String.ofList text)) 0 =
        .ok executed ∧ executed.1.result.status = .succeeded ∧
      (executed.2.operations.incidents.incidents.find
        ⟨1, by decide⟩).map IncidentRow.incident = some ⟨⟨1, by decide⟩, .resolved, none⟩ :=
    ⟨_, bind_eq_ok.mpr ⟨_, require_bind_eq_ok.mpr ⟨isHash, rfl⟩, rfl⟩, rfl, rfl⟩
  obtain ⟨⟨execution, middle⟩, ran, succeeded, left⟩ := performed
  exact ⟨execution, middle, bind_eq_ok.mpr ⟨(), rfl, bind_eq_ok.mpr
    ⟨_, hashed, ran⟩⟩, succeeded, left⟩

theorem recovery_replays_sample :
    ∃ (execution : Execution) (middle : RecoveryTables),
      execution.result.status = .succeeded ∧
      middle.execute repositoryRegistry sampleActions.execute
        (sampleResolve .contained) 1 =
          .ok (⟨execution.result, none⟩, middle) := by
  obtain ⟨execution, middle, executed, succeeded, -⟩ :=
    sampleResolve_executes
  refine ⟨execution, middle, succeeded, ?_⟩
  apply (recovery_replays executed (.nil middle) ⟨rfl, rfl, rfl, rfl⟩).mpr
  exact ⟨⟨"RESOLVE_INCIDENT", [], [.contained, .recovering, .opened]⟩, rfl,
    by decide⟩

/-- The command that resolves an incident raises when it is called again. -/
theorem resolved_incident_not_replayed :
    ∃ (before middle : RecoveryTables) (request later : RecoveryRequest)
      (execution : Execution) (now : Time),
      before.execute repositoryRegistry sampleActions.execute request now =
        .ok (execution, middle) ∧
      execution.result.status = .succeeded ∧ later.Repeats request ∧
      (middle.operations.incidents.incidents.find
        later.incident.incidentId).map IncidentRow.incident =
          some later.incident ∧
      middle.execute repositoryRegistry sampleActions.execute later now =
        .error "recovery command not allowed for incident state" := by
  obtain ⟨execution, middle, executed, succeeded, left⟩ :=
    sampleResolve_executes
  exact ⟨sampleTables, middle, sampleResolve .contained,
    sampleResolve .resolved, execution, 0, executed, succeeded,
    ⟨rfl, rfl, rfl, rfl⟩, left, rfl⟩

/-!
## Requeueing by an operator

`REQUEUE_REGENERATION_JOB` is meant to give a job back to the queue.  Its
statement does not run on the table of jobs.
-/

open Regeneration

/-- A job is back in the queue: it can be claimed, nothing is left of its last
worker and its end, no other active job has its target, and it has an attempt
left. -/
structure Requeued (tables : JobTables) (job : RegenerationJob) : Prop where
  present : job ∈ tables.jobs.rows
  queued : job.jobState = .queued
  unowned : job.workerId = none
  unfinished : job.completedAt = none
  unique : ∀ other ∈ tables.jobs.rows, other.jobState.Active →
    other.target = job.target → other = job
  spare : (job.attemptCount : Int) < job.maxAttempts

/-- `REQUEUE_REGENERATION_JOB` runs, and a job that it reports as requeued is
back in the queue. -/
def RequeueWorks (actions : ExplicitRecoveryActions) (incident : Incident)
    (payload : Payload) (actor : String) (now : Time)
    (tables : OperationsTables) (jobId : Uuid) : Prop :=
  ∃ result after,
    actions.execute incident "REQUEUE_REGENERATION_JOB" payload actor now
        tables = .ok (.ok result, after) ∧
      (actionStatus result = .succeeded → ∃ job, job.jobId = jobId ∧ Requeued after.jobs job)

/-- The statement raises, whatever job the payload names. -/
theorem execute_requeue {actions : ExplicitRecoveryActions} {incident : Incident}
    {payload : Payload} {actor : String} {now : Time} {tables : OperationsTables} {jobId : Uuid}
    (names : actions.identifier payload "job_id" = .ok jobId) :
    actions.execute incident "REQUEUE_REGENERATION_JOB" payload actor now
      tables = .error "column does not exist" := by
  unfold ExplicitRecoveryActions.execute
  dsimp only
  rw [if_neg (by decide), if_pos rfl, names, attempt, JobTables.requeue_columns]
  rfl

/-- The command requeues no job. -/
theorem requeue_never_works (actions : ExplicitRecoveryActions) (incident : Incident)
    (payload : Payload) (actor : String) (now : Time)
    (tables : OperationsTables) (jobId : Uuid) :
    ¬ RequeueWorks actions incident payload actor now tables jobId := by
  rintro ⟨result, after, ran, -⟩
  cases named : actions.identifier payload "job_id" with
  | ok found =>
      rw [execute_requeue named] at ran
      cases ran
  | error className =>
      unfold ExplicitRecoveryActions.execute at ran
      dsimp only at ran
      rw [if_neg (by decide), if_pos rfl, named, attempt] at ran
      cases ran

/-- A job that has failed. -/
def sampleFailed : RegenerationJob :=
  { (sampleRequest 4 2).job with
    jobState := .failed
    attemptCount := 1
    completedAt := some 0 }

/-- Requeueing a job that has failed after its first attempt raises. -/
theorem failed_job_not_requeued :
    ∃ (actions : ExplicitRecoveryActions) (incident : Incident)
      (payload : Payload) (tables : OperationsTables)
      (job : RegenerationJob),
      job ∈ tables.jobs.jobs.rows ∧ job.Requeueable ∧
      (job.attemptCount : Int) < job.maxAttempts ∧
      actions.identifier payload "job_id" = .ok job.jobId ∧
      actions.execute incident "REQUEUE_REGENERATION_JOB" payload "operator"
        0 tables = .error "column does not exist" := by
  have names : sampleActions.identifier
      [("job_id", .str sampleFailed.jobId.str)] "job_id" =
        .ok sampleFailed.jobId := by
    apply bind_eq_ok.mpr
    refine ⟨.str sampleFailed.jobId.str, rfl, ?_⟩
    rw [sampleActions.str_text, Uuid.parse_str]
    rfl
  refine ⟨sampleActions, ⟨⟨1, by decide⟩, .contained, none⟩, _,
    { sampleTables.operations with
      jobs := ⟨sampleReferenced, ⟨[sampleFailed], List.nodup_singleton _⟩⟩ },
    sampleFailed, List.mem_singleton_self _, by decide, by decide, names, ?_⟩
  exact execute_requeue names

end SanTanHeights.Operations
