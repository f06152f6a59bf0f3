import SanTanHeights.Regeneration.Queue
import SanTanHeights.Regeneration.Safety

/-!
# Idempotent queueing

A call that is answered has its result in the ledger, and every later call for
the same content is answered from there.  The ledger does not admit the
results `QUEUED` and `EXISTING_ACTIVE_JOB`, so that only blocked calls and
replays are answered.
-/

namespace SanTanHeights.Regeneration

open Foundation Foundation.Outcome Foundation.Runs Kernel.Commands Shared

section Service

variable {σ : Type}

/-- What happens between two calls: a call takes effect or is rolled back, or
other code adds commands to the ledger and changes the other tables. -/
inductive QueueEvent where
  | queued (command : QueueRegenerationCommand)
  | rolledBack (command : QueueRegenerationCommand)
  | changed

inductive QueueStep (service : RegenerationQueueService σ) :
    QueueTables σ → QueueEvent → QueueTables σ → Prop
  | queued {before after : QueueTables σ}
      {command : QueueRegenerationCommand} {jobId commandId : Uuid}
      {now : Time} {result : QueueRegenerationResult} :
      before.queue service command jobId commandId now = .ok (result, after) →
      QueueStep service before (.queued command) after
  | rolledBack (before : QueueTables σ)
      (command : QueueRegenerationCommand) :
      QueueStep service before (.rolledBack command) before
  | changed {before after : QueueTables σ} :
      before.ledger.Extends after.ledger →
      QueueStep service before .changed after

/-- A command with the service name, the key and the content of another. -/
structure QueueRegenerationCommand.Repeats
    (later earlier : QueueRegenerationCommand) : Prop where
  serviceName : later.serviceName = earlier.serviceName
  idempotencyKey : later.idempotencyKey = earlier.idempotencyKey
  semantic : later.semantic = earlier.semantic

/-- A call is answered with its result in the ledger, and every later call for
the same content is answered with that result and changes nothing. -/
def QueueTables.AnsweredForGood (before : QueueTables σ) (service : RegenerationQueueService σ)
    (command : QueueRegenerationCommand) (jobId commandId : Uuid) (now : Time) : Prop :=
  ∃ result after,
    before.queue service command jobId commandId now = .ok (result, after) ∧
    (∃ row, after.ledger.find (command.serviceName, command.idempotencyKey) = some row) ∧
    ∀ history later, Exec (QueueStep service) after history later →
      ∀ (other : QueueRegenerationCommand) (jobId commandId : Uuid)
        (now : Time), other.Repeats command →
        later.queue service other jobId commandId now =
          .ok ({ result with replayed := true }, later)

/-- There is no snapshot to regenerate from, or the given one is not the
current one. -/
def QueueTables.Blocks (tables : QueueTables σ) (command : QueueRegenerationCommand) : Prop :=
  match command.targetSnapshotId with
  | none => tables.currentSnapshots command.propertyId = none
  | some target =>
      tables.currentSnapshots command.propertyId ≠ some target

/-- A call replays a recorded one with the same content, or is blocked. -/
def QueueTables.Answers (tables : QueueTables σ) (command : QueueRegenerationCommand) : Prop :=
  match tables.ledger.find (command.serviceName, command.idempotencyKey) with
  | none => tables.Blocks command
  | some row =>
      sha256Canonical command.semantic = .ok row.requestHash ∧
        ∃ result, QueueRegenerationResult.ofPayload row.resultPayload = .ok result

namespace QueueTables

variable {before after : QueueTables σ}
  {service : RegenerationQueueService σ} {command : QueueRegenerationCommand}
  {requestHash : String} {target jobId commandId : Uuid} {now : Time}
  {result answer : QueueRegenerationResult}

/-- What is recorded is the result, with a status that the ledger admits. -/
theorem record_eq_ok
    (recorded : before.record command requestHash commandId result = .ok (answer, after)) :
    result.status ∈ resultStatuses ∧ answer = result ∧
      before.ledger.insert (command.processed requestHash commandId result) =
        some after.ledger := by
  obtain ⟨ledger, made, ended⟩ := bind_eq_ok.mp recorded
  cases ended
  obtain ⟨-, admitted, -, inserted⟩ := record_eq_ok_iff.mp made
  exact ⟨admitted, rfl, inserted⟩

/-- A call for the current snapshot is not answered. -/
theorem enqueue_ne_ok :
    before.enqueue service command requestHash target jobId commandId now ≠
      .ok (answer, after) := by
  intro ran
  obtain ⟨jobTargetKey, -, continued⟩ := bind_eq_ok.mp ran
  dsimp only at continued
  split at continued
  · exact absurd (record_eq_ok continued).1 (by decide : "EXISTING_ACTIVE_JOB" ∉ resultStatuses)
  · obtain ⟨jobs, -, continued⟩ := bind_eq_ok.mp continued
    obtain ⟨events, -, continued⟩ := bind_eq_ok.mp continued
    exact absurd (record_eq_ok continued).1 (by decide : "QUEUED" ∉ resultStatuses)

/-- A new call that is not blocked goes on with the current snapshot. -/
theorem decide_of_not_blocks (unblocked : ¬ before.Blocks command) :
    ∃ target, before.decide service command requestHash jobId commandId now =
        before.enqueue service command requestHash target jobId commandId now := by
  unfold decide
  unfold Blocks at unblocked
  cases given : command.targetSnapshotId with
  | none =>
      simp only [given] at unblocked
      obtain ⟨target, current⟩ := Option.ne_none_iff_exists'.mp unblocked
      refine ⟨target, ?_⟩
      simp only [current, Option.none_or]
      exact if_neg fun stale => stale.1 rfl
  | some target =>
      simp only [given, not_not] at unblocked
      refine ⟨target, ?_⟩
      simp only [Option.some_or]
      exact if_neg fun stale => stale.2 unblocked

/-- A new call that is blocked is recorded as such. -/
theorem decide_of_blocks (blocks : before.Blocks command) :
    before.decide service command requestHash jobId commandId now =
      before.record command requestHash commandId
        ⟨"BLOCKED", none, command.targetSnapshotId, none, none, false⟩ := by
  unfold decide
  unfold Blocks at blocks
  cases given : command.targetSnapshotId with
  | none =>
      simp only [given] at blocks
      simp only [blocks, Option.none_or]
  | some target =>
      simp only [given] at blocks
      simp only [Option.some_or]
      exact if_pos ⟨nofun, blocks⟩

/-- What a call that is answered does. -/
theorem queue_eq_ok
    (ran : before.queue service command jobId commandId now = .ok (answer, after)) :
    command.Valid ∧ ∃ requestHash,
      sha256Canonical command.semantic = .ok requestHash ∧
      ((∃ row, before.ledger.find (command.serviceName, command.idempotencyKey) = some row ∧
        row.requestHash = requestHash ∧
        QueueRegenerationResult.ofPayload row.resultPayload = .ok answer ∧ after = before) ∨
      (before.ledger.find (command.serviceName, command.idempotencyKey) = none ∧
        before.decide service command requestHash jobId commandId now = .ok (answer, after))) := by
  simp only [queue, require_bind_eq_ok] at ran
  obtain ⟨trigger, variant, key, continued⟩ := ran
  obtain ⟨requestHash, hashed, continued⟩ := bind_eq_ok.mp continued
  obtain ⟨prior, checked, continued⟩ := bind_eq_ok.mp continued
  obtain ⟨found, same⟩ := check_eq_ok_iff.mp checked
  refine ⟨⟨trigger, variant, key⟩, requestHash, hashed, ?_⟩
  cases prior with
  | none => exact .inr ⟨found.symm, continued⟩
  | some row =>
      obtain ⟨result, read, ended⟩ := bind_eq_ok.mp continued
      cases ended
      exact .inl ⟨row, found.symm, same row rfl, read, rfl⟩

/-- A recorded command is answered from the ledger. -/
theorem queue_of_recorded {row : ProcessedCommand} (valid : command.Valid)
    (hashed : sha256Canonical command.semantic = .ok row.requestHash)
    (found : before.ledger.find (command.serviceName, command.idempotencyKey) = some row)
    (read : QueueRegenerationResult.ofPayload row.resultPayload = .ok answer) :
    before.queue service command jobId commandId now = .ok (answer, before) := by
  simp only [queue, require_bind_eq_ok]
  refine ⟨valid.trigger, valid.variant, valid.key, bind_eq_ok.mpr
    ⟨row.requestHash, hashed, bind_eq_ok.mpr ⟨some row, ?_, ?_⟩⟩⟩
  · refine check_eq_ok_iff.mpr ⟨found.symm, ?_⟩
    rintro other ⟨⟩
    rfl
  · exact bind_eq_ok.mpr ⟨answer, read, rfl⟩

/-- The answer to a blocked call. -/
def blockedResult (command : QueueRegenerationCommand) : QueueRegenerationResult :=
  ⟨"BLOCKED", none, command.targetSnapshotId, none, none, false⟩

/-- A new command that is blocked is answered. -/
theorem queue_of_blocks (valid : command.Valid)
    (missing : before.ledger.find (command.serviceName, command.idempotencyKey) = none)
    (fresh : ∀ row ∈ before.ledger.rows, row.commandId ≠ commandId)
    (blocks : before.Blocks command) :
    ∃ after, before.queue service command jobId commandId now =
      .ok (blockedResult command, after) := by
  obtain ⟨requestHash, hashed, isHash⟩ := command.exists_requestHash
  have admitted : "BLOCKED" ∈ resultStatuses := by decide
  obtain ⟨ledger, recorded⟩ : ∃ ledger, Kernel.Commands.record before.ledger
      (command.processed requestHash commandId (blockedResult command)) = .ok ledger :=
    exists_record isHash admitted fresh missing
  refine ⟨{ before with ledger := ledger }, ?_⟩
  simp only [queue, require_bind_eq_ok]
  refine ⟨valid.trigger, valid.variant, valid.key, bind_eq_ok.mpr
    ⟨requestHash, hashed, bind_eq_ok.mpr ⟨none, ?_, ?_⟩⟩⟩
  · exact check_eq_ok_iff.mpr ⟨missing.symm, nofun⟩
  · change before.decide service command requestHash jobId commandId now = _
    rw [decide_of_blocks blocks]
    exact bind_eq_ok.mpr ⟨ledger, recorded, rfl⟩

/-- A new command that is answered is blocked, and recorded under its key. -/
theorem decide_eq_ok
    (ran : before.decide service command requestHash jobId commandId now = .ok (answer, after)) :
    before.Blocks command ∧
      before.ledger.insert (command.processed requestHash commandId answer) =
        some after.ledger := by
  by_cases blocks : before.Blocks command
  · rw [decide_of_blocks blocks] at ran
    obtain ⟨-, rfl, inserted⟩ := record_eq_ok ran
    exact ⟨blocks, inserted⟩
  · obtain ⟨target, same⟩ := decide_of_not_blocks blocks
    rw [same] at ran
    exact absurd ran enqueue_ne_ok

/-- An answer is in the ledger, from which it is read back. -/
theorem recorded_of_queue
    (ran : before.queue service command jobId commandId now = .ok (answer, after)) :
    before.ledger.Extends after.ledger ∧ ∃ row, after.ledger.find
          (command.serviceName, command.idempotencyKey) = some row ∧
        sha256Canonical command.semantic = .ok row.requestHash ∧
        QueueRegenerationResult.ofPayload row.resultPayload =
          .ok { answer with replayed := true } := by
  obtain ⟨-, requestHash, hashed, ⟨row, found, rfl, read, rfl⟩ |
    ⟨missing, decided⟩⟩ := queue_eq_ok ran
  · refine ⟨.refl _, row, found, hashed, ?_⟩
    rw [read, QueueRegenerationResult.replayed_of_ofPayload read]
  · obtain ⟨-, inserted⟩ := decide_eq_ok decided
    exact ⟨Table.extends_of_insert inserted, _, Table.find_self_of_insert inserted, hashed,
      answer.ofPayload_members⟩

theorem extends_of_step {event : QueueEvent} (taken : QueueStep service before event after) :
    before.ledger.Extends after.ledger := by
  cases taken with
  | queued ran => exact (recorded_of_queue ran).1
  | rolledBack command => exact .refl _
  | changed grows => exact grows

/-- What is in the ledger stays there. -/
theorem extends_of_run {history : List QueueEvent}
    (run : Exec (QueueStep service) before history after) :
    before.ledger.Extends after.ledger := by
  induction run with
  | nil state => exact .refl _
  | cons taken _ ih =>
      exact (extends_of_step taken).trans ih

end QueueTables

/-- A command with the content of a valid one is valid. -/
theorem QueueRegenerationCommand.Repeats.valid {later earlier : QueueRegenerationCommand}
    (repeats : later.Repeats earlier) (valid : earlier.Valid) :
    later.Valid := by
  have same := repeats.semantic
  simp only [QueueRegenerationCommand.semantic, Json.obj.injEq,
    List.cons.injEq, Prod.mk.injEq, Json.str.injEq, true_and] at same
  obtain ⟨-, variant, trigger, -⟩ := same
  refine ⟨?_, ?_, ?_⟩
  · rw [trigger]
    exact valid.trigger
  · rw [variant]
    exact valid.variant
  · rw [repeats.idempotencyKey]
    exact valid.key

/-- A valid call is answered for good exactly when it replays a recorded
command or is blocked. -/
theorem queue_answered_iff (service : RegenerationQueueService σ) (before : QueueTables σ)
    (command : QueueRegenerationCommand) (jobId commandId : Uuid)
    (now : Time) (valid : command.Valid)
    (fresh : ∀ row ∈ before.ledger.rows, row.commandId ≠ commandId) :
    before.AnsweredForGood service command jobId commandId now ↔
      before.Answers command := by
  constructor
  · rintro ⟨result, after, ran, -, -⟩
    obtain ⟨-, requestHash, hashed, ⟨row, found, rfl, read, -⟩ |
      ⟨missing, decided⟩⟩ := QueueTables.queue_eq_ok ran
    · simp only [QueueTables.Answers, found]
      exact ⟨hashed, result, read⟩
    · simp only [QueueTables.Answers, missing]
      exact (QueueTables.decide_eq_ok decided).1
  · intro answers
    obtain ⟨result, after, ran⟩ : ∃ result after,
        before.queue service command jobId commandId now =
          .ok (result, after) := by
      unfold QueueTables.Answers at answers
      cases found : before.ledger.find
          (command.serviceName, command.idempotencyKey) with
      | none =>
          simp only [found] at answers
          obtain ⟨after, ran⟩ :=
            QueueTables.queue_of_blocks valid found fresh answers
          exact ⟨_, after, ran⟩
      | some row =>
          simp only [found] at answers
          obtain ⟨hashed, result, read⟩ := answers
          exact ⟨result, before,
            QueueTables.queue_of_recorded valid hashed found read⟩
    obtain ⟨-, row, found, hashed, read⟩ := QueueTables.recorded_of_queue ran
    refine ⟨result, after, ran, ⟨row, found⟩, ?_⟩
    intro history later run other jobId commandId now repeats
    have kept := QueueTables.extends_of_run run _ _ found
    rw [← repeats.serviceName, ← repeats.idempotencyKey] at kept
    rw [← repeats.semantic] at hashed
    exact QueueTables.queue_of_recorded (repeats.valid valid) hashed kept read

end Service

/-! ## A call that the ledger refuses -/

def sampleService : RegenerationQueueService Unit where
  priorities := repositoryPriorities
  write := fun _ events => .ok events

/-- A property with or without a current snapshot, and an empty ledger. -/
def sampleQueue (currentSnapshot : Option Uuid) : QueueTables Unit where
  ledger := .empty _
  jobs := ⟨sampleReferenced, .empty _⟩
  events := ()
  currentSnapshots := fun _ => currentSnapshot

def sampleCommand : QueueRegenerationCommand where
  propertyId := 1
  reportVariant := "SELLER"
  triggerType := "MANUAL_REBUILD_REQUESTED"
  reportSchemaVersion := "report-1"
  contentContractVersion := "content-1"
  variantPolicyVersion := "variant-1"
  correlationId := 3
  idempotencyKey := "key"
  serviceName := "REGENERATION_SERVICE"
  targetSnapshotId := none
  triggerEventId := none
  oldReportId := none
  releaseId := none
  changeClass := none
  reasonCode := none
  maxAttempts := 3

theorem sampleCommand_valid : sampleCommand.Valid where
  trigger := by decide
  variant := by decide
  key := by decide

theorem queue_answered_iff_sample :
    (sampleQueue none).AnsweredForGood sampleService sampleCommand
      ⟨4, by decide⟩ ⟨5, by decide⟩ 0 :=
  (queue_answered_iff sampleService (sampleQueue none) sampleCommand
    ⟨4, by decide⟩ ⟨5, by decide⟩ 0 sampleCommand_valid nofun).mpr rfl

/-- The first call for a property with a current snapshot is not answered. -/
theorem first_job_not_queued :
    ∃ (service : RegenerationQueueService Unit) (before : QueueTables Unit)
      (command : QueueRegenerationCommand) (jobId commandId : Uuid)
      (now : Time),
      command.Valid ∧ before.ledger.rows = [] ∧ before.jobs.jobs.rows = [] ∧
      ∀ result after, before.queue service command jobId commandId now ≠
        .ok (result, after) := by
  refine ⟨sampleService, sampleQueue (some ⟨2, by decide⟩), sampleCommand,
    ⟨4, by decide⟩, ⟨5, by decide⟩, 0, sampleCommand_valid, rfl, rfl, ?_⟩
  intro result after ran
  obtain ⟨-, requestHash, -, ⟨row, found, -⟩ | ⟨-, decided⟩⟩ :=
    QueueTables.queue_eq_ok ran
  · cases found
  · have blocked := (QueueTables.decide_eq_ok decided).1
    cases blocked

end SanTanHeights.Regeneration
