import SanTanHeights.Foundation.Json
import SanTanHeights.Foundation.Sha256
import SanTanHeights.Foundation.Tables
import SanTanHeights.Foundation.Uuid

/-!
# The command ledger

The table `audit.processed_commands` and `IdempotencyService`.  A command is
recorded once for its service and its idempotency key; a later call under the
same key is a replay when it has the same request hash.
-/

namespace SanTanHeights.Kernel.Commands

open Foundation Foundation.Outcome

/-- `ProcessedCommand`, and a row of `audit.processed_commands`. -/
structure ProcessedCommand where
  commandId : Uuid
  serviceName : String
  commandType : String
  idempotencyKey : String
  requestHash : String
  resultStatus : String
  correlationId : Uuid
  resultPayload : Json

/-- The columns of the unique constraint. -/
def ProcessedCommand.key (command : ProcessedCommand) : String × String :=
  (command.serviceName, command.idempotencyKey)

/-- The recorded commands. -/
abbrev Ledger := Table ProcessedCommand.key

/-- The values that the check constraint on `result_status` admits. -/
def resultStatuses : List String :=
  ["APPLIED", "REJECTED", "BLOCKED", "NO_OP", "CONFLICT", "FAILED"]

/-- `ProcessedCommandRepository.insert`. -/
def record (ledger : Ledger) (command : ProcessedCommand) :
    Except String Ledger := do
  require (Sha256.isHex64 command.requestHash = true)
    "violates check constraint"
  require (command.resultStatus ∈ resultStatuses) "violates check constraint"
  require (∀ row ∈ ledger.rows, row.commandId ≠ command.commandId)
    "duplicate key value violates unique constraint"
  orRaise (ledger.insert command) "duplicate key value violates unique constraint"

/-- `IdempotencyService.check`: the command that a call replays, if there is
one. -/
def check (ledger : Ledger) (serviceName idempotencyKey requestHash : String) :
    Except String (Option ProcessedCommand) :=
  match ledger.find (serviceName, idempotencyKey) with
  | none => return none
  | some prior => do
      require (prior.requestHash = requestHash)
        ("idempotency key already used by " ++ serviceName ++ " with a different request hash")
      return some prior

variable {ledger next : Ledger} {command : ProcessedCommand}

/-- A command is recorded where the constraints admit it. -/
theorem record_eq_ok_iff :
    record ledger command = .ok next ↔
      Sha256.isHex64 command.requestHash = true ∧
        command.resultStatus ∈ resultStatuses ∧
        (∀ row ∈ ledger.rows, row.commandId ≠ command.commandId) ∧
        ledger.insert command = some next := by
  simp only [record, require_bind_eq_ok, orRaise_eq_ok]

/-- A new command is recorded under its key. -/
theorem exists_record (isHash : Sha256.isHex64 command.requestHash = true)
    (admitted : command.resultStatus ∈ resultStatuses)
    (fresh : ∀ row ∈ ledger.rows, row.commandId ≠ command.commandId)
    (missing : ledger.find command.key = none) :
    ∃ next, record ledger command = .ok next := by
  obtain ⟨next, inserted⟩ := Table.exists_insert missing
  exact ⟨next, record_eq_ok_iff.mpr ⟨isHash, admitted, fresh, inserted⟩⟩

/-- A call is a replay of the command under its key with its request hash, or
new where there is none. -/
theorem check_eq_ok_iff {serviceName idempotencyKey requestHash : String}
    {prior : Option ProcessedCommand} :
    check ledger serviceName idempotencyKey requestHash = .ok prior ↔
      prior = ledger.find (serviceName, idempotencyKey) ∧
        ∀ row ∈ prior, row.requestHash = requestHash := by
  unfold check
  cases found : ledger.find (serviceName, idempotencyKey) with
  | none =>
      rw [pure_eq_ok, eq_comm]
      refine (and_iff_left_of_imp ?_).symm
      rintro rfl
      exact nofun
  | some row =>
      rw [require_bind_eq_ok, pure_eq_ok]
      constructor
      · rintro ⟨same, rfl⟩
        refine ⟨rfl, ?_⟩
        rintro other ⟨⟩
        exact same
      · rintro ⟨rfl, same⟩
        exact ⟨same row rfl, rfl⟩

end SanTanHeights.Kernel.Commands
