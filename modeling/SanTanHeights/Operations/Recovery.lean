import SanTanHeights.Operations.Incidents
import SanTanHeights.Publication.Tables
import SanTanHeights.Regeneration.Jobs
import SanTanHeights.Release.Tables
import SanTanHeights.Shared.Hash

/-!
# Recovery commands

`RecoveryActionRegistry`, `ExplicitRecoveryActions` and
`RecoveryCommandFramework`.  A command is recorded under its incident and its
idempotency key before its action runs, and keeps the result of the action or
the class of the exception that the action raised.
-/

namespace SanTanHeights.Operations

open Foundation Foundation.Outcome Shared

/-- A dictionary with the keys of a JSON object. -/
abbrev Payload := List (String × Json)

/-! ## Which commands an incident admits -/

/-- A rule of the recovery registry. -/
structure RecoveryAction where
  commandType : String
  requiredPayload : List String
  allowedIncidentStates : List IncidentState

/-- `RecoveryActionRegistry`; of two rules for a command type the later one
counts. -/
structure RecoveryActionRegistry where
  actions : List RecoveryAction

namespace RecoveryActionRegistry

/-- `self.actions.get(command_type)`. -/
def rule (registry : RecoveryActionRegistry) (commandType : String) : Option RecoveryAction :=
  registry.actions.reverse.find? fun action =>
    action.commandType = commandType

/-- `payload.get(key) in (None, '')`. -/
def isMissing (payload : Payload) (key : String) : Bool :=
  match payload.lookup key with
  | none => true
  | some .null => true
  | some (.str text) => text = ""
  | some _ => false

/-- `validate`. -/
def validate (registry : RecoveryActionRegistry) (commandType : String)
    (payload : Payload) (incidentState : IncidentState) :
    Except String Unit := do
  let rule ← orRaise (registry.rule commandType) "unknown recovery command type"
  require (incidentState ∈ rule.allowedIncidentStates)
    "recovery command not allowed for incident state"
  let missing := rule.requiredPayload.filter (isMissing payload)
  require (missing = []) ("missing recovery payload: " ++
    String.intercalate "," (Sorting.sortedBy id missing))

theorem validate_eq_ok {registry : RecoveryActionRegistry} {commandType : String}
    {payload : Payload} {incidentState : IncidentState} :
    registry.validate commandType payload incidentState = .ok () ↔
      ∃ rule, registry.rule commandType = some rule ∧
        incidentState ∈ rule.allowedIncidentStates ∧
        rule.requiredPayload.filter (isMissing payload) = [] := by
  simp only [validate, bind_eq_ok, orRaise_eq_ok, require_eq_ok, exists_const]

end RecoveryActionRegistry

/-- `registries/operations/recovery-actions.yaml`. -/
def repositoryRegistry : RecoveryActionRegistry where
  actions :=
    [⟨"RELEASE_PUBLICATION_FREEZE", ["freeze_id"], [.contained, .recovering]⟩,
      ⟨"REQUEUE_REGENERATION_JOB", ["job_id"], [.contained, .recovering]⟩,
      ⟨"RETRY_RELEASE_ITEM", ["release_item_id"], [.contained, .recovering]⟩,
      ⟨"REVALIDATE_PUBLICATION_TARGET", ["property_id", "report_variant", "channel"],
        [.contained, .recovering]⟩,
      ⟨"RESOLVE_INCIDENT", [], [.contained, .recovering, .opened]⟩]

/-! ## The actions -/

/-- The tables that the actions change. -/
structure OperationsTables where
  incidents : IncidentTables
  publication : Publication.Database
  jobs : Regeneration.JobTables
  release : Release.Database

/-- The repository whose freezes are released. -/
inductive FreezeRepository where
  | publication
  | restore
  deriving DecidableEq, Repr

/-- `ExplicitRecoveryActions`, with the freezes and the lifecycle that it was
given, and `str` on the values of a payload. -/
structure ExplicitRecoveryActions where
  freezes : Option FreezeRepository
  incidents : Bool
  str : Json → String
  str_text : ∀ text, str (.str text) = text

/-- What an action object does for a command: what it returns or the class of
the exception that it raises, and the tables that it leaves. -/
abbrev Actions :=
  Incident → String → Payload → String → Time → OperationsTables →
    Except String (Except String Payload × OperationsTables)

/-- Go on with a value, or with the exception raised in its place. -/
def attempt {α : Type} (value : Except String α) (tables : OperationsTables)
    (next : α → Except String (Except String Payload × OperationsTables)) :
    Except String (Except String Payload × OperationsTables) :=
  match value with
  | .ok found => next found
  | .error className => return (.error className, tables)

/-- `{'status': 'SUCCEEDED' if updated else 'NO_OP', 'action': action}`. -/
def updateResult (updated : Bool) (action : String) : Payload :=
  [("status", .str (if updated then "SUCCEEDED" else "NO_OP")),
    ("action", .str action)]

namespace ExplicitRecoveryActions

/-- `payload[key]`. -/
def value (payload : Payload) (key : String) : Except String Json :=
  orRaise (payload.lookup key) "KeyError"

/-- `UUID(str(payload[key]))`. -/
def identifier (actions : ExplicitRecoveryActions) (payload : Payload)
    (key : String) : Except String Uuid := do
  let found ← value payload key
  orRaise (Uuid.parse (actions.str found)) "ValueError"

/-- `freezes.release`: whether there was such a freeze, and the tables. -/
def releaseFreeze (repository : FreezeRepository) (tables : Publication.Database)
    (freezeId : Uuid) : Bool × Publication.Database :=
  let isGlobal := decide (repository = .restore)
  (tables.freezes.any fun freeze =>
      freeze.freezeId = freezeId ∧ freeze.scope.isNone = isGlobal ∧ freeze.released = false,
    tables.releaseFreeze isGlobal freezeId)

/-- `REVALIDATE_PUBLICATION_TARGET`. -/
def revalidated (actions : ExplicitRecoveryActions) (payload : Payload) :
    Except String Payload := do
  let propertyId ← value payload "property_id"
  let reportVariant ← value payload "report_variant"
  let channel ← value payload "channel"
  return updateResult true "REVALIDATE_PUBLICATION_TARGET" ++
    [("property_id", .str (actions.str propertyId)),
      ("report_variant", reportVariant), ("channel", channel)]

/-- `execute`. -/
def execute (actions : ExplicitRecoveryActions) : Actions :=
  fun incident commandType payload actor now tables =>
    if commandType = "RELEASE_PUBLICATION_FREEZE" then
      match actions.freezes with
      | none => return (.ok [("status", .str "BLOCKED"),
          ("reason", .str "FREEZE_REPOSITORY_UNAVAILABLE")], tables)
      | some repository =>
          attempt (actions.identifier payload "freeze_id") tables
            fun freezeId =>
              let (released, publication) :=
                releaseFreeze repository tables.publication freezeId
              return (.ok (updateResult released commandType),
                { tables with publication := publication })
    else if commandType = "REQUEUE_REGENERATION_JOB" then
      attempt (actions.identifier payload "job_id") tables fun jobId => do
        let (requeued, jobs) ← tables.jobs.requeue Regeneration.columns jobId
        return (.ok (updateResult requeued commandType),
          { tables with jobs := jobs })
    else if commandType = "RETRY_RELEASE_ITEM" then
      attempt (actions.identifier payload "release_item_id") tables
        fun releaseItemId => do
          let (retried, release) ←
            tables.release.updateItem releaseItemId [.failed, .blocked] .generationQueued none
          return (.ok (updateResult retried commandType),
            { tables with release := release })
    else if commandType = "REVALIDATE_PUBLICATION_TARGET" then
      return (actions.revalidated payload, tables)
    else if commandType = "RESOLVE_INCIDENT" then
      if actions.incidents then do
        let (resolved, incidents) ← tables.incidents.transition incident
          .resolved "INCIDENT_RECOVERED" actor now
        return (resolved.map fun _ => updateResult true commandType,
          { tables with incidents := incidents })
      else return (.ok [("status", .str "BLOCKED"),
        ("reason", .str "INCIDENT_LIFECYCLE_UNAVAILABLE")], tables)
    else return (.error "ValueError", tables)

end ExplicitRecoveryActions

/-! ## The framework -/

/-- `recovery_commands.command_status`, closed by the check constraint. -/
inductive CommandStatus where
  | requested
  | running
  | succeeded
  | failed
  | blocked
  | noOp
  deriving DecidableEq, Repr

/-- A row of `operations.recovery_commands`. -/
structure RecoveryCommand where
  recoveryCommandId : Uuid
  incidentId : Uuid
  idempotencyKey : String
  commandType : String
  requestHash : String
  commandStatus : CommandStatus
  commandPayload : Payload
  resultJson : Option Payload
  reasonCode : String
  requestedBy : String
  correlationId : Option Uuid
  startedAt : Option Time
  completedAt : Option Time

/-- The columns of the unique constraint. -/
def RecoveryCommand.key (command : RecoveryCommand) : Uuid × String :=
  (command.incidentId, command.idempotencyKey)

/-- A row of `operations.recovery_command_history`. -/
structure CommandHistory where
  recoveryCommandId : Uuid
  fromStatus : Option CommandStatus
  toStatus : CommandStatus
  reasonCode : String
  actor : String
  detailJson : Payload

/-- `RecoveryResult`. -/
structure RecoveryResult where
  status : CommandStatus
  commandId : Uuid
  detail : Payload

/-- The result that a row records. -/
def RecoveryCommand.result (command : RecoveryCommand) : RecoveryResult where
  status := command.commandStatus
  commandId := command.recoveryCommandId
  detail := command.resultJson.getD []

/-- The recorded commands, and the tables that their actions change. -/
structure RecoveryTables where
  commands : Table RecoveryCommand.key
  commandHistory : List CommandHistory
  operations : OperationsTables

/-- The arguments of `execute`, with the identifier that `uuid4` returns. -/
structure RecoveryRequest where
  incident : Incident
  commandType : String
  payload : Payload
  idempotencyKey : String
  requestedBy : String
  reasonCode : String
  commandId : Uuid

namespace RecoveryRequest

def key (request : RecoveryRequest) : Uuid × String :=
  (request.incident.incidentId, request.idempotencyKey)

/-- The value that is hashed. -/
def json (request : RecoveryRequest) : Json :=
  .obj [("incident_id", .str request.incident.incidentId.str),
    ("command_type", .str request.commandType), ("payload", .obj request.payload)]

/-- The row that `INSERT` adds. -/
def row (request : RecoveryRequest) (requestHash : String) : RecoveryCommand where
  recoveryCommandId := request.commandId
  incidentId := request.incident.incidentId
  idempotencyKey := request.idempotencyKey
  commandType := request.commandType
  requestHash := requestHash
  commandStatus := .requested
  commandPayload := request.payload
  resultJson := none
  reasonCode := request.reasonCode
  requestedBy := request.requestedBy
  correlationId := request.incident.correlationId
  startedAt := none
  completedAt := none

end RecoveryRequest

/-- The assignments of `STATUS`. -/
def RecoveryCommand.enter
    (command : RecoveryCommand) (status : CommandStatus) (result : Payload)
    (now : Time) : RecoveryCommand :=
  { command with
    commandStatus := status
    resultJson := some result
    startedAt := some (command.startedAt.getD now)
    completedAt :=
      if status ∈ [CommandStatus.succeeded, .failed, .blocked, .noOp] then
        some now
      else command.completedAt }

theorem RecoveryCommand.key_enter (status : CommandStatus) (result : Payload) (now : Time)
    (command : RecoveryCommand) : (command.enter status result now).key = command.key := rfl

/-- What an execution returns, or raises after it was recorded. -/
structure Execution where
  result : RecoveryResult
  raised : Option String

/-- The status that an action returns. -/
def actionStatus (result : Payload) : CommandStatus :=
  match result.lookup "status" with
  | some (.str "FAILED") => .failed
  | some (.str "BLOCKED") => .blocked
  | some (.str "NO_OP") => .noOp
  | _ => .succeeded

/-- How a command ends: its status, the result that is recorded, the reason in
its history, and the exception that is raised again. -/
structure Ending where
  status : CommandStatus
  detail : Payload
  reasonCode : String
  raised : Option String

/-- The end of a command whose action returned or raised. -/
def ending (reasonCode : String) : Except String Payload → Ending
  | .ok result => ⟨actionStatus result, result, reasonCode, none⟩
  | .error className =>
      ⟨.failed, [("error_type", .str className)], "RECOVERY_ACTION_FAILED", some className⟩

namespace RecoveryTables

/-- `INSERT`. -/
def insertCommand (tables : RecoveryTables) (command : RecoveryCommand) :
    Except String RecoveryTables := do
  require (Sha256.isHex64 command.requestHash = true)
    "violates check constraint"
  require (∀ row ∈ tables.commands.rows, row.recoveryCommandId ≠ command.recoveryCommandId)
    "duplicate key value violates unique constraint"
  let inserted ← orRaise (tables.commands.insert command)
    "duplicate key value violates unique constraint"
  require ((tables.operations.incidents.incidents.find command.incidentId).isSome ∧
      command.reasonCode ∈ tables.operations.incidents.reasonCodes)
    "violates foreign key constraint"
  return { tables with commands := inserted }

/-- `STATUS`. -/
def setStatus (tables : RecoveryTables) (commandId : Uuid) (status : CommandStatus)
    (result : Payload) (now : Time) : RecoveryTables :=
  { tables with
    commands := tables.commands.update
      (fun command => command.recoveryCommandId = commandId)
      (fun command => command.enter status result now)
      (RecoveryCommand.key_enter status result now) }

/-- `HISTORY`. -/
def appendHistory (tables : RecoveryTables) (entry : CommandHistory) :
    Except String RecoveryTables := do
  require (entry.reasonCode ∈ tables.operations.incidents.reasonCodes)
    "violates foreign key constraint"
  return { tables with commandHistory := tables.commandHistory ++ [entry] }

/-- The steps of `execute` for a new command. -/
def perform (before : RecoveryTables) (actions : Actions) (request : RecoveryRequest)
    (requestHash : String) (now : Time) :
    Except String (Execution × RecoveryTables) := do
  let inserted ← before.insertCommand (request.row requestHash)
  let requested ← inserted.appendHistory
    ⟨request.commandId, none, .requested, request.reasonCode, request.requestedBy, []⟩
  let running ←
    (requested.setStatus request.commandId .running [] now).appendHistory
      ⟨request.commandId, some .requested, .running, request.reasonCode, request.requestedBy, []⟩
  let (outcome, operations) ← actions request.incident request.commandType
    request.payload request.requestedBy now running.operations
  let last := ending request.reasonCode outcome
  let finished ← (({ running with operations := operations } :
      RecoveryTables).setStatus request.commandId last.status last.detail
      now).appendHistory
    ⟨request.commandId, some .running, last.status, last.reasonCode,
      request.requestedBy, last.detail⟩
  return (⟨⟨last.status, request.commandId, last.detail⟩, last.raised⟩, finished)

/-- `RecoveryCommandFramework.execute`. -/
def execute (before : RecoveryTables) (registry : RecoveryActionRegistry)
    (actions : Actions) (request : RecoveryRequest) (now : Time) :
    Except String (Execution × RecoveryTables) := do
  registry.validate request.commandType request.payload request.incident.incidentState
  let requestHash ← sha256Canonical request.json
  match before.commands.find request.key with
  | some row => do
      require (row.requestHash = requestHash)
        "recovery idempotency key reused with different request"
      return (⟨row.result, none⟩, before)
  | none => before.perform actions request requestHash now

end RecoveryTables

end SanTanHeights.Operations
