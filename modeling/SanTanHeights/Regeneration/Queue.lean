import SanTanHeights.Kernel.Commands
import SanTanHeights.Regeneration.Worker
import SanTanHeights.Shared.Textual

/-!
# The regeneration queue

`PriorityResolver`, `JobTargetKeyEngine` and `RegenerationQueueService`.  A
call ends with its result in the command ledger, from which a later call for
the same content takes it.
-/

namespace SanTanHeights.Regeneration

open Foundation Foundation.Outcome Kernel.Commands Shared

/-! ## Priorities -/

/-- `PriorityRule`; the keys of `when` are those of the context. -/
structure PriorityRule where
  ruleId : String
  priorityClass : String
  when : List (String × String)

/-- `PriorityRegistry`, with what `from_repository` checks of its classes. -/
structure PriorityRegistry where
  classes : List (String × Int)
  rules : List PriorityRule
  default : String
  exact : ∀ name, name ∈ classes.map Prod.fst ↔ name ∈ priorityClasses
  known : ∀ rule ∈ rules, rule.priorityClass ∈ priorityClasses
  knownDefault : default ∈ priorityClasses

/-- `PriorityResolver.resolve`: the class and its score. -/
def PriorityRegistry.resolve (registry : PriorityRegistry) (triggerType : String)
    (changeClass reasonCode : Option String) : String × Int :=
  let context := fun key =>
    [("trigger_type", some triggerType), ("change_class", changeClass),
      ("reason_code", reasonCode)].lookup key |>.join
  let matched := registry.rules.find? fun rule =>
    rule.when.all fun (key, value) => context key = some value
  let priorityClass := (matched.map PriorityRule.priorityClass).getD registry.default
  (priorityClass, (registry.classes.lookup priorityClass).getD 0)

/-- `registries/regeneration/priorities.yaml`. -/
def repositoryPriorities : PriorityRegistry where
  classes := [("CRITICAL", 100), ("HIGH", 80), ("NORMAL", 50), ("BULK", 30), ("LOW", 10)]
  rules :=
    [⟨"PRIORITY_INVALIDATING_CORRECTION", "CRITICAL",
        [("change_class", "INVALIDATING_CORRECTION")]⟩,
      ⟨"PRIORITY_IDENTITY_CORRECTION", "HIGH", [("change_class", "IDENTITY_CORRECTION")]⟩,
      ⟨"PRIORITY_MATERIAL_CORRECTION", "HIGH", [("change_class", "MATERIAL_CORRECTION")]⟩,
      ⟨"PRIORITY_MANUAL_REBUILD", "HIGH", [("trigger_type", "MANUAL_REBUILD_REQUESTED")]⟩,
      ⟨"PRIORITY_RELEASE_BULK", "BULK", [("trigger_type", "RELEASE_REGENERATION_REQUESTED")]⟩,
      ⟨"PRIORITY_SOURCE_REFRESH", "LOW", [("change_class", "SOURCE_REFRESH")]⟩]
  default := "NORMAL"
  exact := fun _ => Iff.rfl
  known := by decide
  knownDefault := by decide

/-! ## Target keys -/

/-- `JobTargetContext`. -/
structure JobTargetContext where
  propertyId : Uuid
  reportVariant : String
  targetSnapshotId : Uuid
  reportSchemaVersion : String
  contentContractVersion : String
  variantPolicyVersion : String

/-- `JobTargetKeyEngine.calculate`. -/
def JobTargetContext.calculate (context : JobTargetContext) :
    Except String String := do
  require (Text.isBlank context.reportVariant = false)
    "report_variant is required"
  require (Text.isBlank context.reportSchemaVersion = false)
    "report_schema_version is required"
  require (Text.isBlank context.contentContractVersion = false)
    "content_contract_version is required"
  require (Text.isBlank context.variantPolicyVersion = false)
    "variant_policy_version is required"
  sha256Canonical (.obj [("property_id", .str context.propertyId.str),
      ("report_variant", .str context.reportVariant),
      ("target_snapshot_id", .str context.targetSnapshotId.str),
      ("report_schema_version", .str context.reportSchemaVersion),
      ("content_contract_version", .str context.contentContractVersion),
      ("variant_policy_version", .str context.variantPolicyVersion)])

/-! ## Commands and results -/

/-- `QueueRegenerationCommand`, without the metadata that nothing reads. -/
structure QueueRegenerationCommand where
  propertyId : Uuid
  reportVariant : String
  triggerType : String
  reportSchemaVersion : String
  contentContractVersion : String
  variantPolicyVersion : String
  correlationId : Uuid
  idempotencyKey : String
  serviceName : String
  targetSnapshotId : Option Uuid
  triggerEventId : Option Uuid
  oldReportId : Option Uuid
  releaseId : Option Uuid
  changeClass : Option String
  reasonCode : Option String
  maxAttempts : Int

/-- `ALLOWED_TRIGGERS`. -/
def allowedTriggers : List String :=
  ["REPORT_MARKED_DIRTY", "REPORT_REACTIVATED",
    "REPORT_STALE_REBUILD_REQUIRED", "REGENERATION_RETRY_REQUIRED",
    "RELEASE_REGENERATION_REQUESTED", "MANUAL_REBUILD_REQUESTED"]

namespace QueueRegenerationCommand

/-- What `queue` checks of a command first. -/
structure Valid (command : QueueRegenerationCommand) : Prop where
  trigger : command.triggerType ∈ allowedTriggers
  variant : command.reportVariant ∈ ["AGENT", "SELLER", "PUBLIC"]
  key : Text.isBlank command.idempotencyKey = false

/-- `semantic`. -/
def semantic (command : QueueRegenerationCommand) : Json :=
  .obj [("property_id", .str command.propertyId.str),
      ("report_variant", .str command.reportVariant),
      ("trigger_type", .str command.triggerType),
      ("target_snapshot_id", .ofOptional (command.targetSnapshotId.map Uuid.str)),
      ("report_schema_version", .str command.reportSchemaVersion),
      ("content_contract_version", .str command.contentContractVersion),
      ("variant_policy_version", .str command.variantPolicyVersion),
      ("release_id", .ofOptional (command.releaseId.map Uuid.str)),
      ("change_class", .ofOptional command.changeClass),
      ("reason_code", .ofOptional command.reasonCode)]

/-- The content of a command can be hashed. -/
theorem exists_requestHash (command : QueueRegenerationCommand) :
    ∃ requestHash, sha256Canonical command.semantic = .ok requestHash ∧
      Sha256.isHex64 requestHash = true := by
  apply Textual.exists_sha256Canonical
  unfold semantic
  rw [textual_obj]
  refine ⟨?_, by simp [IsTagged], ?_⟩
  · simp only [List.map_cons, List.map_nil]
    decide
  · simp

def context (command : QueueRegenerationCommand) (target : Uuid) : JobTargetContext where
  propertyId := command.propertyId
  reportVariant := command.reportVariant
  targetSnapshotId := target
  reportSchemaVersion := command.reportSchemaVersion
  contentContractVersion := command.contentContractVersion
  variantPolicyVersion := command.variantPolicyVersion

/-- What a new job takes from its command. -/
def request (command : QueueRegenerationCommand) (jobId target : Uuid)
    (priority : String × Int) (jobTargetKey : String) : JobRequest where
  jobId := jobId
  propertyId := command.propertyId
  reportVariant := command.reportVariant
  triggerType := command.triggerType
  targetSnapshotId := target
  priorityClass := priority.1
  priorityScore := priority.2
  jobTargetKey := jobTargetKey
  correlationId := command.correlationId
  triggerEventId := command.triggerEventId
  oldReportId := command.oldReportId
  maxAttempts := command.maxAttempts
  releaseId := command.releaseId

end QueueRegenerationCommand

/-- `QueueRegenerationResult`. -/
structure QueueRegenerationResult where
  status : String
  jobId : Option Uuid
  targetSnapshotId : Option Uuid
  jobTargetKey : Option String
  priorityClass : Option String
  replayed : Bool
  deriving DecidableEq

/-- A text of a payload, or nothing. -/
def optionalText : Option Json → Option String
  | some (.str text) => some text
  | _ => none

/-- `uuid_from`. -/
def uuidFrom (value : Option String) : Except String (Option Uuid) :=
  match value with
  | none => return none
  | some text =>
      if text = "" then return none
      else (orRaise (Uuid.parse text) "ValueError").map some

namespace QueueRegenerationResult

/-- The payload that `_record` stores. -/
def members (result : QueueRegenerationResult) : List (String × Json) :=
  [("status", .str result.status), ("job_id", .ofOptional (result.jobId.map Uuid.str)),
    ("target_snapshot_id", .ofOptional (result.targetSnapshotId.map Uuid.str)),
    ("job_target_key", .ofOptional result.jobTargetKey),
    ("priority_class", .ofOptional result.priorityClass)]

/-- The result that a replay takes from a payload. -/
def ofPayload (payload : Json) : Except String QueueRegenerationResult :=
  match payload with
  | .obj members => do
      let status ← orRaise (optionalText (members.lookup "status")) "KeyError"
      let jobId ← uuidFrom (optionalText (members.lookup "job_id"))
      let targetSnapshotId ← uuidFrom (optionalText (members.lookup "target_snapshot_id"))
      return {
        status := status
        jobId := jobId
        targetSnapshotId := targetSnapshotId
        jobTargetKey := optionalText (members.lookup "job_target_key")
        priorityClass := optionalText (members.lookup "priority_class")
        replayed := true }
  | _ => throw "TypeError"

end QueueRegenerationResult

@[simp] theorem optionalText_ofOptional (text : Option String) :
    optionalText (some (.ofOptional text)) = text := by
  cases text <;> rfl

/-- The text of an identifier is read back. -/
@[simp] theorem uuidFrom_str (identifier : Option Uuid) :
    uuidFrom (identifier.map Uuid.str) = .ok identifier := by
  cases identifier with
  | none => rfl
  | some uuid =>
      have written : uuid.str ≠ "" := by
        intro empty
        have parsed := Uuid.parse_str uuid
        have nothing : Uuid.parse "" = none := by decide
        rw [empty, nothing] at parsed
        cases parsed
      rw [Option.map_some, uuidFrom]
      simp only [if_neg written, Uuid.parse_str]
      rfl

/-- A stored result is read back as it was, but for being replayed. -/
theorem QueueRegenerationResult.ofPayload_members (result : QueueRegenerationResult) :
    ofPayload (.obj result.members) = .ok { result with replayed := true } := by
  have status : optionalText (result.members.lookup "status") = some result.status := rfl
  have jobId : optionalText (result.members.lookup "job_id") =
      result.jobId.map Uuid.str := optionalText_ofOptional _
  have target : optionalText (result.members.lookup "target_snapshot_id") =
      result.targetSnapshotId.map Uuid.str := optionalText_ofOptional _
  have key : optionalText (result.members.lookup "job_target_key") =
      result.jobTargetKey := optionalText_ofOptional _
  have priority : optionalText (result.members.lookup "priority_class") =
      result.priorityClass := optionalText_ofOptional _
  simp only [ofPayload, status, jobId, target, key, priority, uuidFrom_str]
  rfl

/-- What is read back is marked as replayed. -/
theorem QueueRegenerationResult.replayed_of_ofPayload
    {payload : Json} {result : QueueRegenerationResult}
    (read : ofPayload payload = .ok result) : { result with replayed := true } = result := by
  cases payload with
  | obj members =>
      obtain ⟨status, -, continued⟩ := bind_eq_ok.mp read
      obtain ⟨jobId, -, continued⟩ := bind_eq_ok.mp continued
      obtain ⟨target, -, ended⟩ := bind_eq_ok.mp continued
      cases ended
      rfl
  | _ => cases read

/-- What `_record` stores of a command. -/
def QueueRegenerationCommand.processed
    (command : QueueRegenerationCommand) (requestHash : String)
    (commandId : Uuid) (result : QueueRegenerationResult) :
    ProcessedCommand where
  commandId := commandId
  serviceName := command.serviceName
  commandType := "QueueRegeneration"
  idempotencyKey := command.idempotencyKey
  requestHash := requestHash
  resultStatus := result.status
  correlationId := command.correlationId
  resultPayload := .obj result.members

/-! ## The service -/

/-- `EventDraft`, with the fields that the queue sets. -/
structure EventDraft where
  eventType : String
  sourceSystem : String
  actorType : String
  actorId : String
  correlationId : Uuid
  causationEventId : Option Uuid
  propertyId : Uuid
  snapshotId : Uuid
  jobId : Uuid
  reasonCode : Option String
  payload : Json

section Service

variable {σ : Type}

/-- `RegenerationQueueService`, with its registry of priorities and its event
writer, which raises or writes to the tables of events. -/
structure RegenerationQueueService (σ : Type) where
  priorities : PriorityRegistry
  write : EventDraft → σ → Except String σ

/-- The ledger, the jobs, the events, and the current snapshot of each
property. -/
structure QueueTables (σ : Type) where
  ledger : Ledger
  jobs : JobTables
  events : σ
  currentSnapshots : Uuid → Option Uuid

namespace QueueTables

/-- `_record`. -/
def record (tables : QueueTables σ) (command : QueueRegenerationCommand)
    (requestHash : String) (commandId : Uuid) (result : QueueRegenerationResult) :
    Except String (QueueRegenerationResult × QueueTables σ) := do
  let ledger ← Kernel.Commands.record tables.ledger
    (command.processed requestHash commandId result)
  return (result, { tables with ledger := ledger })

/-- The event of a new job. -/
def queuedEvent (command : QueueRegenerationCommand) (jobId target : Uuid)
    (jobTargetKey priorityClass : String) : EventDraft where
  eventType := "REGENERATION_JOB_QUEUED"
  sourceSystem := "REGENERATION_SERVICE"
  actorType := "SYSTEM"
  actorId := command.serviceName
  correlationId := command.correlationId
  causationEventId := command.triggerEventId
  propertyId := command.propertyId
  snapshotId := target
  jobId := jobId
  reasonCode := command.reasonCode
  payload := .obj [("job_id", .str jobId.str),
      ("report_variant", .str command.reportVariant), ("job_target_key", .str jobTargetKey),
      ("priority_class", .str priorityClass)]

/-- `queue` for a snapshot that is the current one. -/
def enqueue (before : QueueTables σ) (service : RegenerationQueueService σ)
    (command : QueueRegenerationCommand) (requestHash : String)
    (target jobId commandId : Uuid) (now : Time) :
    Except String (QueueRegenerationResult × QueueTables σ) := do
  let jobTargetKey ← (command.context target).calculate
  let priority := service.priorities.resolve command.triggerType
    command.changeClass command.reasonCode
  match before.jobs.findActive command.propertyId command.reportVariant
      jobTargetKey with
  | some existing =>
      before.record command requestHash commandId
        ⟨"EXISTING_ACTIVE_JOB", some existing, some target,
          some jobTargetKey, some priority.1, false⟩
  | none => do
      let jobs ← before.jobs.insert
        (command.request jobId target priority jobTargetKey).job now
      let events ← service.write
        (queuedEvent command jobId target jobTargetKey priority.1)
        before.events
      { before with jobs := jobs, events := events }.record command
        requestHash commandId
        ⟨"QUEUED", some jobId, some target, some jobTargetKey, some priority.1, false⟩

/-- `queue` for a command that is new. -/
def decide (before : QueueTables σ) (service : RegenerationQueueService σ)
    (command : QueueRegenerationCommand) (requestHash : String)
    (jobId commandId : Uuid) (now : Time) :
    Except String (QueueRegenerationResult × QueueTables σ) :=
  let current := before.currentSnapshots command.propertyId
  match command.targetSnapshotId.or current with
  | none => before.record command requestHash commandId ⟨"BLOCKED", none, none, none, none, false⟩
  | some target =>
      if command.targetSnapshotId ≠ none ∧ current ≠ some target then
        before.record command requestHash commandId
          ⟨"BLOCKED", none, some target, none, none, false⟩
      else
        before.enqueue service command requestHash target jobId commandId now

/-- `RegenerationQueueService.queue`, with the identifiers that `uuid4`
returns. -/
def queue (before : QueueTables σ) (service : RegenerationQueueService σ)
    (command : QueueRegenerationCommand) (jobId commandId : Uuid) (now : Time) :
    Except String (QueueRegenerationResult × QueueTables σ) := do
  require (command.triggerType ∈ allowedTriggers)
    "unsupported regeneration trigger"
  require (command.reportVariant ∈ ["AGENT", "SELLER", "PUBLIC"])
    "unsupported report variant"
  require (Text.isBlank command.idempotencyKey = false)
    "idempotency_key is required"
  let requestHash ← sha256Canonical command.semantic
  let prior ← check before.ledger command.serviceName
    command.idempotencyKey requestHash
  match prior with
  | some row => do
      let result ← QueueRegenerationResult.ofPayload row.resultPayload
      return (result, before)
  | none => before.decide service command requestHash jobId commandId now

end QueueTables

end Service

end SanTanHeights.Regeneration
