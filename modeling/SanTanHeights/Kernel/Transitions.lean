import SanTanHeights.Kernel.GuardRunner
import SanTanHeights.Regeneration.Queue

/-!
# The transition engine

`TransitionEngine.execute` answers a command from the ledger, or authorizes,
guards and applies a transition and records what came of it.  A call that
raises is rolled back by its caller.  The event writer is a parameter, as it is
for the engine, and an identifier that an event was written under is known to
the tables that refer to it.
-/

namespace SanTanHeights.Kernel.Transitions

open Foundation Foundation.Outcome Commands Guards Shared
open Regeneration (optionalText optionalText_ofOptional uuidFrom uuidFrom_str)

/-! ## Requests and results -/

/-- `TransitionDefinition`. -/
structure TransitionDefinition where
  transitionId : String
  entityType : String
  stateDimension : String
  fromState : String
  toState : String
  allowedCallers : List String
  requiredGuards : List String
  emittedEvents : List String
  rejectionEvent : Option String
  reasonCode : Option String

/-- `TransitionRegistry`. -/
structure TransitionRegistry where
  definitions : List TransitionDefinition
  distinct : (definitions.map TransitionDefinition.transitionId).Nodup
  unambiguous : (definitions.map fun definition =>
    (definition.entityType, definition.stateDimension, definition.fromState,
      definition.toState)).Nodup

/-- `TransitionRegistry.get`; nothing stands for the exception. -/
def TransitionRegistry.get (registry : TransitionRegistry) (transitionId : String) :
    Option TransitionDefinition :=
  registry.definitions.find? fun definition =>
    definition.transitionId = transitionId

/-- `TransitionRequest`. -/
structure TransitionRequest where
  transitionId : String
  entityId : Uuid
  callerId : String
  actorType : String
  actorId : String
  serviceName : String
  idempotencyKey : String
  correlationId : Uuid
  commandType : String
  causationEventId : Option Uuid
  metadata : List (String × Json)

/-- `TransitionRequest.semantic_payload`. -/
def TransitionRequest.semanticPayload (request : TransitionRequest) : Json :=
  .obj
    [("transition_id", .str request.transitionId), ("entity_id", .str request.entityId.str),
      ("caller_id", .str request.callerId), ("actor_type", .str request.actorType),
      ("actor_id", .str request.actorId), ("service_name", .str request.serviceName),
      ("command_type", .str request.commandType), ("metadata", .obj request.metadata)]

/-- `TransitionResult`. -/
structure TransitionResult where
  status : String
  transitionId : String
  entityId : Uuid
  fromState : Option String
  toState : Option String
  stateVersion : Option Int
  reasonCode : Option String
  eventId : Option Uuid
  replayed : Bool

/-- `TransitionResult.to_payload`. -/
def TransitionResult.toPayload (result : TransitionResult) : Json :=
  .obj
    [("status", .str result.status), ("transition_id", .str result.transitionId),
      ("entity_id", .str result.entityId.str), ("from_state", .ofOptional result.fromState),
      ("to_state", .ofOptional result.toState),
      ("state_version", (result.stateVersion.map Json.int).getD .null),
      ("reason_code", .ofOptional result.reasonCode),
      ("event_id", .ofOptional (result.eventId.map Uuid.str))]

/-- A number of a payload, or nothing. -/
def optionalInt : Option Json → Option Int
  | some (.int number) => some number
  | _ => none

/-- `TransitionResult.from_payload`, for a replay. -/
def TransitionResult.ofPayload : Json → Except String TransitionResult
  | .obj members => do
      let status ← orRaise (optionalText (members.lookup "status")) "KeyError"
      let transitionId ← orRaise (optionalText (members.lookup "transition_id")) "KeyError"
      let entityText ← orRaise (optionalText (members.lookup "entity_id")) "KeyError"
      let entityId ← orRaise (Uuid.parse entityText) "ValueError"
      let eventId ← uuidFrom (optionalText (members.lookup "event_id"))
      require (status ∈ resultStatuses) "unsupported transition result"
      return {
        status := status
        transitionId := transitionId
        entityId := entityId
        fromState := optionalText (members.lookup "from_state")
        toState := optionalText (members.lookup "to_state")
        stateVersion := optionalInt (members.lookup "state_version")
        reasonCode := optionalText (members.lookup "reason_code")
        eventId := eventId
        replayed := true }
  | _ => throw "TypeError"

/-- A stored result is read back as it was, but for being replayed. -/
theorem TransitionResult.ofPayload_toPayload
    {result : TransitionResult} (known : result.status ∈ resultStatuses) :
    ofPayload result.toPayload = .ok { result with replayed := true } := by
  obtain ⟨status, transitionId, entityId, fromState, toState, stateVersion,
    reasonCode, eventId, replayed⟩ := result
  have version : optionalInt
      (some ((stateVersion.map Json.int).getD .null)) = stateVersion := by
    cases stateVersion <;> rfl
  have event := uuidFrom_str eventId
  rw [← optionalText_ofOptional (eventId.map Uuid.str)] at event
  simp only [ofPayload, toPayload]
  refine bind_eq_ok.mpr ⟨status, rfl, bind_eq_ok.mpr ⟨transitionId, rfl,
    bind_eq_ok.mpr ⟨entityId.str, rfl, bind_eq_ok.mpr ⟨entityId,
      orRaise_eq_ok.mpr entityId.parse_str, bind_eq_ok.mpr ⟨eventId, event,
        require_bind_eq_ok.mpr ⟨known, ?_⟩⟩⟩⟩⟩⟩
  rw [pure_eq_ok]
  congr 1
  · exact optionalText_ofOptional fromState
  · exact optionalText_ofOptional toState
  · exact optionalText_ofOptional reasonCode

theorem TransitionResult.replayed_of_ofPayload {payload : Json} {result : TransitionResult}
    (read : ofPayload payload = .ok result) : { result with replayed := true } = result := by
  cases payload with
  | obj members =>
      simp only [ofPayload, bind_eq_ok, pure_eq_ok] at read
      obtain ⟨-, -, -, -, -, -, -, -, -, -, -, -, rfl⟩ := read
      rfl
  | _ => cases read

/-! ## Tables -/

/-- `StateRecord`, and a row of `operations.kernel_test_entities`. -/
structure StateRecord where
  entityId : Uuid
  state : String
  stateVersion : Int

/-- `StateTransitionRecord`, and a row of `audit.state_transitions`. -/
structure StateTransitionRecord where
  transitionRecordId : Uuid
  transitionId : String
  entityType : String
  entityId : Uuid
  stateDimension : String
  fromState : String
  toState : String
  result : String
  reasonCode : Option String
  eventId : Uuid
  correlationId : Uuid
  actorType : String
  actorId : String

/-- `GuardEvaluationRecord`, and a row of `audit.guard_evaluations`. -/
structure GuardEvaluationRecord where
  guardEvaluationId : Uuid
  transitionRecordId : Uuid
  guardId : String
  ordinal : Nat
  result : ResultCode
  reasonCode : Option String
  safeDetails : Json
  correlationId : Uuid

/-- The text of a result of a guard. -/
def resultText : ResultCode → String
  | .pass => "PASS"
  | .fail => "FAIL"
  | .block => "BLOCK"
  | .error => "ERROR"
  | .notEvaluated => "NOT_EVALUATED"

/-- `EventDraft`, with the fields that the engine sets. -/
structure EventDraft where
  eventType : String
  sourceSystem : String
  actorType : String
  actorId : String
  correlationId : Uuid
  causationEventId : Option Uuid
  reasonCode : Option String
  payload : Json

/-- The tables of the kernel, the codes that they may refer to, the tables of
events and the world of the guards. -/
structure KernelTables (σ τ : Type) where
  ledger : Ledger
  entities : Table StateRecord.entityId
  transitions : List StateTransitionRecord
  evaluations : List GuardEvaluationRecord
  contentStates : List String
  reasonCodes : List String
  guardIds : List String
  events : σ
  world : τ

/-- The identifiers that a call draws. -/
structure Draw where
  commandId : Uuid
  transitionRecordId : Uuid
  guardEvaluationId : Nat → Uuid

/-- `GuardContext`. -/
structure GuardContext where
  entityId : Uuid
  entityType : String
  stateDimension : String
  expectedState : String
  actualState : Option String
  callerId : String
  allowedCallers : List String
  entityExists : Bool
  metadata : List (String × Json)

/-- `TransitionEngine`, with its event writer, which raises or writes an event
under a new identifier, and whether the adapter of the test entities is
registered. -/
structure TransitionEngine (σ τ : Type) where
  transitions : TransitionRegistry
  guardRunner : GuardRunner GuardContext τ
  write : EventDraft → σ → Except String (Uuid × σ)
  registered : Bool

section Engine

variable {σ τ : Type}

namespace KernelTables

/-- `TransitionRepository.insert`. -/
def insertTransition (tables : KernelTables σ τ) (row : StateTransitionRecord) :
    Except String (KernelTables σ τ) := do
  require (∀ other ∈ tables.transitions, other.transitionRecordId ≠ row.transitionRecordId)
    "duplicate key value violates unique constraint"
  require (∀ reason ∈ row.reasonCode, reason ∈ tables.reasonCodes)
    "violates foreign key constraint"
  return { tables with transitions := tables.transitions ++ [row] }

/-- `GuardRepository.insert`. -/
def insertEvaluation (tables : KernelTables σ τ) (row : GuardEvaluationRecord) :
    Except String (KernelTables σ τ) := do
  require (∀ other ∈ tables.evaluations, other.guardEvaluationId ≠ row.guardEvaluationId)
    "duplicate key value violates unique constraint"
  require (row.guardId ∈ tables.guardIds ∧
      ∀ reason ∈ row.reasonCode, reason ∈ tables.reasonCodes)
    "violates foreign key constraint"
  return { tables with evaluations := tables.evaluations ++ [row] }

/-- `_record_guards`, from an ordinal on. -/
def recordGuards (request : TransitionRequest) (draw : Draw) :
    Nat → List GuardResult → KernelTables σ τ → Except String (KernelTables σ τ)
  | _, [], tables => return tables
  | ordinal, guard :: guards, tables => do
      let next ← tables.insertEvaluation
        { guardEvaluationId := draw.guardEvaluationId ordinal
          transitionRecordId := draw.transitionRecordId
          guardId := guard.guardId
          ordinal := ordinal
          result := guard.result
          reasonCode := guard.reasonCode
          safeDetails := guard.safeDetails
          correlationId := request.correlationId }
      recordGuards request draw (ordinal + 1) guards next

/-- `_record_processed_command`, and what the call returns. -/
def recordProcessedCommand (request : TransitionRequest) (requestHash : String) (draw : Draw)
    (result : TransitionResult) (tables : KernelTables σ τ) :
    Except String (TransitionResult × KernelTables σ τ) := do
  let ledger ← record tables.ledger
    { commandId := draw.commandId
      serviceName := request.serviceName
      commandType := request.commandType
      idempotencyKey := request.idempotencyKey
      requestHash := requestHash
      resultStatus := result.status
      correlationId := request.correlationId
      resultPayload := result.toPayload }
  return (result, { tables with ledger := ledger })

/-- `UPDATE_SQL`, for a row whose state and version are the expected ones. -/
def advance (entities : Table StateRecord.entityId) (entityId : Uuid)
    (targetState : String) : Table StateRecord.entityId :=
  entities.update (fun row => row.entityId = entityId)
    (fun row => { row with
      state := targetState
      stateVersion := row.stateVersion + 1 }) fun _ => rfl

/-- `KernelTestEntityAdapter.apply_state`; nothing stands for the conflict. -/
def applyState (tables : KernelTables σ τ) (current : StateRecord)
    (expectedState targetState : String) :
    Except String (Option (StateRecord × KernelTables σ τ)) := do
  if current.state = expectedState then
    require (targetState ∈ tables.contentStates)
      "violates foreign key constraint"
    require (current.stateVersion + 1 < 2 ^ 63) "bigint out of range"
    return some
      ({ current with
          state := targetState
          stateVersion := current.stateVersion + 1 },
        { tables with
          entities := advance tables.entities current.entityId targetState })
  else return none

end KernelTables

namespace TransitionEngine

/-- `self.events.write`. -/
def writeEvent (engine : TransitionEngine σ τ) (tables : KernelTables σ τ)
    (draft : EventDraft) : Except String (Uuid × KernelTables σ τ) := do
  let (eventId, events) ← engine.write draft tables.events
  return (eventId, { tables with events := events })

end TransitionEngine

/-- A draft of the engine. -/
def TransitionRequest.draft (request : TransitionRequest) (eventType : String)
    (cause : Option Uuid) (reasonCode : Option String)
    (payload : List (String × Json)) : EventDraft where
  eventType := eventType
  sourceSystem := "KERNEL"
  actorType := request.actorType
  actorId := request.actorId
  correlationId := request.correlationId
  causationEventId := cause
  reasonCode := reasonCode
  payload := .obj payload

/-- What the payloads of the drafts have in common. -/
def TransitionRequest.subject
    (request : TransitionRequest) (transition : TransitionDefinition) :
    List (String × Json) :=
  [("transition_id", .str transition.transitionId),
    ("entity_type", .str transition.entityType), ("entity_id", .str request.entityId.str),
    ("state_dimension", .str transition.stateDimension)]

/-- The two states of a transition, as most drafts name them. -/
def TransitionDefinition.states (transition : TransitionDefinition) : List (String × Json) :=
  [("from_state", .str transition.fromState), ("to_state", .str transition.toState)]

/-- What came of a transition. -/
structure Settlement where
  draft : EventDraft
  result : String
  reasonCode : Option String
  guards : List GuardResult
  further : Uuid → List EventDraft
  answer : Uuid → TransitionResult

namespace TransitionEngine

variable (engine : TransitionEngine σ τ) (request : TransitionRequest)
  (transition : TransitionDefinition)

/-- Events written one after the other. -/
def writeAll :
    List EventDraft → KernelTables σ τ → Except String (KernelTables σ τ)
  | [], tables => return tables
  | draft :: drafts, tables => do
      let (_, next) ← engine.writeEvent tables draft
      writeAll drafts next

/-- The audit row of what came of a transition. -/
def auditRow (draw : Draw) (settlement : Settlement) (eventId : Uuid) :
    StateTransitionRecord where
  transitionRecordId := draw.transitionRecordId
  transitionId := transition.transitionId
  entityType := transition.entityType
  entityId := request.entityId
  stateDimension := transition.stateDimension
  fromState := transition.fromState
  toState := transition.toState
  result := settlement.result
  reasonCode := settlement.reasonCode
  eventId := eventId
  correlationId := request.correlationId
  actorType := request.actorType
  actorId := request.actorId

/-- The event, the audit rows and the command of what came of a transition. -/
def settle (requestHash : String) (draw : Draw) (settlement : Settlement)
    (tables : KernelTables σ τ) :
    Except String (TransitionResult × KernelTables σ τ) := do
  let (eventId, written) ← engine.writeEvent tables settlement.draft
  let audited ← written.insertTransition
    (auditRow request transition draw settlement eventId)
  let guarded ← KernelTables.recordGuards request draw 0 settlement.guards
    audited
  let last ← engine.writeAll (settlement.further eventId) guarded
  last.recordProcessedCommand request requestHash draw (settlement.answer eventId)

/-- `_record_unauthorized`. -/
def unauthorized (command : Uuid) : Settlement where
  draft := request.draft "UNAUTHORIZED_TRANSITION_ATTEMPT" (some command)
    (some "CALLER_NOT_AUTHORIZED") (request.subject transition)
  result := "REJECTED"
  reasonCode := some "CALLER_NOT_AUTHORIZED"
  guards := []
  further := fun _ => []
  answer := fun eventId =>
    ⟨"REJECTED", transition.transitionId, request.entityId,
      some transition.fromState, some transition.toState, none,
      some "CALLER_NOT_AUTHORIZED", some eventId, false⟩

/-- The answer that names the stored state. -/
def refusal (current : Option StateRecord) (status reason : String) (eventId : Uuid) :
    TransitionResult :=
  ⟨status, transition.transitionId, request.entityId,
    current.map StateRecord.state, some transition.toState,
    current.map StateRecord.stateVersion, some reason, some eventId, false⟩

/-- `_record_guard_rejection`. -/
def guardRejection (command : Uuid) (current : Option StateRecord)
    (guards : List GuardResult) (status reason : String) : Settlement where
  draft := request.draft
    ((transition.rejectionEvent.filter (· ≠ "")).getD "TRANSITION_REJECTED")
    (some command) (some "GUARD_REJECTED")
    (request.subject transition ++ transition.states ++
      [("guard_result", .str status), ("guard_reason_code", .str reason)])
  result := status
  reasonCode := some "GUARD_REJECTED"
  guards := guards
  further := fun eventId =>
    ((guards.find? fun guard => guard.result.Stops).map fun guard =>
      request.draft "GUARD_FAILED" (some eventId) (some "GUARD_REJECTED")
        [("transition_id", .str transition.transitionId), ("guard_id", .str guard.guardId),
          ("guard_result", .str (resultText guard.result)),
          ("guard_reason_code", .ofOptional guard.reasonCode)]).toList
  answer := refusal request transition current status reason

/-- `_record_conflict`. -/
def conflict (command : Uuid) (current : StateRecord) (guards : List GuardResult) :
    Settlement where
  draft := request.draft
    ((transition.rejectionEvent.filter (· ≠ "")).getD "TRANSITION_REJECTED")
    (some command) (some "TRANSITION_CONFLICT")
    (request.subject transition ++ transition.states)
  result := "CONFLICT"
  reasonCode := some "TRANSITION_CONFLICT"
  guards := guards
  further := fun _ => []
  answer := refusal request transition (some current) "CONFLICT" "TRANSITION_CONFLICT"

/-- The audit of a transition that was applied. -/
def applied (command : Uuid) (updated : StateRecord) (guards : List GuardResult) :
    Settlement where
  draft := request.draft
    (transition.emittedEvents.head?.getD "TRANSITION_APPLIED") (some command)
    transition.reasonCode
    (request.subject transition ++ transition.states ++
      [("state_version", .int updated.stateVersion)])
  result := "APPLIED"
  reasonCode := transition.reasonCode
  guards := guards
  further := fun _ => []
  answer := fun eventId =>
    ⟨"APPLIED", transition.transitionId, request.entityId,
      some transition.fromState, some transition.toState,
      some updated.stateVersion, transition.reasonCode, some eventId, false⟩

/-- What the guards are told. -/
def context (current : Option StateRecord) : GuardContext where
  entityId := request.entityId
  entityType := transition.entityType
  stateDimension := transition.stateDimension
  expectedState := transition.fromState
  actualState := current.map StateRecord.state
  callerId := request.callerId
  allowedCallers := transition.allowedCallers
  entityExists := current.isSome
  metadata := request.metadata

/-- The status of a transition that its guards did not pass. -/
def rejectionStatus (overall : ResultCode) : String :=
  if overall = .block ∨ overall = .error then "BLOCKED" else "REJECTED"

/-- The first reason that a stopping guard gives. -/
def rejectionReason (guards : List GuardResult) : String :=
  let stopping := guards.filter fun guard => guard.result.Stops
  (stopping.findSome? fun guard => guard.reasonCode.filter (· ≠ "")).getD "GUARD_REJECTED"

/-- `execute` from where the caller is authorized. -/
def attempt (requestHash : String) (draw : Draw) (command : Uuid) (tables : KernelTables σ τ) :
    Except String (TransitionResult × KernelTables σ τ) := do
  require (engine.registered = true ∧ transition.entityType = "KERNEL_TEST_ENTITY" ∧
      transition.stateDimension = "CONTENT")
    "no state adapter registered"
  let current := tables.entities.find request.entityId
  let (guards, world) ← engine.guardRunner.run transition.requiredGuards
    (context request transition current) tables.world
  let guarded := { tables with world := world }
  let overall := overallResult guards
  if overall = .pass then
    let row ← orRaise current "AssertionError"
    let moved ← guarded.applyState row transition.fromState transition.toState
    match moved with
    | none =>
        engine.settle request transition requestHash draw
          (conflict request transition command row guards) guarded
    | some (updated, after) =>
        engine.settle request transition requestHash draw
          (applied request transition command updated guards) after
  else
    engine.settle request transition requestHash draw
      (guardRejection request transition command current guards
        (rejectionStatus overall) (rejectionReason guards)) guarded

/-- `TransitionEngine.execute`. -/
def execute (draw : Draw) (tables : KernelTables σ τ) :
    Except String (TransitionResult × KernelTables σ τ) := do
  let requestHash ← sha256Canonical request.semanticPayload
  let prior ← check tables.ledger request.serviceName request.idempotencyKey
    requestHash
  match prior, engine.transitions.get request.transitionId with
  | some row, _ => do
      let result ← TransitionResult.ofPayload row.resultPayload
      return (result, tables)
  | none, none =>
      tables.recordProcessedCommand request requestHash draw
        ⟨"REJECTED", request.transitionId, request.entityId, none, none, none,
          some "TRANSITION_NOT_ALLOWED", none, false⟩
  | none, some transition => do
      let (command, accepted) ← engine.writeEvent tables
        (request.draft "COMMAND_ACCEPTED" request.causationEventId transition.reasonCode
          [("command_type", .str request.commandType),
            ("transition_id", .str transition.transitionId),
            ("entity_type", .str transition.entityType),
            ("entity_id", .str request.entityId.str),
            ("state_dimension", .str transition.stateDimension)])
      if request.callerId ∈ transition.allowedCallers then
        engine.attempt request transition requestHash draw command accepted
      else
        engine.settle request transition requestHash draw
          (unauthorized request transition command) accepted

end TransitionEngine

end Engine

end SanTanHeights.Kernel.Transitions
