import SanTanHeights.Foundation.Outcome
import SanTanHeights.Foundation.Tables
import SanTanHeights.Foundation.Uuid
import SanTanHeights.Shared.Vocabulary

/-!
# Incidents

`IncidentLifecycle` and the statements of `IncidentRepository` that it runs.
A call that raises an exception of its own leaves the tables as they are by
then, which is a result here, while a statement that the database refuses ends
the transaction, which is an error.
-/

namespace SanTanHeights.Operations

open Foundation Foundation.Outcome Shared

/-- `incidents.incident_state`, closed by the check constraint. -/
inductive IncidentState where
  | opened
  | contained
  | recovering
  | resolved
  | closed
  deriving DecidableEq, Repr

/-- The fields of `Incident` that recovery reads. -/
structure Incident where
  incidentId : Uuid
  incidentState : IncidentState
  correlationId : Option Uuid
  deriving DecidableEq

/-- A row of `operations.incidents`. -/
structure IncidentRow where
  incidentId : Uuid
  incidentState : IncidentState
  correlationId : Option Uuid
  containedAt : Option Time
  resolvedAt : Option Time
  closedAt : Option Time
  deriving DecidableEq

/-- A row of `operations.incident_history`. -/
structure IncidentHistory where
  incidentId : Uuid
  fromState : Option IncidentState
  toState : IncidentState
  reasonCode : String
  actor : String
  correlationId : Option Uuid
  deriving DecidableEq

/-- The incidents, their history, and the registered reason codes. -/
structure IncidentTables where
  incidents : Table IncidentRow.incidentId
  history : List IncidentHistory
  reasonCodes : List String

/-- `TRANSITIONS`. -/
def transitions : IncidentState → List IncidentState
  | .opened => [.contained, .recovering, .resolved]
  | .contained => [.recovering, .resolved]
  | .recovering => [.contained, .resolved]
  | .resolved => [.closed, .opened]
  | .closed => []

/-- The assignments of `UPDATE_STATE`. -/
def IncidentRow.enter (row : IncidentRow) (toState : IncidentState) (now : Time) :
    IncidentRow :=
  { row with
    incidentState := toState
    containedAt :=
      if toState = .contained then some (row.containedAt.getD now)
      else row.containedAt
    resolvedAt :=
      if toState = .resolved then some (row.resolvedAt.getD now)
      else row.resolvedAt
    closedAt :=
      if toState = .closed then some (row.closedAt.getD now)
      else row.closedAt }

/-- The object that stands for a row. -/
def IncidentRow.incident (row : IncidentRow) : Incident where
  incidentId := row.incidentId
  incidentState := row.incidentState
  correlationId := row.correlationId

namespace IncidentTables

/-- `IncidentRepository.update_state`. -/
def updateState (tables : IncidentTables) (incident : Incident)
    (toState : IncidentState) (reasonCode actor : String) (now : Time) :
    Except String (Except String Unit × IncidentTables) :=
  let guard := fun row : IncidentRow =>
    row.incidentId = incident.incidentId ∧ row.incidentState = incident.incidentState
  if ∃ row ∈ tables.incidents.rows, guard row then do
    require (reasonCode ∈ tables.reasonCodes) "violates foreign key constraint"
    return (.ok (), { tables with
      incidents := tables.incidents.update guard (fun row => row.enter toState now) fun _ => rfl
      history := tables.history ++
        [⟨incident.incidentId, some incident.incidentState, toState,
          reasonCode, actor, incident.correlationId⟩] })
  else return (.error "RuntimeError", tables)

/-- `IncidentLifecycle.transition`. -/
def transition (tables : IncidentTables) (incident : Incident)
    (toState : IncidentState) (reasonCode actor : String) (now : Time) :
    Except String (Except String Unit × IncidentTables) :=
  if toState ∈ transitions incident.incidentState then
    tables.updateState incident toState reasonCode actor now
  else return (.error "ValueError", tables)

end IncidentTables

end SanTanHeights.Operations
