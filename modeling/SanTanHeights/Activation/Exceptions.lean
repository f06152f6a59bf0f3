import SanTanHeights.Shared.Dumps

/-!
# Exception ledgers

The ledger of exceptions is audited as a whole, and each ledger accounts for
the exceptions of the one before it: an exception that is gone must have been
superseded.
-/

namespace SanTanHeights.Activation

open Foundation Foundation.Json Foundation.Sorting Foundation.Outcome Shared

/-! ## Records -/

/-- The text fields of an exception record, and its waiver flag. -/
structure ExceptionRecord where
  fields : List (String × String)
  waiverRequested : Bool
  deriving DecidableEq, Repr

namespace ExceptionRecord

/-- `record.get(key)`. -/
def get (record : ExceptionRecord) (key : String) : Option String :=
  record.fields.lookup key

/-- `record[key]`, where the field is there. -/
def text (record : ExceptionRecord) (key : String) : String :=
  (record.get key).getD ""

def exceptionId (record : ExceptionRecord) : String :=
  record.text "exception_id"

def canonicalPropertyId (record : ExceptionRecord) : String :=
  record.text "canonical_property_id"

def scopeType (record : ExceptionRecord) : String :=
  record.text "scope_type"

def scopeKey (record : ExceptionRecord) : String :=
  record.text "scope_key"

def exceptionClass (record : ExceptionRecord) : String :=
  record.text "exception_class"

def severity (record : ExceptionRecord) : String :=
  record.text "severity"

def repairState (record : ExceptionRecord) : String :=
  record.text "repair_state"

def owningLayer (record : ExceptionRecord) : String :=
  record.text "owning_layer"

def supersedesExceptionId (record : ExceptionRecord) : Option String :=
  record.get "supersedes_exception_id"

end ExceptionRecord

/-! ## Policies -/

structure ClassPolicy where
  owningLayer : String
  isDefect : Bool
  quarantineRequired : Bool
  publicationAllowed : Bool
  deriving DecidableEq, Repr

structure KnownGovernedException where
  canonicalPropertyId : String
  scopeKey : String
  exceptionClass : String
  deriving DecidableEq, Repr

/-- What is read of an exception policy. -/
structure ExceptionPolicy where
  exceptionClasses : List (String × ClassPolicy)
  nonDefectConditionClasses : List String
  knownGovernedException : KnownGovernedException

/-- `m9-008-exception-quarantine-v1.0.yaml`. -/
def exceptionPolicy : ExceptionPolicy where
  exceptionClasses :=
    [("IDENTITY_OR_PHASE_CONFLICT", ⟨"M9-003", true, true, false⟩),
      ("SPATIAL_EVIDENCE_GAP", ⟨"M9-003", true, true, false⟩),
      ("HISTORICAL_LINKAGE_GAP", ⟨"M9-004", true, true, false⟩),
      ("CURRENT_CONTEXT_UNAVAILABLE", ⟨"M9-005", false, false, false⟩),
      ("CURRENT_CONTEXT_STALE", ⟨"M9-005", false, false, false⟩),
      ("EVIDENCE_PASSPORT_INVALID", ⟨"M9-006", true, true, false⟩),
      ("REPORT_MATERIALIZATION_INVALID", ⟨"M9-007", true, true, false⟩),
      ("KNOWN_PARTIAL_FRONTAGE", ⟨"M9-003", true, true, false⟩)]
  nonDefectConditionClasses := ["CURRENT_CONTEXT_UNAVAILABLE", "CURRENT_CONTEXT_STALE"]
  knownGovernedException :=
    { canonicalPropertyId := "STH-516018120"
      scopeKey := "frontage"
      exceptionClass := "KNOWN_PARTIAL_FRONTAGE" }

/-- `ALLOWED_REPAIR_STATES`. -/
def allowedRepairStates : List String :=
  ["OPEN", "QUARANTINED", "REPAIR_PENDING", "REPAIRED_PENDING_REPLAY", "REPLAY_VALIDATED", "CLOSED"]

/-- `ALLOWED_SEVERITIES`. -/
def allowedSeverities : List String :=
  ["INFO", "WARNING", "MATERIAL", "CRITICAL"]

/-- `ALLOWED_SCOPE_TYPES`. -/
def allowedScopeTypes : List String :=
  ["PROPERTY", "FIELD", "ARTIFACT", "FINDING", "REPORT"]

/-- The fields that a record must have, in the order of their names. -/
def requiredFields : List String :=
  ["canonical_property_id", "exception_class", "exception_id",
    "owning_layer", "reason_code", "repair_state", "scope_key", "scope_type", "severity"]

/-! ## Decisions -/

structure ExceptionDecision where
  exceptionId : String
  exceptionClass : String
  owningLayer : String
  severity : String
  repairState : String
  isDefect : Bool
  quarantineRequired : Bool
  publicationAllowed : Bool
  substitutionAllowed : Bool
  fingerprint : String
  deriving DecidableEq, Repr

/-- The decision on a record, before it has a fingerprint. -/
def draftDecision (record : ExceptionRecord) (policy : ExceptionPolicy)
    (classPolicy : ClassPolicy) : ExceptionDecision where
  exceptionId := record.exceptionId
  exceptionClass := record.exceptionClass
  owningLayer := record.owningLayer
  severity := record.severity
  repairState := record.repairState
  isDefect :=
    if record.exceptionClass ∈ policy.nonDefectConditionClasses then false
    else classPolicy.isDefect
  quarantineRequired := classPolicy.quarantineRequired
  publicationAllowed :=
    -- A waiver asks for what a class does not allow, and is not given it.
    let asked :=
      if record.waiverRequested && !classPolicy.publicationAllowed then false
      else classPolicy.publicationAllowed
    if record.repairState ∈
        ["QUARANTINED", "REPAIR_PENDING", "REPAIRED_PENDING_REPLAY"] then
      false
    else asked
  substitutionAllowed := false
  fingerprint := ""

/-- What the fingerprint of a decision covers. -/
def decisionPayload (record : ExceptionRecord) (decision : ExceptionDecision) : Json :=
  .obj [("exception_id", .str record.exceptionId),
      ("canonical_property_id", .str record.canonicalPropertyId),
      ("scope_type", .str record.scopeType), ("scope_key", .str record.scopeKey),
      ("exception_class", .str record.exceptionClass),
      ("reason_code", .str (record.text "reason_code")), ("severity", .str record.severity),
      ("repair_state", .str record.repairState), ("owning_layer", .str record.owningLayer),
      ("source_fingerprint", .ofOptional (record.get "source_fingerprint")),
      ("supersedes_exception_id", .ofOptional record.supersedesExceptionId),
      ("is_defect", .bool decision.isDefect),
      ("quarantine_required", .bool decision.quarantineRequired),
      ("publication_allowed", .bool decision.publicationAllowed),
      ("substitution_allowed", .bool decision.substitutionAllowed)]

/-- `evaluate_exception`. -/
def evaluateException (record : ExceptionRecord) (policy : ExceptionPolicy) :
    Except String ExceptionDecision := do
  let missing := requiredFields.filter fun key => record.get key = none
  require (missing = []) ("exception record missing required fields: " ++
      String.intercalate ", " missing)
  require (record.scopeType ∈ allowedScopeTypes)
    "unsupported exception scope type"
  require (record.severity ∈ allowedSeverities) "unsupported exception severity"
  require (record.repairState ∈ allowedRepairStates) "unsupported repair state"
  let classPolicy ← orRaise
    (policy.exceptionClasses.lookup record.exceptionClass)
    ("unknown exception class " ++ record.exceptionClass)
  require (record.owningLayer = classPolicy.owningLayer)
    "exception owning layer mismatch"
  let decision := draftDecision record policy classPolicy
  let fingerprint ← sha256Dumps (decisionPayload record decision)
  return { decision with fingerprint := fingerprint }

/-! ## Audits -/

structure ExceptionLedgerAudit where
  records : Nat
  defects : Nat
  quarantined : Nat
  nonDefectConditions : Nat
  publicationAllowed : Nat
  substitutionAllowed : Nat
  knownPartialPresent : Bool
  aggregateFingerprint : String
  deriving DecidableEq, Repr

/-- What an audit has seen. -/
structure AuditState where
  seenIds : List (Option String)
  decisions : List ExceptionDecision
  knownPartialPresent : Bool

/-- The record of the exception that the policy knows. -/
def ExceptionRecord.isKnown
    (record : ExceptionRecord) (known : KnownGovernedException) : Prop :=
  record.canonicalPropertyId = known.canonicalPropertyId ∧
    record.scopeKey = known.scopeKey ∧ record.exceptionClass = known.exceptionClass

instance (record : ExceptionRecord) (known : KnownGovernedException) :
    Decidable (record.isKnown known) :=
  inferInstanceAs (Decidable (_ ∧ _ ∧ _))

/-- One record of an audit. -/
def auditRecord (policy : ExceptionPolicy) (state : AuditState)
    (record : ExceptionRecord) : Except String AuditState := do
  require (record.get "exception_id" ∉ state.seenIds) "duplicate exception_id"
  let decision ← evaluateException record policy
  require (record.isKnown policy.knownGovernedException → record.repairState = "CLOSED" →
      (record.get "repair_evidence_fingerprint").any (fun evidence => evidence ≠ "") = true)
    "known governed exception cannot close without repair evidence"
  return {
    seenIds := state.seenIds ++ [record.get "exception_id"]
    decisions := state.decisions ++ [decision]
    knownPartialPresent := state.knownPartialPresent ||
      decide (record.isKnown policy.knownGovernedException) }

/-- `audit_exception_ledger`. -/
def auditExceptionLedger (records : List ExceptionRecord) (policy : ExceptionPolicy) :
    Except String ExceptionLedgerAudit := do
  let state ← records.foldlM (auditRecord policy) ⟨[], [], false⟩
  require (state.knownPartialPresent = true)
    "known governed frontage exception missing from ledger"
  let decisions := state.decisions
  return {
    records := decisions.length
    defects := decisions.countP fun decision => decision.isDefect
    quarantined := decisions.countP fun decision =>
      decision.quarantineRequired
    nonDefectConditions := decisions.countP fun decision =>
      !decision.isDefect
    publicationAllowed := decisions.countP fun decision =>
      decision.publicationAllowed
    substitutionAllowed := decisions.countP fun decision =>
      decision.substitutionAllowed
    knownPartialPresent := state.knownPartialPresent
    aggregateFingerprint := Sha256.hexdigest (String.intercalate "\n"
      (sortedBy id (decisions.map ExceptionDecision.fingerprint)) ++ "\n") }

/-! ## Accounting -/

/-- The values of the dictionary of some records by their ids, where the last
record of an id stays. -/
def byId : List ExceptionRecord → List ExceptionRecord
  | [] => []
  | record :: records =>
      if ∃ later ∈ records, later.exceptionId = record.exceptionId then
        byId records
      else record :: byId records

/-- `validate_exception_accounting`. -/
def validateExceptionAccounting (previousRecords currentRecords : List ExceptionRecord) :
    Except String Unit := do
  let previous := byId previousRecords
  let current := byId currentRecords
  let missing := sortedBy id ((previous.map
    ExceptionRecord.exceptionId).filter fun exceptionId =>
      exceptionId ∉ current.map ExceptionRecord.exceptionId)
  let _ ← missing.mapM fun exceptionId =>
    require (∃ record ∈ current, record.supersedesExceptionId = some exceptionId)
      ("exception silently disappeared: " ++ exceptionId)
  return ()

end SanTanHeights.Activation
