import SanTanHeights.Community.History
import SanTanHeights.Shared.PyValue

/-!
# Evidence for a scenario

A query of the history of a community for one scenario.  Every entry of the
ledger becomes a record that is included or excluded, with the reasons.
-/

namespace SanTanHeights.Scenario

open Foundation Foundation.Json Foundation.Sorting Foundation.Outcome Shared
open Community (FromIsoformat parseTs texts)
open Community.History (TemporalLedger TemporalLedgerEntry hash sortedSet
  validateFp validateLedgerReplay)

/-! ## The context -/

structure PatternApplicability where
  patternId : String
  patternFingerprint : String
  patternDomain : String
  patternStatement : String
  state : String
  reasonCodes : List String
  matchedFactKeys : List String
  matchedAssumptionKeys : List String
  sourceLedgerFingerprint : String
  limitations : List String
  applicabilityFingerprint : String
  deriving DecidableEq, Repr

@[ext] structure CertifiedScenarioBaseline (F : Type) where
  scenarioId : String
  scenarioContractFingerprint : String
  communityId : String
  subjectId : String
  baselineSnapshotId : String
  baselineFingerprint : String
  facts : List (String × PyValue F)
  factSourceFingerprints : List String
  assumptions : List (String × PyValue F)
  patternApplicability : List PatternApplicability
  unknowns : List String
  limitations : List String
  contextFingerprint : String

variable {F : Type}

/-- `asdict(applicability)`. -/
def PatternApplicability.asdict (applicability : PatternApplicability) : PyValue F :=
  .dict [("pattern_id", .str applicability.patternId),
      ("pattern_fingerprint", .str applicability.patternFingerprint),
      ("pattern_domain", .str applicability.patternDomain),
      ("pattern_statement", .str applicability.patternStatement),
      ("state", .str applicability.state),
      ("reason_codes", .texts applicability.reasonCodes),
      ("matched_fact_keys", .texts applicability.matchedFactKeys),
      ("matched_assumption_keys", .texts applicability.matchedAssumptionKeys),
      ("source_ledger_fingerprint", .str applicability.sourceLedgerFingerprint),
      ("limitations", .texts applicability.limitations),
      ("applicability_fingerprint", .str applicability.applicabilityFingerprint)]

/-- What the fingerprint of a context covers. -/
def CertifiedScenarioBaseline.payload (context : CertifiedScenarioBaseline F) : PyValue F :=
  .dict [("scenario_id", .str context.scenarioId),
      ("scenario_contract_fingerprint", .str context.scenarioContractFingerprint),
      ("community_id", .str context.communityId), ("subject_id", .str context.subjectId),
      ("baseline_snapshot_id", .str context.baselineSnapshotId),
      ("baseline_fingerprint", .str context.baselineFingerprint),
      ("facts", .pairs context.facts),
      ("fact_source_fingerprints", .texts context.factSourceFingerprints),
      ("assumptions", .pairs context.assumptions), ("pattern_applicability", .tuple
        (context.patternApplicability.map PatternApplicability.asdict)),
      ("unknowns", .texts context.unknowns), ("limitations", .texts context.limitations)]

/-! ## Queries -/

/-- What is read of a scenario-evidence registry. -/
structure EvidenceRegistry where
  allowedScopes : List String
  allowedTruthStates : List String
  requireExplicitFactKeys : Bool
  requireSourceLineage : Bool

/-- `m13-006c-scenario-evidence-v1.0.yaml`. -/
def evidenceRegistry : EvidenceRegistry where
  allowedScopes := ["PROPERTY", "COMMUNITY", "INTELLIGENCE", "MANIFEST"]
  allowedTruthStates := ["ASSERTED", "CERTIFIED", "CORRECTED", "UNKNOWN"]
  requireExplicitFactKeys := true
  requireSourceLineage := true

/-- `tuple(sorted(set(x.strip() for x in values if x.strip())))`. -/
def strippedSet (values : List String) : List String :=
  sortedSet ((values.filter fun value => !Text.isBlank value).map Text.strip)

structure ScenarioEvidenceQuery where
  queryId : String
  scenarioContextFingerprint : String
  communityId : String
  subjectId : String
  scopes : List String
  factKeys : List String
  validFrom : String
  validTo : String
  knowledgeCutoff : String
  includeSubjectHistory : Bool
  includeCommunityHistory : Bool
  queryFingerprint : String
  deriving DecidableEq, Repr

/-- What the fingerprint of a query covers. -/
def ScenarioEvidenceQuery.payload (query : ScenarioEvidenceQuery) : Json :=
  .obj [("query_id", .str query.queryId), ("scenario_context_fingerprint",
        .str query.scenarioContextFingerprint),
      ("community_id", .str query.communityId), ("subject_id", .str query.subjectId),
      ("scopes", texts query.scopes), ("fact_keys", texts query.factKeys),
      ("valid_from", .str query.validFrom), ("valid_to", .str query.validTo),
      ("knowledge_cutoff", .str query.knowledgeCutoff),
      ("include_subject_history", .bool query.includeSubjectHistory),
      ("include_community_history", .bool query.includeCommunityHistory)]

/-- The arguments of `build_scenario_evidence_query`. -/
structure QueryCall (F : Type) where
  queryId : String
  context : CertifiedScenarioBaseline F
  scopes : List String
  factKeys : List String
  validFrom : String
  validTo : String
  knowledgeCutoff : String
  includeSubjectHistory : Bool
  includeCommunityHistory : Bool

/-- The query that is built, up to its fingerprint. -/
def QueryCall.draftQuery (call : QueryCall F) : ScenarioEvidenceQuery where
  queryId := call.queryId
  scenarioContextFingerprint := call.context.contextFingerprint
  communityId := call.context.communityId
  subjectId := call.context.subjectId
  scopes := strippedSet call.scopes
  factKeys := strippedSet call.factKeys
  validFrom := call.validFrom
  validTo := call.validTo
  knowledgeCutoff := call.knowledgeCutoff
  includeSubjectHistory := call.includeSubjectHistory
  includeCommunityHistory := call.includeCommunityHistory
  queryFingerprint := ""

/-- `build_scenario_evidence_query`. -/
def buildScenarioEvidenceQuery (fromisoformat : FromIsoformat) (registry : EvidenceRegistry)
    (call : QueryCall F) : Except String ScenarioEvidenceQuery := do
  require (Text.isBlank call.queryId = false) "query_id required"
  validateFp call.context.contextFingerprint "scenario context fingerprint"
  let query := call.draftQuery
  require (query.scopes ≠ [] ∧ ∀ scope ∈ query.scopes, scope ∈ registry.allowedScopes)
    "query scopes must be explicit and governed"
  require (¬ (registry.requireExplicitFactKeys = true ∧
    query.factKeys = [])) "explicit fact keys required"
  let start ← parseTs fromisoformat call.validFrom "valid_from"
  let until_ ← parseTs fromisoformat call.validTo "valid_to"
  let cutoff ← parseTs fromisoformat call.knowledgeCutoff "knowledge_cutoff"
  require (start ≤ until_) "valid_to cannot precede valid_from"
  require (start ≤ cutoff) "knowledge_cutoff cannot precede valid_from"
  let fingerprint ← hash query.payload
  return { query with queryFingerprint := fingerprint }

/-! ## Decisions -/

inductive EvidenceState where
  | included
  | excluded
  deriving DecidableEq, Repr

def EvidenceState.code : EvidenceState → String
  | included => "INCLUDED"
  | excluded => "EXCLUDED"

/-- The times that a decision compares. -/
structure DecisionTimes where
  start : Int
  until_ : Int
  cutoff : Int
  valid : Int
  known : Int

/-- A reason, where it is given. -/
def reasonIf (condition : Bool) (reason : String) : List String :=
  if condition then [reason] else []

/-- Why an entry is excluded. -/
def exclusionReasons (registry : EvidenceRegistry) (query : ScenarioEvidenceQuery)
    (entry : TemporalLedgerEntry) (times : DecisionTimes) : List String :=
  reasonIf (entry.communityId ≠ query.communityId) "COMMUNITY_MISMATCH" ++
    reasonIf (entry.scope ∉ query.scopes) "SCOPE_NOT_REQUESTED" ++
    reasonIf (entry.factKey ∉ query.factKeys) "FACT_KEY_NOT_REQUESTED" ++
    reasonIf (times.valid < times.start || times.until_ < times.valid)
      "OUTSIDE_VALID_TIME_WINDOW" ++
    reasonIf (times.cutoff < times.known) "KNOWN_AFTER_CUTOFF" ++
    (if entry.scope = "PROPERTY" then
      if query.includeSubjectHistory = false then
        ["SUBJECT_HISTORY_DISABLED"]
      else reasonIf (entry.scopeId ≠ query.subjectId) "SUBJECT_MISMATCH"
    else []) ++
    reasonIf (entry.scope = "COMMUNITY" && !query.includeCommunityHistory)
      "COMMUNITY_HISTORY_DISABLED" ++
    reasonIf (entry.truthState ∉ registry.allowedTruthStates) "TRUTH_STATE_NOT_ALLOWED" ++
    reasonIf (registry.requireSourceLineage &&
      entry.sourceFingerprints.isEmpty) "SOURCE_LINEAGE_MISSING"

/-- The times of a query and an entry. -/
def decisionTimes (fromisoformat : FromIsoformat) (query : ScenarioEvidenceQuery)
    (entry : TemporalLedgerEntry) : Except String DecisionTimes := do
  let start ← parseTs fromisoformat query.validFrom "query valid_from"
  let until_ ← parseTs fromisoformat query.validTo "query valid_to"
  let cutoff ← parseTs fromisoformat query.knowledgeCutoff "query knowledge cutoff"
  let valid ← parseTs fromisoformat entry.validFrom "entry valid_from"
  let known ← parseTs fromisoformat entry.knownAt "entry known_at"
  return ⟨start, until_, cutoff, valid, known⟩

/-- `_entry_decision`. -/
def entryDecision (fromisoformat : FromIsoformat) (registry : EvidenceRegistry)
    (query : ScenarioEvidenceQuery) (entry : TemporalLedgerEntry) :
    Except String (EvidenceState × List String) := do
  let times ← decisionTimes fromisoformat query entry
  let reasons := exclusionReasons registry query entry times
  return if reasons = [] then (.included, ["GOVERNED_QUERY_MATCH"])
    else (.excluded, sortedSet reasons)

/-! ## Records -/

structure ScenarioEvidenceRecord where
  entryId : String
  entryFingerprint : String
  state : EvidenceState
  reasonCodes : List String
  scope : String
  scopeId : String
  factKey : String
  factValue : Json
  validFrom : String
  validTo : Option String
  knownAt : String
  truthState : String
  sourceFingerprints : List String
  evidenceFingerprints : List String
  previousEntryFingerprint : Option String
  limitations : List String
  recordFingerprint : String
  deriving Repr

namespace ScenarioEvidenceRecord

/-- What the fingerprint of a record covers. -/
def payload (record : ScenarioEvidenceRecord) : List (String × Json) :=
  [("entry_id", .str record.entryId), ("entry_fingerprint", .str record.entryFingerprint),
    ("state", .str record.state.code), ("reason_codes", texts record.reasonCodes),
    ("scope", .str record.scope), ("scope_id", .str record.scopeId),
    ("fact_key", .str record.factKey), ("fact_value", record.factValue),
    ("valid_from", .str record.validFrom), ("valid_to", .ofOptional record.validTo),
    ("known_at", .str record.knownAt), ("truth_state", .str record.truthState),
    ("source_fingerprints", texts record.sourceFingerprints),
    ("evidence_fingerprints", texts record.evidenceFingerprints),
    ("previous_entry_fingerprint", .ofOptional record.previousEntryFingerprint),
    ("limitations", texts record.limitations)]

/-- `asdict(record)`. -/
def asdict (record : ScenarioEvidenceRecord) : Json :=
  .obj (record.payload ++ [("record_fingerprint", .str record.recordFingerprint)])

/-- The order in which records are listed. -/
def sortKey (record : ScenarioEvidenceRecord) : String ×ₗ String ×ₗ String ×ₗ String :=
  toLex (record.validFrom, toLex (record.knownAt, toLex (record.entryId, record.entryFingerprint)))

end ScenarioEvidenceRecord

/-- The record of a decision on an entry, up to its fingerprint. -/
def draftRecord (entry : TemporalLedgerEntry) (decision : EvidenceState × List String) :
    ScenarioEvidenceRecord where
  entryId := entry.entryId
  entryFingerprint := entry.entryFingerprint
  state := decision.1
  reasonCodes := decision.2
  scope := entry.scope
  scopeId := entry.scopeId
  factKey := entry.factKey
  factValue := entry.factValue
  validFrom := entry.validFrom
  validTo := entry.validTo
  knownAt := entry.knownAt
  truthState := entry.truthState
  sourceFingerprints := entry.sourceFingerprints
  evidenceFingerprints := entry.evidenceFingerprints
  previousEntryFingerprint := entry.previousEntryFingerprint
  limitations := entry.limitations
  recordFingerprint := ""

/-- `_make_record`. -/
def makeRecord (entry : TemporalLedgerEntry) (decision : EvidenceState × List String) :
    Except String ScenarioEvidenceRecord := do
  let record := draftRecord entry decision
  let fingerprint ← hash (.obj record.payload)
  return { record with recordFingerprint := fingerprint }

/-- The record of an entry. -/
def recordEntry (fromisoformat : FromIsoformat) (registry : EvidenceRegistry)
    (query : ScenarioEvidenceQuery) (entry : TemporalLedgerEntry) :
    Except String ScenarioEvidenceRecord := do
  let decision ← entryDecision fromisoformat registry query entry
  makeRecord entry decision

/-! ## Evidence sets -/

@[ext] structure ScenarioEvidenceSet where
  evidenceSetId : String
  scenarioId : String
  scenarioContextFingerprint : String
  temporalLedgerFingerprint : String
  queryFingerprint : String
  included : List ScenarioEvidenceRecord
  excluded : List ScenarioEvidenceRecord
  sourceFingerprints : List String
  evidenceFingerprints : List String
  unknowns : List String
  limitations : List String
  evidenceSetFingerprint : String
  deriving Repr

/-- What the fingerprint of an evidence set covers. -/
def ScenarioEvidenceSet.payload (evidenceSet : ScenarioEvidenceSet) : Json :=
  .obj [("evidence_set_id", .str evidenceSet.evidenceSetId),
      ("scenario_id", .str evidenceSet.scenarioId),
      ("scenario_context_fingerprint", .str evidenceSet.scenarioContextFingerprint),
      ("temporal_ledger_fingerprint", .str evidenceSet.temporalLedgerFingerprint),
      ("query_fingerprint", .str evidenceSet.queryFingerprint),
      ("included", .arr (evidenceSet.included.map ScenarioEvidenceRecord.asdict)),
      ("excluded", .arr (evidenceSet.excluded.map ScenarioEvidenceRecord.asdict)),
      ("source_fingerprints", texts evidenceSet.sourceFingerprints),
      ("evidence_fingerprints", texts evidenceSet.evidenceFingerprints),
      ("unknowns", texts evidenceSet.unknowns),
      ("limitations", texts evidenceSet.limitations)]

/-- The arguments of `retrieve_scenario_evidence`. -/
structure EvidenceCall (F : Type) where
  evidenceSetId : String
  context : CertifiedScenarioBaseline F
  ledger : TemporalLedger
  query : ScenarioEvidenceQuery
  additionalUnknowns : List String
  additionalLimitations : List String

namespace EvidenceCall

/-- The records of a state, in order. -/
def rows (state : EvidenceState) (records : List ScenarioEvidenceRecord) :
    List ScenarioEvidenceRecord :=
  sortedBy ScenarioEvidenceRecord.sortKey (records.filter fun record => record.state = state)

/-- The evidence set of some records, up to its fingerprint. -/
def draftSet (call : EvidenceCall F) (records : List ScenarioEvidenceRecord) :
    ScenarioEvidenceSet :=
  let included := rows .included records
  { evidenceSetId := call.evidenceSetId
    scenarioId := call.context.scenarioId
    scenarioContextFingerprint := call.context.contextFingerprint
    temporalLedgerFingerprint := call.ledger.ledgerFingerprint
    queryFingerprint := call.query.queryFingerprint
    included := included
    excluded := rows .excluded records
    sourceFingerprints := sortedSet (included.flatMap ScenarioEvidenceRecord.sourceFingerprints)
    evidenceFingerprints := sortedSet (included.flatMap ScenarioEvidenceRecord.evidenceFingerprints)
    unknowns := sortedSet (strippedSet call.additionalUnknowns ++
      if included = [] then
        ["NO_HISTORICAL_EVIDENCE_MATCHED_GOVERNED_QUERY"] else [])
    limitations := sortedSet (strippedSet call.additionalLimitations ++
      ((included.flatMap ScenarioEvidenceRecord.limitations).filter
        fun limitation => limitation ≠ "") ++
      ["Historical evidence is descriptive and does not predict future " ++ "outcomes."])
    evidenceSetFingerprint := "" }

end EvidenceCall

/-- `retrieve_scenario_evidence`. -/
def retrieveScenarioEvidence (fromisoformat : FromIsoformat) (registry : EvidenceRegistry)
    (call : EvidenceCall F) : Except String ScenarioEvidenceSet := do
  require (Text.isBlank call.evidenceSetId = false) "evidence_set_id required"
  let replays ← validateLedgerReplay call.ledger
  require (replays = true) "reproducible temporal ledger required"
  require (call.ledger.communityId = call.context.communityId ∧
    call.query.communityId = call.context.communityId)
    "community lineage mismatch"
  require (call.query.scenarioContextFingerprint =
    call.context.contextFingerprint) "scenario context fingerprint mismatch"
  validateFp call.context.contextFingerprint "scenario context fingerprint"
  validateFp call.ledger.ledgerFingerprint "temporal ledger fingerprint"
  let records ← call.ledger.entries.mapM
    (recordEntry fromisoformat registry call.query)
  let evidenceSet := call.draftSet records
  let fingerprint ← hash evidenceSet.payload
  return { evidenceSet with evidenceSetFingerprint := fingerprint }

end SanTanHeights.Scenario
