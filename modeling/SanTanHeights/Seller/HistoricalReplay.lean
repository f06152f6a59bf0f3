import SanTanHeights.Seller.UnifiedState

/-!
# Historical replays

A replay case holds the output that history expects and the one that was
observed.  It is evaluated by its declared input condition first, and by its
outputs only where the condition leaves them to decide.
-/

namespace SanTanHeights.Seller

open Foundation Foundation.Json Foundation.Sorting Foundation.Outcome
open Community (texts)

/-! ## Cases -/

structure HistoricalReplayCase where
  caseId : String
  regime : String
  inputCondition : String
  historicalInputFingerprint : String
  expectedOutputFingerprint : Option String
  observedOutputFingerprint : Option String
  detectorEventIds : List String
  correctionParentCaseId : Option String
  caseFingerprint : String
  deriving DecidableEq, Repr

/-! ## Results -/

inductive ReplayOutcome where
  | matched
  | drift
  | degraded
  | blocked
  deriving DecidableEq, Repr

def ReplayOutcome.code : ReplayOutcome → String
  | matched => "MATCH"
  | drift => "DRIFT"
  | degraded => "DEGRADED"
  | blocked => "BLOCKED"

structure HistoricalReplayResult where
  caseId : String
  outcome : ReplayOutcome
  falsePositive : Bool
  miss : Bool
  duplicatedEventCount : Nat
  churnCount : Nat
  persistencePreserved : Bool
  materialityStable : Bool
  conflictExplicit : Bool
  expirationExplicit : Bool
  reproducible : Bool
  reason : String
  resultFingerprint : String
  deriving DecidableEq, Repr

namespace HistoricalReplayResult

/-- What the fingerprint of a result covers. -/
def payload (result : HistoricalReplayResult) : List (String × Json) :=
  [("case_id", .str result.caseId), ("outcome", .str result.outcome.code),
    ("false_positive", .bool result.falsePositive), ("miss", .bool result.miss),
    ("duplicated_event_count", .int result.duplicatedEventCount),
    ("churn_count", .int result.churnCount),
    ("persistence_preserved", .bool result.persistencePreserved),
    ("materiality_stable", .bool result.materialityStable),
    ("conflict_explicit", .bool result.conflictExplicit),
    ("expiration_explicit", .bool result.expirationExplicit),
    ("reproducible", .bool result.reproducible), ("reason", .str result.reason)]

/-- `asdict`. -/
def asdict (result : HistoricalReplayResult) : Json :=
  .obj (result.payload ++ [("result_fingerprint", .str result.resultFingerprint)])

end HistoricalReplayResult

namespace HistoricalReplayCase

/-- The events of a case beyond the first of each identifier. -/
def duplicates (given : HistoricalReplayCase) : Nat :=
  given.detectorEventIds.length - given.detectorEventIds.dedup.length

/-- The outcome of a case and its reason. -/
def assess (given : HistoricalReplayCase) : ReplayOutcome × String :=
  if given.inputCondition = "MISSING" then
    (.degraded, "Missing input remains explicit and replay is degraded.")
  else if given.inputCondition = "CONFLICTED" then
    (.blocked, "Conflicted input is explicit and blocks affected replay.")
  else if given.inputCondition ∈ ["DELAYED", "STALE"] then
    (.degraded, "Delayed or stale input remains explicit.")
  else if given.inputCondition = "DUPLICATE" then
    (if given.duplicates ≠ 0 then .degraded else .matched,
      "Duplicate events are measured and must not multiply governed output.")
  else if given.expectedOutputFingerprint = given.observedOutputFingerprint then
    (.matched, "Replay reproduced the expected historical output.")
  else
    (.drift, "Replay output differs from the certified historical expectation.")

/-- The result of a case, up to its fingerprint. -/
def draftResult (given : HistoricalReplayCase) : HistoricalReplayResult where
  caseId := given.caseId
  outcome := given.assess.1
  falsePositive := false
  miss := given.inputCondition = "MISSING" ∧ given.observedOutputFingerprint = none
  duplicatedEventCount := given.duplicates
  churnCount :=
    if given.inputCondition = "DUPLICATE" then given.duplicates else 0
  persistencePreserved := ¬(given.inputCondition = "DUPLICATE" ∧ 0 < given.duplicates)
  materialityStable := given.assess.1 ≠ .drift
  conflictExplicit := true
  expirationExplicit := true
  reproducible := given.expectedOutputFingerprint ≠ none ∧
    given.expectedOutputFingerprint = given.observedOutputFingerprint
  reason := given.assess.2
  resultFingerprint := ""

end HistoricalReplayCase

/-- `allowed`. -/
def inputConditions : List String :=
  ["NORMAL", "INCENTIVE_CHANGE", "PRICE_REDUCTION", "DUPLICATE", "CORRECTED",
    "DELAYED", "CONFLICTED", "MISSING", "STALE"]

/-- `evaluate_replay_case`, which does not read its registry. -/
def evaluateReplayCase (given : HistoricalReplayCase) :
    Except String HistoricalReplayResult := do
  require (given.regime ∈ ["CALM", "RAPID_CHANGE"]) "unsupported regime"
  require (given.inputCondition ∈ inputConditions) "unsupported input condition"
  require (given.inputCondition = "CORRECTED" → stated given.correctionParentCaseId ≠ [])
    "corrected case requires parent case id"
  let fingerprint ← hash (.obj given.draftResult.payload)
  return { given.draftResult with resultFingerprint := fingerprint }

/-! ## Reports -/

structure HistoricalReplayReport where
  reportId : String
  results : List HistoricalReplayResult
  falsePositiveCount : Nat
  missCount : Nat
  duplicationCount : Nat
  churnCount : Nat
  driftCount : Nat
  degradedCount : Nat
  blockedCount : Nat
  reproducibleCount : Nat
  reportFingerprint : String
  deriving DecidableEq, Repr

/-- What the fingerprint of a report covers. -/
def HistoricalReplayReport.payload (report : HistoricalReplayReport) : Json :=
  .obj [("report_id", .str report.reportId),
      ("results", .arr (report.results.map HistoricalReplayResult.asdict)),
      ("false_positive_count", .int report.falsePositiveCount),
      ("miss_count", .int report.missCount),
      ("duplication_count", .int report.duplicationCount),
      ("churn_count", .int report.churnCount), ("drift_count", .int report.driftCount),
      ("degraded_count", .int report.degradedCount),
      ("blocked_count", .int report.blockedCount),
      ("reproducible_count", .int report.reproducibleCount)]

/-- The report on some results, up to its fingerprint. -/
def draftReport (reportId : String) (results : List HistoricalReplayResult) :
    HistoricalReplayReport where
  reportId := reportId
  results := results
  falsePositiveCount := results.countP HistoricalReplayResult.falsePositive
  missCount := results.countP HistoricalReplayResult.miss
  duplicationCount := (results.map HistoricalReplayResult.duplicatedEventCount).sum
  churnCount := (results.map HistoricalReplayResult.churnCount).sum
  driftCount := results.countP fun result => result.outcome = .drift
  degradedCount := results.countP fun result => result.outcome = .degraded
  blockedCount := results.countP fun result => result.outcome = .blocked
  reproducibleCount := results.countP HistoricalReplayResult.reproducible
  reportFingerprint := ""

/-- `build_replay_report`. -/
def buildReplayReport (reportId : String) (cases : List HistoricalReplayCase) :
    Except String HistoricalReplayReport := do
  require (Text.isBlank reportId = false) "report id required"
  let ordered := sortedBy HistoricalReplayCase.caseId cases
  let ids := ordered.map HistoricalReplayCase.caseId
  require ids.Nodup "duplicate replay case id"
  require (∀ given ∈ ordered, ∀ parent ∈ given.correctionParentCaseId,
      parent ∈ ids) "correction parent case missing"
  let results ← ordered.mapM evaluateReplayCase
  let report := draftReport reportId results
  let fingerprint ← hash report.payload
  return { report with reportFingerprint := fingerprint }

/-! ## What is made -/

/-- What `evaluate_replay_case` asks of a case. -/
structure HistoricalReplayCase.Acceptable (given : HistoricalReplayCase) : Prop where
  regime : given.regime ∈ ["CALM", "RAPID_CHANGE"]
  condition : given.inputCondition ∈ inputConditions
  parent : given.inputCondition = "CORRECTED" → stated given.correctionParentCaseId ≠ []

theorem evaluateReplayCase_eq_ok
    {given : HistoricalReplayCase} {result : HistoricalReplayResult} :
    evaluateReplayCase given = .ok result ↔ given.Acceptable ∧ ∃ fingerprint,
        hash (.obj given.draftResult.payload) = .ok fingerprint ∧
          { given.draftResult with resultFingerprint := fingerprint } = result := by
  simp only [evaluateReplayCase, bind_eq_ok, require_eq_ok, exists_const, pure_eq_ok]
  constructor
  · rintro ⟨regime, condition, parent, made⟩
    exact ⟨⟨regime, condition, parent⟩, made⟩
  · rintro ⟨⟨regime, condition, parent⟩, made⟩
    exact ⟨regime, condition, parent, made⟩

end SanTanHeights.Seller
