import SanTanHeights.Community.History
import SanTanHeights.Foundation.Keyed
import SanTanHeights.Shared.PyValue

/-!
# Patterns in the history of a community

An effect is estimated on a discovery population and tested on a validation
and a replication population before the pattern is promoted.
-/

namespace SanTanHeights.Community.Patterns

open Foundation Foundation.Sorting Foundation.Outcome Foundation.Keyed Shared
open History (TemporalLedger sortedSet validateFp validateLedgerReplay)

variable {F : Type}

/-! ## The registry -/

/-- What is read of an evolution-pattern registry. -/
structure PatternRegistry (F : Type) where
  domains : List String
  minimumDiscoveryN : Int
  minimumValidationN : Int
  minimumReplicationN : Int
  minimumDistinctPeriods : Int
  minimumEffectMagnitude : F
  maximumAbsoluteReplicationDrift : F
  requireSameEffectDirection : Bool
  requireConfounderManifest : Bool

/-- `m13-005-evolution-patterns-v1.0.yaml`, given its two floats. -/
def patternRegistry (magnitude drift : F) : PatternRegistry F where
  domains := ["BUYER_DEPTH", "SCARCITY", "PRICING_BEHAVIOR", "NEW_CONSTRUCTION_COMPETITION"]
  minimumDiscoveryN := 8
  minimumValidationN := 6
  minimumReplicationN := 6
  minimumDistinctPeriods := 2
  minimumEffectMagnitude := magnitude
  maximumAbsoluteReplicationDrift := drift
  requireSameEffectDirection := true
  requireConfounderManifest := true

inductive PatternState where
  | discovered
  | nullResult
  | negativeResult
  | validationRequired
  | validated
  | replicationFailed
  | replicated
  | promoted
  | notEligible
  | superseded
  deriving DecidableEq, Repr

def PatternState.code : PatternState → String
  | discovered => "DISCOVERED"
  | nullResult => "NULL_RESULT"
  | negativeResult => "NEGATIVE_RESULT"
  | validationRequired => "VALIDATION_REQUIRED"
  | validated => "VALIDATED"
  | replicationFailed => "REPLICATION_FAILED"
  | replicated => "REPLICATED"
  | promoted => "PROMOTED"
  | notEligible => "NOT_ELIGIBLE"
  | superseded => "SUPERSEDED"

inductive PromotionState where
  | notEvaluated
  | ineligible
  | eligible
  | promoted
  deriving DecidableEq, Repr

def PromotionState.code : PromotionState → String
  | notEvaluated => "NOT_EVALUATED"
  | ineligible => "INELIGIBLE"
  | eligible => "ELIGIBLE"
  | promoted => "PROMOTED"

inductive EffectDirection where
  | positive
  | negative
  | null
  deriving DecidableEq, Repr

def EffectDirection.code : EffectDirection → String
  | positive => "POSITIVE"
  | negative => "NEGATIVE"
  | null => "NULL"

/-! ## Observations -/

structure PatternObservation (F : Type) where
  observationId : String
  propertyId : String
  periodId : String
  regimeId : String
  exposureValue : F
  outcomeValue : F
  confounderValues : List (String × String)
  sourceEntryFingerprints : List String
  observationFingerprint : String

/-- What the fingerprint of an observation covers. -/
def PatternObservation.payload (observation : PatternObservation F) : PyValue F :=
  .dict [("observation_id", .str observation.observationId),
      ("property_id", .str observation.propertyId),
      ("period_id", .str observation.periodId), ("regime_id", .str observation.regimeId),
      ("exposure_value", .float observation.exposureValue),
      ("outcome_value", .float observation.outcomeValue),
      ("confounder_values", .tuple (observation.confounderValues.map
        fun confounder => .texts [confounder.1, confounder.2])),
      ("source_entry_fingerprints", .texts observation.sourceEntryFingerprints)]

/-- An observation as `make_pattern_observation` lists its parts. -/
def PatternObservation.tidied (given : PatternObservation F) : PatternObservation F :=
  { given with
    confounderValues := sortedBy toLex given.confounderValues
    sourceEntryFingerprints := sortedSet given.sourceEntryFingerprints }

variable [PyFloat F]

/-- `make_pattern_observation`; the fingerprint of the argument is not
read. -/
def makePatternObservation (given : PatternObservation F) :
    Except String (PatternObservation F) := do
  require (∀ text ∈ [given.observationId, given.propertyId, given.periodId,
      given.regimeId], Text.isBlank text = false)
    "observation identity fields required"
  let observation := given.tidied
  require (observation.sourceEntryFingerprints ≠ []) "temporal lineage required"
  let _ ← observation.sourceEntryFingerprints.mapM fun fingerprint =>
    validateFp fingerprint "source entry fingerprint"
  let fingerprint ← observation.payload.sha256
  return { observation with observationFingerprint := fingerprint }

/-! ## Populations -/

structure PatternPopulation where
  populationId : String
  role : String
  domain : String
  inclusionRule : String
  regimeIds : List String
  confounderManifest : List String
  observationIds : List String
  sourceEntryFingerprints : List String
  populationFingerprint : String
  deriving DecidableEq, Repr

/-- What the fingerprint of a population covers. -/
def PatternPopulation.payload (population : PatternPopulation) : PyValue F :=
  .dict [("population_id", .str population.populationId), ("role", .str population.role),
      ("domain", .str population.domain), ("inclusion_rule", .str population.inclusionRule),
      ("regime_ids", .texts population.regimeIds),
      ("confounder_manifest", .texts population.confounderManifest),
      ("observation_ids", .texts population.observationIds),
      ("source_entry_fingerprints", .texts population.sourceEntryFingerprints)]

/-- The arguments of `build_pattern_population`. -/
structure PopulationCall (F : Type) where
  populationId : String
  role : String
  domain : String
  inclusionRule : String
  observations : List (PatternObservation F)
  regimeIds : List String
  confounderManifest : List String

namespace PopulationCall

/-- The observations of the regimes. -/
def rows (call : PopulationCall F) : List (PatternObservation F) :=
  sortedBy PatternObservation.observationId
    (call.observations.filter fun observation =>
      observation.regimeId ∈ call.regimeIds)

/-- The population that is built, up to its fingerprint. -/
def draftPopulation (call : PopulationCall F) : PatternPopulation where
  populationId := call.populationId
  role := call.role
  domain := call.domain
  inclusionRule := call.inclusionRule
  regimeIds := sortedSet call.regimeIds
  confounderManifest := sortedSet call.confounderManifest
  observationIds := call.rows.map PatternObservation.observationId
  sourceEntryFingerprints := sortedSet
    (call.rows.flatMap PatternObservation.sourceEntryFingerprints)
  populationFingerprint := ""

end PopulationCall

/-- `build_pattern_population`. -/
def buildPatternPopulation (registry : PatternRegistry F) (call : PopulationCall F) :
    Except String PatternPopulation := do
  require (call.role ∈ ["DISCOVERY", "VALIDATION", "REPLICATION"])
    "unsupported population role"
  require (call.domain ∈ registry.domains) "unsupported pattern domain"
  require (Text.isBlank call.inclusionRule = false)
    "frozen inclusion rule required"
  require (¬ (call.confounderManifest = [] ∧ registry.requireConfounderManifest = true))
    "confounder manifest required"
  require ((call.rows.map PatternObservation.observationId).Nodup)
    "duplicate observation ids prohibited"
  let population := call.draftPopulation
  let fingerprint ← (population.payload : PyValue F).sha256
  return { population with populationFingerprint := fingerprint }

/-! ## Estimates -/

structure PatternEstimate (F : Type) where
  populationId : String
  n : Nat
  distinctPeriods : Nat
  effectDirection : EffectDirection
  effectMagnitude : F
  estimateFingerprint : String

namespace PatternEstimate

/-- What the fingerprint of an estimate covers. -/
def payload (estimate : PatternEstimate F) : List (String × PyValue F) :=
  [("population_id", .str estimate.populationId), ("n", .int estimate.n),
    ("distinct_periods", .int estimate.distinctPeriods),
    ("effect_direction", .str estimate.effectDirection.code),
    ("effect_magnitude", .float estimate.effectMagnitude)]

/-- `asdict(estimate)`. -/
def asdict (estimate : PatternEstimate F) : PyValue F :=
  .dict (estimate.payload ++ [("estimate_fingerprint", .str estimate.estimateFingerprint)])

end PatternEstimate

/-- The slope of the outcomes over the exposures. -/
def slope (rows : List (PatternObservation F)) : Except String F := do
  let count ← orRaise (PyFloat.ofInt rows.length)
    "int too large to convert to float"
  let meanX := PyFloat.div
    (PyFloat.sum (rows.map PatternObservation.exposureValue)) count
  let meanY := PyFloat.div
    (PyFloat.sum (rows.map PatternObservation.outcomeValue)) count
  let cov := PyFloat.sum (rows.map fun row => PyFloat.mul
    (PyFloat.sub row.exposureValue meanX)
    (PyFloat.sub row.outcomeValue meanY))
  let squares ← rows.mapM fun row => orRaise
    (PyFloat.square (PyFloat.sub row.exposureValue meanX))
    "Numerical result out of range"
  let var := PyFloat.sum squares
  return if PyFloat.eq var PyFloat.zero then PyFloat.zero
    else PyFloat.div cov var

/-- The estimate of a slope, up to its fingerprint. -/
def draftEstimate (registry : PatternRegistry F) (population : PatternPopulation)
    (rows : List (PatternObservation F)) (slope : F) : PatternEstimate F :=
  let magnitude := PyFloat.round (PyFloat.abs slope) 12
  { populationId := population.populationId
    n := rows.length
    distinctPeriods := (rows.map PatternObservation.periodId).dedup.length
    effectDirection :=
      if PyFloat.lt magnitude registry.minimumEffectMagnitude then .null
      else if PyFloat.lt PyFloat.zero slope then .positive
      else .negative
    effectMagnitude := magnitude
    estimateFingerprint := "" }

/-- `estimate_pattern`. -/
def estimatePattern (registry : PatternRegistry F)
    (observations : List (PatternObservation F)) (population : PatternPopulation) :
    Except String (PatternEstimate F) := do
  let rows ← population.observationIds.mapM fun observationId =>
    orRaise (latest PatternObservation.observationId observations observationId) "KeyError"
  require (rows ≠ []) "pattern population is empty"
  let effect ← slope rows
  let estimate := draftEstimate registry population rows effect
  let fingerprint ← (PyValue.dict estimate.payload).sha256
  return { estimate with estimateFingerprint := fingerprint }

/-! ## Candidates -/

structure GovernedPatternCandidate (F : Type) where
  patternId : String
  domain : String
  statement : String
  discoveryPopulationId : String
  validationPopulationId : Option String
  replicationPopulationId : Option String
  discoveryEstimate : PatternEstimate F
  validationEstimate : Option (PatternEstimate F)
  replicationEstimate : Option (PatternEstimate F)
  state : PatternState
  promotionState : PromotionState
  reasonCodes : List String
  limitations : List String
  sourceLedgerFingerprint : String
  candidateFingerprint : String

/-- The estimate of a population that may be missing. -/
def optionalEstimate : Option (PatternEstimate F) → PyValue F
  | none => .none
  | some estimate => estimate.asdict

/-- What the fingerprint of a candidate covers. -/
def GovernedPatternCandidate.payload (candidate : GovernedPatternCandidate F) : PyValue F :=
  .dict [("pattern_id", .str candidate.patternId), ("domain", .str candidate.domain),
      ("statement", .str candidate.statement),
      ("discovery_population_id", .str candidate.discoveryPopulationId),
      ("validation_population_id", .ofOptional candidate.validationPopulationId),
      ("replication_population_id", .ofOptional candidate.replicationPopulationId),
      ("discovery_estimate", candidate.discoveryEstimate.asdict),
      ("validation_estimate", optionalEstimate candidate.validationEstimate),
      ("replication_estimate", optionalEstimate candidate.replicationEstimate),
      ("state", .str candidate.state.code),
      ("promotion_state", .str candidate.promotionState.code),
      ("reason_codes", .texts candidate.reasonCodes),
      ("limitations", .texts candidate.limitations),
      ("source_ledger_fingerprint", .str candidate.sourceLedgerFingerprint)]

/-- `_candidate`; the fingerprint of the argument is not read. -/
def makeCandidate (given : GovernedPatternCandidate F) :
    Except String (GovernedPatternCandidate F) := do
  let fingerprint ← given.payload.sha256
  return { given with candidateFingerprint := fingerprint }

/-- `validate_candidate_replay`. -/
def validateCandidateReplay (candidate : GovernedPatternCandidate F) :
    Except String Bool := do
  let fingerprint ← candidate.payload.sha256
  return decide (fingerprint = candidate.candidateFingerprint)

/-! ## Discovery -/

/-- The arguments of `discover_pattern`. -/
structure DiscoveryCall (F : Type) where
  patternId : String
  domain : String
  statement : String
  discoveryPopulation : PatternPopulation
  observations : List (PatternObservation F)
  ledger : TemporalLedger
  limitations : List String

/-- Why a discovery is not eligible. -/
def discoveryReasons (registry : PatternRegistry F) (estimate : PatternEstimate F) :
    List String :=
  (if estimate.n < registry.minimumDiscoveryN then
      ["DISCOVERY_SAMPLE_BELOW_MINIMUM"] else []) ++
    if estimate.distinctPeriods < registry.minimumDistinctPeriods then
      ["INSUFFICIENT_DISTINCT_PERIODS"] else []

/-- The state of a discovery and its reasons. -/
def discoveryOutcome (registry : PatternRegistry F) (estimate : PatternEstimate F) :
    PatternState × List String :=
  let reasons := discoveryReasons registry estimate
  if estimate.effectDirection = .null then
    (.nullResult, reasons ++ ["NULL_EFFECT"])
  else if reasons ≠ [] then (.notEligible, reasons)
  else (.validationRequired, reasons)

/-- The candidate of an estimate, up to its fingerprint. -/
def DiscoveryCall.draftCandidate (registry : PatternRegistry F) (call : DiscoveryCall F)
    (estimate : PatternEstimate F) : GovernedPatternCandidate F :=
  let outcome := discoveryOutcome registry estimate
  { patternId := call.patternId
    domain := call.domain
    statement := call.statement
    discoveryPopulationId := call.discoveryPopulation.populationId
    validationPopulationId := none
    replicationPopulationId := none
    discoveryEstimate := estimate
    validationEstimate := none
    replicationEstimate := none
    state := outcome.1
    promotionState :=
      if outcome.1 = .validationRequired then .notEvaluated else .ineligible
    reasonCodes := sortedSet outcome.2
    limitations := sortedSet call.limitations
    sourceLedgerFingerprint := call.ledger.ledgerFingerprint
    candidateFingerprint := "" }

/-- `discover_pattern`. -/
def discoverPattern (registry : PatternRegistry F) (call : DiscoveryCall F) :
    Except String (GovernedPatternCandidate F) := do
  let replays ← validateLedgerReplay call.ledger
  require (replays = true) "M13-005 requires reproducible M13-004 history"
  require (call.discoveryPopulation.role = "DISCOVERY")
    "discovery population role required"
  require (call.discoveryPopulation.domain = call.domain) "domain mismatch"
  let estimate ← estimatePattern registry call.observations
    call.discoveryPopulation
  makeCandidate (call.draftCandidate registry estimate)

/-! ## Validation and replication -/

/-- `_independent`. -/
def independent (left right : PatternPopulation) : Bool :=
  left.observationIds.all fun observationId =>
    observationId ∉ right.observationIds

/-- The arguments of `validate_and_replicate_pattern`. -/
structure ReplicationCall (F : Type) where
  candidate : GovernedPatternCandidate F
  discoveryPopulation : PatternPopulation
  validationPopulation : PatternPopulation
  replicationPopulation : PatternPopulation
  observations : List (PatternObservation F)
  ledger : TemporalLedger

/-- A reason, where it is given. -/
def reasonIf (condition : Bool) (reason : String) : List String :=
  if condition then [reason] else []

namespace ReplicationCall

/-- Why a candidate is not replicated. -/
def reasons (registry : PatternRegistry F) (call : ReplicationCall F)
    (validation replication : PatternEstimate F) : List String :=
  let discovered := call.candidate.discoveryEstimate.effectDirection
  reasonIf (validation.n < registry.minimumValidationN)
      "VALIDATION_SAMPLE_BELOW_MINIMUM" ++
    reasonIf (replication.n < registry.minimumReplicationN) "REPLICATION_SAMPLE_BELOW_MINIMUM" ++
    reasonIf (validation.distinctPeriods < registry.minimumDistinctPeriods)
      "VALIDATION_PERIODS_BELOW_MINIMUM" ++
    reasonIf (replication.distinctPeriods < registry.minimumDistinctPeriods)
      "REPLICATION_PERIODS_BELOW_MINIMUM" ++
    reasonIf (registry.requireSameEffectDirection &&
        (validation.effectDirection ≠ discovered || replication.effectDirection ≠ discovered))
      "EFFECT_DIRECTION_NOT_REPLICATED" ++
    reasonIf (PyFloat.lt registry.maximumAbsoluteReplicationDrift
        (PyFloat.abs (PyFloat.sub replication.effectMagnitude validation.effectMagnitude)))
      "REPLICATION_DRIFT_EXCEEDED" ++
    reasonIf (discovered = .null || validation.effectDirection = .null ||
        replication.effectDirection = .null)
      "NULL_EFFECT_NOT_PROMOTABLE"

/-- The candidate that two estimates make, up to its fingerprint. -/
def draftCandidate (registry : PatternRegistry F) (call : ReplicationCall F)
    (validation replication : PatternEstimate F) :
    GovernedPatternCandidate F :=
  let reasons := call.reasons registry validation replication
  { patternId := call.candidate.patternId
    domain := call.candidate.domain
    statement := call.candidate.statement
    discoveryPopulationId := call.discoveryPopulation.populationId
    validationPopulationId := some call.validationPopulation.populationId
    replicationPopulationId := some call.replicationPopulation.populationId
    discoveryEstimate := call.candidate.discoveryEstimate
    validationEstimate := some validation
    replicationEstimate := some replication
    state := if reasons ≠ [] then .replicationFailed else .replicated
    promotionState := if reasons ≠ [] then .ineligible else .eligible
    reasonCodes := sortedSet (call.candidate.reasonCodes ++ reasons)
    limitations := call.candidate.limitations
    sourceLedgerFingerprint := call.ledger.ledgerFingerprint
    candidateFingerprint := "" }

end ReplicationCall

/-- `validate_and_replicate_pattern`. -/
def validateAndReplicatePattern (registry : PatternRegistry F) (call : ReplicationCall F) :
    Except String (GovernedPatternCandidate F) := do
  require (call.candidate.state = .validationRequired)
    "candidate not eligible for validation"
  require (call.validationPopulation.role = "VALIDATION" ∧
    call.replicationPopulation.role = "REPLICATION")
    "validation and replication roles required"
  require (independent call.discoveryPopulation call.validationPopulation =
    true) "discovery/validation leakage prohibited"
  require (independent call.discoveryPopulation call.replicationPopulation =
    true) "discovery/replication leakage prohibited"
  require (independent call.validationPopulation call.replicationPopulation =
    true) "validation/replication leakage prohibited"
  let validation ← estimatePattern registry call.observations
    call.validationPopulation
  let replication ← estimatePattern registry call.observations
    call.replicationPopulation
  makeCandidate (call.draftCandidate registry validation replication)

/-! ## Promotion -/

/-- `promote_pattern`; the estimates of the result are dictionaries of the
same fields. -/
def promotePattern (ledger : TemporalLedger) (candidate : GovernedPatternCandidate F) :
    Except String (GovernedPatternCandidate F) := do
  require (candidate.state = .replicated ∧ candidate.promotionState = .eligible)
    "pattern is not eligible for promotion"
  require (candidate.sourceLedgerFingerprint = ledger.ledgerFingerprint)
    "temporal lineage mismatch"
  let replays ← validateLedgerReplay ledger
  require (replays = true) "temporal lineage mismatch"
  makeCandidate { candidate with
    state := .promoted
    promotionState := .promoted }

end SanTanHeights.Community.Patterns
