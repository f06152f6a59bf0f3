import SanTanHeights.Scenario.PricingTiming

/-!
# Buyers and substitutes of a scenario

The numbers and texts that a scenario assumes about buyers and competing
homes, next to the facts of the certified baseline.
-/

namespace SanTanHeights.Scenario

open Foundation Foundation.Outcome Shared
open Community.History (sortedSet validateFp)

variable {F : Type}

/-! ## Positions -/

structure NumericDimensionPosition (F : Type) where
  dimension : String
  candidateValue : F
  referenceFactKey : String
  referenceValue : F
  absoluteDifference : F
  direction : String
  positionFingerprint : String

namespace NumericDimensionPosition

/-- What the fingerprint of a position covers. -/
def payload (position : NumericDimensionPosition F) : List (String × PyValue F) :=
  [("dimension", .str position.dimension),
    ("candidate_value", .float position.candidateValue),
    ("reference_fact_key", .str position.referenceFactKey),
    ("reference_value", .float position.referenceValue),
    ("absolute_difference", .float position.absoluteDifference),
    ("direction", .str position.direction)]

/-- `asdict(position)`. -/
def asdict (position : NumericDimensionPosition F) : PyValue F :=
  .dict (position.payload ++ [("position_fingerprint", .str position.positionFingerprint)])

end NumericDimensionPosition

structure CategoricalDimensionPosition where
  dimension : String
  candidateValue : String
  referenceFactKey : String
  referenceValue : String
  relation : String
  positionFingerprint : String
  deriving DecidableEq, Repr

namespace CategoricalDimensionPosition

/-- What the fingerprint of a position covers. -/
def payload (position : CategoricalDimensionPosition) : List (String × PyValue F) :=
  [("dimension", .str position.dimension),
    ("candidate_value", .str position.candidateValue),
    ("reference_fact_key", .str position.referenceFactKey),
    ("reference_value", .str position.referenceValue), ("relation", .str position.relation)]

/-- `asdict(position)`. -/
def asdict (position : CategoricalDimensionPosition) : PyValue F :=
  .dict (position.payload ++ [("position_fingerprint", .str position.positionFingerprint)])

end CategoricalDimensionPosition

variable [PyFloat F]

/-- A number that is not negative. -/
def nonNegative (value : PyValue F) (message : String) :
    Except String F := do
  let number ← orRaise value.number message
  let float ← toFloat number
  require (PyFloat.ltInt float 0 = false) message
  return float

/-- `_numeric_position`. -/
def numericPosition (dimension : String)
    (candidate : PyValue F) (factKey : String) (reference : PyValue F) :
    Except String (NumericDimensionPosition F) := do
  let candidateValue ← nonNegative candidate
    (dimension ++ " candidate must be non-negative numeric")
  let referenceValue ← nonNegative reference
    (dimension ++ " reference must be non-negative numeric")
  let difference := PyFloat.round (PyFloat.sub candidateValue referenceValue) 6
  let position : NumericDimensionPosition F :=
    { dimension
      candidateValue
      referenceFactKey := factKey
      referenceValue
      absoluteDifference := difference
      direction := directionOf difference
      positionFingerprint := "" }
  let fingerprint ← (PyValue.dict position.payload).sha256
  return { position with positionFingerprint := fingerprint }

/-- A text that is not blank, stripped. -/
def nonEmptyText (value : PyValue F) (message : String) :
    Except String String := do
  let text ← orRaise (textOf value) message
  require (Text.isBlank text = false) message
  return Text.strip text

/-- `_categorical_position`. -/
def categoricalPosition (dimension : String)
    (candidate : PyValue F) (factKey : String) (reference : PyValue F) :
    Except String CategoricalDimensionPosition := do
  let candidateValue ← nonEmptyText candidate
    (dimension ++ " candidate must be non-empty text")
  let referenceValue ← nonEmptyText reference
    (dimension ++ " reference must be non-empty text")
  let position : CategoricalDimensionPosition :=
    { dimension
      candidateValue
      referenceFactKey := factKey
      referenceValue
      relation :=
        if candidateValue = referenceValue then "SAME" else "DIFFERENT"
      positionFingerprint := "" }
  let fingerprint ← (PyValue.dict position.payload : PyValue F).sha256
  return { position with positionFingerprint := fingerprint }

/-! ## The registry -/

/-- The keys of one dimension of a registry. -/
structure DimensionSpec where
  assumptionKey : String
  referenceFactKeys : List String

/-- The keys of a dimension, and what is unknown without them. -/
def DimensionSpec.keys (spec : DimensionSpec) (name : String) : ComparisonKeys where
  assumptionKey := spec.assumptionKey
  referenceFactKeys := spec.referenceFactKeys
  notProvided := "EXPLICIT_" ++ name.toUpper ++ "_ASSUMPTION_NOT_PROVIDED"
  notAvailable := "CERTIFIED_" ++ name.toUpper ++ "_REFERENCE_NOT_AVAILABLE"

/-- What is read of a buyer/substitution registry. -/
structure BuyerSubstitutionRegistry where
  buyerDepth : DimensionSpec
  comparableDepth : DimensionSpec
  resaleCompetition : DimensionSpec
  substitutionRequirement : DimensionSpec
  scarcityFactKeys : List String

/-- `m13-006e-buyer-substitution-v1.0.yaml`. -/
def buyerSubstitutionRegistry : BuyerSubstitutionRegistry where
  buyerDepth := ⟨"candidate_buyer_depth", ["current_buyer_depth", "buyer_depth"]⟩
  comparableDepth :=
    ⟨"candidate_comparable_depth", ["current_comparable_depth", "comparable_depth"]⟩
  resaleCompetition :=
    ⟨"candidate_resale_competition", ["current_resale_competition", "resale_competition"]⟩
  substitutionRequirement :=
    ⟨"candidate_substitution_requirement",
      ["current_substitution_requirement", "substitution_requirement"]⟩
  scarcityFactKeys := ["scarcity_context", "current_scarcity_context"]

/-! ## The state -/

structure BuyerSubstitutionCompetitiveState (F : Type) where
  scenarioId : String
  scenarioContextFingerprint : String
  scenarioEvidenceFingerprint : String
  pricingTimingStateFingerprint : String
  buyerDepth : Option (NumericDimensionPosition F)
  comparableDepth : Option (NumericDimensionPosition F)
  resaleCompetition : Option (NumericDimensionPosition F)
  substitutionRequirement : Option CategoricalDimensionPosition
  scarcityContext : Option (String × PyValue F)
  includedHistoricalEvidenceCount : Nat
  applicablePatternIds : List String
  unknownPatternIds : List String
  unknowns : List String
  limitations : List String
  stateFingerprint : String

/-- What the fingerprint of a state covers. -/
def BuyerSubstitutionCompetitiveState.payload
    (state : BuyerSubstitutionCompetitiveState F) : PyValue F :=
  .dict
    [("scenario_id", .str state.scenarioId),
      ("scenario_context_fingerprint", .str state.scenarioContextFingerprint),
      ("scenario_evidence_fingerprint", .str state.scenarioEvidenceFingerprint),
      ("pricing_timing_state_fingerprint", .str state.pricingTimingStateFingerprint),
      ("buyer_depth", optionalDict NumericDimensionPosition.asdict state.buyerDepth),
      ("comparable_depth", optionalDict NumericDimensionPosition.asdict state.comparableDepth),
      ("resale_competition", optionalDict NumericDimensionPosition.asdict state.resaleCompetition),
      ("substitution_requirement",
        optionalDict CategoricalDimensionPosition.asdict state.substitutionRequirement),
      ("scarcity_context",
        optionalDict (fun fact => .tuple [.str fact.1, fact.2]) state.scarcityContext),
      ("included_historical_evidence_count", .int state.includedHistoricalEvidenceCount),
      ("applicable_pattern_ids", .texts state.applicablePatternIds),
      ("unknown_pattern_ids", .texts state.unknownPatternIds),
      ("unknowns", .texts state.unknowns),
      ("limitations", .texts state.limitations)]

/-- The positions of the dimensions, each with what is unknown. -/
structure BuyerPositions (F : Type) where
  buyerDepth : Option (NumericDimensionPosition F) × List String
  comparableDepth : Option (NumericDimensionPosition F) × List String
  resaleCompetition : Option (NumericDimensionPosition F) × List String
  substitutionRequirement : Option CategoricalDimensionPosition × List String

/-- The positions that a context has. -/
def buyerPositions (registry : BuyerSubstitutionRegistry)
    (context : CertifiedScenarioBaseline F) :
    Except String (BuyerPositions F) := do
  let buyerDepth ← compareWithReference context
    (registry.buyerDepth.keys "buyer_depth") (numericPosition "buyer_depth")
  let comparableDepth ← compareWithReference context
    (registry.comparableDepth.keys "comparable_depth") (numericPosition "comparable_depth")
  let resaleCompetition ← compareWithReference context
    (registry.resaleCompetition.keys "resale_competition")
    (numericPosition "resale_competition")
  let substitutionRequirement ← compareWithReference context
    (registry.substitutionRequirement.keys "substitution_requirement")
    (categoricalPosition "substitution_requirement")
  return { buyerDepth, comparableDepth, resaleCompetition,
           substitutionRequirement }

/-- What is unknown of the positions. -/
def BuyerPositions.unknowns (positions : BuyerPositions F) : List String :=
  positions.buyerDepth.2 ++ positions.comparableDepth.2 ++
    positions.resaleCompetition.2 ++ positions.substitutionRequirement.2

/-- What a state is built from, once its positions are known. -/
def draftBuyerSubstitution (registry : BuyerSubstitutionRegistry)
    (context : CertifiedScenarioBaseline F) (evidenceSet : ScenarioEvidenceSet)
    (pricingTiming : PricingTimingScenarioState F)
    (positions : BuyerPositions F) : BuyerSubstitutionCompetitiveState F :=
  let scarcity := firstFact context.facts registry.scarcityFactKeys
  { scenarioId := context.scenarioId
    scenarioContextFingerprint := context.contextFingerprint
    scenarioEvidenceFingerprint := evidenceSet.evidenceSetFingerprint
    pricingTimingStateFingerprint := pricingTiming.stateFingerprint
    buyerDepth := positions.buyerDepth.1
    comparableDepth := positions.comparableDepth.1
    resaleCompetition := positions.resaleCompetition.1
    substitutionRequirement := positions.substitutionRequirement.1
    scarcityContext := scarcity
    includedHistoricalEvidenceCount := evidenceSet.included.length
    applicablePatternIds := patternIds context "APPLICABLE"
    unknownPatternIds := patternIds context "UNKNOWN"
    unknowns := sortedSet (context.unknowns ++ evidenceSet.unknowns ++
      pricingTiming.unknowns ++ positions.unknowns ++
        if scarcity.isNone then ["CERTIFIED_SCARCITY_CONTEXT_NOT_AVAILABLE"]
        else [])
    limitations := sortedSet (context.limitations ++
      evidenceSet.limitations ++ pricingTiming.limitations ++
        ["Buyer depth, substitution, competition, and scarcity states are " ++
          "descriptive scenario context, not buyer-behavior predictions " ++
          "or recommendations."])
    stateFingerprint := "" }

/-- `build_buyer_substitution_competitive_state`. -/
def buildBuyerSubstitutionCompetitiveState (registry : BuyerSubstitutionRegistry)
    (context : CertifiedScenarioBaseline F) (evidenceSet : ScenarioEvidenceSet)
    (pricingTiming : PricingTimingScenarioState F) :
    Except String (BuyerSubstitutionCompetitiveState F) := do
  validateFp context.contextFingerprint "scenario context fingerprint"
  validateFp evidenceSet.evidenceSetFingerprint "scenario evidence fingerprint"
  validateFp pricingTiming.stateFingerprint "pricing timing state fingerprint"
  require (evidenceSet.scenarioId = context.scenarioId ∧
    pricingTiming.scenarioId = context.scenarioId)
    "scenario identity mismatch"
  require (evidenceSet.scenarioContextFingerprint =
    context.contextFingerprint) "scenario context/evidence lineage mismatch"
  require (pricingTiming.scenarioContextFingerprint = context.contextFingerprint)
    "scenario context/pricing timing lineage mismatch"
  require (pricingTiming.scenarioEvidenceFingerprint = evidenceSet.evidenceSetFingerprint)
    "evidence/pricing timing lineage mismatch"
  let positions ← buyerPositions registry context
  let state := draftBuyerSubstitution registry context evidenceSet
    pricingTiming positions
  let fingerprint ← state.payload.sha256
  return { state with stateFingerprint := fingerprint }

/-- What `build_buyer_substitution_competitive_state` checks. -/
structure BuyerSubstitutionAcceptable (context : CertifiedScenarioBaseline F)
    (evidenceSet : ScenarioEvidenceSet)
    (pricingTiming : PricingTimingScenarioState F) : Prop where
  contextFingerprint : Sha256.isHex64 context.contextFingerprint = true
  evidenceFingerprint : Sha256.isHex64 evidenceSet.evidenceSetFingerprint = true
  pricingTimingFingerprint : Sha256.isHex64 pricingTiming.stateFingerprint = true
  evidenceScenario : evidenceSet.scenarioId = context.scenarioId
  pricingTimingScenario : pricingTiming.scenarioId = context.scenarioId
  evidenceContext : evidenceSet.scenarioContextFingerprint = context.contextFingerprint
  pricingTimingContext : pricingTiming.scenarioContextFingerprint = context.contextFingerprint
  evidence : pricingTiming.scenarioEvidenceFingerprint = evidenceSet.evidenceSetFingerprint

theorem buildBuyerSubstitutionCompetitiveState_eq_ok
    {registry : BuyerSubstitutionRegistry} {context : CertifiedScenarioBaseline F}
    {evidenceSet : ScenarioEvidenceSet} {pricingTiming : PricingTimingScenarioState F}
    {state : BuyerSubstitutionCompetitiveState F} :
    buildBuyerSubstitutionCompetitiveState registry context evidenceSet
        pricingTiming = .ok state ↔
      BuyerSubstitutionAcceptable context evidenceSet pricingTiming ∧
        ∃ positions fingerprint,
          buyerPositions registry context = .ok positions ∧
            (draftBuyerSubstitution registry context evidenceSet
                pricingTiming positions).payload.sha256 =
                .ok fingerprint ∧
              { draftBuyerSubstitution registry context evidenceSet
                  pricingTiming positions with
                stateFingerprint := fingerprint } = state := by
  simp only [buildBuyerSubstitutionCompetitiveState, bind_eq_ok,
    require_eq_ok, exists_const, validateFp, pure_eq_ok]
  constructor
  · rintro ⟨contextFingerprint, evidenceFingerprint, pricingTimingFingerprint,
      scenarios, evidenceContext, pricingTimingContext, evidence, positions,
      placed, fingerprint, hashed, made⟩
    exact ⟨⟨contextFingerprint, evidenceFingerprint,
      pricingTimingFingerprint, scenarios.1, scenarios.2, evidenceContext,
      pricingTimingContext, evidence⟩, positions, fingerprint, placed, hashed, made⟩
  · rintro ⟨acceptable, positions, fingerprint, placed, hashed, made⟩
    exact ⟨acceptable.contextFingerprint, acceptable.evidenceFingerprint,
      acceptable.pricingTimingFingerprint,
      ⟨acceptable.evidenceScenario, acceptable.pricingTimingScenario⟩,
      acceptable.evidenceContext, acceptable.pricingTimingContext,
      acceptable.evidence, positions, placed, fingerprint, hashed, made⟩

end SanTanHeights.Scenario
