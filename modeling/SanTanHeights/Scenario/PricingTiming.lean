import SanTanHeights.Foundation.Keyed
import SanTanHeights.Scenario.Evidence

/-!
# Pricing and timing of a scenario

The price and the listing date that a scenario assumes, next to the facts that
the certified baseline has for them.
-/

namespace SanTanHeights.Scenario

open Foundation Foundation.Outcome Foundation.Keyed Shared
open Community.History (sortedSet validateFp)

variable {F : Type}

/-! ## Facts and assumptions -/

/-- The value under a key of `dict(members)`. -/
def valueOf (members : List (String × PyValue F)) (key : String) : Option (PyValue F) :=
  (latest Prod.fst members key).map Prod.snd

/-- `_first_fact`. -/
def firstFact (facts : List (String × PyValue F)) (keys : List String) :
    Option (String × PyValue F) :=
  keys.findSome? fun key => (valueOf facts key).map fun value => (key, value)

/-- The keys of one comparison, and what is unknown without them. -/
structure ComparisonKeys where
  assumptionKey : String
  referenceFactKeys : List String
  notProvided : String
  notAvailable : String

/-- An assumption next to its reference, where there are both; else what is
unknown. -/
def compareWithReference
    {α : Type} (context : CertifiedScenarioBaseline F) (keys : ComparisonKeys)
    (position : PyValue F → String → PyValue F → Except String α) :
    Except String (Option α × List String) :=
  match valueOf context.assumptions keys.assumptionKey with
  | none => .ok (none, [keys.notProvided])
  | some candidate =>
      match firstFact context.facts keys.referenceFactKeys with
      | none => .ok (none, [keys.notAvailable])
      | some (key, reference) =>
          (position candidate key reference).map fun made => (some made, [])

/-- The ids of the patterns of a state, in order. -/
def patternIds (context : CertifiedScenarioBaseline F) (state : String) : List String :=
  Sorting.sortedBy id ((context.patternApplicability.filter fun pattern =>
    pattern.state = state).map PatternApplicability.patternId)

/-! ## The price -/

structure PricingPosition (F : Type) where
  candidatePrice : F
  referenceFactKey : String
  referencePrice : F
  absoluteDifference : F
  percentDifference : F
  direction : String
  positionFingerprint : String

namespace PricingPosition

/-- What the fingerprint of a position covers. -/
def payload (position : PricingPosition F) : List (String × PyValue F) :=
  [("candidate_price", .float position.candidatePrice),
    ("reference_fact_key", .str position.referenceFactKey),
    ("reference_price", .float position.referencePrice),
    ("absolute_difference", .float position.absoluteDifference),
    ("percent_difference", .float position.percentDifference),
    ("direction", .str position.direction)]

/-- `asdict(position)`. -/
def asdict (position : PricingPosition F) : PyValue F :=
  .dict (position.payload ++ [("position_fingerprint", .str position.positionFingerprint)])

end PricingPosition

variable [PyFloat F]

/-- The direction of a difference. -/
def directionOf (difference : F) : String :=
  if PyFloat.eqInt difference 0 then "SAME"
  else if PyFloat.intLt 0 difference then "ABOVE_REFERENCE"
  else "BELOW_REFERENCE"

/-- `float(number)`. -/
def toFloat (number : PyValue.Number F) : Except String F :=
  orRaise number.toFloat "int too large to convert to float"

/-- The position of two prices, up to its fingerprint. -/
def draftPricePosition (candidate : F) (factKey : String) (reference : F) : PricingPosition F :=
  let absolute := PyFloat.round (PyFloat.sub candidate reference) 2
  { candidatePrice := candidate
    referenceFactKey := factKey
    referencePrice := reference
    absoluteDifference := absolute
    percentDifference := PyFloat.round
      (PyFloat.mul (PyFloat.div absolute reference) PyFloat.hundred) 6
    direction := directionOf absolute
    positionFingerprint := "" }

/-- `_price_position`. -/
def pricePosition (candidate : PyValue F) (factKey : String) (reference : PyValue F) :
    Except String (PricingPosition F) := do
  let price ← orRaise candidate.number
    "candidate price must be non-negative numeric"
  require (price.lt (.int 0) = false)
    "candidate price must be non-negative numeric"
  let certified ← orRaise reference.number
    "certified reference price must be positive numeric"
  require ((certified.lt (.int 0) || certified.eq (.int 0)) = false)
    "certified reference price must be positive numeric"
  let candidatePrice ← toFloat price
  let referencePrice ← toFloat certified
  let position := draftPricePosition candidatePrice factKey referencePrice
  let fingerprint ← (PyValue.dict position.payload).sha256
  return { position with positionFingerprint := fingerprint }

/-! ## The listing date -/

structure ListingTiming where
  candidateListingDate : String
  referenceFactKey : String
  referenceDate : String
  dayDifference : Int
  direction : String
  timingFingerprint : String
  deriving DecidableEq, Repr

namespace ListingTiming

/-- What the fingerprint of a timing covers. -/
def payload (timing : ListingTiming) : List (String × PyValue F) :=
  [("candidate_listing_date", .str timing.candidateListingDate),
    ("reference_fact_key", .str timing.referenceFactKey),
    ("reference_date", .str timing.referenceDate),
    ("day_difference", .int timing.dayDifference), ("direction", .str timing.direction)]

/-- `asdict(timing)`. -/
def asdict (timing : ListingTiming) : PyValue F :=
  .dict (timing.payload ++ [("timing_fingerprint", .str timing.timingFingerprint)])

end ListingTiming

/-- `date.fromisoformat`, as the ordinal of a day: nothing where it raises. -/
abbrev DateFromisoformat : Type := String → Option Int

/-- The text of a value. -/
def textOf : PyValue F → Option String
  | .str text => some text
  | _ => none

/-- `_listing_timing`. -/
def listingTiming (fromisoformat : DateFromisoformat)
    (candidate : PyValue F) (factKey : String) (reference : PyValue F) :
    Except String ListingTiming := do
  let message := "candidate and reference listing dates must be ISO date text"
  let candidateDate ← orRaise (textOf candidate) message
  let referenceDate ← orRaise (textOf reference) message
  let candidateDay ← orRaise (fromisoformat candidateDate) message
  let referenceDay ← orRaise (fromisoformat referenceDate) message
  let days := candidateDay - referenceDay
  let timing : ListingTiming :=
    { candidateListingDate := candidateDate
      referenceFactKey := factKey
      referenceDate := referenceDate
      dayDifference := days
      direction :=
        if days = 0 then "SAME_DATE"
        else if days > 0 then "LATER_THAN_REFERENCE"
        else "EARLIER_THAN_REFERENCE"
      timingFingerprint := "" }
  let fingerprint ← (PyValue.dict timing.payload : PyValue F).sha256
  return { timing with timingFingerprint := fingerprint }

/-! ## The state -/

/-- What is read of a pricing/timing registry. -/
structure PricingTimingRegistry where
  candidatePriceAssumptionKey : String
  referencePriceFactKeys : List String
  candidateDateAssumptionKey : String
  referenceDateFactKeys : List String

/-- `m13-006d-pricing-timing-v1.0.yaml`. -/
def pricingTimingRegistry : PricingTimingRegistry where
  candidatePriceAssumptionKey := "candidate_list_price"
  referencePriceFactKeys := ["current_list_price", "benchmark_price", "reference_price"]
  candidateDateAssumptionKey := "candidate_listing_date"
  referenceDateFactKeys := ["current_listing_date", "baseline_date", "reference_date"]

namespace PricingTimingRegistry

/-- The keys of the price. -/
def price (registry : PricingTimingRegistry) : ComparisonKeys where
  assumptionKey := registry.candidatePriceAssumptionKey
  referenceFactKeys := registry.referencePriceFactKeys
  notProvided := "EXPLICIT_CANDIDATE_PRICE_NOT_PROVIDED"
  notAvailable := "CERTIFIED_REFERENCE_PRICE_NOT_AVAILABLE"

/-- The keys of the listing date. -/
def date (registry : PricingTimingRegistry) : ComparisonKeys where
  assumptionKey := registry.candidateDateAssumptionKey
  referenceFactKeys := registry.referenceDateFactKeys
  notProvided := "EXPLICIT_CANDIDATE_LISTING_DATE_NOT_PROVIDED"
  notAvailable := "CERTIFIED_REFERENCE_DATE_NOT_AVAILABLE"

end PricingTimingRegistry

structure PricingTimingScenarioState (F : Type) where
  scenarioId : String
  scenarioContextFingerprint : String
  scenarioEvidenceFingerprint : String
  pricingPosition : Option (PricingPosition F)
  listingTiming : Option ListingTiming
  includedHistoricalEvidenceCount : Nat
  excludedHistoricalEvidenceCount : Nat
  applicablePatternIds : List String
  unknownPatternIds : List String
  evidenceSourceFingerprints : List String
  unknowns : List String
  limitations : List String
  stateFingerprint : String

/-- The dictionary of a part that may be missing. -/
def optionalDict {α : Type} (asdict : α → PyValue F) :
    Option α → PyValue F
  | none => .none
  | some part => asdict part

/-- What the fingerprint of a state covers. -/
def PricingTimingScenarioState.payload (state : PricingTimingScenarioState F) : PyValue F :=
  .dict [("scenario_id", .str state.scenarioId),
      ("scenario_context_fingerprint", .str state.scenarioContextFingerprint),
      ("scenario_evidence_fingerprint", .str state.scenarioEvidenceFingerprint),
      ("pricing_position", optionalDict PricingPosition.asdict state.pricingPosition),
      ("listing_timing", optionalDict ListingTiming.asdict state.listingTiming),
      ("included_historical_evidence_count", .int state.includedHistoricalEvidenceCount),
      ("excluded_historical_evidence_count", .int state.excludedHistoricalEvidenceCount),
      ("applicable_pattern_ids", .texts state.applicablePatternIds),
      ("unknown_pattern_ids", .texts state.unknownPatternIds),
      ("evidence_source_fingerprints", .texts state.evidenceSourceFingerprints),
      ("unknowns", .texts state.unknowns), ("limitations", .texts state.limitations)]

/-- What a state is built from, once its positions are known. -/
def draftPricingTiming (context : CertifiedScenarioBaseline F)
    (evidenceSet : ScenarioEvidenceSet) (pricing : Option (PricingPosition F) × List String)
    (timing : Option ListingTiming × List String) :
    PricingTimingScenarioState F where
  scenarioId := context.scenarioId
  scenarioContextFingerprint := context.contextFingerprint
  scenarioEvidenceFingerprint := evidenceSet.evidenceSetFingerprint
  pricingPosition := pricing.1
  listingTiming := timing.1
  includedHistoricalEvidenceCount := evidenceSet.included.length
  excludedHistoricalEvidenceCount := evidenceSet.excluded.length
  applicablePatternIds := patternIds context "APPLICABLE"
  unknownPatternIds := patternIds context "UNKNOWN"
  evidenceSourceFingerprints := evidenceSet.sourceFingerprints
  unknowns := sortedSet (context.unknowns ++ evidenceSet.unknowns ++ pricing.2 ++ timing.2)
  limitations := sortedSet (context.limitations ++ evidenceSet.limitations ++
    ["Pricing and timing differences are descriptive scenario " ++
      "calculations, not recommendations or forecasts."])
  stateFingerprint := ""

/-- `build_pricing_timing_scenario_state`. -/
def buildPricingTimingScenarioState
    (fromisoformat : DateFromisoformat) (registry : PricingTimingRegistry)
    (context : CertifiedScenarioBaseline F) (evidenceSet : ScenarioEvidenceSet) :
    Except String (PricingTimingScenarioState F) := do
  validateFp context.contextFingerprint "scenario context fingerprint"
  validateFp evidenceSet.evidenceSetFingerprint "scenario evidence fingerprint"
  require (evidenceSet.scenarioId = context.scenarioId)
    "scenario identity mismatch"
  require (evidenceSet.scenarioContextFingerprint =
    context.contextFingerprint) "scenario context/evidence lineage mismatch"
  let pricing ← compareWithReference context registry.price pricePosition
  let timing ← compareWithReference context registry.date
    (listingTiming fromisoformat)
  let state := draftPricingTiming context evidenceSet pricing timing
  let fingerprint ← state.payload.sha256
  return { state with stateFingerprint := fingerprint }

/-- What `build_pricing_timing_scenario_state` checks. -/
structure PricingTimingAcceptable (context : CertifiedScenarioBaseline F)
    (evidenceSet : ScenarioEvidenceSet) : Prop where
  contextFingerprint : Sha256.isHex64 context.contextFingerprint = true
  evidenceFingerprint : Sha256.isHex64 evidenceSet.evidenceSetFingerprint = true
  scenario : evidenceSet.scenarioId = context.scenarioId
  context : evidenceSet.scenarioContextFingerprint = context.contextFingerprint

theorem buildPricingTimingScenarioState_eq_ok
    {fromisoformat : DateFromisoformat} {registry : PricingTimingRegistry}
    {context : CertifiedScenarioBaseline F} {evidenceSet : ScenarioEvidenceSet}
    {state : PricingTimingScenarioState F} :
    buildPricingTimingScenarioState fromisoformat registry context
        evidenceSet = .ok state ↔
      PricingTimingAcceptable context evidenceSet ∧
        ∃ pricing timing fingerprint,
          compareWithReference context registry.price pricePosition =
              .ok pricing ∧
            compareWithReference context registry.date
                (listingTiming fromisoformat) = .ok timing ∧
              (draftPricingTiming context evidenceSet pricing
                  timing).payload.sha256 = .ok fingerprint ∧
                { draftPricingTiming context evidenceSet pricing timing with
                  stateFingerprint := fingerprint } = state := by
  simp only [buildPricingTimingScenarioState, bind_eq_ok, require_eq_ok,
    exists_const, validateFp, pure_eq_ok]
  constructor
  · rintro ⟨contextFingerprint, evidenceFingerprint, scenario, same, pricing,
      priced, timing, timed, fingerprint, hashed, made⟩
    exact ⟨⟨contextFingerprint, evidenceFingerprint, scenario, same⟩, pricing,
      timing, fingerprint, priced, timed, hashed, made⟩
  · rintro ⟨acceptable, pricing, timing, fingerprint, priced, timed, hashed, made⟩
    exact ⟨acceptable.contextFingerprint, acceptable.evidenceFingerprint,
      acceptable.scenario, acceptable.context, pricing, priced, timing, timed,
      fingerprint, hashed, made⟩

end SanTanHeights.Scenario
