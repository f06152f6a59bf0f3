import SanTanHeights.Seller.Bundle

/-!
# The current state

The candidates of the dimensions that apply become the items of the current
state; dimensions that do not apply are excluded, and the others stay unknown.
-/

namespace SanTanHeights.Seller

open Foundation Foundation.Json Foundation.Sorting Foundation.Outcome
open Community (texts)
open Community.History (sortedSet)

structure IntelligenceCandidate where
  candidateId : String
  dimension : String
  value : Json
  sourceClass : String
  sourceArtifactId : String
  sourceFingerprint : String
  sourceTime : Option String
  freshnessState : String
  conflictState : String
  limitation : Option String
  deriving Repr

namespace IntelligenceCandidate

/-- The evidence of a candidate, up to its fingerprint. -/
def draftRef (candidate : IntelligenceCandidate) : IntelligenceSourceRef where
  sourceClass := candidate.sourceClass
  sourceArtifactId := candidate.sourceArtifactId
  sourceFingerprint := candidate.sourceFingerprint
  sourceTime := candidate.sourceTime
  sourceRefFingerprint := ""

/-- The item of a candidate, up to its fingerprint. -/
def draftItem (candidate : IntelligenceCandidate) (ref : IntelligenceSourceRef) :
    UnifiedIntelligenceItem where
  itemId := candidate.candidateId
  dimension := candidate.dimension
  value := candidate.value
  sourceClass := candidate.sourceClass
  freshnessState := candidate.freshnessState
  conflictState := candidate.conflictState
  changeState := "UNCHANGED"
  significanceClass := "INFORMATIONAL"
  evidenceRefs := [ref]
  limitation := candidate.limitation
  itemFingerprint := ""

end IntelligenceCandidate

/-- The item of a candidate. -/
def materialize (registry : IntelligenceRegistry) (candidate : IntelligenceCandidate) :
    Except String UnifiedIntelligenceItem := do
  let ref ← makeSourceRef registry candidate.draftRef
  makeIntelligenceItem registry (candidate.draftItem ref)

structure CurrentStateBuildResult where
  state : UnifiedSellerIntelligenceState
  applicabilitySetFingerprint : String
  inputBundleFingerprint : String
  excludedDimensions : List String
  unknownDimensions : List String
  resultFingerprint : String
  deriving Repr

/-- What the fingerprint of a result covers. -/
def CurrentStateBuildResult.payload (result : CurrentStateBuildResult) : Json :=
  .obj [("state_fingerprint", .str result.state.stateFingerprint),
      ("applicability_set_fingerprint", .str result.applicabilitySetFingerprint),
      ("input_bundle_fingerprint", .str result.inputBundleFingerprint),
      ("excluded_dimensions", texts result.excludedDimensions),
      ("unknown_dimensions", texts result.unknownDimensions)]

/-- The arguments of `build_current_unified_state`. -/
structure CurrentStateCall where
  intelligenceStateId : String
  bundle : GovernedInputBundle
  applicabilitySet : ApplicabilitySet
  candidates : List IntelligenceCandidate
  registry : IntelligenceRegistry
  policyVersion : String
  schemaVersion : String

/-- What a decision contributes to the current state. -/
inductive Contribution where
  | item (candidate : IntelligenceCandidate) (item : UnifiedIntelligenceItem)
  | unknown (decision : ApplicabilityDecision)
  | exclusion (dimension : String)

namespace Contribution

/-- The items among some contributions. -/
def items (contributions : List Contribution) : List UnifiedIntelligenceItem :=
  contributions.filterMap fun contribution => match contribution with
    | item _ made => some made
    | _ => none

/-- The unknowns among some contributions. -/
def unknowns (contributions : List Contribution) : List String :=
  contributions.flatMap fun contribution => match contribution with
    | unknown decision => decision.dimension :: decision.unknowns
    | _ => []

/-- The exclusions among some contributions. -/
def exclusions (contributions : List Contribution) : List String :=
  contributions.filterMap fun contribution => match contribution with
    | exclusion dimension => some dimension
    | _ => none

/-- The limitations of the candidates among some contributions. -/
def limitations (contributions : List Contribution) : List String :=
  contributions.flatMap fun contribution => match contribution with
    | item candidate _ => stated candidate.limitation
    | _ => []

end Contribution

namespace CurrentStateCall

/-- The decisions in the order of their dimensions. -/
def decisions (call : CurrentStateCall) : List ApplicabilityDecision :=
  sortedBy ApplicabilityDecision.dimension call.applicabilitySet.decisions

/-- The candidates of a dimension. -/
def matching (call : CurrentStateCall) (dimension : String) : List IntelligenceCandidate :=
  (sortedBy (fun candidate : IntelligenceCandidate =>
    toLex (candidate.dimension, candidate.candidateId))
      call.candidates).filter fun candidate =>
        candidate.dimension = dimension

/-- What a decision contributes. -/
def contribute (call : CurrentStateCall) (decision : ApplicabilityDecision) :
    Except String Contribution :=
  if decision.applicabilityState = "BLOCKED" then
    .error "blocked applicability decision prevents current-state build"
  else if decision.applicabilityState = "UNKNOWN" then
    .ok (.unknown decision)
  else if decision.applicabilityState = "NOT_APPLICABLE" then
    .ok (.exclusion decision.dimension)
  else do
    require (decision.applicabilityState = "APPLICABLE")
      "unsupported applicability state"
    let candidate ← orRaise
      (Community.History.theOnly (call.matching decision.dimension))
      "applicable dimension requires exactly one intelligence candidate"
    let item ← materialize call.registry candidate
    return .item candidate item

/-- The state of some contributions, up to its fingerprint. -/
def draftState (call : CurrentStateCall) (contributions : List Contribution) :
    UnifiedSellerIntelligenceState where
  intelligenceStateId := call.intelligenceStateId
  propertyId := call.bundle.propertyId
  communityId := call.bundle.communityId
  temporalBoundary := call.bundle.temporalBoundary
  priorStateFingerprint := none
  items := Contribution.items contributions
  unknowns := sortedSet (Contribution.unknowns contributions)
  limitations := sortedSet
    ((call.decisions.flatMap fun decision => stated decision.limitation) ++
      Contribution.limitations contributions)
  staleDependencies := call.bundle.staleSystems
  policyVersion := call.policyVersion
  schemaVersion := call.schemaVersion
  stateFingerprint := ""

/-- The result of a state, up to its fingerprint. -/
def draftResult (call : CurrentStateCall) (contributions : List Contribution)
    (state : UnifiedSellerIntelligenceState) : CurrentStateBuildResult where
  state := state
  applicabilitySetFingerprint := call.applicabilitySet.setFingerprint
  inputBundleFingerprint := call.bundle.bundleFingerprint
  excludedDimensions := sortedSet (Contribution.exclusions contributions)
  unknownDimensions := sortedSet (Contribution.unknowns contributions)
  resultFingerprint := ""

end CurrentStateCall

/-- `build_current_unified_state`. -/
def buildCurrentUnifiedState (call : CurrentStateCall) :
    Except String CurrentStateBuildResult := do
  require (call.bundle.bundleStatus = "READY") "input bundle must be READY"
  require (call.applicabilitySet.inputBundleFingerprint = call.bundle.bundleFingerprint)
    "applicability/input bundle fingerprint mismatch"
  require (call.applicabilitySet.subjectPropertyId = call.bundle.propertyId)
    "applicability property mismatch"
  require (call.applicabilitySet.communityId = call.bundle.communityId)
    "applicability community mismatch"
  require (call.applicabilitySet.temporalBoundary = call.bundle.temporalBoundary)
    "applicability temporal boundary mismatch"
  require ((call.applicabilitySet.decisions.map ApplicabilityDecision.dimension).Nodup)
    "duplicate applicability dimension"
  require ((call.candidates.map IntelligenceCandidate.dimension).Nodup)
    "duplicate candidate dimension"
  let contributions ← call.decisions.mapM call.contribute
  require (∀ candidate ∈ call.candidates, candidate.dimension ∈
      call.applicabilitySet.decisions.map ApplicabilityDecision.dimension)
    "candidate exists without governed applicability decision"
  let state ← buildUnifiedState (call.draftState contributions)
  let result := call.draftResult contributions state
  let fingerprint ← hash result.payload
  return { result with resultFingerprint := fingerprint }

end SanTanHeights.Seller
