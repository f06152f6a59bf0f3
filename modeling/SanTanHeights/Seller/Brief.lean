import SanTanHeights.Seller.CurrentState
import SanTanHeights.Seller.Usability

/-!
# The seller decision brief

The current state, its changes and its usability, put side by side dimension
by dimension.
-/

namespace SanTanHeights.Seller

open Foundation Foundation.Json Foundation.Sorting Foundation.Outcome Shared
open Foundation.Keyed
open Community (texts)
open Community.History (mem_sortedSet sortedSet)

structure SellerBriefDimension where
  dimension : String
  usabilityState : UsabilityState
  changeState : ChangeState
  significanceClass : String
  currentValue : Json
  itemFingerprint : Option String
  deltaFingerprint : String
  usabilityFingerprint : String
  evidenceSourceFingerprints : List String
  limitations : List String
  reviewReasons : List String
  dimensionFingerprint : String
  deriving Repr

namespace SellerBriefDimension

/-- What the fingerprint of a row covers. -/
def payload (row : SellerBriefDimension) : List (String × Json) :=
  [("dimension", .str row.dimension), ("usability_state", .str row.usabilityState.code),
    ("change_state", .str row.changeState.code),
    ("significance_class", .str row.significanceClass), ("current_value", row.currentValue),
    ("item_fingerprint", .ofOptional row.itemFingerprint),
    ("delta_fingerprint", .str row.deltaFingerprint),
    ("usability_fingerprint", .str row.usabilityFingerprint),
    ("evidence_source_fingerprints", texts row.evidenceSourceFingerprints),
    ("limitations", texts row.limitations), ("review_reasons", texts row.reviewReasons)]

/-- `asdict(row)`. -/
def asdict (row : SellerBriefDimension) : Json :=
  .obj (row.payload ++ [("dimension_fingerprint", .str row.dimensionFingerprint)])

@[simp] theorem serializable_payload (row : SellerBriefDimension) :
    Serializable (.obj row.payload) ↔ Serializable row.currentValue := by
  simp [payload]

@[simp] theorem serializable_asdict (row : SellerBriefDimension) :
    Serializable row.asdict ↔ Serializable row.currentValue := by
  simp [asdict, payload]

end SellerBriefDimension

structure GovernedSellerDecisionBrief where
  briefId : String
  propertyId : String
  communityId : String
  temporalBoundary : String
  currentStateFingerprint : String
  changeLedgerFingerprint : String
  usabilityFrameworkFingerprint : String
  dimensions : List SellerBriefDimension
  unknowns : List String
  limitations : List String
  exclusions : List String
  reviewRequiredDimensions : List String
  blockedDimensions : List String
  policyVersion : String
  briefFingerprint : String
  deriving Repr

namespace GovernedSellerDecisionBrief

/-- What the fingerprint of a brief covers. -/
def payload (brief : GovernedSellerDecisionBrief) : Json :=
  .obj [("brief_id", .str brief.briefId), ("property_id", .str brief.propertyId),
      ("community_id", .str brief.communityId),
      ("temporal_boundary", .str brief.temporalBoundary),
      ("current_state_fingerprint", .str brief.currentStateFingerprint),
      ("change_ledger_fingerprint", .str brief.changeLedgerFingerprint),
      ("usability_framework_fingerprint", .str brief.usabilityFrameworkFingerprint),
      ("dimensions", .arr (brief.dimensions.map SellerBriefDimension.asdict)),
      ("unknowns", texts brief.unknowns), ("limitations", texts brief.limitations),
      ("exclusions", texts brief.exclusions),
      ("review_required_dimensions", texts brief.reviewRequiredDimensions),
      ("blocked_dimensions", texts brief.blockedDimensions),
      ("policy_version", .str brief.policyVersion)]

@[simp] theorem serializable_payload (brief : GovernedSellerDecisionBrief) :
    Serializable brief.payload ↔ ∀ row ∈ brief.dimensions, Serializable row.currentValue := by
  simp [payload]

end GovernedSellerDecisionBrief

/-- The arguments of `assemble_seller_decision_brief`. -/
structure BriefCall where
  briefId : String
  currentResult : CurrentStateBuildResult
  changeLedger : SellerIntelligenceChangeLedger
  usability : IntelligenceUsabilityFramework
  policyVersion : String

/-- The usability states that a reviewer is shown. -/
def reviewedStates : List UsabilityState :=
  [.blocked, .reviewRequired, .unknown, .usableWithLimitation]

namespace BriefCall

/-- The state that the brief is about. -/
def state (call : BriefCall) : UnifiedSellerIntelligenceState :=
  call.currentResult.state

/-- The row of a dimension, up to its fingerprint. -/
def draftRow (call : BriefCall) (dimension : String) (delta : IntelligenceDelta)
    (assessment : DimensionUsability) : SellerBriefDimension where
  dimension := dimension
  usabilityState := assessment.usabilityState
  changeState := delta.changeState
  significanceClass := delta.significanceClass
  currentValue := call.state.valueOf dimension
  itemFingerprint := (call.state.itemOf dimension).map UnifiedIntelligenceItem.itemFingerprint
  deltaFingerprint := delta.deltaFingerprint
  usabilityFingerprint := assessment.assessmentFingerprint
  evidenceSourceFingerprints := ((call.state.itemOf dimension).map
    fun item => sortedBy id (item.evidenceRefs.map IntelligenceSourceRef.sourceFingerprint)).getD []
  limitations := assessment.limitations
  reviewReasons := assessment.reasons
  dimensionFingerprint := ""

/-- The row of a dimension. -/
def makeRow (call : BriefCall) (dimension : String) :
    Except String SellerBriefDimension := do
  let delta ← orRaise (latest IntelligenceDelta.dimension
    call.changeLedger.deltas dimension) dimension
  let assessment ← orRaise (latest DimensionUsability.dimension
    call.usability.assessments dimension) dimension
  let row := call.draftRow dimension delta assessment
  let fingerprint ← hash (.obj row.payload)
  return { row with dimensionFingerprint := fingerprint }

/-- The dimensions of some rows in some usability states. -/
def dimensionsIn (states : List UsabilityState) (rows : List SellerBriefDimension) :
    List String :=
  sortedSet ((rows.filter fun row => row.usabilityState ∈ states).map
    SellerBriefDimension.dimension)

/-- The brief of some rows, up to its fingerprint. -/
def draftBrief (call : BriefCall) (rows : List SellerBriefDimension) :
    GovernedSellerDecisionBrief where
  briefId := call.briefId
  propertyId := call.state.propertyId
  communityId := call.state.communityId
  temporalBoundary := call.state.temporalBoundary
  currentStateFingerprint := call.state.stateFingerprint
  changeLedgerFingerprint := call.changeLedger.ledgerFingerprint
  usabilityFrameworkFingerprint := call.usability.frameworkFingerprint
  dimensions := sortedBy SellerBriefDimension.dimension rows
  unknowns := sortedSet call.state.unknowns
  limitations := sortedSet call.state.limitations
  exclusions := sortedSet call.currentResult.excludedDimensions
  reviewRequiredDimensions := dimensionsIn reviewedStates rows
  blockedDimensions := dimensionsIn [.blocked] rows
  policyVersion := call.policyVersion
  briefFingerprint := ""

end BriefCall

/-- `assemble_seller_decision_brief`. -/
def assembleSellerDecisionBrief (call : BriefCall) :
    Except String GovernedSellerDecisionBrief := do
  require (Text.isBlank call.briefId = false ∧
    Text.isBlank call.policyVersion = false) "brief identity fields required"
  require (call.changeLedger.currentStateFingerprint = call.state.stateFingerprint)
    "change ledger/current state fingerprint mismatch"
  require (call.usability.currentStateFingerprint = call.state.stateFingerprint)
    "usability/current state fingerprint mismatch"
  require (call.usability.changeLedgerFingerprint = call.changeLedger.ledgerFingerprint)
    "usability/change ledger fingerprint mismatch"
  require (call.changeLedger.propertyId = call.state.propertyId ∧
    call.usability.propertyId = call.state.propertyId) "property mismatch"
  require (call.changeLedger.communityId = call.state.communityId ∧
    call.usability.communityId = call.state.communityId) "community mismatch"
  require (sortedSet call.state.dimensions =
      sortedSet (call.changeLedger.deltas.map IntelligenceDelta.dimension) ∧
    sortedSet call.state.dimensions = sortedSet (call.usability.assessments.map
        DimensionUsability.dimension))
    "brief input dimension coverage mismatch"
  let rows ← (sortedSet call.state.dimensions).mapM call.makeRow
  let brief := call.draftBrief rows
  let fingerprint ← hash brief.payload
  return { brief with briefFingerprint := fingerprint }

variable {call : BriefCall} {dimension : String} {row : SellerBriefDimension}

/-! ## When a brief is assembled -/

namespace BriefCall

theorem makeRow_eq_ok :
    call.makeRow dimension = .ok row ↔ ∃ delta assessment fingerprint,
        latest IntelligenceDelta.dimension call.changeLedger.deltas dimension = some delta ∧
        latest DimensionUsability.dimension call.usability.assessments dimension = some assessment ∧
        hash (.obj (call.draftRow dimension delta assessment).payload) = .ok fingerprint ∧
        { call.draftRow dimension delta assessment with
          dimensionFingerprint := fingerprint } = row := by
  simp only [makeRow, bind_eq_ok, orRaise_eq_ok, pure_eq_ok]
  constructor
  · rintro ⟨delta, changed, assessment, assessed, fingerprint, hashed, made⟩
    exact ⟨delta, assessment, fingerprint, changed, assessed, hashed, made⟩
  · rintro ⟨delta, assessment, fingerprint, changed, assessed, hashed, made⟩
    exact ⟨delta, changed, assessment, assessed, fingerprint, hashed, made⟩

theorem dimension_of_makeRow (made : call.makeRow dimension = .ok row) :
    row.dimension = dimension := by
  obtain ⟨delta, assessment, fingerprint, _, _, _, rfl⟩ := makeRow_eq_ok.mp made
  rfl

/-- A row shows the value of the item of its dimension. -/
theorem currentValue_of_makeRow (made : call.makeRow dimension = .ok row) :
    row.currentValue = call.state.valueOf dimension := by
  obtain ⟨delta, assessment, fingerprint, _, _, _, rfl⟩ := makeRow_eq_ok.mp made
  rfl

/-- What `assemble_seller_decision_brief` asks of its arguments. -/
structure Acceptable (call : BriefCall) : Prop where
  identified : Text.isBlank call.briefId = false ∧ Text.isBlank call.policyVersion = false
  changed : call.changeLedger.currentStateFingerprint = call.state.stateFingerprint
  assessed : call.usability.currentStateFingerprint = call.state.stateFingerprint
  linked : call.usability.changeLedgerFingerprint = call.changeLedger.ledgerFingerprint
  property : call.changeLedger.propertyId = call.state.propertyId ∧
    call.usability.propertyId = call.state.propertyId
  community : call.changeLedger.communityId = call.state.communityId ∧
    call.usability.communityId = call.state.communityId
  covered : sortedSet call.state.dimensions =
      sortedSet (call.changeLedger.deltas.map IntelligenceDelta.dimension) ∧
    sortedSet call.state.dimensions = sortedSet (call.usability.assessments.map
        DimensionUsability.dimension)

end BriefCall

theorem assembleSellerDecisionBrief_eq_ok {brief : GovernedSellerDecisionBrief} :
    assembleSellerDecisionBrief call = .ok brief ↔ call.Acceptable ∧
        ∃ rows, (sortedSet call.state.dimensions).mapM call.makeRow = .ok rows ∧
          ∃ fingerprint, hash (call.draftBrief rows).payload = .ok fingerprint ∧
            { call.draftBrief rows with
              briefFingerprint := fingerprint } = brief := by
  simp only [assembleSellerDecisionBrief, bind_eq_ok, require_eq_ok, exists_const, pure_eq_ok]
  constructor
  · rintro ⟨identified, changed, assessed, linked, property, community, covered, made⟩
    exact ⟨⟨identified, changed, assessed, linked, property, community, covered⟩, made⟩
  · rintro ⟨acceptable, made⟩
    exact ⟨acceptable.identified, acceptable.changed, acceptable.assessed,
      acceptable.linked, acceptable.property, acceptable.community, acceptable.covered, made⟩

/-- Arguments that are accepted give a brief when the values of the items can
be written. -/
theorem exists_assembleSellerDecisionBrief (acceptable : call.Acceptable)
    (written : ∀ item ∈ call.state.items, Serializable item.value) :
    ∃ brief, assembleSellerDecisionBrief call = .ok brief := by
  have each : ∀ dimension ∈ sortedSet call.state.dimensions,
      ∃ row, call.makeRow dimension = .ok row := by
    intro dimension present
    have compared := present
    have assessed := present
    rw [acceptable.covered.1, mem_sortedSet] at compared
    rw [acceptable.covered.2, mem_sortedSet] at assessed
    obtain ⟨delta, deltaFound⟩ := exists_latest_iff.mpr compared
    obtain ⟨assessment, assessmentFound⟩ := exists_latest_iff.mpr assessed
    obtain ⟨fingerprint, hashed⟩ := exists_hash_iff.mpr
      ((call.draftRow dimension delta assessment).serializable_payload.mpr
        (UnifiedSellerIntelligenceState.serializable_valueOf written dimension))
    exact ⟨_, BriefCall.makeRow_eq_ok.mpr ⟨delta, assessment, fingerprint,
      deltaFound, assessmentFound, hashed, rfl⟩⟩
  obtain ⟨rows, made⟩ := exists_mapM_ok each
  have values : ∀ row ∈ rows, Serializable row.currentValue :=
    forall_mem_of_mapM made fun dimension _ row one => by
      rw [BriefCall.currentValue_of_makeRow one]
      exact UnifiedSellerIntelligenceState.serializable_valueOf written dimension
  have shown : ∀ row ∈ (call.draftBrief rows).dimensions,
      Serializable row.currentValue :=
    fun row listed => values row ((mem_sortedBy _ _ _).mp listed)
  obtain ⟨fingerprint, hashed⟩ := exists_hash_iff.mpr
    ((call.draftBrief rows).serializable_payload.mpr shown)
  exact ⟨_, assembleSellerDecisionBrief_eq_ok.mpr
    ⟨acceptable, rows, made, fingerprint, hashed, rfl⟩⟩

/-- There is one row for each dimension of the state. -/
theorem mem_brief_dimension {brief : GovernedSellerDecisionBrief}
    (assembled : assembleSellerDecisionBrief call = .ok brief) (dimension : String) :
    dimension ∈ brief.dimensions.map SellerBriefDimension.dimension ↔
      dimension ∈ call.state.dimensions := by
  obtain ⟨_, rows, each, fingerprint, _, rfl⟩ := assembleSellerDecisionBrief_eq_ok.mp assembled
  have same : (sortedSet call.state.dimensions).map id =
      rows.map SellerBriefDimension.dimension :=
    map_eq_of_mapM each fun _ _ one =>
      (BriefCall.dimension_of_makeRow one).symm
  rw [List.map_id] at same
  have permuted := (sortedBy_perm SellerBriefDimension.dimension
    rows).map SellerBriefDimension.dimension
  refine permuted.mem_iff.trans ?_
  rw [← same, mem_sortedSet]

end SanTanHeights.Seller
