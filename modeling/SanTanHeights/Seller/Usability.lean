import SanTanHeights.Seller.ChangeLedger

/-!
# What intelligence can be used for

Every dimension of a state is assessed by itself, from its item and from how
it changed.
-/

namespace SanTanHeights.Seller

open Foundation Foundation.Json Foundation.Sorting Foundation.Outcome Shared
open Foundation.Keyed
open Community (texts)
open Community.History (mem_sortedSet sortedSet)

/-- What is read of a usability registry. -/
structure UsabilityRegistry where
  blockingConflictStates : List String
  reviewChangeStates : List String
  reviewSignificanceClasses : List String
  limitedSignificanceClasses : List String

/-- `m13-007f-usability-v1.0.yaml`. -/
def usabilityRegistry : UsabilityRegistry where
  blockingConflictStates := ["UNRESOLVED_CONFLICT"]
  reviewChangeStates := ["STALE"]
  reviewSignificanceClasses := ["REVIEW_REQUIRED"]
  limitedSignificanceClasses := ["INSUFFICIENT_INFORMATION"]

inductive UsabilityState where
  | usable
  | usableWithLimitation
  | reviewRequired
  | blocked
  | unknown
  deriving DecidableEq, Repr

def UsabilityState.code : UsabilityState → String
  | usable => "USABLE"
  | usableWithLimitation => "USABLE_WITH_LIMITATION"
  | reviewRequired => "REVIEW_REQUIRED"
  | blocked => "BLOCKED"
  | unknown => "UNKNOWN"

structure DimensionUsability where
  dimension : String
  usabilityState : UsabilityState
  reasons : List String
  currentItemFingerprint : Option String
  deltaFingerprint : String
  limitations : List String
  assessmentFingerprint : String
  deriving DecidableEq, Repr

namespace DimensionUsability

/-- What the fingerprint of an assessment covers. -/
def payload (assessment : DimensionUsability) : List (String × Json) :=
  [("dimension", .str assessment.dimension),
    ("usability_state", .str assessment.usabilityState.code),
    ("reasons", texts assessment.reasons),
    ("current_item_fingerprint", .ofOptional assessment.currentItemFingerprint),
    ("delta_fingerprint", .str assessment.deltaFingerprint),
    ("limitations", texts assessment.limitations)]

/-- `asdict(assessment)`. -/
def asdict (assessment : DimensionUsability) : Json :=
  .obj (assessment.payload ++ [("assessment_fingerprint", .str assessment.assessmentFingerprint)])

@[simp] theorem serializable_payload (assessment : DimensionUsability) :
    Serializable (.obj assessment.payload) := by
  simp [payload]

@[simp] theorem serializable_asdict (assessment : DimensionUsability) :
    Serializable assessment.asdict := by
  simp [asdict, payload]

end DimensionUsability

inductive FrameworkStatus where
  | partiallyBlocked
  | reviewRequired
  | limited
  | ready
  deriving DecidableEq, Repr

def FrameworkStatus.code : FrameworkStatus → String
  | partiallyBlocked => "PARTIALLY_BLOCKED"
  | reviewRequired => "REVIEW_REQUIRED"
  | limited => "LIMITED"
  | ready => "READY"

structure IntelligenceUsabilityFramework where
  frameworkId : String
  propertyId : String
  communityId : String
  currentStateFingerprint : String
  changeLedgerFingerprint : String
  assessments : List DimensionUsability
  staleDependencies : List String
  frameworkStatus : FrameworkStatus
  policyVersion : String
  frameworkFingerprint : String
  deriving DecidableEq, Repr

namespace IntelligenceUsabilityFramework

/-- What the fingerprint of a framework covers. -/
def payload (framework : IntelligenceUsabilityFramework) : Json :=
  .obj [("framework_id", .str framework.frameworkId),
      ("property_id", .str framework.propertyId),
      ("community_id", .str framework.communityId),
      ("current_state_fingerprint", .str framework.currentStateFingerprint),
      ("change_ledger_fingerprint", .str framework.changeLedgerFingerprint),
      ("assessments", .arr (framework.assessments.map DimensionUsability.asdict)),
      ("stale_dependencies", texts framework.staleDependencies),
      ("framework_status", .str framework.frameworkStatus.code),
      ("policy_version", .str framework.policyVersion)]

@[simp] theorem serializable_payload (framework : IntelligenceUsabilityFramework) :
    Serializable framework.payload := by
  simp [payload]

end IntelligenceUsabilityFramework

/-- A verdict on a dimension. -/
structure Usability where
  state : UsabilityState
  reason : String
  deriving DecidableEq, Repr

/-- The verdict on an item that changed as a delta says. -/
def judgeItem (registry : UsabilityRegistry) (item : UnifiedIntelligenceItem)
    (delta : IntelligenceDelta) : Usability :=
  if item.conflictState ∈ registry.blockingConflictStates then
    ⟨.blocked, "Unresolved evidence conflict blocks this dimension."⟩
  else if item.freshnessState = "STALE" ∨
      delta.changeState.code ∈ registry.reviewChangeStates then
    ⟨.reviewRequired, "Stale evidence requires review before downstream use."⟩
  else if delta.significanceClass ∈ registry.reviewSignificanceClasses then
    ⟨.reviewRequired, "Governed significance requires human review."⟩
  else if stated item.limitation ≠ [] ∨
      delta.significanceClass ∈ registry.limitedSignificanceClasses then
    ⟨.usableWithLimitation, "Intelligence remains usable only with explicit limitation context."⟩
  else
    ⟨.usable, "No blocking conflict, stale state, unknown, or limiting " ++ "condition applies."⟩

/-- The verdict on a dimension of a state. -/
def judgeDimension (registry : UsabilityRegistry) (state : UnifiedSellerIntelligenceState)
    (dimension : String) (delta : IntelligenceDelta) :
    Except String Usability :=
  if dimension ∈ state.unknowns then
    .ok ⟨.unknown, "Current intelligence for this dimension is explicitly unknown."⟩
  else do
    let item ← orRaise (state.itemOf dimension)
      "known dimension requires current intelligence item"
    return judgeItem registry item delta

/-- The assessment of a dimension, up to its fingerprint. -/
def draftAssessment (state : UnifiedSellerIntelligenceState) (dimension : String)
    (delta : IntelligenceDelta) (verdict : Usability) :
    DimensionUsability where
  dimension := dimension
  usabilityState := verdict.state
  reasons := [verdict.reason]
  currentItemFingerprint := (state.itemOf dimension).map UnifiedIntelligenceItem.itemFingerprint
  deltaFingerprint := delta.deltaFingerprint
  limitations := sortedSet (((state.itemOf dimension).map fun item =>
      stated item.limitation).getD [] ++ state.limitations)
  assessmentFingerprint := ""

/-- The assessment of a dimension. -/
def assessDimension (registry : UsabilityRegistry) (state : UnifiedSellerIntelligenceState)
    (ledger : SellerIntelligenceChangeLedger) (dimension : String) :
    Except String DimensionUsability := do
  let delta ← orRaise
    (latest IntelligenceDelta.dimension ledger.deltas dimension) dimension
  let verdict ← judgeDimension registry state dimension delta
  let assessment := draftAssessment state dimension delta verdict
  let fingerprint ← hash (.obj assessment.payload)
  return { assessment with assessmentFingerprint := fingerprint }

/-- The status of a framework of some assessments. -/
def frameworkStatus (assessments : List DimensionUsability) (staleDependencies : List String) :
    FrameworkStatus :=
  let states := assessments.map DimensionUsability.usabilityState
  if .blocked ∈ states then .partiallyBlocked
  else if .reviewRequired ∈ states ∨ staleDependencies ≠ [] then
    .reviewRequired
  else if .unknown ∈ states ∨ .usableWithLimitation ∈ states then .limited
  else .ready

/-- The arguments of `assess_intelligence_usability`. -/
structure UsabilityCall where
  frameworkId : String
  currentState : UnifiedSellerIntelligenceState
  changeLedger : SellerIntelligenceChangeLedger
  policyVersion : String

/-- The framework of some assessments, up to its fingerprint. -/
def UsabilityCall.draftFramework
    (call : UsabilityCall) (assessments : List DimensionUsability) :
    IntelligenceUsabilityFramework where
  frameworkId := call.frameworkId
  propertyId := call.currentState.propertyId
  communityId := call.currentState.communityId
  currentStateFingerprint := call.currentState.stateFingerprint
  changeLedgerFingerprint := call.changeLedger.ledgerFingerprint
  assessments := sortedBy DimensionUsability.dimension assessments
  staleDependencies := sortedSet call.currentState.staleDependencies
  frameworkStatus := frameworkStatus assessments call.currentState.staleDependencies
  policyVersion := call.policyVersion
  frameworkFingerprint := ""

/-- `assess_intelligence_usability`. -/
def assessIntelligenceUsability (registry : UsabilityRegistry) (call : UsabilityCall) :
    Except String IntelligenceUsabilityFramework := do
  require (Text.isBlank call.frameworkId = false ∧ Text.isBlank call.policyVersion = false)
    "framework identity fields required"
  require (call.changeLedger.currentStateFingerprint = call.currentState.stateFingerprint)
    "change ledger/current state fingerprint mismatch"
  require (call.changeLedger.propertyId = call.currentState.propertyId)
    "property mismatch"
  require (call.changeLedger.communityId = call.currentState.communityId)
    "community mismatch"
  require ((call.currentState.items.map UnifiedIntelligenceItem.dimension).Nodup)
    "duplicate current-state dimension"
  require ((call.changeLedger.deltas.map IntelligenceDelta.dimension).Nodup)
    "duplicate delta dimension"
  require (sortedSet call.currentState.dimensions =
    sortedSet (call.changeLedger.deltas.map IntelligenceDelta.dimension))
    ("current-state dimensions must exactly match change-ledger dimensions")
  let assessments ← (sortedSet call.currentState.dimensions).mapM
    (assessDimension registry call.currentState call.changeLedger)
  let framework := call.draftFramework assessments
  let fingerprint ← hash framework.payload
  return { framework with frameworkFingerprint := fingerprint }

variable {registry : UsabilityRegistry}
  {state : UnifiedSellerIntelligenceState} {dimension : String}
  {call : UsabilityCall}

/-! ## When a framework is made -/

theorem judgeDimension_eq_ok {delta : IntelligenceDelta} {verdict : Usability}
    (known : dimension ∉ state.unknowns) :
    judgeDimension registry state dimension delta = .ok verdict ↔
      ∃ item, state.itemOf dimension = some item ∧ judgeItem registry item delta = verdict := by
  rw [judgeDimension, if_neg known]
  simp only [bind_eq_ok, orRaise_eq_ok, pure_eq_ok]

/-- Every dimension that a state has gets a verdict. -/
theorem exists_judgeDimension
    {registry : UsabilityRegistry} {state : UnifiedSellerIntelligenceState}
    {dimension : String} (delta : IntelligenceDelta) (present : dimension ∈ state.dimensions) :
    ∃ verdict, judgeDimension registry state dimension delta = .ok verdict := by
  by_cases unknown : dimension ∈ state.unknowns
  · exact ⟨_, if_pos unknown⟩
  · have known := (UnifiedSellerIntelligenceState.mem_dimensions.mp present).resolve_right unknown
    obtain ⟨item, found⟩ := exists_latest_iff.mpr known
    exact ⟨_, (judgeDimension_eq_ok unknown).mpr ⟨item, found, rfl⟩⟩

theorem assessDimension_eq_ok {ledger : SellerIntelligenceChangeLedger}
    {assessment : DimensionUsability} :
    assessDimension registry state ledger dimension = .ok assessment ↔
      ∃ delta verdict fingerprint,
        latest IntelligenceDelta.dimension ledger.deltas dimension = some delta ∧
        judgeDimension registry state dimension delta = .ok verdict ∧
        hash (.obj (draftAssessment state dimension delta verdict).payload) = .ok fingerprint ∧
        { draftAssessment state dimension delta verdict with
          assessmentFingerprint := fingerprint } = assessment := by
  simp only [assessDimension, bind_eq_ok, orRaise_eq_ok, pure_eq_ok]
  constructor
  · rintro ⟨delta, found, verdict, judged, fingerprint, hashed, made⟩
    exact ⟨delta, verdict, fingerprint, found, judged, hashed, made⟩
  · rintro ⟨delta, verdict, fingerprint, found, judged, hashed, made⟩
    exact ⟨delta, found, verdict, judged, fingerprint, hashed, made⟩

theorem dimension_of_assessDimension
    {ledger : SellerIntelligenceChangeLedger} {assessment : DimensionUsability}
    (assessed : assessDimension registry state ledger dimension = .ok assessment) :
    assessment.dimension = dimension := by
  obtain ⟨delta, verdict, fingerprint, _, _, _, rfl⟩ := assessDimension_eq_ok.mp assessed
  rfl

/-- A dimension of both the state and the ledger is assessed. -/
theorem exists_assessDimension
    {registry : UsabilityRegistry} {state : UnifiedSellerIntelligenceState}
    {ledger : SellerIntelligenceChangeLedger} {dimension : String}
    (present : dimension ∈ state.dimensions)
    (compared : dimension ∈ ledger.deltas.map IntelligenceDelta.dimension) :
    ∃ assessment, assessDimension registry state ledger dimension = .ok assessment := by
  obtain ⟨delta, found⟩ := exists_latest_iff.mpr compared
  obtain ⟨verdict, judged⟩ := @exists_judgeDimension registry _ _ delta present
  obtain ⟨fingerprint, hashed⟩ := exists_hash_iff.mpr
    (draftAssessment state dimension delta verdict).serializable_payload
  exact ⟨_, assessDimension_eq_ok.mpr ⟨delta, verdict, fingerprint, found, judged, hashed, rfl⟩⟩

/-- What `assess_intelligence_usability` asks of its arguments. -/
structure UsabilityCall.Acceptable (call : UsabilityCall) : Prop where
  identified : Text.isBlank call.frameworkId = false ∧ Text.isBlank call.policyVersion = false
  currentState : call.changeLedger.currentStateFingerprint = call.currentState.stateFingerprint
  property : call.changeLedger.propertyId = call.currentState.propertyId
  community : call.changeLedger.communityId = call.currentState.communityId
  items : (call.currentState.items.map UnifiedIntelligenceItem.dimension).Nodup
  deltas : (call.changeLedger.deltas.map IntelligenceDelta.dimension).Nodup
  covered : sortedSet call.currentState.dimensions =
    sortedSet (call.changeLedger.deltas.map IntelligenceDelta.dimension)

theorem assessIntelligenceUsability_eq_ok {framework : IntelligenceUsabilityFramework} :
    assessIntelligenceUsability registry call = .ok framework ↔
      call.Acceptable ∧
        ∃ assessments, (sortedSet call.currentState.dimensions).mapM
            (assessDimension registry call.currentState call.changeLedger) = .ok assessments ∧
          ∃ fingerprint, hash (call.draftFramework assessments).payload =
              .ok fingerprint ∧
            { call.draftFramework assessments with
              frameworkFingerprint := fingerprint } = framework := by
  simp only [assessIntelligenceUsability, bind_eq_ok, require_eq_ok, exists_const, pure_eq_ok]
  constructor
  · rintro ⟨identified, currentState, property, community, items, deltas, covered, made⟩
    exact ⟨⟨identified, currentState, property, community, items, deltas, covered⟩, made⟩
  · rintro ⟨acceptable, made⟩
    exact ⟨acceptable.identified, acceptable.currentState,
      acceptable.property, acceptable.community, acceptable.items,
      acceptable.deltas, acceptable.covered, made⟩

/-- Arguments that are accepted are assessed. -/
theorem exists_assessIntelligenceUsability_iff :
    (∃ framework, assessIntelligenceUsability registry call = .ok framework) ↔ call.Acceptable := by
  constructor
  · rintro ⟨framework, assessed⟩
    exact (assessIntelligenceUsability_eq_ok.mp assessed).1
  · intro acceptable
    obtain ⟨assessments, assessed⟩ := exists_mapM_ok fun dimension present =>
      @exists_assessDimension registry call.currentState call.changeLedger
        dimension (mem_sortedSet.mp present)
        (mem_sortedSet.mp (acceptable.covered ▸ present))
    obtain ⟨fingerprint, hashed⟩ := exists_hash_iff.mpr
      (call.draftFramework assessments).serializable_payload
    exact ⟨_, assessIntelligenceUsability_eq_ok.mpr
      ⟨acceptable, assessments, assessed, fingerprint, hashed, rfl⟩⟩

/-- There is one assessment for each dimension of the state. -/
theorem mem_assessments_dimension {framework : IntelligenceUsabilityFramework}
    (assessed : assessIntelligenceUsability registry call = .ok framework)
    (dimension : String) :
    dimension ∈ framework.assessments.map DimensionUsability.dimension ↔
      dimension ∈ call.currentState.dimensions := by
  obtain ⟨_, assessments, each, fingerprint, _, rfl⟩ :=
    assessIntelligenceUsability_eq_ok.mp assessed
  have same : (sortedSet call.currentState.dimensions).map id =
      assessments.map DimensionUsability.dimension :=
    map_eq_of_mapM each fun _ _ one =>
      (dimension_of_assessDimension one).symm
  rw [List.map_id] at same
  have permuted := (sortedBy_perm DimensionUsability.dimension
    assessments).map DimensionUsability.dimension
  refine permuted.mem_iff.trans ?_
  rw [← same, mem_sortedSet]

end SanTanHeights.Seller
