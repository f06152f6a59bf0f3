import SanTanHeights.Seller.UnifiedState

/-!
# What changed between two states

One delta for each dimension that either state has, with the significance
that a rule gives to the change.
-/

namespace SanTanHeights.Seller

open Foundation Foundation.Json Foundation.Outcome Shared
open Foundation.Keyed
open Community (texts)
open Community.History (mem_sortedSet sortedSet)

inductive ChangeState where
  | new
  | changed
  | unchanged
  | stale
  | resolved
  | noLongerApplicable
  | unknown
  deriving DecidableEq, Repr

def ChangeState.code : ChangeState → String
  | new => "NEW"
  | changed => "CHANGED"
  | unchanged => "UNCHANGED"
  | stale => "STALE"
  | resolved => "RESOLVED"
  | noLongerApplicable => "NO_LONGER_APPLICABLE"
  | unknown => "UNKNOWN"

structure SignificanceRule where
  ruleId : String
  dimension : String
  changeState : String
  significanceClass : String
  reason : String
  ruleFingerprint : String
  deriving DecidableEq, Repr

structure IntelligenceDelta where
  dimension : String
  changeState : ChangeState
  significanceClass : String
  significanceRuleId : String
  significanceReason : String
  priorItemFingerprint : Option String
  currentItemFingerprint : Option String
  priorValue : Json
  currentValue : Json
  priorUnknown : Bool
  currentUnknown : Bool
  deltaFingerprint : String
  deriving Repr

namespace IntelligenceDelta

/-- What the fingerprint of a delta covers. -/
def payload (delta : IntelligenceDelta) : List (String × Json) :=
  [("dimension", .str delta.dimension), ("change_state", .str delta.changeState.code),
    ("significance_class", .str delta.significanceClass),
    ("significance_rule_id", .str delta.significanceRuleId),
    ("significance_reason", .str delta.significanceReason),
    ("prior_item_fingerprint", .ofOptional delta.priorItemFingerprint),
    ("current_item_fingerprint", .ofOptional delta.currentItemFingerprint),
    ("prior_value", delta.priorValue), ("current_value", delta.currentValue),
    ("prior_unknown", .bool delta.priorUnknown),
    ("current_unknown", .bool delta.currentUnknown)]

/-- `asdict(delta)`. -/
def asdict (delta : IntelligenceDelta) : Json :=
  .obj (delta.payload ++ [("delta_fingerprint", .str delta.deltaFingerprint)])

end IntelligenceDelta

@[simp] theorem IntelligenceDelta.serializable_payload (delta : IntelligenceDelta) :
    Serializable (.obj delta.payload) ↔
      Serializable delta.priorValue ∧ Serializable delta.currentValue := by
  simp [payload]

@[simp] theorem IntelligenceDelta.serializable_asdict (delta : IntelligenceDelta) :
    Serializable delta.asdict ↔
      Serializable delta.priorValue ∧ Serializable delta.currentValue := by
  simp [asdict, payload]

structure SellerIntelligenceChangeLedger where
  ledgerId : String
  propertyId : String
  communityId : String
  priorStateFingerprint : String
  currentStateFingerprint : String
  priorTemporalBoundary : String
  currentTemporalBoundary : String
  deltas : List IntelligenceDelta
  policyVersion : String
  ledgerFingerprint : String
  deriving Repr

/-- What the fingerprint of a change ledger covers. -/
def SellerIntelligenceChangeLedger.payload (ledger : SellerIntelligenceChangeLedger) : Json :=
  .obj [("ledger_id", .str ledger.ledgerId), ("property_id", .str ledger.propertyId),
      ("community_id", .str ledger.communityId),
      ("prior_state_fingerprint", .str ledger.priorStateFingerprint),
      ("current_state_fingerprint", .str ledger.currentStateFingerprint),
      ("prior_temporal_boundary", .str ledger.priorTemporalBoundary),
      ("current_temporal_boundary", .str ledger.currentTemporalBoundary),
      ("deltas", .arr (ledger.deltas.map IntelligenceDelta.asdict)),
      ("policy_version", .str ledger.policyVersion)]

/-- `_classify_dimension`. -/
def classifyDimension (priorItem currentItem : Option UnifiedIntelligenceItem)
    (priorUnknown currentUnknown : Bool) : ChangeState :=
  if currentUnknown then .unknown
  else match priorItem, currentItem with
  | none, none => .unknown
  | some _, none => .noLongerApplicable
  | none, some _ => if priorUnknown then .resolved else .new
  | some prior, some current =>
      if priorUnknown then .resolved
      else if current.freshnessState = "STALE" then .stale
      else if prior.itemFingerprint = current.itemFingerprint then .unchanged
      else .changed

/-- The arguments of `build_change_ledger`. -/
structure LedgerCall where
  ledgerId : String
  priorState : UnifiedSellerIntelligenceState
  currentState : UnifiedSellerIntelligenceState
  significanceRules : List SignificanceRule
  policyVersion : String

/-- The item of a state in a dimension. -/
def UnifiedSellerIntelligenceState.itemOf
    (state : UnifiedSellerIntelligenceState) (dimension : String) :
    Option UnifiedIntelligenceItem :=
  latest UnifiedIntelligenceItem.dimension state.items dimension

/-- The value that a state has in a dimension, if any. -/
def UnifiedSellerIntelligenceState.valueOf
    (state : UnifiedSellerIntelligenceState) (dimension : String) : Json :=
  ((state.itemOf dimension).map UnifiedIntelligenceItem.value).getD .null

theorem UnifiedSellerIntelligenceState.serializable_valueOf
    {state : UnifiedSellerIntelligenceState}
    (written : ∀ item ∈ state.items, Serializable item.value) (dimension : String) :
    Serializable (state.valueOf dimension) := by
  rw [valueOf]
  cases found : state.itemOf dimension with
  | none => exact serializable_null
  | some item => exact written item (mem_of_latest found).1

namespace LedgerCall

/-- How a dimension changed. -/
def changeOf (call : LedgerCall) (dimension : String) : ChangeState :=
  classifyDimension (call.priorState.itemOf dimension)
    (call.currentState.itemOf dimension)
    (decide (dimension ∈ call.priorState.unknowns))
    (decide (dimension ∈ call.currentState.unknowns))

/-- The rule for the change of a dimension. -/
def ruleOf (call : LedgerCall) (dimension : String) : Option SignificanceRule :=
  latest (fun rule => (rule.dimension, rule.changeState))
    call.significanceRules (dimension, (call.changeOf dimension).code)

/-- The delta of a dimension, up to its fingerprint. -/
def draftDelta (call : LedgerCall) (dimension : String) (rule : SignificanceRule) :
    IntelligenceDelta where
  dimension := dimension
  changeState := call.changeOf dimension
  significanceClass := rule.significanceClass
  significanceRuleId := rule.ruleId
  significanceReason := rule.reason
  priorItemFingerprint := (call.priorState.itemOf dimension).map
    UnifiedIntelligenceItem.itemFingerprint
  currentItemFingerprint := (call.currentState.itemOf dimension).map
    UnifiedIntelligenceItem.itemFingerprint
  priorValue := call.priorState.valueOf dimension
  currentValue := call.currentState.valueOf dimension
  priorUnknown := decide (dimension ∈ call.priorState.unknowns)
  currentUnknown := decide (dimension ∈ call.currentState.unknowns)
  deltaFingerprint := ""

/-- The delta of a dimension. -/
def makeDelta (call : LedgerCall) (dimension : String) :
    Except String IntelligenceDelta := do
  let rule ← orRaise (call.ruleOf dimension)
    ("explicit significance rule required for " ++ dimension ++ ":" ++
      (call.changeOf dimension).code)
  let delta := call.draftDelta dimension rule
  let fingerprint ← hash (.obj delta.payload)
  return { delta with deltaFingerprint := fingerprint }

/-- The dimensions that are compared. -/
def dimensions (call : LedgerCall) : List String :=
  sortedSet (call.priorState.dimensions ++ call.currentState.dimensions)

/-- The ledger of some deltas, up to its fingerprint. -/
def draftLedger (call : LedgerCall) (deltas : List IntelligenceDelta) :
    SellerIntelligenceChangeLedger where
  ledgerId := call.ledgerId
  propertyId := call.currentState.propertyId
  communityId := call.currentState.communityId
  priorStateFingerprint := call.priorState.stateFingerprint
  currentStateFingerprint := call.currentState.stateFingerprint
  priorTemporalBoundary := call.priorState.temporalBoundary
  currentTemporalBoundary := call.currentState.temporalBoundary
  deltas := deltas
  policyVersion := call.policyVersion
  ledgerFingerprint := ""

end LedgerCall

/-- `build_change_ledger`. -/
def buildChangeLedger (fromisoformat : FromIsoformat) (call : LedgerCall) :
    Except String SellerIntelligenceChangeLedger := do
  require (call.priorState.propertyId = call.currentState.propertyId)
    "property mismatch"
  require (call.priorState.communityId = call.currentState.communityId)
    "community mismatch"
  let prior ← dt fromisoformat call.priorState.temporalBoundary
  let current ← dt fromisoformat call.currentState.temporalBoundary
  let ascending ← prior.isBefore current
  require (ascending = true) "prior temporal boundary must precede current"
  require (Text.isBlank call.ledgerId = false ∧
    Text.isBlank call.policyVersion = false) "ledger identity fields required"
  require ((call.priorState.items.map UnifiedIntelligenceItem.dimension).Nodup ∧
    (call.currentState.items.map UnifiedIntelligenceItem.dimension).Nodup)
    "duplicate intelligence dimension"
  require ((call.significanceRules.map fun rule =>
    (rule.dimension, rule.changeState)).Nodup) "duplicate significance rule"
  let deltas ← call.dimensions.mapM call.makeDelta
  let ledger := call.draftLedger deltas
  let fingerprint ← hash ledger.payload
  return { ledger with ledgerFingerprint := fingerprint }

/-! ## What a ledger says -/

theorem LedgerCall.makeDelta_eq_ok
    {call : LedgerCall} {dimension : String} {delta : IntelligenceDelta} :
    call.makeDelta dimension = .ok delta ↔
      ∃ rule, call.ruleOf dimension = some rule ∧ ∃ fingerprint,
          hash (.obj (call.draftDelta dimension rule).payload) = .ok fingerprint ∧
          { call.draftDelta dimension rule with
            deltaFingerprint := fingerprint } = delta := by
  simp only [makeDelta, bind_eq_ok, orRaise_eq_ok, pure_eq_ok]

theorem LedgerCall.dimension_of_makeDelta
    {call : LedgerCall} {dimension : String} {delta : IntelligenceDelta}
    (made : call.makeDelta dimension = .ok delta) :
    delta.dimension = dimension := by
  obtain ⟨rule, _, fingerprint, _, rfl⟩ := makeDelta_eq_ok.mp made
  rfl

/-- What `build_change_ledger` asks of its arguments. -/
structure LedgerCall.Acceptable (fromisoformat : FromIsoformat) (call : LedgerCall) : Prop where
  property : call.priorState.propertyId = call.currentState.propertyId
  community : call.priorState.communityId = call.currentState.communityId
  ascending : ∃ prior current,
    fromisoformat call.priorState.temporalBoundary = some prior ∧
      fromisoformat call.currentState.temporalBoundary = some current ∧
        prior.isBefore current = .ok true
  identified : Text.isBlank call.ledgerId = false ∧ Text.isBlank call.policyVersion = false
  priorDistinct : (call.priorState.items.map UnifiedIntelligenceItem.dimension).Nodup
  currentDistinct : (call.currentState.items.map UnifiedIntelligenceItem.dimension).Nodup
  rules : (call.significanceRules.map fun rule =>
    (rule.dimension, rule.changeState)).Nodup

theorem buildChangeLedger_eq_ok {fromisoformat : FromIsoformat} {call : LedgerCall}
    {ledger : SellerIntelligenceChangeLedger} :
    buildChangeLedger fromisoformat call = .ok ledger ↔
      call.Acceptable fromisoformat ∧
        ∃ deltas, call.dimensions.mapM call.makeDelta = .ok deltas ∧
          ∃ fingerprint,
            hash (call.draftLedger deltas).payload = .ok fingerprint ∧
            { call.draftLedger deltas with
              ledgerFingerprint := fingerprint } = ledger := by
  simp only [buildChangeLedger, dt, bind_eq_ok, require_eq_ok, exists_const,
    orRaise_eq_ok, pure_eq_ok]
  constructor
  · rintro ⟨property, community, prior, priorParsed, current, currentParsed,
      ascending, compared, rfl, identified, distinct, rules, made⟩
    exact ⟨⟨property, community, ⟨prior, current, priorParsed, currentParsed,
      compared⟩, identified, distinct.1, distinct.2, rules⟩, made⟩
  · rintro ⟨acceptable, made⟩
    obtain ⟨prior, current, priorParsed, currentParsed, compared⟩ := acceptable.ascending
    exact ⟨acceptable.property, acceptable.community, prior, priorParsed,
      current, currentParsed, true, compared, rfl, acceptable.identified,
      ⟨acceptable.priorDistinct, acceptable.currentDistinct⟩, acceptable.rules, made⟩

theorem UnifiedSellerIntelligenceState.mem_dimensions
    {state : UnifiedSellerIntelligenceState} {dimension : String} :
    dimension ∈ state.dimensions ↔
      dimension ∈ state.items.map UnifiedIntelligenceItem.dimension ∨ dimension ∈ state.unknowns :=
  List.mem_append

theorem LedgerCall.mem_dimensions {call : LedgerCall} {dimension : String} :
    dimension ∈ call.dimensions ↔ dimension ∈ call.priorState.dimensions ∨
        dimension ∈ call.currentState.dimensions := by
  rw [dimensions, mem_sortedSet, List.mem_append]

section Built

variable {fromisoformat : FromIsoformat} {call : LedgerCall}
  {ledger : SellerIntelligenceChangeLedger}

/-- There is one delta for each dimension of either state, in order. -/
theorem deltas_of_buildChangeLedger
    (built : buildChangeLedger fromisoformat call = .ok ledger) :
    ledger.deltas.map IntelligenceDelta.dimension = call.dimensions := by
  obtain ⟨_, deltas, made, fingerprint, _, rfl⟩ := buildChangeLedger_eq_ok.mp built
  have same : call.dimensions.map id =
      deltas.map IntelligenceDelta.dimension :=
    map_eq_of_mapM made fun _ _ each =>
      (LedgerCall.dimension_of_makeDelta each).symm
  rw [List.map_id] at same
  exact same.symm

/-- Every delta is that of its dimension. -/
theorem makeDelta_of_mem (built : buildChangeLedger fromisoformat call = .ok ledger) :
    ∀ delta ∈ ledger.deltas, call.makeDelta delta.dimension = .ok delta := by
  obtain ⟨_, deltas, made, fingerprint, _, rfl⟩ := buildChangeLedger_eq_ok.mp built
  refine forall_mem_of_mapM made fun dimension _ delta each => ?_
  rwa [LedgerCall.dimension_of_makeDelta each]

/-- Every value of the current state can be written. -/
theorem serializable_of_buildChangeLedger
    (built : buildChangeLedger fromisoformat call = .ok ledger) :
    ∀ item ∈ call.currentState.items, Serializable item.value := by
  intro item listed
  obtain ⟨acceptable, deltas, made, _⟩ := buildChangeLedger_eq_ok.mp built
  have compared : item.dimension ∈ call.dimensions :=
    LedgerCall.mem_dimensions.mpr (.inr
      (UnifiedSellerIntelligenceState.mem_dimensions.mpr (.inl (List.mem_map_of_mem listed))))
  obtain ⟨delta, _, each⟩ := exists_ok_of_mapM made compared
  obtain ⟨rule, _, fingerprint, hashed, _⟩ := LedgerCall.makeDelta_eq_ok.mp each
  have found : call.currentState.itemOf item.dimension = some item :=
    (latest_eq_some_iff acceptable.currentDistinct).mpr ⟨listed, rfl⟩
  have written := (IntelligenceDelta.serializable_payload _).mp (serializable_of_hash hashed)
  simpa [LedgerCall.draftDelta, UnifiedSellerIntelligenceState.valueOf, found] using written.2

end Built

/-- An acceptable call with a rule for every change builds a ledger. -/
theorem exists_buildChangeLedger {fromisoformat : FromIsoformat} {call : LedgerCall}
    (acceptable : call.Acceptable fromisoformat)
    (ruled : ∀ dimension ∈ call.dimensions, ∃ rule, call.ruleOf dimension = some rule)
    (priorWritten : ∀ item ∈ call.priorState.items, Serializable item.value)
    (currentWritten : ∀ item ∈ call.currentState.items, Serializable item.value) :
    ∃ ledger, buildChangeLedger fromisoformat call = .ok ledger := by
  have values : ∀ dimension rule,
      Serializable (.obj (call.draftDelta dimension rule).payload) := by
    intro dimension rule
    rw [IntelligenceDelta.serializable_payload]
    exact ⟨UnifiedSellerIntelligenceState.serializable_valueOf priorWritten dimension,
      UnifiedSellerIntelligenceState.serializable_valueOf currentWritten dimension⟩
  have each : ∀ dimension ∈ call.dimensions,
      ∃ delta, call.makeDelta dimension = .ok delta := by
    intro dimension present
    obtain ⟨rule, found⟩ := ruled dimension present
    obtain ⟨fingerprint, hashed⟩ := exists_hash_iff.mpr (values dimension rule)
    exact ⟨_, LedgerCall.makeDelta_eq_ok.mpr ⟨rule, found, fingerprint, hashed, rfl⟩⟩
  obtain ⟨deltas, made⟩ := exists_mapM_ok each
  have written : ∀ delta ∈ deltas, Serializable delta.asdict :=
    forall_mem_of_mapM made fun dimension _ delta one => by
      obtain ⟨rule, _, fingerprint, hashed, rfl⟩ := LedgerCall.makeDelta_eq_ok.mp one
      rw [IntelligenceDelta.serializable_asdict, ← IntelligenceDelta.serializable_payload]
      exact serializable_of_hash hashed
  have payload : Serializable (call.draftLedger deltas).payload := by
    simpa [SellerIntelligenceChangeLedger.payload, LedgerCall.draftLedger] using written
  obtain ⟨fingerprint, hashed⟩ := exists_hash_iff.mpr payload
  exact ⟨_, buildChangeLedger_eq_ok.mpr ⟨acceptable, deltas, made, fingerprint, hashed, rfl⟩⟩

end SanTanHeights.Seller
