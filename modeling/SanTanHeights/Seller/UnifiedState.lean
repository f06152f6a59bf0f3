import SanTanHeights.Community.History
import SanTanHeights.Foundation.JsonEquality

/-!
# The unified intelligence about a property

What is known of a property at a time, one item for each piece of
intelligence, with the evidence of every item.
-/

namespace SanTanHeights.Seller

open Foundation Foundation.Json Foundation.Sorting Foundation.Outcome Shared
open Community (texts)
open Community.History (sortedSet)

/-- `_hash`. -/
def hash (value : Json) : Except String String :=
  sha256Dumps value

/-- `_validate_fp`. -/
def validateFp (value label : String) : Except String Unit :=
  require (Sha256.isHex64 value = true) (label ++ " must be lowercase sha256")

/-- An optional text that Python counts as true. -/
def stated : Option String → List String
  | none => []
  | some text => if text = "" then [] else [text]

/-! ## Times -/

/-- A `datetime`, with an offset from UTC or without one. -/
inductive Datetime where
  | aware (instant : Int)
  | naive (shown : Int)
  deriving DecidableEq, Repr

/-- `left < right`. -/
def Datetime.isBefore : Datetime → Datetime → Except String Bool
  | aware left, aware right => .ok (left < right)
  | naive left, naive right => .ok (left < right)
  | _, _ => .error "can't compare offset-naive and offset-aware datetimes"

/-- `datetime.fromisoformat`: nothing where it raises. -/
abbrev FromIsoformat : Type := String → Option Datetime

/-- Two days of September 2026. -/
def sampleFromisoformat : FromIsoformat := fun text =>
  if text = "2026-09-18T10:00:00-07:00" then some (.aware 1789750800)
  else if text = "2026-09-19T10:00:00-07:00" then some (.aware 1789837200)
  else none

/-- `_dt`. -/
def dt (fromisoformat : FromIsoformat) (value : String) : Except String Datetime :=
  orRaise (fromisoformat value) "temporal boundary must be ISO-8601"

/-! ## The registry -/

/-- What is read of a unified-intelligence registry. -/
structure IntelligenceRegistry where
  sourceClasses : List String
  freshnessStates : List String
  conflictStates : List String
  changeStates : List String
  significanceClasses : List String

/-- `m13-007a-unified-intelligence-v1.0.yaml`. -/
def intelligenceRegistry : IntelligenceRegistry where
  sourceClasses :=
    ["CERTIFIED_FACT", "CURRENT_OBSERVATION", "HISTORICAL_OBSERVATION",
      "PROMOTED_PATTERN", "EXPLICIT_SCENARIO_ASSUMPTION", "SCENARIO_RESULT",
      "UNKNOWN", "LIMITATION", "HUMAN_INPUT"]
  freshnessStates := ["CURRENT", "STALE", "SUPERSEDED", "UNKNOWN", "NOT_APPLICABLE"]
  conflictStates :=
    ["NO_CONFLICT", "RESOLVED_BY_GOVERNED_PRECEDENCE", "UNRESOLVED_CONFLICT",
      "INSUFFICIENT_EVIDENCE"]
  changeStates :=
    ["NEW", "CHANGED", "UNCHANGED", "STALE", "RESOLVED", "NO_LONGER_APPLICABLE", "UNKNOWN"]
  significanceClasses :=
    ["INFORMATIONAL", "NOTICEABLE_CHANGE", "MATERIAL_CHANGE",
      "REVIEW_REQUIRED", "INSUFFICIENT_INFORMATION"]

/-! ## Evidence -/

structure IntelligenceSourceRef where
  sourceClass : String
  sourceArtifactId : String
  sourceFingerprint : String
  sourceTime : Option String
  sourceRefFingerprint : String
  deriving DecidableEq, Repr

namespace IntelligenceSourceRef

/-- What the fingerprint of a reference covers. -/
def payload (ref : IntelligenceSourceRef) : List (String × Json) :=
  [("source_class", .str ref.sourceClass),
    ("source_artifact_id", .str ref.sourceArtifactId),
    ("source_fingerprint", .str ref.sourceFingerprint),
    ("source_time", .ofOptional ref.sourceTime)]

/-- `asdict(ref)`. -/
def asdict (ref : IntelligenceSourceRef) : Json :=
  .obj (ref.payload ++ [("source_ref_fingerprint", .str ref.sourceRefFingerprint)])

/-- The order in which the references of an item are listed. -/
def sortKey (ref : IntelligenceSourceRef) : String ×ₗ String ×ₗ String :=
  toLex (ref.sourceClass, toLex (ref.sourceArtifactId, ref.sourceFingerprint))

end IntelligenceSourceRef

/-- `make_source_ref`; the fingerprint of the argument is not read. -/
def makeSourceRef (registry : IntelligenceRegistry) (given : IntelligenceSourceRef) :
    Except String IntelligenceSourceRef := do
  require (given.sourceClass ∈ registry.sourceClasses)
    "unsupported source class"
  require (Text.isBlank given.sourceArtifactId = false)
    "source artifact id required"
  validateFp given.sourceFingerprint "source fingerprint"
  let fingerprint ← hash (.obj given.payload)
  return { given with sourceRefFingerprint := fingerprint }

/-! ## Items -/

structure UnifiedIntelligenceItem where
  itemId : String
  dimension : String
  value : Json
  sourceClass : String
  freshnessState : String
  conflictState : String
  changeState : String
  significanceClass : String
  evidenceRefs : List IntelligenceSourceRef
  limitation : Option String
  itemFingerprint : String
  deriving Repr

namespace UnifiedIntelligenceItem

/-- What the fingerprint of an item covers. -/
def payload (item : UnifiedIntelligenceItem) : List (String × Json) :=
  [("item_id", .str item.itemId), ("dimension", .str item.dimension), ("value", item.value),
    ("source_class", .str item.sourceClass), ("freshness_state", .str item.freshnessState),
    ("conflict_state", .str item.conflictState), ("change_state", .str item.changeState),
    ("significance_class", .str item.significanceClass),
    ("evidence_refs", .arr (item.evidenceRefs.map IntelligenceSourceRef.asdict)),
    ("limitation", .ofOptional item.limitation)]

/-- `asdict(item)`. -/
def asdict (item : UnifiedIntelligenceItem) : Json :=
  .obj (item.payload ++ [("item_fingerprint", .str item.itemFingerprint)])

end UnifiedIntelligenceItem

/-- `make_intelligence_item`; the fingerprint of the argument is not read. -/
def makeIntelligenceItem (registry : IntelligenceRegistry) (given : UnifiedIntelligenceItem) :
    Except String UnifiedIntelligenceItem := do
  require (Text.isBlank given.itemId = false ∧
    Text.isBlank given.dimension = false) "item id and dimension required"
  require (given.sourceClass ∈ registry.sourceClasses)
    "unsupported source class"
  require (given.freshnessState ∈ registry.freshnessStates)
    "unsupported freshness state"
  require (given.conflictState ∈ registry.conflictStates)
    "unsupported conflict state"
  require (given.changeState ∈ registry.changeStates) "unsupported change state"
  require (given.significanceClass ∈ registry.significanceClasses)
    "unsupported significance class"
  require (¬ (given.sourceClass ∉ ["UNKNOWN", "LIMITATION"] ∧ given.evidenceRefs = []))
    "material intelligence item requires evidence lineage"
  require (¬ (given.sourceClass = "UNKNOWN" ∧ pyEq given.value .null = false ∧
        pyEq given.value (.str "UNKNOWN") = false))
    "UNKNOWN source class cannot carry inferred value"
  require (¬ (given.conflictState = "UNRESOLVED_CONFLICT" ∧
      given.significanceClass ∉ ["REVIEW_REQUIRED", "INSUFFICIENT_INFORMATION"]))
    ("unresolved conflict requires review or insufficient-information " ++ "significance")
  require (¬ (given.freshnessState = "STALE" ∧ given.changeState ≠ "STALE"))
    "stale freshness must remain explicit in change state"
  let item := { given with
    evidenceRefs :=
      sortedBy IntelligenceSourceRef.sortKey given.evidenceRefs }
  let fingerprint ← hash (.obj item.payload)
  return { item with itemFingerprint := fingerprint }

/-! ## States -/

structure UnifiedSellerIntelligenceState where
  intelligenceStateId : String
  propertyId : String
  communityId : String
  temporalBoundary : String
  priorStateFingerprint : Option String
  items : List UnifiedIntelligenceItem
  unknowns : List String
  limitations : List String
  staleDependencies : List String
  policyVersion : String
  schemaVersion : String
  stateFingerprint : String
  deriving Repr

namespace UnifiedSellerIntelligenceState

/-- What the fingerprint of a state covers. -/
def payload (state : UnifiedSellerIntelligenceState) : Json :=
  .obj [("intelligence_state_id", .str state.intelligenceStateId),
      ("property_id", .str state.propertyId), ("community_id", .str state.communityId),
      ("temporal_boundary", .str state.temporalBoundary),
      ("prior_state_fingerprint", .ofOptional state.priorStateFingerprint),
      ("items", .arr (state.items.map UnifiedIntelligenceItem.asdict)),
      ("unknowns", texts state.unknowns), ("limitations", texts state.limitations),
      ("stale_dependencies", texts state.staleDependencies),
      ("policy_version", .str state.policyVersion),
      ("schema_version", .str state.schemaVersion)]

/-- The dimensions of a state, known or unknown. -/
def dimensions (state : UnifiedSellerIntelligenceState) : List String :=
  state.items.map UnifiedIntelligenceItem.dimension ++ state.unknowns

end UnifiedSellerIntelligenceState

/-- A fingerprint that may be missing. -/
def validateOptionalFp (value : Option String) (label : String) : Except String Unit :=
  match value with
  | none => .ok ()
  | some fingerprint => validateFp fingerprint label

/-- `build_unified_state`; the fingerprint of the argument is not read. -/
def buildUnifiedState (given : UnifiedSellerIntelligenceState) :
    Except String UnifiedSellerIntelligenceState := do
  require (∀ text ∈ [given.intelligenceStateId, given.propertyId,
      given.communityId, given.temporalBoundary, given.policyVersion,
      given.schemaVersion], Text.isBlank text = false)
    "state identity fields required"
  validateOptionalFp given.priorStateFingerprint "prior state fingerprint"
  require ((given.items.map UnifiedIntelligenceItem.itemId).Nodup)
    "duplicate intelligence item id"
  let state := { given with
    items := sortedBy UnifiedIntelligenceItem.itemId given.items
    unknowns := sortedSet given.unknowns
    limitations := sortedSet given.limitations
    staleDependencies := sortedSet given.staleDependencies }
  let fingerprint ← hash state.payload
  return { state with stateFingerprint := fingerprint }

/-! ## What is made -/

theorem exists_hash_iff {value : Json} :
    (∃ fingerprint, hash value = .ok fingerprint) ↔ Serializable value :=
  exists_sha256Dumps_iff

theorem serializable_of_hash {value : Json} {fingerprint : String}
    (hashed : hash value = .ok fingerprint) :
    Serializable value :=
  exists_hash_iff.mp ⟨fingerprint, hashed⟩

@[simp] theorem validateFp_eq_ok {value label : String} {result : Unit} :
    validateFp value label = .ok result ↔ Sha256.isHex64 value = true := by
  simp [validateFp]

@[simp] theorem IntelligenceSourceRef.serializable_payload
    (ref : IntelligenceSourceRef) : Serializable (.obj ref.payload) := by
  simp [payload]

@[simp] theorem IntelligenceSourceRef.serializable_asdict
    (ref : IntelligenceSourceRef) : Serializable ref.asdict := by
  simp [asdict, payload]

@[simp] theorem UnifiedIntelligenceItem.serializable_payload (item : UnifiedIntelligenceItem) :
    Serializable (.obj item.payload) ↔ Serializable item.value := by
  simp [payload]

@[simp] theorem UnifiedIntelligenceItem.serializable_asdict (item : UnifiedIntelligenceItem) :
    Serializable item.asdict ↔ Serializable item.value := by
  simp [asdict, payload]

@[simp] theorem UnifiedSellerIntelligenceState.serializable_payload
    (state : UnifiedSellerIntelligenceState) :
    Serializable state.payload ↔ ∀ item ∈ state.items, Serializable item.value := by
  simp [payload]

theorem makeSourceRef_eq_ok
    {registry : IntelligenceRegistry} {given ref : IntelligenceSourceRef} :
    makeSourceRef registry given = .ok ref ↔
      (given.sourceClass ∈ registry.sourceClasses ∧
        Text.isBlank given.sourceArtifactId = false ∧
          Sha256.isHex64 given.sourceFingerprint = true) ∧
        ∃ fingerprint, hash (.obj given.payload) = .ok fingerprint ∧
          { given with sourceRefFingerprint := fingerprint } = ref := by
  simp only [makeSourceRef, bind_eq_ok, require_eq_ok, exists_const,
    validateFp_eq_ok, pure_eq_ok, and_assoc]

namespace UnifiedIntelligenceItem

/-- The item that is made, up to its fingerprint. -/
def tidied (given : UnifiedIntelligenceItem) : UnifiedIntelligenceItem :=
  { given with
    evidenceRefs :=
      sortedBy IntelligenceSourceRef.sortKey given.evidenceRefs }

/-- What `make_intelligence_item` asks of its arguments. -/
structure Acceptable (registry : IntelligenceRegistry) (given : UnifiedIntelligenceItem) :
    Prop where
  identified : Text.isBlank given.itemId = false ∧ Text.isBlank given.dimension = false
  sourceClass : given.sourceClass ∈ registry.sourceClasses
  freshnessState : given.freshnessState ∈ registry.freshnessStates
  conflictState : given.conflictState ∈ registry.conflictStates
  changeState : given.changeState ∈ registry.changeStates
  significanceClass : given.significanceClass ∈ registry.significanceClasses
  evidenced : ¬ (given.sourceClass ∉ ["UNKNOWN", "LIMITATION"] ∧ given.evidenceRefs = [])
  notInferred : ¬ (given.sourceClass = "UNKNOWN" ∧
    pyEq given.value .null = false ∧ pyEq given.value (.str "UNKNOWN") = false)
  conflictReviewed : ¬ (given.conflictState = "UNRESOLVED_CONFLICT" ∧
    given.significanceClass ∉ ["REVIEW_REQUIRED", "INSUFFICIENT_INFORMATION"])
  staleExplicit : ¬ (given.freshnessState = "STALE" ∧ given.changeState ≠ "STALE")

end UnifiedIntelligenceItem

theorem makeIntelligenceItem_eq_ok {registry : IntelligenceRegistry}
    {given item : UnifiedIntelligenceItem} :
    makeIntelligenceItem registry given = .ok item ↔ given.Acceptable registry ∧
        ∃ fingerprint, hash (.obj given.tidied.payload) = .ok fingerprint ∧
          { given.tidied with itemFingerprint := fingerprint } = item := by
  simp only [makeIntelligenceItem, bind_eq_ok, require_eq_ok, exists_const, pure_eq_ok]
  constructor
  · rintro ⟨identified, sourceClass, freshness, conflict, change,
      significance, evidenced, notInferred, reviewed, explicit, made⟩
    exact ⟨⟨identified, sourceClass, freshness, conflict, change,
      significance, evidenced, notInferred, reviewed, explicit⟩, made⟩
  · rintro ⟨acceptable, made⟩
    exact ⟨acceptable.identified, acceptable.sourceClass,
      acceptable.freshnessState, acceptable.conflictState,
      acceptable.changeState, acceptable.significanceClass,
      acceptable.evidenced, acceptable.notInferred,
      acceptable.conflictReviewed, acceptable.staleExplicit, made⟩

/-- An acceptable item is made when its value can be written. -/
theorem exists_makeIntelligenceItem
    {registry : IntelligenceRegistry} {given : UnifiedIntelligenceItem}
    (acceptable : given.Acceptable registry) (written : Serializable given.value) :
    ∃ fingerprint, makeIntelligenceItem registry given =
      .ok { given.tidied with itemFingerprint := fingerprint } := by
  obtain ⟨fingerprint, hashed⟩ := exists_hash_iff.mpr
    (given.tidied.serializable_payload.mpr written)
  exact ⟨fingerprint, makeIntelligenceItem_eq_ok.mpr ⟨acceptable, fingerprint, hashed, rfl⟩⟩

namespace UnifiedSellerIntelligenceState

/-- The state that is built, up to its fingerprint. -/
def tidied (given : UnifiedSellerIntelligenceState) : UnifiedSellerIntelligenceState :=
  { given with
    items := sortedBy UnifiedIntelligenceItem.itemId given.items
    unknowns := sortedSet given.unknowns
    limitations := sortedSet given.limitations
    staleDependencies := sortedSet given.staleDependencies }

/-- What `build_unified_state` asks of its arguments. -/
structure Acceptable (given : UnifiedSellerIntelligenceState) : Prop where
  identified : ∀ text ∈ [given.intelligenceStateId, given.propertyId,
    given.communityId, given.temporalBoundary, given.policyVersion,
    given.schemaVersion], Text.isBlank text = false
  prior : ∀ fingerprint ∈ given.priorStateFingerprint, Sha256.isHex64 fingerprint = true
  distinct : (given.items.map UnifiedIntelligenceItem.itemId).Nodup

end UnifiedSellerIntelligenceState

theorem validateOptionalFp_eq_ok {value : Option String} {label : String} {result : Unit} :
    validateOptionalFp value label = .ok result ↔
      ∀ fingerprint ∈ value, Sha256.isHex64 fingerprint = true := by
  cases value with
  | none => simp [validateOptionalFp]
  | some fingerprint => simp [validateOptionalFp]

theorem buildUnifiedState_eq_ok {given state : UnifiedSellerIntelligenceState} :
    buildUnifiedState given = .ok state ↔ given.Acceptable ∧
        ∃ fingerprint, hash given.tidied.payload = .ok fingerprint ∧
          { given.tidied with stateFingerprint := fingerprint } = state := by
  simp only [buildUnifiedState, bind_eq_ok, require_eq_ok, exists_const,
    validateOptionalFp_eq_ok, pure_eq_ok]
  constructor
  · rintro ⟨identified, prior, distinct, made⟩
    exact ⟨⟨identified, prior, distinct⟩, made⟩
  · rintro ⟨acceptable, made⟩
    exact ⟨acceptable.identified, acceptable.prior, acceptable.distinct, made⟩

/-- An acceptable state is built when the values of its items can be
written. -/
theorem exists_buildUnifiedState
    {given : UnifiedSellerIntelligenceState} (acceptable : given.Acceptable)
    (written : ∀ item ∈ given.items, Serializable item.value) :
    ∃ fingerprint, buildUnifiedState given =
      .ok { given.tidied with stateFingerprint := fingerprint } := by
  have listed : ∀ item ∈ given.tidied.items, Serializable item.value :=
    fun item present => written item ((mem_sortedBy _ _ _).mp present)
  obtain ⟨fingerprint, hashed⟩ := exists_hash_iff.mpr (given.tidied.serializable_payload.mpr listed)
  exact ⟨fingerprint, buildUnifiedState_eq_ok.mpr ⟨acceptable, fingerprint, hashed, rfl⟩⟩

end SanTanHeights.Seller
