import SanTanHeights.Community.Acceptance
import SanTanHeights.Seller.UnifiedState

/-!
# The decision timeline of a seller

Certified strategy snapshots of one property, in the order of their instants.
Every entry is compared with the one before it, and keeps the lineage of its
strategy apart from the lineage of its own scenario.
-/

namespace SanTanHeights.Seller.Timeline

open Foundation Foundation.Json Foundation.Sorting Foundation.Outcome Shared
open Foundation.Keyed
open Community (parseTs texts)
open Community.History (mem_sortedSet sortedSet)

/-! ## Strategies -/

structure GovernedStrategyFinding where
  findingId : String
  state : String
  summary : String
  baselineCertified : Bool
  qaStatus : String
  outputTier : String
  freshnessState : String
  evidenceFingerprint : String

structure StrategyDimension where
  dimension : String
  status : String
  state : Option String
  summary : String
  evidenceFingerprints : List String
  suppressedFindingIds : List String
  dimensionFingerprint : String

/-- A dimension of the current and the suppressed findings, before it has a
fingerprint. -/
def draftDimension (dimension : String) (current suppressed : List GovernedStrategyFinding) :
    StrategyDimension :=
  let suppressedFindingIds := sortedBy id
    (suppressed.map GovernedStrategyFinding.findingId)
  match current with
  | source :: _ =>
      ⟨dimension, "CURRENT", some source.state, Text.strip source.summary,
        [source.evidenceFingerprint], suppressedFindingIds, ""⟩
  | [] =>
      if suppressed ≠ [] then
        ⟨dimension, "SUPPRESSED", none, "Governed evidence exists but is " ++
          "not currently eligible because freshness, tier, or QA " ++
          "requirements are not satisfied.", [], suppressedFindingIds, ""⟩
      else
        ⟨dimension, "MISSING", none, "No eligible governed finding is " ++
          "available for this strategy dimension.", [], suppressedFindingIds, ""⟩

structure ReviewTrigger where
  day : Int
  triggered : Bool

/-- What is read of a strategy. -/
structure PropertySellerStrategy where
  subjectPropertyId : String
  buyerAlternativeSetFingerprint : String
  competitivePressureLevel : String
  dimensions : List StrategyDimension
  reviewTriggers : List ReviewTrigger
  lineageFingerprints : List String
  outputTier : String
  publicEligible : Bool
  externalActionCapability : String
  strategyFingerprint : String

/-- What is read of a scenario. -/
structure ScenarioSensitivityResult where
  subjectPropertyId : String
  baselineStrategyFingerprint : String
  hypotheticalAssumptionFingerprints : List String
  hypotheticalOnly : Bool
  publicEligible : Bool
  externalActionCapability : String
  scenarioFingerprint : String

/-! ## Snapshots and entries -/

structure GovernedTimelineSnapshot where
  snapshotId : String
  observedAt : String
  strategy : PropertySellerStrategy
  strategyCertified : Bool
  strategyEvidenceFingerprint : String
  scenario : Option ScenarioSensitivityResult
  scenarioCertified : Bool
  scenarioEvidenceFingerprint : Option String

structure TimelineChange where
  target : String
  priorStatus : String
  currentStatus : String
  priorState : Option String
  currentState : Option String
  transition : String
  changeFingerprint : String

def TimelineChange.payload (change : TimelineChange) : Json :=
  .obj [("target", .str change.target), ("prior_status", .str change.priorStatus),
      ("current_status", .str change.currentStatus),
      ("prior_state", .ofOptional change.priorState),
      ("current_state", .ofOptional change.currentState),
      ("transition", .str change.transition)]

structure MonitoringEvent where
  eventId : String
  snapshotId : String
  observedAt : String
  eventType : String
  humanReviewRequired : Bool
  reasons : List String
  instruction : String
  publicEligible : Bool
  externalActionCapability : String
  eventFingerprint : String

def MonitoringEvent.payload (event : MonitoringEvent) : Json :=
  .obj [("snapshot_id", .str event.snapshotId), ("observed_at", .str event.observedAt),
      ("event_type", .str event.eventType), ("reasons", texts event.reasons),
      ("public_eligible", .bool event.publicEligible),
      ("external_action_capability", .str event.externalActionCapability)]

structure TimelineEntry where
  snapshotId : String
  observedAt : String
  strategyFingerprint : String
  priorSnapshotId : Option String
  priorSnapshotSuperseded : Bool
  changes : List TimelineChange
  monitoringEvent : Option MonitoringEvent
  strategyLineageFingerprints : List String
  hypotheticalLineageFingerprints : List String
  entryFingerprint : String

def TimelineEntry.payload (entry : TimelineEntry) : Json :=
  .obj [("snapshot_id", .str entry.snapshotId), ("observed_at", .str entry.observedAt),
      ("strategy_fingerprint", .str entry.strategyFingerprint),
      ("prior_snapshot_id", .ofOptional entry.priorSnapshotId),
      ("prior_snapshot_superseded", .bool entry.priorSnapshotSuperseded),
      ("changes", texts (entry.changes.map TimelineChange.changeFingerprint)),
      ("monitoring_event", .ofOptional
        (entry.monitoringEvent.map MonitoringEvent.eventFingerprint)),
      ("strategy_lineage_fingerprints", texts entry.strategyLineageFingerprints),
      ("hypothetical_lineage_fingerprints", texts entry.hypotheticalLineageFingerprints)]

structure SellerDecisionTimeline where
  subjectPropertyId : String
  entries : List TimelineEntry
  currentSnapshotId : String
  supersededSnapshotIds : List String
  outputTier : String
  publicEligible : Bool
  externalActionCapability : String
  timelineFingerprint : String

def SellerDecisionTimeline.payload (timeline : SellerDecisionTimeline) : Json :=
  .obj [("subject_property_id", .str timeline.subjectPropertyId),
      ("entries", texts (timeline.entries.map TimelineEntry.entryFingerprint)),
      ("current_snapshot_id", .str timeline.currentSnapshotId),
      ("superseded_snapshot_ids", texts timeline.supersededSnapshotIds),
      ("output_tier", .str timeline.outputTier),
      ("public_eligible", .bool timeline.publicEligible),
      ("external_action_capability", .str timeline.externalActionCapability)]

/-- What is read of a timeline registry. -/
structure TimelineRegistry where
  trackedStrategyTargets : List String
  prohibitedOutputFields : List String

/-- `m11-004-seller-decision-timeline-v1.0.yaml`. -/
def timelineRegistry : TimelineRegistry where
  trackedStrategyTargets :=
    ["BUYER_ALTERNATIVE_SET", "COMPETITIVE_PRESSURE", "BUYER_DEPTH",
      "VERIFIED_DIFFERENTIATION", "NEW_CONSTRUCTION_PRESSURE",
      "PRICING_RESPONSE_ENVIRONMENT", "WEEK_OVER_WEEK_DIRECTION",
      "REVIEW_DAY_7", "REVIEW_DAY_10", "REVIEW_DAY_14"]
  prohibitedOutputFields :=
    ["recommended_list_price", "suggested_list_price", "price_change",
      "price_adjustment", "predicted_sale_price", "estimated_sale_price",
      "guaranteed_net_proceeds", "predicted_net_proceeds",
      "seller_motivation", "seller_acceptance_prediction",
      "buyer_behavior_prediction", "automatic_action", "publish_action"]

/-! ## Comparing strategies -/

/-- `_strategy_surface`, in the order in which its items are assigned. -/
def strategySurface (strategy : PropertySellerStrategy) :
    List (String × String × Option String) :=
  [("BUYER_ALTERNATIVE_SET", "CURRENT", some strategy.buyerAlternativeSetFingerprint),
    ("COMPETITIVE_PRESSURE", "CURRENT", some strategy.competitivePressureLevel)] ++
    strategy.dimensions.map (fun dimension =>
      (dimension.dimension, dimension.status, dimension.state)) ++
    strategy.reviewTriggers.map fun trigger =>
      ("REVIEW_DAY_" ++ toString trigger.day, "CURRENT",
        some (if trigger.triggered = true then "TRIGGERED"
          else "NOT_TRIGGERED"))

/-- The status and the state of a target; the last item that is assigned to it
stays. -/
def surfaceAt (strategy : PropertySellerStrategy) (target : String) :
    Option (String × Option String) :=
  (latest Prod.fst (strategySurface strategy) target).map Prod.snd

/-- `_transition`. -/
def transition (prior current : String × Option String) : String :=
  if prior.1 = "MISSING" ∧ current.1 = "MISSING" then "REMAINED_MISSING"
  else if prior.1 = "SUPPRESSED" ∧ current.1 = "SUPPRESSED" then
    "REMAINED_SUPPRESSED"
  else if current.1 = "MISSING" ∧ prior.1 ≠ "MISSING" then "BECAME_MISSING"
  else if current.1 = "SUPPRESSED" ∧ prior.1 ≠ "SUPPRESSED" then
    "BECAME_SUPPRESSED"
  else if current.1 = "CURRENT" ∧ prior.1 ≠ "CURRENT" then "NEWLY_CURRENT"
  else if prior.1 = current.1 ∧ prior.2 = current.2 then "UNCHANGED"
  else "CHANGED"

/-- The change of a target. -/
def changeOf (prior current : PropertySellerStrategy) (target : String) :
    Except String TimelineChange := do
  let before ← orRaise (surfaceAt prior target) target
  let after ← orRaise (surfaceAt current target) target
  let draft : TimelineChange :=
    { target
      priorStatus := before.1
      currentStatus := after.1
      priorState := before.2
      currentState := after.2
      transition := transition before after
      changeFingerprint := "" }
  let fingerprint ← hash draft.payload
  return { draft with changeFingerprint := fingerprint }

/-- The keys of a strategy surface. -/
def surfaceKeys (strategy : PropertySellerStrategy) : Finset String :=
  ((strategySurface strategy).map Prod.fst).toFinset

/-- `_changes`. -/
def changesOf (registry : TimelineRegistry) (prior current : PropertySellerStrategy) :
    Except String (List TimelineChange) := do
  require (surfaceKeys prior = registry.trackedStrategyTargets.toFinset ∧
    surfaceKeys current = registry.trackedStrategyTargets.toFinset)
    "M11-004 tracked strategy surface mismatch"
  registry.trackedStrategyTargets.mapM (changeOf prior current)

/-- The transitions that are reasons for a review. -/
def reviewed : List String :=
  ["CHANGED", "NEWLY_CURRENT", "BECAME_MISSING", "BECAME_SUPPRESSED"]

/-- `_event_reasons`. -/
def eventReasons (changes : List TimelineChange) : List String :=
  sortedBy id ((changes.filter fun change =>
    change.transition ∈ reviewed).map fun change =>
      change.target ++ ":" ++ change.transition)

/-! ## Building a timeline -/

/-- The checks of a scenario against the strategy of its snapshot. -/
def validateScenario (snapshot : GovernedTimelineSnapshot)
    (scenario : ScenarioSensitivityResult) : Except String Unit := do
  require (snapshot.scenarioCertified = true)
    "scenario context must be certified M11-003 output"
  let fingerprint ← orRaise snapshot.scenarioEvidenceFingerprint
    "scenario evidence fingerprint required"
  require (Sha256.isHex64 fingerprint = true)
    "scenario_evidence_fingerprint must be lowercase sha256"
  require (scenario.subjectPropertyId = snapshot.strategy.subjectPropertyId)
    "scenario/strategy property mismatch"
  require (scenario.baselineStrategyFingerprint = snapshot.strategy.strategyFingerprint)
    "scenario baseline does not match snapshot strategy"
  require (scenario.hypotheticalOnly = true ∧ scenario.publicEligible = false ∧
    scenario.externalActionCapability = "NONE")
    "scenario snapshot boundary violated"

/-- `_validate_snapshot`, with the instant that is read. -/
def validateSnapshot (fromisoformat : Community.FromIsoformat)
    (snapshot : GovernedTimelineSnapshot) : Except String Int := do
  require (Text.isBlank snapshot.snapshotId = false) "snapshot_id required"
  let instant ← parseTs fromisoformat snapshot.observedAt "snapshot observed_at"
  require (snapshot.strategyCertified = true)
    "certified M11-002 strategy snapshot required"
  require (Sha256.isHex64 snapshot.strategyEvidenceFingerprint = true)
    "strategy_evidence_fingerprint must be lowercase sha256"
  require (snapshot.strategy.outputTier = "SELLER" ∧
    snapshot.strategy.publicEligible = false ∧
    snapshot.strategy.externalActionCapability = "NONE")
    "strategy snapshot eligibility boundary violated"
  match snapshot.scenario with
  | none =>
      require (snapshot.scenarioCertified = false ∧
        snapshot.scenarioEvidenceFingerprint = none)
        "scenario certification metadata supplied without scenario"
  | some scenario => validateScenario snapshot scenario
  return instant

/-- The snapshots with their instants, each of which is new and of the property
of the first. -/
def readSnapshots (fromisoformat : Community.FromIsoformat) :
    List String → Option String → List GovernedTimelineSnapshot →
      Except String (List (Int × GovernedTimelineSnapshot))
  | _, _, [] => .ok []
  | seen, subject, snapshot :: snapshots => do
      let instant ← validateSnapshot fromisoformat snapshot
      require (snapshot.snapshotId ∉ seen) "duplicate snapshot_id"
      require (∀ first ∈ subject, snapshot.strategy.subjectPropertyId = first)
        "timeline snapshots must belong to one property"
      let rest ← readSnapshots fromisoformat (snapshot.snapshotId :: seen)
        (some (subject.getD snapshot.strategy.subjectPropertyId)) snapshots
      return (instant, snapshot) :: rest

namespace GovernedTimelineSnapshot

def strategyLineage (snapshot : GovernedTimelineSnapshot) : List String :=
  sortedSet (snapshot.strategy.lineageFingerprints ++
    [snapshot.strategy.strategyFingerprint, snapshot.strategyEvidenceFingerprint])

def hypotheticalLineage (snapshot : GovernedTimelineSnapshot) : List String :=
  match snapshot.scenario with
  | none => []
  | some scenario =>
      sortedSet (scenario.hypotheticalAssumptionFingerprints ++
        [scenario.scenarioFingerprint, snapshot.scenarioEvidenceFingerprint.getD "None"])

end GovernedTimelineSnapshot

/-- The instruction of every event. -/
def instruction : String :=
  "Review the certified evidence and strategy changes. This monitoring " ++
  "event does not recommend or execute a price change, alter strategy, " ++
  "publish information, or authorize an external action."

/-- The event of a snapshot with reasons for a review. -/
def eventOf (snapshot : GovernedTimelineSnapshot) (reasons : List String) :
    Except String (Option MonitoringEvent) :=
  if reasons = [] then .ok none
  else do
    let draft : MonitoringEvent :=
      { eventId := snapshot.snapshotId ++ "-REVIEW"
        snapshotId := snapshot.snapshotId
        observedAt := snapshot.observedAt
        eventType := "HUMAN_REVIEW_REQUIRED"
        humanReviewRequired := true
        reasons
        instruction := instruction
        publicEligible := false
        externalActionCapability := "NONE"
        eventFingerprint := "" }
    let fingerprint ← hash draft.payload
    return some { draft with eventFingerprint := fingerprint }

/-- An entry, before it has a fingerprint. -/
def draftEntry (prior : Option GovernedTimelineSnapshot)
    (snapshot : GovernedTimelineSnapshot) (changes : List TimelineChange)
    (event : Option MonitoringEvent) : TimelineEntry where
  snapshotId := snapshot.snapshotId
  observedAt := snapshot.observedAt
  strategyFingerprint := snapshot.strategy.strategyFingerprint
  priorSnapshotId := prior.map GovernedTimelineSnapshot.snapshotId
  priorSnapshotSuperseded := prior.isSome
  changes := changes
  monitoringEvent := event
  strategyLineageFingerprints := snapshot.strategyLineage
  hypotheticalLineageFingerprints := snapshot.hypotheticalLineage
  entryFingerprint := ""

/-- The changes of a snapshot since another one. -/
def changesSince (registry : TimelineRegistry) (snapshot : GovernedTimelineSnapshot) :
    Option GovernedTimelineSnapshot → Except String (List TimelineChange)
  | none => .ok []
  | some prior => changesOf registry prior.strategy snapshot.strategy

/-- The entry of a snapshot after another one. -/
def entryOf (registry : TimelineRegistry) (prior : Option GovernedTimelineSnapshot)
    (snapshot : GovernedTimelineSnapshot) : Except String TimelineEntry := do
  require (∀ fingerprint ∈ snapshot.hypotheticalLineage,
    fingerprint ∉ snapshot.strategyLineage)
    "strategy fact lineage and hypothetical lineage collision"
  let changes ← changesSince registry snapshot prior
  let event ← eventOf snapshot (eventReasons changes)
  let draft := draftEntry prior snapshot changes event
  let fingerprint ← hash draft.payload
  return { draft with entryFingerprint := fingerprint }

/-- The entries of snapshots in order. -/
def entriesOf (registry : TimelineRegistry) :
    Option GovernedTimelineSnapshot → List GovernedTimelineSnapshot →
      Except String (List TimelineEntry)
  | _, [] => .ok []
  | prior, snapshot :: snapshots => do
      let entry ← entryOf registry prior snapshot
      let rest ← entriesOf registry (some snapshot) snapshots
      return entry :: rest

/-- The fields of a timeline, which are all that the search for prohibited
fields sees: what is inside them is a dictionary by then. -/
def timelineFields : List String :=
  ["subject_property_id", "entries", "current_snapshot_id",
    "superseded_snapshot_ids", "output_tier", "public_eligible",
    "external_action_capability", "timeline_fingerprint"]

/-- `_validate_prohibited_fields`. -/
def validateProhibitedFields (registry : TimelineRegistry) : Except String Unit :=
  let overlap := timelineFields.filter fun field =>
    field ∈ registry.prohibitedOutputFields
  require (overlap = [])
    ("prohibited timeline output fields present: [" ++ ", ".intercalate
      ((sortedBy id overlap).map fun field => "'" ++ field ++ "'") ++ "]")

/-- A timeline of entries, before it has a fingerprint. -/
def draftTimeline (subject : String) (entries : List TimelineEntry) :
    SellerDecisionTimeline where
  subjectPropertyId := subject
  entries := entries
  currentSnapshotId := (entries.getLast?.map TimelineEntry.snapshotId).getD ""
  supersededSnapshotIds := entries.dropLast.map TimelineEntry.snapshotId
  outputTier := "SELLER"
  publicEligible := false
  externalActionCapability := "NONE"
  timelineFingerprint := ""

/-- `build_seller_decision_timeline`. -/
def buildSellerDecisionTimeline
    (fromisoformat : Community.FromIsoformat) (registry : TimelineRegistry)
    (snapshots : List GovernedTimelineSnapshot) :
    Except String SellerDecisionTimeline := do
  let first ← orRaise snapshots.head?
    "at least one certified strategy snapshot required"
  let parsed ← readSnapshots fromisoformat [] none snapshots
  let ordered := sortedBy (fun row => toLex (row.1, row.2.snapshotId)) parsed
  require (ordered.map Prod.fst).Nodup
    "timeline snapshot timestamps must be unique"
  let entries ← entriesOf registry none (ordered.map Prod.snd)
  let draft := draftTimeline first.strategy.subjectPropertyId entries
  let fingerprint ← hash draft.payload
  validateProhibitedFields registry
  return { draft with timelineFingerprint := fingerprint }

/-! ## Snapshots in order -/

/-- The instant of a snapshot. -/
def instantOf (fromisoformat : Community.FromIsoformat)
    (snapshot : GovernedTimelineSnapshot) : Int :=
  ((fromisoformat snapshot.observedAt).getD none).getD 0

/-- The snapshots in the order of their instants. -/
def chronological (fromisoformat : Community.FromIsoformat)
    (snapshots : List GovernedTimelineSnapshot) :
    List GovernedTimelineSnapshot :=
  sortedBy (fun snapshot =>
    toLex (instantOf fromisoformat snapshot, snapshot.snapshotId)) snapshots

/-- The snapshots with those before them. -/
def steps :
    Option GovernedTimelineSnapshot → List GovernedTimelineSnapshot →
      List (Option GovernedTimelineSnapshot × GovernedTimelineSnapshot)
  | _, [] => []
  | prior, snapshot :: snapshots =>
      (prior, snapshot) :: steps (some snapshot) snapshots

/-- Snapshots of one property that can be dated, under distinct
identifiers. -/
structure Admissible (fromisoformat : Community.FromIsoformat)
    (snapshots : List GovernedTimelineSnapshot) : Prop where
  valid : ∀ snapshot ∈ snapshots, validateSnapshot fromisoformat snapshot =
      .ok (instantOf fromisoformat snapshot)
  distinct : (snapshots.map GovernedTimelineSnapshot.snapshotId).Nodup
  together : ∀ left ∈ snapshots, ∀ right ∈ snapshots,
    left.strategy.subjectPropertyId = right.strategy.subjectPropertyId

variable {snapshot : GovernedTimelineSnapshot}
  {others : List GovernedTimelineSnapshot}
  {prior : Option GovernedTimelineSnapshot} {entry : TimelineEntry}
  {current : PropertySellerStrategy}

section Snapshots

variable {fromisoformat : Community.FromIsoformat}
  {registry : TimelineRegistry}
  {snapshots : List GovernedTimelineSnapshot}

theorem instant_of_validateSnapshot {instant : Int}
    (valid : validateSnapshot fromisoformat snapshot = .ok instant) :
    instant = instantOf fromisoformat snapshot := by
  simp only [validateSnapshot, parseTs, bind_eq_ok, require_eq_ok,
    exists_const, orRaise_eq_ok] at valid
  obtain ⟨-, read, ⟨parsed, given, aware⟩, -, -, -, rest⟩ := valid
  have same : read = instantOf fromisoformat snapshot := by
    rw [instantOf, given, Option.getD_some, aware, Option.getD_some]
  cases scenario : snapshot.scenario with
  | none =>
      simp only [scenario, bind_eq_ok, require_eq_ok, exists_const, pure_eq_ok] at rest
      exact rest.2.symm.trans same
  | some supplied =>
      simp only [scenario, bind_eq_ok, pure_eq_ok] at rest
      obtain ⟨_, -, equal⟩ := rest
      exact equal.symm.trans same

theorem readSnapshots_eq_ok {seen : List String} {subject : Option String}
    {parsed : List (Int × GovernedTimelineSnapshot)} :
    readSnapshots fromisoformat seen subject snapshots = .ok parsed ↔
      Admissible fromisoformat snapshots ∧
        (∀ snapshot ∈ snapshots, snapshot.snapshotId ∉ seen ∧
          ∀ first ∈ subject, snapshot.strategy.subjectPropertyId = first) ∧
        parsed = snapshots.map fun snapshot =>
          (instantOf fromisoformat snapshot, snapshot) := by
  induction snapshots generalizing seen subject parsed with
  | nil =>
      constructor
      · intro admitted
        cases admitted
        exact ⟨⟨List.forall_mem_nil _, List.nodup_nil,
          List.forall_mem_nil _⟩, List.forall_mem_nil _, rfl⟩
      · rintro ⟨-, -, rfl⟩
        rfl
  | cons snapshot snapshots ih =>
      simp only [readSnapshots, bind_eq_ok, require_eq_ok, exists_const, pure_eq_ok, ih]
      constructor
      · rintro ⟨instant, valid, fresh, own, _, ⟨admissible, others, rfl⟩, rfl⟩
        obtain rfl := instant_of_validateSnapshot valid
        have same : ∀ other ∈ snapshots, other.strategy.subjectPropertyId =
            snapshot.strategy.subjectPropertyId := by
          intro other listed
          have belongs := (others other listed).2 _ rfl
          cases subject with
          | none => exact belongs
          | some first => exact belongs.trans (own first rfl).symm
        refine ⟨⟨List.forall_mem_cons.mpr ⟨valid, admissible.valid⟩,
          List.nodup_cons.mpr ⟨fun repeated => ?_, admissible.distinct⟩, ?_⟩,
          List.forall_mem_cons.mpr ⟨⟨fresh, own⟩, fun other listed => ?_⟩,
          rfl⟩
        · obtain ⟨other, listed, equal⟩ := List.mem_map.mp repeated
          apply (others other listed).1
          rw [equal]
          exact List.mem_cons_self
        · intro left leftListed right rightListed
          have shared : ∀ listed ∈ snapshot :: snapshots,
              listed.strategy.subjectPropertyId = snapshot.strategy.subjectPropertyId :=
            List.forall_mem_cons.mpr ⟨rfl, same⟩
          exact (shared left leftListed).trans (shared right rightListed).symm
        · refine ⟨fun old => (others other listed).1
            (List.mem_cons_of_mem _ old), fun first given => ?_⟩
          exact (same other listed).trans (own first given)
      · rintro ⟨⟨valid, distinct, together⟩, others, rfl⟩
        rw [List.forall_mem_cons] at valid others
        rw [List.map_cons, List.nodup_cons] at distinct
        have same : ∀ other ∈ snapshots, other.strategy.subjectPropertyId =
            snapshot.strategy.subjectPropertyId := fun other listed =>
          together other (List.mem_cons_of_mem _ listed) snapshot List.mem_cons_self
        refine ⟨_, valid.1, others.1.1, others.1.2, _, ⟨⟨valid.2, distinct.2,
          fun left leftListed right rightListed => together left
            (List.mem_cons_of_mem _ leftListed) right
            (List.mem_cons_of_mem _ rightListed)⟩,
          fun other listed => ⟨fun old => ?_, ?_⟩, rfl⟩, rfl⟩
        · rcases List.mem_cons.mp old with equal | older
          · exact distinct.1 (equal ▸ List.mem_map_of_mem listed)
          · exact (others.2 other listed).1 older
        · rintro first given
          obtain rfl := Option.some.inj given
          cases subject with
          | none => exact same other listed
          | some first =>
              exact (same other listed).trans (others.1.2 first rfl)

/-- The snapshots that are sorted with their instants. -/
theorem map_snd_sortedBy (snapshots : List GovernedTimelineSnapshot) :
    sortedBy (fun row : Int × GovernedTimelineSnapshot =>
        toLex (row.1, row.2.snapshotId))
        (snapshots.map fun snapshot =>
          (instantOf fromisoformat snapshot, snapshot)) =
      (chronological fromisoformat snapshots).map fun snapshot =>
        (instantOf fromisoformat snapshot, snapshot) :=
  (map_sortedBy (fun snapshot =>
    (instantOf fromisoformat snapshot, snapshot)) _ snapshots).symm

theorem entriesOf_eq_mapM (prior : Option GovernedTimelineSnapshot)
    (snapshots : List GovernedTimelineSnapshot) :
    entriesOf registry prior snapshots =
      (steps prior snapshots).mapM fun step =>
        entryOf registry step.1 step.2 := by
  induction snapshots generalizing prior with
  | nil => rfl
  | cons snapshot snapshots ih =>
      rw [steps, List.mapM_cons, entriesOf, ih]

theorem build_eq_ok {timeline : SellerDecisionTimeline} :
    buildSellerDecisionTimeline fromisoformat registry snapshots =
        .ok timeline ↔
      ∃ first, snapshots.head? = some first ∧
        Admissible fromisoformat snapshots ∧
        ((chronological fromisoformat snapshots).map (instantOf fromisoformat)).Nodup ∧
        ∃ entries, (steps none (chronological fromisoformat snapshots)).mapM
              (fun step => entryOf registry step.1 step.2) = .ok entries ∧
          ∃ fingerprint, hash (draftTimeline first.strategy.subjectPropertyId
              entries).payload = .ok fingerprint ∧
            ∃ checked, validateProhibitedFields registry = .ok checked ∧
              { draftTimeline first.strategy.subjectPropertyId entries with
                timelineFingerprint := fingerprint } = timeline := by
  simp only [buildSellerDecisionTimeline, bind_eq_ok, orRaise_eq_ok,
    require_eq_ok, exists_const, pure_eq_ok, readSnapshots_eq_ok,
    Option.not_mem_none, List.not_mem_nil, not_false_eq_true, IsEmpty.forall_iff, implies_true,
    and_self, true_and, entriesOf_eq_mapM]
  have dated : ∀ ordered : List GovernedTimelineSnapshot,
      (ordered.map fun snapshot =>
        (instantOf fromisoformat snapshot, snapshot)).map Prod.fst =
          ordered.map (instantOf fromisoformat) := by
    intro ordered
    rw [List.map_map]
    rfl
  have kept : ∀ ordered : List GovernedTimelineSnapshot,
      (ordered.map fun snapshot =>
        (instantOf fromisoformat snapshot, snapshot)).map Prod.snd = ordered := by
    intro ordered
    rw [List.map_map]
    exact List.map_id ordered
  refine exists_congr fun first => and_congr_right fun _ => ?_
  constructor
  · rintro ⟨_, ⟨admissible, rfl⟩, rest⟩
    rw [map_snd_sortedBy, dated, kept] at rest
    exact ⟨admissible, rest⟩
  · rintro ⟨admissible, rest⟩
    refine ⟨_, ⟨admissible, rfl⟩, ?_⟩
    rw [map_snd_sortedBy, dated, kept]
    exact rest

theorem Admissible.of_perm (admissible : Admissible fromisoformat snapshots)
    (permuted : others.Perm snapshots) :
    Admissible fromisoformat others where
  valid snapshot listed := admissible.valid snapshot (permuted.subset listed)
  distinct := (permuted.map _).nodup_iff.mpr admissible.distinct
  together left leftListed right rightListed :=
    admissible.together left (permuted.subset leftListed) right (permuted.subset rightListed)

theorem Admissible.eq_of_snapshotId (admissible : Admissible fromisoformat snapshots)
    {left right : GovernedTimelineSnapshot}
    (leftListed : left ∈ snapshots) (rightListed : right ∈ snapshots)
    (same : left.snapshotId = right.snapshotId) :
    left = right :=
  List.inj_on_of_nodup_map admissible.distinct leftListed rightListed same

/-- The order of the instants does not depend on that of the input. -/
theorem Admissible.chronological_eq (admissible : Admissible fromisoformat snapshots)
    (permuted : others.Perm snapshots) :
    chronological fromisoformat others = chronological fromisoformat snapshots := by
  apply sortedBy_eq_of_perm permuted
  intro left leftListed right rightListed same
  apply admissible.eq_of_snapshotId (permuted.subset leftListed) (permuted.subset rightListed)
  exact congrArg (fun key => (ofLex key).2) same

@[simp] theorem mem_chronological :
    snapshot ∈ chronological fromisoformat snapshots ↔ snapshot ∈ snapshots :=
  mem_sortedBy _ _ _

theorem pairwise_chronological
    (distinct : ((chronological fromisoformat snapshots).map (instantOf fromisoformat)).Nodup) :
    (chronological fromisoformat snapshots).Pairwise fun left right =>
      instantOf fromisoformat left < instantOf fromisoformat right := by
  have ascending := pairwise_sortedBy (fun snapshot => toLex
    (instantOf fromisoformat snapshot, snapshot.snapshotId)) snapshots
  have apart := List.pairwise_map.mp distinct
  refine (ascending.and apart).imp ?_
  rintro left right ⟨below, differs⟩
  rcases Prod.Lex.toLex_le_toLex.mp below with earlier | ⟨same, -⟩
  · exact earlier
  · exact absurd same differs

/-! ## Steps -/

theorem steps_append (prior : Option GovernedTimelineSnapshot)
    (before after : List GovernedTimelineSnapshot) :
    steps prior (before ++ after) =
      steps prior before ++ steps (before.getLast?.or prior) after := by
  induction before generalizing prior with
  | nil => rfl
  | cons snapshot before ih =>
      rw [List.cons_append, steps, steps, ih, List.cons_append]
      cases before with
      | nil => rfl
      | cons next before => rfl

@[simp] theorem map_snd_steps (prior : Option GovernedTimelineSnapshot)
    (snapshots : List GovernedTimelineSnapshot) :
    (steps prior snapshots).map Prod.snd = snapshots := by
  induction snapshots generalizing prior with
  | nil => rfl
  | cons snapshot snapshots ih =>
      rw [steps, List.map_cons, ih]

/-- What a step starts from is listed as well. -/
theorem mem_of_mem_steps {start : Option GovernedTimelineSnapshot}
    (step : (prior, snapshot) ∈ steps start snapshots) :
    snapshot ∈ snapshots ∧ ∀ before ∈ prior, before ∈ start ∨ before ∈ snapshots := by
  induction snapshots generalizing start with
  | nil => exact absurd step List.not_mem_nil
  | cons first snapshots ih =>
      rw [steps, List.mem_cons] at step
      rcases step with here | later
      · cases here
        exact ⟨List.mem_cons_self, fun before listed => .inl listed⟩
      · obtain ⟨listed, traced⟩ := ih later
        refine ⟨List.mem_cons_of_mem _ listed, fun before given => ?_⟩
        rcases traced before given with same | earlier
        · exact .inr (Option.some.inj same ▸ List.mem_cons_self)
        · exact .inr (List.mem_cons_of_mem _ earlier)

theorem exists_mem_steps
    {start : Option GovernedTimelineSnapshot} (listed : snapshot ∈ snapshots) :
    ∃ prior, (prior, snapshot) ∈ steps start snapshots := by
  rw [← map_snd_steps start snapshots, List.mem_map] at listed
  obtain ⟨⟨prior, current⟩, step, rfl⟩ := listed
  exact ⟨prior, step⟩

/-! ## Entries -/

theorem entryOf_eq_ok :
    entryOf registry prior snapshot = .ok entry ↔
      (∀ fingerprint ∈ snapshot.hypotheticalLineage, fingerprint ∉ snapshot.strategyLineage) ∧
      ∃ changes, changesSince registry snapshot prior = .ok changes ∧
        ∃ event, eventOf snapshot (eventReasons changes) = .ok event ∧
        ∃ fingerprint, hash (draftEntry prior snapshot changes event).payload =
            .ok fingerprint ∧
          { draftEntry prior snapshot changes event with
            entryFingerprint := fingerprint } = entry := by
  simp only [entryOf, bind_eq_ok, require_eq_ok, exists_const, pure_eq_ok]

/-- What an entry keeps of its step. -/
structure Keeps (prior : Option GovernedTimelineSnapshot)
    (snapshot : GovernedTimelineSnapshot) (entry : TimelineEntry) :
    Prop where
  snapshotId : entry.snapshotId = snapshot.snapshotId
  priorSnapshotId : entry.priorSnapshotId = prior.map GovernedTimelineSnapshot.snapshotId
  strategy : entry.strategyLineageFingerprints = snapshot.strategyLineage
  hypothetical : entry.hypotheticalLineageFingerprints = snapshot.hypotheticalLineage
  apart : ∀ fingerprint ∈ snapshot.hypotheticalLineage, fingerprint ∉ snapshot.strategyLineage

theorem keeps_of_entryOf (made : entryOf registry prior snapshot = .ok entry) :
    Keeps prior snapshot entry := by
  obtain ⟨apart, changes, -, event, -, fingerprint, -, rfl⟩ := entryOf_eq_ok.mp made
  exact ⟨rfl, rfl, rfl, rfl, apart⟩

/-- A strategy with all the tracked targets, and no others. -/
def Tracked (registry : TimelineRegistry) (strategy : PropertySellerStrategy) : Prop :=
  surfaceKeys strategy = registry.trackedStrategyTargets.toFinset

theorem exists_surfaceAt {strategy : PropertySellerStrategy} {target : String}
    (tracked : Tracked registry strategy) (listed : target ∈ registry.trackedStrategyTargets) :
    ∃ item, surfaceAt strategy target = some item := by
  rw [← List.mem_toFinset, ← tracked, surfaceKeys, List.mem_toFinset, ← exists_latest_iff] at listed
  obtain ⟨item, found⟩ := listed
  exact ⟨item.2, by rw [surfaceAt, found, Option.map_some]⟩

theorem exists_changesOf {prior : PropertySellerStrategy}
    (priorTracked : Tracked registry prior) (tracked : Tracked registry current) :
    ∃ changes, changesOf registry prior current = .ok changes := by
  have each : ∀ target ∈ registry.trackedStrategyTargets,
      ∃ change, changeOf prior current target = .ok change := by
    intro target listed
    obtain ⟨before, old⟩ := exists_surfaceAt priorTracked listed
    obtain ⟨after, new⟩ := exists_surfaceAt tracked listed
    obtain ⟨fingerprint, hashed⟩ := exists_hash_iff.mpr
      (show Serializable (TimelineChange.payload
        { target
          priorStatus := before.1
          currentStatus := after.1
          priorState := before.2
          currentState := after.2
          transition := transition before after
          changeFingerprint := "" }) by simp [TimelineChange.payload])
    refine ⟨_, bind_eq_ok.mpr ⟨before, ?_, bind_eq_ok.mpr ⟨after, ?_,
      bind_eq_ok.mpr ⟨fingerprint, hashed, rfl⟩⟩⟩⟩
    · rw [old]
      rfl
    · rw [new]
      rfl
  obtain ⟨changes, traversed⟩ := exists_mapM_ok each
  refine ⟨changes, ?_⟩
  simp only [changesOf, bind_eq_ok, require_eq_ok, exists_const]
  exact ⟨⟨priorTracked, tracked⟩, traversed⟩

theorem exists_eventOf (snapshot : GovernedTimelineSnapshot) (reasons : List String) :
    ∃ event, eventOf snapshot reasons = .ok event := by
  rw [eventOf]
  split_ifs
  · exact ⟨none, rfl⟩
  · obtain ⟨fingerprint, hashed⟩ := exists_hash_iff.mpr
      (show Serializable (MonitoringEvent.payload _) by
        simp [MonitoringEvent.payload])
    exact ⟨_, bind_eq_ok.mpr ⟨fingerprint, hashed, rfl⟩⟩

theorem exists_entryOf
    (apart : ∀ fingerprint ∈ snapshot.hypotheticalLineage, fingerprint ∉ snapshot.strategyLineage)
    (priorTracked : ∀ before ∈ prior, Tracked registry before.strategy)
    (tracked : Tracked registry snapshot.strategy) :
    ∃ entry, entryOf registry prior snapshot = .ok entry := by
  have compared : ∃ changes,
      changesSince registry snapshot prior = .ok changes := by
    cases prior with
    | none => exact ⟨[], rfl⟩
    | some before => exact exists_changesOf (priorTracked before rfl) tracked
  obtain ⟨changes, compared⟩ := compared
  obtain ⟨event, reported⟩ := exists_eventOf snapshot (eventReasons changes)
  obtain ⟨fingerprint, hashed⟩ := exists_hash_iff.mpr
    (show Serializable (draftEntry prior snapshot changes event).payload by
      simp [TimelineEntry.payload])
  exact ⟨_, entryOf_eq_ok.mpr ⟨apart, changes, compared, event, reported, fingerprint, hashed, rfl⟩⟩

/-! ## Monitoring -/

/-- The status of a target. -/
def statusAt (strategy : PropertySellerStrategy) (target : String) : Option String :=
  (surfaceAt strategy target).map Prod.fst

/-- A target changes behind a status that says that nothing is known of it. -/
def Unnoticed (prior current : PropertySellerStrategy) (target : String) : Prop :=
  statusAt prior target = statusAt current target ∧
    (statusAt prior target = some "MISSING" ∨ statusAt prior target = some "SUPPRESSED")

theorem transition_mem_reviewed_iff {prior current : String × Option String} :
    transition prior current ∈ reviewed ↔
      prior ≠ current ∧ ¬(prior.1 = current.1 ∧
        (prior.1 = "MISSING" ∨ prior.1 = "SUPPRESSED")) := by
  obtain ⟨before, old⟩ := prior
  obtain ⟨after, new⟩ := current
  simp only [transition, reviewed, List.mem_cons, List.not_mem_nil, or_false, ne_eq, Prod.mk.injEq]
  by_cases gone : before = "MISSING"
  · subst gone
    by_cases still : after = "MISSING"
    · simp [still]
    · by_cases hidden : after = "SUPPRESSED"
      · simp [hidden]
      · by_cases back : after = "CURRENT"
        · simp [back]
        · simp [still, hidden, back, Ne.symm still]
  · by_cases hidden : before = "SUPPRESSED"
    · subst hidden
      by_cases still : after = "SUPPRESSED"
      · simp [still]
      · by_cases missing : after = "MISSING"
        · simp [missing]
        · by_cases back : after = "CURRENT"
          · simp [back]
          · simp [still, missing, back, Ne.symm still]
    · by_cases missing : after = "MISSING"
      · simp [gone, missing]
      · by_cases suppressed : after = "SUPPRESSED"
        · simp [hidden, suppressed]
        · by_cases fresh : after = "CURRENT" ∧ before ≠ "CURRENT"
          · obtain ⟨rfl, stale⟩ := fresh
            simp [gone, hidden, stale]
          · by_cases same : before = after ∧ old = new
            · obtain ⟨rfl, rfl⟩ := same
              simp [gone, hidden]
            · simp [gone, hidden, missing, suppressed, fresh, same]

theorem eventReasons_ne_nil_iff {changes : List TimelineChange} :
    eventReasons changes ≠ [] ↔ ∃ change ∈ changes, change.transition ∈ reviewed := by
  rw [eventReasons, ← List.length_pos_iff, length_sortedBy, List.length_map,
    List.length_pos_iff, ne_eq, List.filter_eq_nil_iff]
  push Not
  simp only [decide_eq_true_eq]

theorem isSome_of_eventOf {reasons : List String} {event : Option MonitoringEvent}
    (made : eventOf snapshot reasons = .ok event) :
    event.isSome = true ↔ reasons ≠ [] := by
  rw [eventOf] at made
  split_ifs at made with nothing
  · cases made
    exact iff_of_false nofun (not_not.mpr nothing)
  · simp only [bind_eq_ok, pure_eq_ok] at made
    obtain ⟨fingerprint, -, rfl⟩ := made
    exact iff_of_true rfl nothing

/-- The change of a target calls for a review where the target changes in
view. -/
theorem transition_of_changeOf {prior : PropertySellerStrategy} {target : String}
    {change : TimelineChange} (made : changeOf prior current target = .ok change) :
    change.transition ∈ reviewed ↔
      surfaceAt prior target ≠ surfaceAt current target ∧ ¬Unnoticed prior current target := by
  simp only [changeOf, bind_eq_ok, orRaise_eq_ok, pure_eq_ok] at made
  obtain ⟨before, old, after, new, fingerprint, -, rfl⟩ := made
  rw [transition_mem_reviewed_iff, Unnoticed, statusAt, statusAt, old, new]
  simp only [Option.map_some, ne_eq, Option.some.injEq]

theorem exists_reviewed_iff {prior : PropertySellerStrategy} {changes : List TimelineChange}
    (made : changesOf registry prior current = .ok changes) :
    (∃ change ∈ changes, change.transition ∈ reviewed) ↔
      ∃ target ∈ registry.trackedStrategyTargets,
        surfaceAt prior target ≠ surfaceAt current target ∧ ¬Unnoticed prior current target := by
  simp only [changesOf, bind_eq_ok, require_eq_ok, exists_const] at made
  obtain ⟨-, traversed⟩ := made
  constructor
  · rintro ⟨change, listed, reason⟩
    obtain ⟨target, tracked, own⟩ := (mem_mapM_iff traversed).mp listed
    exact ⟨target, tracked, (transition_of_changeOf own).mp reason⟩
  · rintro ⟨target, tracked, differs⟩
    obtain ⟨change, listed, own⟩ := exists_ok_of_mapM traversed tracked
    exact ⟨change, listed, (transition_of_changeOf own).mpr differs⟩

/-- An entry has an event where a target changes in view. -/
theorem isSome_monitoringEvent_iff (made : entryOf registry prior snapshot = .ok entry) :
    entry.monitoringEvent.isSome = true ↔ ∃ before ∈ prior,
      ∃ target ∈ registry.trackedStrategyTargets,
        surfaceAt before.strategy target ≠ surfaceAt snapshot.strategy target ∧
          ¬Unnoticed before.strategy snapshot.strategy target := by
  obtain ⟨-, changes, compared, event, reported, fingerprint, -, rfl⟩ := entryOf_eq_ok.mp made
  change event.isSome = true ↔ _
  rw [isSome_of_eventOf reported, eventReasons_ne_nil_iff]
  cases prior with
  | none =>
      cases compared
      exact iff_of_false (fun ⟨_, listed, _⟩ => List.not_mem_nil listed)
        (fun ⟨_, absent, _⟩ => Option.not_mem_none _ absent)
  | some before =>
      rw [changesSince] at compared
      rw [exists_reviewed_iff compared]
      constructor
      · exact fun seen => ⟨before, rfl, seen⟩
      · rintro ⟨_, ⟨⟩, seen⟩
        exact seen

/-! ## Built timelines -/

section Built

variable {timeline : SellerDecisionTimeline}

theorem admissible_of_build
    (built : buildSellerDecisionTimeline fromisoformat registry snapshots = .ok timeline) :
    Admissible fromisoformat snapshots := by
  obtain ⟨first, -, admissible, -⟩ := build_eq_ok.mp built
  exact admissible

theorem entries_of_build
    (built : buildSellerDecisionTimeline fromisoformat registry snapshots = .ok timeline) :
    (steps none (chronological fromisoformat snapshots)).mapM
      (fun step => entryOf registry step.1 step.2) = .ok timeline.entries := by
  obtain ⟨first, -, -, -, entries, traversed, fingerprint, -, _, -, rfl⟩ := build_eq_ok.mp built
  exact traversed

/-- The order of the input does not matter. -/
theorem build_of_perm
    (built : buildSellerDecisionTimeline fromisoformat registry snapshots =
      .ok timeline) (permuted : others.Perm snapshots) :
    buildSellerDecisionTimeline fromisoformat registry others = .ok timeline := by
  obtain ⟨first, head, admissible, distinct, rest⟩ := build_eq_ok.mp built
  have same := admissible.chronological_eq permuted
  cases others with
  | nil =>
      rw [List.nil_perm.mp permuted] at head
      cases head
  | cons other others =>
      have firstListed := List.mem_of_mem_head? (Option.mem_def.mpr head)
      have subject : first.strategy.subjectPropertyId =
          other.strategy.subjectPropertyId :=
        admissible.together first firstListed other (permuted.subset List.mem_cons_self)
      rw [subject] at rest
      apply build_eq_ok.mpr
      exact ⟨other, rfl, admissible.of_perm permuted, same ▸ distinct, same ▸ rest⟩

/-- Every entry comes from a step between snapshots that are given. -/
theorem exists_step_of_mem_entries
    (built : buildSellerDecisionTimeline fromisoformat registry snapshots = .ok timeline)
    (listed : entry ∈ timeline.entries) :
    ∃ prior snapshot, (prior, snapshot) ∈
        steps none (chronological fromisoformat snapshots) ∧
      entryOf registry prior snapshot = .ok entry := by
  obtain ⟨⟨prior, snapshot⟩, step, made⟩ := (mem_mapM_iff (entries_of_build built)).mp listed
  exact ⟨prior, snapshot, step, made⟩

theorem given_of_step
    (step : (prior, snapshot) ∈ steps none (chronological fromisoformat snapshots)) :
    snapshot ∈ snapshots ∧ ∀ before ∈ prior, before ∈ snapshots := by
  obtain ⟨listed, traced⟩ := mem_of_mem_steps step
  refine ⟨mem_chronological.mp listed, fun before given => ?_⟩
  have earlier := (traced before given).resolve_left (Option.not_mem_none _)
  exact mem_chronological.mp earlier

/-- Every snapshot has an entry. -/
theorem exists_entry
    (built : buildSellerDecisionTimeline fromisoformat registry snapshots = .ok timeline)
    (given : snapshot ∈ snapshots) :
    ∃ prior, ∃ entry ∈ timeline.entries, Keeps prior snapshot entry := by
  obtain ⟨prior, step⟩ : ∃ prior, (prior, snapshot) ∈
      steps none (chronological fromisoformat snapshots) :=
    exists_mem_steps (mem_chronological.mpr given)
  obtain ⟨entry, listed, made⟩ := exists_ok_of_mapM (entries_of_build built) step
  exact ⟨prior, entry, listed, keeps_of_entryOf made⟩

/-- A timeline is built of snapshots that differ in their instants and track
the targets, if the scenario of each of them is apart from its strategy. -/
theorem exists_build (given : snapshots ≠ []) (admissible : Admissible fromisoformat snapshots)
    (distinct : (snapshots.map (instantOf fromisoformat)).Nodup)
    (apart : ∀ snapshot ∈ snapshots,
      ∀ fingerprint ∈ snapshot.hypotheticalLineage, fingerprint ∉ snapshot.strategyLineage)
    (tracked : ∀ snapshot ∈ snapshots, Tracked registry snapshot.strategy)
    (allowed : validateProhibitedFields registry = .ok ()) :
    ∃ timeline, buildSellerDecisionTimeline fromisoformat registry snapshots = .ok timeline := by
  obtain ⟨first, others, rfl⟩ := List.exists_cons_of_ne_nil given
  have each : ∀ step ∈
      steps none (chronological fromisoformat (first :: others)),
      ∃ entry, entryOf registry step.1 step.2 = .ok entry := by
    rintro ⟨prior, snapshot⟩ listed
    obtain ⟨own, earlier⟩ := given_of_step listed
    exact exists_entryOf (apart snapshot own)
      (fun before started => tracked before (earlier before started))
      (tracked snapshot own)
  obtain ⟨entries, traversed⟩ := exists_mapM_ok each
  obtain ⟨fingerprint, hashed⟩ := exists_hash_iff.mpr (show Serializable
        (draftTimeline first.strategy.subjectPropertyId entries).payload by
      simp [SellerDecisionTimeline.payload])
  have ordered : ((chronological fromisoformat (first :: others)).map
      (instantOf fromisoformat)).Nodup :=
    ((sortedBy_perm _ _).map _).nodup_iff.mpr distinct
  exact ⟨_, build_eq_ok.mpr ⟨first, rfl, admissible, ordered, entries,
    traversed, fingerprint, hashed, (), allowed, rfl⟩⟩

/-! ### Locality -/

/-- The entries of the same snapshots after different ones differ at most in
the first. -/
theorem entries_after {left right : Option GovernedTimelineSnapshot}
    {after : List GovernedTimelineSnapshot} {entries others : List TimelineEntry}
    (traversed : (steps left after).mapM (fun step => entryOf registry step.1 step.2) = .ok entries)
    (otherwise : (steps right after).mapM
      (fun step => entryOf registry step.1 step.2) = .ok others) :
    others.map TimelineEntry.snapshotId = entries.map TimelineEntry.snapshotId ∧
      others.tail = entries.tail := by
  cases after with
  | nil =>
      cases traversed
      cases otherwise
      exact ⟨rfl, rfl⟩
  | cons snapshot after =>
      rw [steps, List.mapM_cons] at traversed otherwise
      simp only [bind_eq_ok, pure_eq_ok] at traversed otherwise
      obtain ⟨entry, made, rest, later, rfl⟩ := traversed
      obtain ⟨other, otherMade, otherRest, otherLater, rfl⟩ := otherwise
      obtain rfl : rest = otherRest := Except.ok.inj (later.symm.trans otherLater)
      refine ⟨?_, rfl⟩
      rw [List.map_cons, List.map_cons, (keeps_of_entryOf made).snapshotId,
        (keeps_of_entryOf otherMade).snapshotId]

/-- One snapshot more changes the entry that follows it, and no other. -/
theorem entries_of_insertion {added : GovernedTimelineSnapshot} {later : SellerDecisionTimeline}
    (built : buildSellerDecisionTimeline fromisoformat registry snapshots = .ok timeline)
    (permuted : others.Perm (added :: snapshots))
    (rebuilt : buildSellerDecisionTimeline fromisoformat registry others = .ok later) :
    ∃ before after own changed, timeline.entries = before ++ after ∧
      later.entries = before ++ own :: changed ∧
      own.snapshotId = added.snapshotId ∧
      changed.map TimelineEntry.snapshotId = after.map TimelineEntry.snapshotId ∧
      changed.tail = after.tail := by
  obtain ⟨front, back, sorted, inserted⟩ := exists_sortedBy_cons
    (fun snapshot : GovernedTimelineSnapshot => toLex
      (instantOf fromisoformat snapshot, snapshot.snapshotId))
    added snapshots
  have traversed := entries_of_build built
  have retraversed := entries_of_build (build_of_perm rebuilt permuted.symm)
  rw [chronological, sorted, steps_append, List.mapM_append] at traversed
  rw [chronological, inserted, steps_append, List.mapM_append, steps, List.mapM_cons] at retraversed
  simp only [bind_eq_ok, pure_eq_ok] at traversed retraversed
  obtain ⟨before, same, after, follows, entries⟩ := traversed
  obtain ⟨_, again, _, ⟨own, made, changed, refollows, rfl⟩, laterEntries⟩ := retraversed
  obtain rfl := Except.ok.inj (same.symm.trans again)
  obtain ⟨sameIds, sameTail⟩ := entries_after follows refollows
  exact ⟨before, after, own, changed, entries.symm, laterEntries.symm,
    (keeps_of_entryOf made).snapshotId, sameIds, sameTail⟩

end Built

/-! ## Local timelines without an order -/

/-- What is to hold of the timeline of snapshots: it does not depend on their
order, goes by their instants, changes only where a snapshot is added, has an
event where a target differs, and keeps scenarios out of strategies. -/
structure Faithful (fromisoformat : Community.FromIsoformat) (registry : TimelineRegistry)
    (snapshots : List GovernedTimelineSnapshot) (timeline : SellerDecisionTimeline) : Prop where
  orderFree : ∀ others : List GovernedTimelineSnapshot, others.Perm snapshots →
      buildSellerDecisionTimeline fromisoformat registry others = .ok timeline
  chronological : ∃ ordered : List GovernedTimelineSnapshot,
    ordered.Perm snapshots ∧
    (ordered.Pairwise fun left right =>
      instantOf fromisoformat left < instantOf fromisoformat right) ∧
    timeline.entries.map (fun entry =>
        (entry.priorSnapshotId, entry.snapshotId)) =
      (steps none ordered).map fun step =>
        (step.1.map GovernedTimelineSnapshot.snapshotId, step.2.snapshotId)
  localized : ∀ (added : GovernedTimelineSnapshot)
    (others : List GovernedTimelineSnapshot) (later : SellerDecisionTimeline),
    others.Perm (added :: snapshots) →
      buildSellerDecisionTimeline fromisoformat registry others = .ok later →
        ∃ before after own changed, timeline.entries = before ++ after ∧
          later.entries = before ++ own :: changed ∧
          own.snapshotId = added.snapshotId ∧
          changed.map TimelineEntry.snapshotId = after.map TimelineEntry.snapshotId ∧
          changed.tail = after.tail
  monitored : ∀ entry ∈ timeline.entries, entry.monitoringEvent.isSome = true ↔
      ∃ prior ∈ snapshots, ∃ snapshot ∈ snapshots,
        entry.priorSnapshotId = some prior.snapshotId ∧
        entry.snapshotId = snapshot.snapshotId ∧
        ∃ target ∈ registry.trackedStrategyTargets,
          surfaceAt prior.strategy target ≠ surfaceAt snapshot.strategy target
  separate : ∀ left ∈ timeline.entries, ∀ right ∈ timeline.entries,
    ∀ fingerprint ∈ left.hypotheticalLineageFingerprints,
      fingerprint ∉ right.strategyLineageFingerprints

/-- The scenario of a snapshot shares no fingerprint with the strategy of
another one. -/
def Separate (snapshots : List GovernedTimelineSnapshot) : Prop :=
  ∀ left ∈ snapshots, ∀ right ∈ snapshots,
    left.snapshotId ≠ right.snapshotId →
      ∀ fingerprint ∈ left.hypotheticalLineage, fingerprint ∉ right.strategyLineage

/-- Between a snapshot and the next one, not every target that differs does
so behind a status that says that nothing is known of it. -/
def Exposed (fromisoformat : Community.FromIsoformat) (registry : TimelineRegistry)
    (snapshots : List GovernedTimelineSnapshot) : Prop :=
  ∀ prior snapshot, (some prior, snapshot) ∈
        steps none (chronological fromisoformat snapshots) →
      (∃ target ∈ registry.trackedStrategyTargets,
        surfaceAt prior.strategy target ≠ surfaceAt snapshot.strategy target) →
      ∃ target ∈ registry.trackedStrategyTargets,
        surfaceAt prior.strategy target ≠ surfaceAt snapshot.strategy target ∧
          ¬Unnoticed prior.strategy snapshot.strategy target

section Faithful

variable {timeline : SellerDecisionTimeline}

/-- Entries are in the order of the instants. -/
theorem chronological_of_build
    (built : buildSellerDecisionTimeline fromisoformat registry snapshots = .ok timeline) :
    ∃ ordered : List GovernedTimelineSnapshot, ordered.Perm snapshots ∧
      (ordered.Pairwise fun left right =>
        instantOf fromisoformat left < instantOf fromisoformat right) ∧
      timeline.entries.map (fun entry =>
          (entry.priorSnapshotId, entry.snapshotId)) =
        (steps none ordered).map fun step =>
          (step.1.map GovernedTimelineSnapshot.snapshotId, step.2.snapshotId) := by
  obtain ⟨first, -, -, distinct, -⟩ := build_eq_ok.mp built
  refine ⟨chronological fromisoformat snapshots, sortedBy_perm _ _,
    pairwise_chronological distinct, ?_⟩
  refine (map_eq_of_mapM (entries_of_build built) ?_).symm
  rintro ⟨prior, snapshot⟩ entry made
  have keeps := keeps_of_entryOf made
  rw [keeps.priorSnapshotId, keeps.snapshotId]

/-- The snapshots of an entry are those of its step. -/
theorem differs_iff_of_step (admissible : Admissible fromisoformat snapshots)
    (step : (prior, snapshot) ∈ steps none (chronological fromisoformat snapshots))
    (keeps : Keeps prior snapshot entry) :
    (∃ before ∈ snapshots, ∃ current ∈ snapshots,
      entry.priorSnapshotId = some before.snapshotId ∧ entry.snapshotId = current.snapshotId ∧
      ∃ target ∈ registry.trackedStrategyTargets,
        surfaceAt before.strategy target ≠ surfaceAt current.strategy target) ↔
      ∃ before ∈ prior, ∃ target ∈ registry.trackedStrategyTargets,
        surfaceAt before.strategy target ≠ surfaceAt snapshot.strategy target := by
  obtain ⟨given, earlier⟩ := given_of_step step
  constructor
  · rintro ⟨before, beforeGiven, current, currentGiven, isPrior, own, differs⟩
    rw [keeps.priorSnapshotId, Option.map_eq_some_iff] at isPrior
    obtain ⟨start, started, sameStart⟩ := isPrior
    obtain rfl := admissible.eq_of_snapshotId (earlier start started) beforeGiven sameStart
    obtain rfl := admissible.eq_of_snapshotId given currentGiven (keeps.snapshotId.symm.trans own)
    exact ⟨start, started, differs⟩
  · rintro ⟨before, started, differs⟩
    refine ⟨before, earlier before started, snapshot, given, ?_, keeps.snapshotId, differs⟩
    rw [keeps.priorSnapshotId, Option.mem_def.mp started, Option.map_some]

/-- The timeline is as it should be just where no scenario of a snapshot
shares a fingerprint with the strategy of another one, and no difference
between consecutive snapshots is behind a status only. -/
theorem faithful_iff
    (built : buildSellerDecisionTimeline fromisoformat registry snapshots =
      .ok timeline) :
    Faithful fromisoformat registry snapshots timeline ↔
      Separate snapshots ∧ Exposed fromisoformat registry snapshots := by
  have admissible := admissible_of_build built
  constructor
  · intro faithful
    constructor
    · intro left leftGiven right rightGiven _ fingerprint listed
      obtain ⟨_, leftEntry, leftListed, keepsLeft⟩ :=
        exists_entry built leftGiven
      obtain ⟨_, rightEntry, rightListed, keepsRight⟩ :=
        exists_entry built rightGiven
      rw [← keepsRight.strategy]
      apply faithful.separate leftEntry leftListed rightEntry rightListed
      rwa [keepsLeft.hypothetical]
    · intro prior snapshot step differs
      obtain ⟨entry, listed, made⟩ :=
        exists_ok_of_mapM (entries_of_build built) step
      have monitored := (faithful.monitored entry listed).mpr
        ((differs_iff_of_step admissible step (keeps_of_entryOf made)).mpr
          ⟨prior, rfl, differs⟩)
      obtain ⟨_, ⟨⟩, seen⟩ := (isSome_monitoringEvent_iff made).mp monitored
      exact seen
  · rintro ⟨separate, exposed⟩
    refine ⟨fun others permuted => build_of_perm built permuted,
      chronological_of_build built,
      fun added others later permuted rebuilt =>
        entries_of_insertion built permuted rebuilt, ?_, ?_⟩
    · intro entry listed
      obtain ⟨prior, snapshot, step, made⟩ :=
        exists_step_of_mem_entries built listed
      rw [isSome_monitoringEvent_iff made,
        differs_iff_of_step admissible step (keeps_of_entryOf made)]
      constructor
      · rintro ⟨before, started, target, tracked, differs, -⟩
        exact ⟨before, started, target, tracked, differs⟩
      · rintro ⟨before, started, differs⟩
        refine ⟨before, started, exposed before snapshot ?_ differs⟩
        rwa [← Option.mem_def.mp started]
    · intro left leftListed right rightListed fingerprint hypothetical
      obtain ⟨_, source, sourceStep, sourceMade⟩ :=
        exists_step_of_mem_entries built leftListed
      obtain ⟨_, target, targetStep, targetMade⟩ :=
        exists_step_of_mem_entries built rightListed
      have keepsSource := keeps_of_entryOf sourceMade
      rw [keepsSource.hypothetical] at hypothetical
      rw [(keeps_of_entryOf targetMade).strategy]
      have sourceGiven := (given_of_step sourceStep).1
      have targetGiven := (given_of_step targetStep).1
      -- The builder itself keeps the scenario of a snapshot from its strategy.
      by_cases same : source.snapshotId = target.snapshotId
      · obtain rfl :=
          admissible.eq_of_snapshotId sourceGiven targetGiven same
        exact keepsSource.apart fingerprint hypothetical
      · exact separate source sourceGiven target targetGiven same
          fingerprint hypothetical

end Faithful

end Snapshots

/-! ## Two snapshots -/

/-- The fingerprint of some evidence. -/
def sampleEvidence (digit : Char) : String :=
  String.ofList (List.replicate 64 digit)

theorem isHex64_sampleEvidence {digit : Char} (coded : Sha256.isHexCode digit = true) :
    Sha256.isHex64 (sampleEvidence digit) = true :=
  Sha256.isHex64_ofList rfl (List.all_eq_true.mpr fun char listed => by
    rw [List.eq_of_mem_replicate listed, coded])

theorem sampleEvidence_injective : Function.Injective sampleEvidence := by
  intro left right same
  have lists := String.ofList_injective same
  exact (List.replicate_right_inj (by decide)).mp lists

/-- A strategy that nothing is known for. -/
def sampleStrategy : PropertySellerStrategy where
  subjectPropertyId := "SUBJECT-1"
  buyerAlternativeSetFingerprint := sampleEvidence 'a'
  competitivePressureLevel := "LOW"
  dimensions :=
    ["BUYER_DEPTH", "VERIFIED_DIFFERENTIATION", "NEW_CONSTRUCTION_PRESSURE",
      "PRICING_RESPONSE_ENVIRONMENT", "WEEK_OVER_WEEK_DIRECTION"].map
      fun dimension => draftDimension dimension [] []
  reviewTriggers := [⟨7, false⟩, ⟨10, false⟩, ⟨14, false⟩]
  lineageFingerprints := [sampleEvidence 'a']
  outputTier := "SELLER"
  publicEligible := false
  externalActionCapability := "NONE"
  strategyFingerprint := sampleEvidence 'b'

/-- A scenario for the strategy. -/
def sampleScenario : ScenarioSensitivityResult where
  subjectPropertyId := "SUBJECT-1"
  baselineStrategyFingerprint := sampleEvidence 'b'
  hypotheticalAssumptionFingerprints := [sampleEvidence 'd']
  hypotheticalOnly := true
  publicEligible := false
  externalActionCapability := "NONE"
  scenarioFingerprint := sampleEvidence 'e'

/-- A snapshot of January with the scenario. -/
def januarySnapshot : GovernedTimelineSnapshot where
  snapshotId := "S-1"
  observedAt := "2026-01-01T00:00:00+00:00"
  strategy := sampleStrategy
  strategyCertified := true
  strategyEvidenceFingerprint := sampleEvidence 'f'
  scenario := some sampleScenario
  scenarioCertified := true
  scenarioEvidenceFingerprint := some (sampleEvidence 'c')

/-- A snapshot of February, the strategy of which rests on the evidence of the
scenario of January. -/
def februarySnapshot : GovernedTimelineSnapshot where
  snapshotId := "S-2"
  observedAt := "2026-02-01T00:00:00+00:00"
  strategy := sampleStrategy
  strategyCertified := true
  strategyEvidenceFingerprint := sampleEvidence 'c'
  scenario := none
  scenarioCertified := false
  scenarioEvidenceFingerprint := none

theorem instantOf_januarySnapshot :
    instantOf Community.sampleFromisoformat januarySnapshot = 1767225600 := by
  decide

theorem instantOf_februarySnapshot :
    instantOf Community.sampleFromisoformat februarySnapshot = 1769904000 := by
  decide

theorem tracked_sampleStrategy : Tracked timelineRegistry sampleStrategy :=
  congrArg List.toFinset (by decide :
    (strategySurface sampleStrategy).map Prod.fst = timelineRegistry.trackedStrategyTargets)

theorem admissible_sample :
    Admissible Community.sampleFromisoformat [januarySnapshot, februarySnapshot] where
  valid := by
    refine List.forall_mem_cons.mpr ⟨?_, List.forall_mem_singleton.mpr ?_⟩
    · rw [instantOf_januarySnapshot]
      simp only [validateSnapshot, parseTs, bind_eq_ok, require_eq_ok, exists_const, orRaise_eq_ok]
      refine ⟨by decide, 1767225600, ⟨some 1767225600, by decide, rfl⟩, rfl,
        isHex64_sampleEvidence rfl, by decide, ?_⟩
      change (do validateScenario januarySnapshot sampleScenario; pure _) = _
      simp only [validateScenario, bind_eq_ok, require_eq_ok, exists_const,
        orRaise_eq_ok, pure_eq_ok]
      exact ⟨⟨rfl, _, rfl, isHex64_sampleEvidence rfl, rfl, rfl, by decide⟩, trivial⟩
    · rw [instantOf_februarySnapshot]
      simp only [validateSnapshot, parseTs, bind_eq_ok, require_eq_ok, exists_const, orRaise_eq_ok]
      refine ⟨by decide, 1769904000, ⟨some 1769904000, by decide, rfl⟩, rfl,
        isHex64_sampleEvidence rfl, by decide, rfl⟩
  distinct := by decide
  together := by
    intro left leftListed right rightListed
    have shared : ∀ snapshot ∈ [januarySnapshot, februarySnapshot],
        snapshot.strategy = sampleStrategy :=
      List.forall_mem_cons.mpr ⟨rfl, List.forall_mem_singleton.mpr rfl⟩
    rw [shared left leftListed, shared right rightListed]

theorem apart_sample :
    ∀ snapshot ∈ [januarySnapshot, februarySnapshot],
      ∀ fingerprint ∈ snapshot.hypotheticalLineage, fingerprint ∉ snapshot.strategyLineage := by
  refine List.forall_mem_cons.mpr ⟨?_, List.forall_mem_singleton.mpr nofun⟩
  intro fingerprint hypothetical strategic
  obtain ⟨supposed, ofScenario, rfl⟩ :
      ∃ digit ∈ ['d', 'e', 'c'], fingerprint = sampleEvidence digit := by
    simpa [GovernedTimelineSnapshot.hypotheticalLineage, januarySnapshot,
      sampleScenario] using hypothetical
  obtain ⟨known, ofStrategy, same⟩ :
      ∃ digit ∈ ['a', 'b', 'f'], sampleEvidence supposed = sampleEvidence digit := by
    simpa [GovernedTimelineSnapshot.strategyLineage, januarySnapshot,
      sampleStrategy] using strategic
  obtain rfl := sampleEvidence_injective same
  have disjoint : ∀ digit ∈ ['d', 'e', 'c'], digit ∉ ['a', 'b', 'f'] := by
    simp
  exact disjoint supposed ofScenario ofStrategy

/-- The timeline of the two snapshots. -/
theorem exists_sampleTimeline :
    ∃ timeline, buildSellerDecisionTimeline Community.sampleFromisoformat
      timelineRegistry [januarySnapshot, februarySnapshot] = .ok timeline := by
  apply exists_build (List.cons_ne_nil _ _) admissible_sample
  · rw [List.map_cons, List.map_singleton, instantOf_januarySnapshot, instantOf_februarySnapshot]
    decide
  · exact apart_sample
  · exact List.forall_mem_cons.mpr ⟨tracked_sampleStrategy,
      List.forall_mem_singleton.mpr tracked_sampleStrategy⟩
  · rw [validateProhibitedFields, require_eq_ok]
    decide

theorem faithful_iff_sample :
    ∃ timeline, buildSellerDecisionTimeline Community.sampleFromisoformat
        timelineRegistry [januarySnapshot, februarySnapshot] = .ok timeline ∧
      (Faithful Community.sampleFromisoformat timelineRegistry
          [januarySnapshot, februarySnapshot] timeline ↔
        Separate [januarySnapshot, februarySnapshot] ∧
          Exposed Community.sampleFromisoformat timelineRegistry
            [januarySnapshot, februarySnapshot]) := by
  obtain ⟨timeline, built⟩ := exists_sampleTimeline
  exact ⟨timeline, built, faithful_iff built⟩

/-- The evidence of the scenario of January is part of the strategy of
February, and the timeline is built. -/
theorem scenario_in_strategy :
    ∃ timeline, buildSellerDecisionTimeline Community.sampleFromisoformat
        timelineRegistry [januarySnapshot, februarySnapshot] = .ok timeline ∧
      (∃ left ∈ timeline.entries, ∃ right ∈ timeline.entries,
        left.snapshotId = "S-1" ∧ right.snapshotId = "S-2" ∧
          sampleEvidence 'c' ∈ left.hypotheticalLineageFingerprints ∧
            sampleEvidence 'c' ∈ right.strategyLineageFingerprints) ∧
      ¬Faithful Community.sampleFromisoformat timelineRegistry
        [januarySnapshot, februarySnapshot] timeline := by
  obtain ⟨timeline, built⟩ := exists_sampleTimeline
  obtain ⟨_, left, leftListed, keepsLeft⟩ :=
    exists_entry built List.mem_cons_self
  obtain ⟨_, right, rightListed, keepsRight⟩ :=
    exists_entry built (List.mem_cons_of_mem _ (List.mem_singleton_self _))
  have supposed : sampleEvidence 'c' ∈
      left.hypotheticalLineageFingerprints := by
    rw [keepsLeft.hypothetical]
    simp [GovernedTimelineSnapshot.hypotheticalLineage, januarySnapshot]
  have known : sampleEvidence 'c' ∈ right.strategyLineageFingerprints := by
    rw [keepsRight.strategy]
    simp [GovernedTimelineSnapshot.strategyLineage, februarySnapshot]
  refine ⟨timeline, built, ⟨left, leftListed, right, rightListed,
    keepsLeft.snapshotId, keepsRight.snapshotId, supposed, known⟩, ?_⟩
  intro faithful
  exact faithful.separate left leftListed right rightListed _ supposed known

end SanTanHeights.Seller.Timeline
