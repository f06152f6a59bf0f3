import SanTanHeights.Seller.Pipeline
import SanTanHeights.Seller.Standings

/-!
# What a change ledger says

The deltas between two built states against the decisions behind them: which
dimensions they are about, and whether each change is the one that its name
says.
-/

namespace SanTanHeights.Seller

open Foundation Foundation.Json Shared
open Foundation.Keyed
open Community.History (distinctKeys_arr distinctKeys_obj nodup_sortedSet)

/-! ## Equal items -/

namespace UnifiedIntelligenceItem

variable {left right : UnifiedIntelligenceItem}

/-- Two items agree in every field, up to the order of the keys in values. -/
def Equal (left right : UnifiedIntelligenceItem) : Prop :=
  sortKeys left.asdict = sortKeys right.asdict

theorem Equal.fingerprint (equal : left.Equal right) :
    left.itemFingerprint = right.itemFingerprint := by
  have parts := forall₂_of_sortKeys_obj_eq equal rfl (by simp [payload])
  simp only [payload, List.cons_append, List.nil_append, List.forall₂_cons,
    sortKeys_str, Json.str.injEq, List.forall₂_nil_right_iff, and_true] at parts
  exact parts.2.2.2.2.2.2.2.2.2.2

theorem equal_of_payload (fingerprint : left.itemFingerprint = right.itemFingerprint)
    (same : sortKeys (.obj left.payload) = sortKeys (.obj right.payload)) :
    left.Equal right := by
  have members := map_sortKeysMember_eq same rfl (by simp [payload])
  rw [Equal, asdict, asdict, sortKeys_obj, sortKeys_obj, List.map_append,
    List.map_append, members, fingerprint]

theorem distinctKeys_payload
    {item : UnifiedIntelligenceItem} (distinct : item.value.DistinctKeys) :
    (Json.obj item.payload).DistinctKeys := by
  have references : ∀ ref ∈ item.evidenceRefs,
      ref.asdict.DistinctKeys := by
    intro ref _
    simp [IntelligenceSourceRef.asdict, IntelligenceSourceRef.payload, distinctKeys_obj]
  simpa [payload, distinctKeys_obj, distinctKeys_arr] using ⟨distinct, references⟩

/-- Without collisions, items are equal if their fingerprints are. -/
theorem equal_iff {values : Set Json} (collisionFree : Sha256.CollisionFree (textsOf values))
    (leftMember : .obj left.payload ∈ values)
    (rightMember : .obj right.payload ∈ values) (leftDistinct : left.value.DistinctKeys)
    (rightDistinct : right.value.DistinctKeys)
    (leftHashed : hash (.obj left.payload) = .ok left.itemFingerprint)
    (rightHashed : hash (.obj right.payload) = .ok right.itemFingerprint) :
    left.Equal right ↔ left.itemFingerprint = right.itemFingerprint := by
  refine ⟨Equal.fingerprint, fun fingerprint => ?_⟩
  rw [← fingerprint] at rightHashed
  exact equal_of_payload fingerprint (sortKeys_eq_of_sha256Dumps_eq
    collisionFree leftMember rightMember (distinctKeys_payload leftDistinct)
    (distinctKeys_payload rightDistinct) leftHashed rightHashed)

end UnifiedIntelligenceItem

/-! ## The comparison -/

/-- What the comparison finds of a dimension is in the table. -/
theorem classifyDimension_eq {priorItem currentItem : Option UnifiedIntelligenceItem}
    {prior current : Standing} (priorFact currentFact : Bool)
    (priorKnown : priorItem.isSome ↔ prior = .applicable)
    (currentKnown : currentItem.isSome ↔ current = .applicable)
    (fresh : ∀ item ∈ currentItem, item.freshnessState ≠ "STALE") :
    (if priorItem.isSome ∨ (prior = .unknown ∨ priorFact) ∨
        currentItem.isSome ∨ current = .unknown ∨ currentFact then
      some (classifyDimension priorItem currentItem (decide (prior = .unknown ∨ priorFact))
        (decide (current = .unknown ∨ currentFact)))
    else none) = Standing.classify prior current priorFact currentFact
        (decide (priorItem.map UnifiedIntelligenceItem.itemFingerprint =
          currentItem.map UnifiedIntelligenceItem.itemFingerprint)) := by
  cases priorItem <;> cases currentItem <;> cases prior <;> cases current <;>
    simp at priorKnown currentKnown fresh <;> cases priorFact <;>
      cases currentFact <;>
        simp [classifyDimension, Standing.classify, fresh, apply_ite some]

variable {result : CurrentStateBuildResult} {bundle : GovernedInputBundle}

namespace LedgerCall

/-- The states of a call are built from two current-state calls. -/
structure Between (call : LedgerCall) (prior current : CurrentStateCall) : Prop where
  priorBuilt : ∃ result, buildCurrentUnifiedState prior = .ok result ∧
    result.state = call.priorState
  currentBuilt : ∃ result, buildCurrentUnifiedState current = .ok result ∧
    result.state = call.currentState

/-- The change of a dimension, if it is compared. -/
def found (call : LedgerCall) (dimension : String) : Option ChangeState :=
  if dimension ∈ call.dimensions then some (call.changeOf dimension)
  else none

/-- The payloads of the items of both states. -/
def payloads (call : LedgerCall) : Set Json :=
  {payload | ∃ item ∈ call.priorState.items ++ call.currentState.items,
    payload = .obj item.payload}

variable {call : LedgerCall} {prior current : CurrentStateCall}

instance (applicability : ApplicabilitySet) (fact : String) :
    Decidable (applicability.MissesFact fact) :=
  inferInstanceAs (Decidable (∃ decision ∈ applicability.decisions, _))

/-- What a built state says of a dimension, by its standing. -/
theorem itemOf_isSome_iff {source : CurrentStateCall}
    (built : buildCurrentUnifiedState source = .ok result) (dimension : String) :
    (result.state.itemOf dimension).isSome ↔
      source.applicabilitySet.standing dimension = .applicable := by
  rw [ApplicabilitySet.standing_eq_applicable_iff (settled_of_build built),
    ← mem_items_of_build built, Option.isSome_iff_exists]
  exact exists_latest_iff

theorem mem_unknowns_iff {source : CurrentStateCall}
    (built : buildCurrentUnifiedState source = .ok result) (dimension : String) :
    dimension ∈ result.state.unknowns ↔
      source.applicabilitySet.standing dimension = .unknown ∨
        decide (source.applicabilitySet.MissesFact dimension) = true := by
  rw [ApplicabilitySet.standing_eq_unknown_iff (settled_of_build built), decide_eq_true_iff]
  exact mem_unknowns_of_build built

theorem found_eq_classify (between : call.Between prior current) (dimension : String) :
    call.found dimension =
      Standing.classify (prior.applicabilitySet.standing dimension)
        (current.applicabilitySet.standing dimension)
        (decide (prior.applicabilitySet.MissesFact dimension))
        (decide (current.applicabilitySet.MissesFact dimension))
        (decide ((call.priorState.itemOf dimension).map
            UnifiedIntelligenceItem.itemFingerprint =
          (call.currentState.itemOf dimension).map UnifiedIntelligenceItem.itemFingerprint)) := by
  obtain ⟨priorResult, priorBuilt, priorState⟩ := between.priorBuilt
  obtain ⟨currentResult, currentBuilt, currentState⟩ := between.currentBuilt
  have fresh : ∀ item ∈ call.currentState.itemOf dimension,
      item.freshnessState ≠ "STALE" := by
    intro item present
    rw [← currentState] at present
    exact (item_of_build currentBuilt (mem_of_latest present).1).1
  have priorUnknown := mem_unknowns_iff priorBuilt dimension
  have currentUnknown := mem_unknowns_iff currentBuilt dimension
  rw [← classifyDimension_eq _ _ (priorState ▸ itemOf_isSome_iff priorBuilt dimension)
    (currentState ▸ itemOf_isSome_iff currentBuilt dimension) fresh]
  rw [priorState] at priorUnknown
  rw [currentState] at currentUnknown
  have known : ∀ state : UnifiedSellerIntelligenceState,
      dimension ∈ state.items.map UnifiedIntelligenceItem.dimension ↔
        (state.itemOf dimension).isSome := by
    intro state
    rw [Option.isSome_iff_exists]
    exact exists_latest_iff.symm
  simp only [found, mem_dimensions,
    UnifiedSellerIntelligenceState.mem_dimensions, known, changeOf,
    priorUnknown, currentUnknown, or_assoc]

end LedgerCall

/-! ## Ledgers -/

/-- A change of a dimension is the one that its name says. -/
@[mk_iff] structure Called (prior current : ApplicabilitySet) (call : LedgerCall)
    (dimension : String) (change : ChangeState) : Prop where
  unknown : change = .unknown ↔ current.LeavesUnknown dimension
  resolved : change = .resolved ↔ prior.LeavesUnknown dimension ∧ current.Applies dimension
  new : change = .new ↔ call.priorState.itemOf dimension = none ∧
      ¬ prior.LeavesUnknown dimension ∧ call.currentState.itemOf dimension ≠ none
  noLongerApplicable : change = .noLongerApplicable ↔
    (prior.Applies dimension ∨ prior.LeavesUnknown dimension) ∧
      ¬ (current.Applies dimension ∨ current.LeavesUnknown dimension)
  unchanged : change = .unchanged ↔
    ∃ priorItem ∈ call.priorState.itemOf dimension,
      ∃ currentItem ∈ call.currentState.itemOf dimension,
        priorItem.Equal currentItem ∧ priorItem.freshnessState ≠ "STALE" ∧
            currentItem.freshnessState ≠ "STALE"

/-- Every dimension that a decision concerns has one delta in the ledger, with
its change, and nothing else has one. -/
structure ClassifiesExactly (prior current : ApplicabilitySet) (call : LedgerCall)
    (ledger : SellerIntelligenceChangeLedger) : Prop where
  once : (ledger.deltas.map IntelligenceDelta.dimension).Nodup
  listed : ∀ dimension,
    dimension ∈ ledger.deltas.map IntelligenceDelta.dimension ↔
      (prior.Decides dimension ∨ current.Decides dimension) ∧
        ¬ (prior.Excludes dimension ∧ current.Excludes dimension)
  called : ∀ delta ∈ ledger.deltas, Called prior current call delta.dimension delta.changeState

/-- No missed fact and no nameless step hides a change of a dimension. -/
@[mk_iff] structure PlainSteps (prior current : ApplicabilitySet) : Prop where
  currentFacts : ∀ fact, current.MissesFact fact → current.LeavesUnknown fact
  priorFacts : ∀ fact, prior.MissesFact fact →
    prior.LeavesUnknown fact ∨ current.LeavesUnknown fact ∨
      prior.Applies fact ∧ ¬ current.Applies fact
  unknowns : ∀ dimension, prior.LeavesUnknown dimension →
    current.Applies dimension ∨ current.LeavesUnknown dimension
  exclusions : ∀ dimension, prior.Excludes dimension → current.Decides dimension
  newExclusions : ∀ dimension, current.Excludes dimension → prior.Decides dimension

section Compared

variable {fromisoformat : FromIsoformat} {call : LedgerCall}
  {prior current : CurrentStateCall}
  {ledger : SellerIntelligenceChangeLedger}

/-- What the deltas of a ledger say is said of its dimensions. -/
theorem forall_delta_iff (built : buildChangeLedger fromisoformat call = .ok ledger)
    {property : String → ChangeState → Prop} :
    (∀ delta ∈ ledger.deltas, property delta.dimension delta.changeState) ↔
      ∀ dimension, ∀ change ∈ call.found dimension, property dimension change := by
  have changes : ∀ delta ∈ ledger.deltas,
      delta.changeState = call.changeOf delta.dimension := by
    intro delta listed
    obtain ⟨_, _, _, _, made⟩ :=
      LedgerCall.makeDelta_eq_ok.mp (makeDelta_of_mem built delta listed)
    exact (congrArg IntelligenceDelta.changeState made).symm
  have listed := deltas_of_buildChangeLedger built
  simp only [LedgerCall.found, Option.mem_def, Option.ite_none_right_eq_some, Option.some.injEq]
  constructor
  · rintro holds dimension _ ⟨compared, rfl⟩
    rw [← listed] at compared
    obtain ⟨delta, present, rfl⟩ := List.mem_map.mp compared
    rw [← changes delta present]
    exact holds delta present
  · intro holds delta present
    refine holds _ _ ⟨?_, (changes delta present).symm⟩
    rw [← listed]
    exact List.mem_map_of_mem present

/-- Where both states have an item, equal items are those of one
fingerprint. -/
theorem equal_items_iff (between : call.Between prior current)
    (collisionFree : Sha256.CollisionFree (textsOf call.payloads))
    (distinctKeys : ∀ candidate ∈ prior.candidates ++ current.candidates,
      candidate.value.DistinctKeys)
    {dimension : String} (priorKnown : (call.priorState.itemOf dimension).isSome)
    (currentKnown : (call.currentState.itemOf dimension).isSome) :
    (∃ priorItem ∈ call.priorState.itemOf dimension,
      ∃ currentItem ∈ call.currentState.itemOf dimension,
        priorItem.Equal currentItem ∧ priorItem.freshnessState ≠ "STALE" ∧
            currentItem.freshnessState ≠ "STALE") ↔
      (call.priorState.itemOf dimension).map
          UnifiedIntelligenceItem.itemFingerprint =
        (call.currentState.itemOf dimension).map UnifiedIntelligenceItem.itemFingerprint := by
  obtain ⟨priorResult, priorBuilt, priorState⟩ := between.priorBuilt
  obtain ⟨currentResult, currentBuilt, currentState⟩ := between.currentBuilt
  obtain ⟨priorItem, priorFound⟩ := Option.isSome_iff_exists.mp priorKnown
  obtain ⟨currentItem, currentFound⟩ := Option.isSome_iff_exists.mp currentKnown
  have priorListed := (mem_of_latest priorFound).1
  have currentListed := (mem_of_latest currentFound).1
  obtain ⟨priorFresh, priorHashed, priorCandidate, priorGiven, priorValue⟩ :=
    item_of_build priorBuilt (priorState ▸ priorListed)
  obtain ⟨currentFresh, currentHashed, currentCandidate, currentGiven,
    currentValue⟩ := item_of_build currentBuilt (currentState ▸ currentListed)
  have equal := @UnifiedIntelligenceItem.equal_iff priorItem currentItem
    call.payloads collisionFree
    ⟨priorItem, List.mem_append_left _ priorListed, rfl⟩
    ⟨currentItem, List.mem_append_right _ currentListed, rfl⟩
    (priorValue ▸ distinctKeys _ (List.mem_append_left _ priorGiven))
    (currentValue ▸ distinctKeys _ (List.mem_append_right _ currentGiven))
    priorHashed currentHashed
  rw [priorFound, currentFound]
  simp [priorFresh, currentFresh, equal]

/-- The names of a change are those of the standings. -/
theorem called_iff_names (between : call.Between prior current)
    (collisionFree : Sha256.CollisionFree (textsOf call.payloads))
    (distinctKeys : ∀ candidate ∈ prior.candidates ++ current.candidates,
      candidate.value.DistinctKeys)
    {dimension : String} {change : ChangeState} :
    Called prior.applicabilitySet current.applicabilitySet call dimension
        change ↔
      Standing.Names (prior.applicabilitySet.standing dimension)
        (current.applicabilitySet.standing dimension)
        ((call.priorState.itemOf dimension).map UnifiedIntelligenceItem.itemFingerprint =
          (call.currentState.itemOf dimension).map
            UnifiedIntelligenceItem.itemFingerprint) change := by
  have equal := @equal_items_iff _ _ _ between collisionFree distinctKeys dimension
  obtain ⟨priorResult, priorBuilt, priorState⟩ := between.priorBuilt
  obtain ⟨currentResult, currentBuilt, currentState⟩ := between.currentBuilt
  have priorKnown := LedgerCall.itemOf_isSome_iff priorBuilt dimension
  have currentKnown := LedgerCall.itemOf_isSome_iff currentBuilt dimension
  rw [priorState] at priorKnown
  rw [currentState] at currentKnown
  have same : (∃ priorItem ∈ call.priorState.itemOf dimension,
      ∃ currentItem ∈ call.currentState.itemOf dimension,
        priorItem.Equal currentItem ∧ priorItem.freshnessState ≠ "STALE" ∧
            currentItem.freshnessState ≠ "STALE") ↔
      prior.applicabilitySet.standing dimension = .applicable ∧
        current.applicabilitySet.standing dimension = .applicable ∧
          (call.priorState.itemOf dimension).map
              UnifiedIntelligenceItem.itemFingerprint =
            (call.currentState.itemOf dimension).map UnifiedIntelligenceItem.itemFingerprint := by
    rw [← priorKnown, ← currentKnown]
    constructor
    · rintro ⟨priorItem, priorFound, currentItem, currentFound, both⟩
      have prior := Option.isSome_iff_exists.mpr ⟨_, priorFound⟩
      have current := Option.isSome_iff_exists.mpr ⟨_, currentFound⟩
      exact ⟨prior, current, (equal prior current).mp
        ⟨priorItem, priorFound, currentItem, currentFound, both⟩⟩
    · rintro ⟨prior, current, fingerprints⟩
      exact (equal prior current).mpr fingerprints
  have priorSettled := settled_of_build priorBuilt
  have currentSettled := settled_of_build currentBuilt
  have absent : call.priorState.itemOf dimension = none ↔
      prior.applicabilitySet.standing dimension ≠ .applicable := by
    rw [← Option.not_isSome_iff_eq_none, priorKnown]
  have present : call.currentState.itemOf dimension ≠ none ↔
      current.applicabilitySet.standing dimension = .applicable := by
    rw [← Option.isSome_iff_ne_none, currentKnown]
  rw [called_iff, Standing.Names, same, absent, present,
    ← ApplicabilitySet.standing_eq_applicable_iff priorSettled,
    ← ApplicabilitySet.standing_eq_applicable_iff currentSettled,
    ← ApplicabilitySet.standing_eq_unknown_iff priorSettled,
    ← ApplicabilitySet.standing_eq_unknown_iff currentSettled]

/-- A ledger is exact where every dimension is. -/
theorem classifiesExactly_iff_exact (between : call.Between prior current)
    (built : buildChangeLedger fromisoformat call = .ok ledger)
    (collisionFree : Sha256.CollisionFree (textsOf call.payloads))
    (distinctKeys : ∀ candidate ∈ prior.candidates ++ current.candidates,
      candidate.value.DistinctKeys) :
    ClassifiesExactly prior.applicabilitySet current.applicabilitySet call
        ledger ↔
      ∀ dimension, Standing.Exact (prior.applicabilitySet.standing dimension)
        (current.applicabilitySet.standing dimension)
        ((call.priorState.itemOf dimension).map UnifiedIntelligenceItem.itemFingerprint =
          (call.currentState.itemOf dimension).map UnifiedIntelligenceItem.itemFingerprint)
        (call.found dimension) := by
  have called := @forall_delta_iff _ _ _ built
    (Called prior.applicabilitySet current.applicabilitySet call)
  have listed := deltas_of_buildChangeLedger built
  obtain ⟨_, priorBuilt, -⟩ := between.priorBuilt
  obtain ⟨_, currentBuilt, -⟩ := between.currentBuilt
  have compared : ∀ dimension, (call.found dimension).isSome ↔
        dimension ∈ ledger.deltas.map IntelligenceDelta.dimension := by
    intro dimension
    rw [listed, LedgerCall.found]
    split_ifs with present <;> simp [present]
  simp only [Standing.Exact, compared, forall_and, ne_eq,
    ApplicabilitySet.standing_eq_undecided_iff, not_not,
    ApplicabilitySet.standing_eq_excluded_iff (settled_of_build priorBuilt),
    ApplicabilitySet.standing_eq_excluded_iff (settled_of_build currentBuilt),
    ← called_iff_names between collisionFree distinctKeys, ← called]
  constructor
  · intro whole
    exact ⟨whole.listed, whole.called⟩
  · rintro ⟨about, changes⟩
    refine ⟨?_, about, changes⟩
    rw [listed]
    exact nodup_sortedSet _

/-- Plain steps of sets are plain steps of every dimension. -/
theorem plainSteps_iff_plain {prior current : ApplicabilitySet}
    (priorSettled : prior.Settled) (currentSettled : current.Settled) :
    PlainSteps prior current ↔
      ∀ dimension, Standing.Plain (prior.standing dimension)
        (current.standing dimension)
        (decide (prior.MissesFact dimension))
        (decide (current.MissesFact dimension)) := by
  simp only [plainSteps_iff, Standing.Plain, forall_and, decide_eq_true_iff,
    ne_eq, ApplicabilitySet.standing_eq_applicable_iff priorSettled,
    ApplicabilitySet.standing_eq_applicable_iff currentSettled,
    ApplicabilitySet.standing_eq_unknown_iff priorSettled,
    ApplicabilitySet.standing_eq_unknown_iff currentSettled,
    ApplicabilitySet.standing_eq_excluded_iff priorSettled,
    ApplicabilitySet.standing_eq_excluded_iff currentSettled,
    ApplicabilitySet.standing_eq_undecided_iff, not_not]

end Compared

/-! ## A missed fact -/

/-- A rule about the buyer depth that asks for a fact that is not known. -/
def factEvaluation (fact : String) (bundle : GovernedInputBundle) : EvaluationCall :=
  { sampleEvaluation bundle with
    rule := ⟨"R0", "buyer_depth", [], [(fact, .bool true)], ""⟩ }

/-- The current state under one set, without candidates. -/
def emptyCall (bundle : GovernedInputBundle) (applicability : ApplicabilitySet) :
    CurrentStateCall where
  intelligenceStateId := "S1"
  bundle := bundle
  applicabilitySet := applicability
  candidates := []
  registry := intelligenceRegistry
  policyVersion := "D-v1"
  schemaVersion := "1.0.0"

/-- A ready bundle of the sample property at a time. -/
structure ReadyAt (bundle : GovernedInputBundle) (boundary : String) : Prop where
  resolved : bundle.Resolved sampleFromisoformat
  ready : bundle.bundleStatus = "READY"
  property : bundle.propertyId = "P1"
  community : bundle.communityId = "SAN-TAN-HEIGHTS"
  boundary : bundle.temporalBoundary = boundary

theorem exists_readyAt : (∃ bundle, ReadyAt bundle "2026-09-18T10:00:00-07:00") ∧
      ∃ bundle, ReadyAt bundle "2026-09-19T10:00:00-07:00" := by
  constructor
  · obtain ⟨bundle, resolves, ready, property, community, boundary, -⟩ :=
      exists_earlyBundle sampleFingerprint
    exact ⟨bundle, ⟨_, _, resolves⟩, ready, property, community, boundary⟩
  · obtain ⟨dependencies, bundle, -, resolves, ready, -⟩ := exists_readyBundle
    have resolved : bundle.Resolved sampleFromisoformat := ⟨_, _, resolves⟩
    obtain ⟨-, _, -, rfl⟩ := resolveInputBundle_eq_ok.mp resolves
    exact ⟨_, resolved, ready, rfl, rfl, rfl⟩

theorem exists_factDecision (fact : String) (ready : bundle.bundleStatus = "READY") :
    ∃ decision, evaluateApplicability applicabilityRegistry
          (factEvaluation fact bundle) = .ok decision ∧
        decision.subjectPropertyId = bundle.propertyId ∧
          decision.applicabilityState = "UNKNOWN" := by
  obtain ⟨fingerprint, hashed⟩ := exists_hash_iff.mpr
    (factEvaluation fact bundle).draftDecision.serializable_payload
  exact ⟨_, evaluateApplicability_eq_ok.mpr ⟨⟨ready,
    List.mem_cons_of_mem _ (List.mem_cons_of_mem _ List.mem_cons_self),
    List.mem_cons_of_mem _ (List.mem_cons_of_mem _ List.mem_cons_self)⟩,
    fingerprint, hashed, rfl⟩, rfl, rfl⟩

/-- The one decision of a call was made by a rule that misses a fact. -/
def MissesOnly (fact : String) (source : CurrentStateCall) : Prop :=
  source.bundle.Resolved sampleFromisoformat ∧ ∃ decision,
    evaluateApplicability applicabilityRegistry
        (factEvaluation fact source.bundle) = .ok decision ∧
      buildApplicabilitySet "AS1" source.bundle [decision] = .ok source.applicabilitySet

theorem MissesOnly.iff {fact dimension : String} {source : CurrentStateCall}
    (only : MissesOnly fact source) :
    (source.applicabilitySet.MissesFact dimension ↔ dimension = fact) ∧
      (source.applicabilitySet.LeavesUnknown dimension ↔ dimension = "buyer_depth") ∧
      (source.applicabilitySet.Decides dimension ↔ dimension = "buyer_depth") ∧
      ¬ source.applicabilitySet.Excludes dimension := by
  obtain ⟨-, decision, evaluated, setBuilt⟩ := only
  obtain ⟨-, _, -, made⟩ := evaluateApplicability_eq_ok.mp evaluated
  obtain ⟨-, _, -, set⟩ := buildApplicabilitySet_eq_ok.mp setBuilt
  have decisions : source.applicabilitySet.decisions = [decision] :=
    (congrArg ApplicabilitySet.decisions set).symm
  have about : decision.dimension = "buyer_depth" := made ▸ rfl
  have unknown : decision.applicabilityState = "UNKNOWN" := made ▸ rfl
  have unknowns : decision.unknowns = [fact] := made ▸ rfl
  refine ⟨?_, ?_, ?_, ?_⟩
  · simp [ApplicabilitySet.MissesFact, decisions, unknown, unknowns]
  · simp [ApplicabilitySet.LeavesUnknown, decisions, about, unknown, eq_comm]
  · simp [ApplicabilitySet.Decides, decisions, about]
  · simp [ApplicabilitySet.Excludes, decisions, unknown]

/-- Such a call is built. -/
theorem exists_unknownState {boundary : String} (fact : String)
    (readyAt : ReadyAt bundle boundary) (given : Text.isBlank boundary = false) :
    ∃ applicability result, MissesOnly fact (emptyCall bundle applicability) ∧
        buildCurrentUnifiedState (emptyCall bundle applicability) = .ok result := by
  obtain ⟨decision, evaluated, subject, unknown⟩ := exists_factDecision fact readyAt.ready
  obtain ⟨fingerprint, hashed⟩ := exists_hash_iff.mpr
    (setOf "AS1" bundle [decision] "").serializable_payload
  have single : ([decision].map ApplicabilityDecision.decisionId).Nodup :=
    List.nodup_singleton _
  have setBuilt : buildApplicabilitySet "AS1" bundle [decision] =
      .ok (setOf "AS1" bundle [decision] fingerprint) :=
    buildApplicabilitySet_eq_ok.mpr ⟨⟨readyAt.ready, single,
      List.forall_mem_singleton.mpr subject⟩, fingerprint, hashed, rfl⟩
  have acceptable : (emptyCall bundle
      (setOf "AS1" bundle [decision] fingerprint)).Acceptable :=
    { bound :=
        { ready := readyAt.ready
          fingerprint := rfl
          property := rfl
          community := rfl
          boundary := rfl
          decisions := List.nodup_singleton _
          candidates := List.nodup_nil
          decided := nofun }
      resolvable := by
        intro other listed
        obtain rfl : other = decision := List.mem_singleton.mp listed
        exact .inl (List.mem_cons.mpr (.inl unknown))
      identified := by
        have others : Text.isBlank "S1" = false ∧ Text.isBlank "P1" = false ∧
              Text.isBlank "SAN-TAN-HEIGHTS" = false ∧
                Text.isBlank "D-v1" = false ∧ Text.isBlank "1.0.0" = false := by
          decide
        simp [emptyCall, readyAt.property, readyAt.community, readyAt.boundary, given, others]
      distinct := by
        have none : (emptyCall bundle
            (setOf "AS1" bundle [decision] fingerprint)).promoted = [] := by
          rw [List.eq_nil_iff_forall_not_mem]
          intro candidate promoted
          obtain ⟨other, -, chosen⟩ := List.mem_filterMap.mp promoted
          rw [CurrentStateCall.promotedBy] at chosen
          split_ifs at chosen
          cases chosen
        rw [none]
        exact List.nodup_nil }
  obtain ⟨result, built⟩ := exists_buildCurrentUnifiedState_iff.mpr acceptable
  exact ⟨_, result, ⟨readyAt.resolved, decision, evaluated, setBuilt⟩, built⟩

/-- A state without candidates has no items. -/
theorem items_of_empty {applicability : ApplicabilitySet}
    (built : buildCurrentUnifiedState (emptyCall bundle applicability) = .ok result) :
    result.state.items = [] ∧ result.state.propertyId = bundle.propertyId ∧
        result.state.communityId = bundle.communityId ∧
          result.state.temporalBoundary = bundle.temporalBoundary := by
  constructor
  · rw [List.eq_nil_iff_forall_not_mem]
    intro item listed
    obtain ⟨-, -, candidate, given, -⟩ := item_of_build built listed
    cases given
  · obtain ⟨_, _, _, _, _, stateBuilt, _, rfl⟩ := buildCurrentUnifiedState_eq_ok.mp built
    obtain ⟨_, _, _, rfl⟩ := buildUnifiedState_eq_ok.mp stateBuilt
    exact ⟨rfl, rfl, rfl⟩

/-- A fact that is missed before and after, with a rule for every name. -/
theorem exists_factLedger (fact : String) :
    ∃ prior current call ledger,
      MissesOnly fact prior ∧ MissesOnly fact current ∧
        call.Between prior current ∧
          buildChangeLedger sampleFromisoformat call = .ok ledger ∧
            prior.candidates = [] ∧ current.candidates = [] ∧ call.payloads = ∅ := by
  obtain ⟨⟨priorBundle, priorAt⟩, currentBundle, currentAt⟩ := exists_readyAt
  obtain ⟨_, priorResult, priorMisses, priorBuilt⟩ :=
    exists_unknownState fact priorAt (by decide)
  obtain ⟨_, currentResult, currentMisses, currentBuilt⟩ :=
    exists_unknownState fact currentAt (by decide)
  obtain ⟨priorItems, priorProperty, priorCommunity, priorBoundary⟩ := items_of_empty priorBuilt
  obtain ⟨currentItems, currentProperty, currentCommunity,
    currentBoundary⟩ := items_of_empty currentBuilt
  let call : LedgerCall :=
    { ledgerId := "L1"
      priorState := priorResult.state
      currentState := currentResult.state
      significanceRules := ["buyer_depth", fact].dedup.map fun dimension =>
        sampleRule dimension "UNKNOWN"
      policyVersion := "E-v1" }
  have acceptable : call.Acceptable sampleFromisoformat :=
    { property := by
        rw [priorProperty, currentProperty, priorAt.property, currentAt.property]
      community := by
        rw [priorCommunity, currentCommunity, priorAt.community, currentAt.community]
      ascending := by
        rw [priorBoundary, currentBoundary, priorAt.boundary, currentAt.boundary]
        exact ⟨.aware 1789750800, .aware 1789837200, rfl, rfl, rfl⟩
      identified := (by decide : Text.isBlank "L1" = false ∧ Text.isBlank "E-v1" = false)
      priorDistinct := by
        rw [priorItems]
        exact List.nodup_nil
      currentDistinct := by
        rw [currentItems]
        exact List.nodup_nil
      rules := by
        rw [List.map_map]
        apply (List.nodup_dedup _).map
        intro left right same
        exact (Prod.mk.inj same).1 }
  have unknowns : ∀ dimension ∈ call.dimensions,
      dimension ∈ ["buyer_depth", fact] ∧ dimension ∈ call.currentState.unknowns := by
    intro dimension compared
    rw [LedgerCall.mem_dimensions, UnifiedSellerIntelligenceState.mem_dimensions,
      UnifiedSellerIntelligenceState.mem_dimensions, priorItems,
      currentItems, mem_unknowns_of_build priorBuilt,
      mem_unknowns_of_build currentBuilt, priorMisses.iff.1,
      priorMisses.iff.2.1, currentMisses.iff.1, currentMisses.iff.2.1]
      at compared
    rw [mem_unknowns_of_build currentBuilt, currentMisses.iff.1, currentMisses.iff.2.1]
    simpa using compared
  obtain ⟨ledger, built⟩ := exists_buildChangeLedger acceptable (by
      intro dimension compared
      obtain ⟨named, unknown⟩ := unknowns dimension compared
      have change : call.changeOf dimension = .unknown := by
        rw [LedgerCall.changeOf, decide_eq_true unknown]
        rfl
      rw [LedgerCall.ruleOf, change]
      apply exists_latest_iff.mpr
      rw [List.map_map]
      exact List.mem_map.mpr ⟨dimension, List.mem_dedup.mpr named, rfl⟩)
    (by
      change ∀ item ∈ priorResult.state.items, _
      rw [priorItems]
      exact List.forall_mem_nil _)
    (by
      change ∀ item ∈ currentResult.state.items, _
      rw [currentItems]
      exact List.forall_mem_nil _)
  refine ⟨_, _, call, ledger, priorMisses, currentMisses,
    ⟨⟨_, priorBuilt, rfl⟩, ⟨_, currentBuilt, rfl⟩⟩, built, rfl, rfl, ?_⟩
  rw [Set.eq_empty_iff_forall_notMem]
  rintro payload ⟨item, listed, -⟩
  rw [priorItems, currentItems] at listed
  cases listed

/-! ## Exact ledgers -/

/-- A ledger between two built states is exact if the steps of the dimensions
are plain. -/
theorem change_classification_iff {fromisoformat : FromIsoformat} {call : LedgerCall}
    {prior current : CurrentStateCall} {ledger : SellerIntelligenceChangeLedger}
    (between : call.Between prior current)
    (built : buildChangeLedger fromisoformat call = .ok ledger)
    (collisionFree : Sha256.CollisionFree (textsOf call.payloads))
    (distinctKeys : ∀ candidate ∈ prior.candidates ++ current.candidates,
      candidate.value.DistinctKeys) :
    ClassifiesExactly prior.applicabilitySet current.applicabilitySet call
        ledger ↔
      PlainSteps prior.applicabilitySet current.applicabilitySet := by
  obtain ⟨_, priorBuilt, -⟩ := between.priorBuilt
  obtain ⟨_, currentBuilt, -⟩ := between.currentBuilt
  rw [classifiesExactly_iff_exact between built collisionFree distinctKeys,
    plainSteps_iff_plain (settled_of_build priorBuilt)
      (settled_of_build currentBuilt)]
  apply forall_congr'
  intro dimension
  rw [LedgerCall.found_eq_classify between]
  exact Standing.exact_classify_iff _ _ _ _ _

/-- The fact that is missed has the name of the unknown dimension. -/
theorem change_classification_sample :
    ∃ prior current call ledger,
      buildChangeLedger sampleFromisoformat call = .ok ledger ∧
        ClassifiesExactly (prior : CurrentStateCall).applicabilitySet
          (current : CurrentStateCall).applicabilitySet call ledger := by
  obtain ⟨prior, current, call, ledger, priorMisses, currentMisses, between,
    built, priorNone, currentNone, none⟩ := exists_factLedger "buyer_depth"
  refine ⟨prior, current, call, ledger, built,
    (change_classification_iff between built ?_ ?_).mpr ?_⟩
  · rw [none]
    exact collisionFree_textsOf Set.subsingleton_empty
  · rw [priorNone, currentNone]
    nofun
  · have unknown := fun dimension =>
      (@MissesOnly.iff _ dimension _ priorMisses).2.1
    have alsoUnknown := fun dimension =>
      (@MissesOnly.iff _ dimension _ currentMisses).2.1
    exact
      { currentFacts := fun fact misses =>
          (alsoUnknown fact).mpr (currentMisses.iff.1.mp misses)
        priorFacts := fun fact misses =>
          .inl ((unknown fact).mpr (priorMisses.iff.1.mp misses))
        unknowns := fun dimension leaves =>
          .inr ((alsoUnknown dimension).mpr ((unknown dimension).mp leaves))
        exclusions := fun dimension excludes =>
          absurd excludes priorMisses.iff.2.2.2
        newExclusions := fun dimension excludes =>
          absurd excludes currentMisses.iff.2.2.2 }

/-- A property fact that an unknown decision misses has a delta of its own. -/
theorem missed_fact_classified :
    ∃ prior current call ledger,
      MissesOnly "pool" prior ∧ MissesOnly "pool" current ∧
        call.Between prior current ∧
          buildChangeLedger sampleFromisoformat call = .ok ledger ∧
            "pool" ∈ ledger.deltas.map IntelligenceDelta.dimension ∧
              ¬ ClassifiesExactly prior.applicabilitySet
                current.applicabilitySet call ledger := by
  obtain ⟨prior, current, call, ledger, priorMisses, currentMisses, between,
    built, -, -, -⟩ := exists_factLedger "pool"
  have listed : "pool" ∈ ledger.deltas.map IntelligenceDelta.dimension := by
    obtain ⟨result, currentBuilt, state⟩ := between.currentBuilt
    rw [deltas_of_buildChangeLedger built, LedgerCall.mem_dimensions]
    refine .inr (UnifiedSellerIntelligenceState.mem_dimensions.mpr (.inr ?_))
    rw [← state, mem_unknowns_of_build currentBuilt]
    exact .inr (currentMisses.iff.1.mpr rfl)
  refine ⟨prior, current, call, ledger, priorMisses, currentMisses, between,
    built, listed, fun classifies => ?_⟩
  have decided := ((classifies.listed "pool").mp listed).1
  rw [priorMisses.iff.2.2.1, currentMisses.iff.2.2.1] at decided
  exact absurd decided (by decide)

end SanTanHeights.Seller
