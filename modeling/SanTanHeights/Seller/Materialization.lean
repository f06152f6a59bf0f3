import SanTanHeights.Seller.Binding
import SanTanHeights.Seller.CurrentState

/-!
# When the current state is built

The items of the current state are those of the candidates whose dimension
applies, in the order of their ids.
-/

namespace SanTanHeights.Seller

open Foundation Foundation.Json Foundation.Sorting Foundation.Outcome Shared
open Community.History (sortedSet theOnly)

/-! ## Items of candidates -/

/-- What is asked of a candidate that becomes an item. -/
structure IntelligenceCandidate.Acceptable
    (registry : IntelligenceRegistry) (candidate : IntelligenceCandidate) :
    Prop where
  sourceClass : candidate.sourceClass ∈ registry.sourceClasses
  artifact : Text.isBlank candidate.sourceArtifactId = false
  fingerprint : Sha256.isHex64 candidate.sourceFingerprint = true
  identified : Text.isBlank candidate.candidateId = false ∧ Text.isBlank candidate.dimension = false
  freshnessState : candidate.freshnessState ∈ registry.freshnessStates
  conflictState : candidate.conflictState ∈ registry.conflictStates
  changeState : "UNCHANGED" ∈ registry.changeStates
  significanceClass : "INFORMATIONAL" ∈ registry.significanceClasses
  notInferred : ¬ (candidate.sourceClass = "UNKNOWN" ∧
    pyEq candidate.value .null = false ∧ pyEq candidate.value (.str "UNKNOWN") = false)
  settled : candidate.conflictState ≠ "UNRESOLVED_CONFLICT"
  current : candidate.freshnessState ≠ "STALE"
  written : Serializable candidate.value

namespace IntelligenceCandidate

/-- The reference that a candidate gives. -/
def ref (candidate : IntelligenceCandidate) (fingerprint : String) : IntelligenceSourceRef :=
  { candidate.draftRef with sourceRefFingerprint := fingerprint }

/-- The item of a candidate, with its fingerprints. -/
def item (candidate : IntelligenceCandidate)
    (refFingerprint itemFingerprint : String) : UnifiedIntelligenceItem :=
  { candidate.draftItem (candidate.ref refFingerprint) with
    itemFingerprint := itemFingerprint }

theorem draftItem_acceptable_iff
    {registry : IntelligenceRegistry} {candidate : IntelligenceCandidate}
    {ref : IntelligenceSourceRef} : (candidate.draftItem ref).Acceptable registry ∧
        candidate.sourceClass ∈ registry.sourceClasses ∧
        Text.isBlank candidate.sourceArtifactId = false ∧
        Sha256.isHex64 candidate.sourceFingerprint = true ∧
        Serializable candidate.value ↔
      candidate.Acceptable registry := by
  constructor
  · rintro ⟨acceptable, sourceClass, artifact, fingerprint, written⟩
    exact
      { sourceClass := sourceClass
        artifact := artifact
        fingerprint := fingerprint
        identified := acceptable.identified
        freshnessState := acceptable.freshnessState
        conflictState := acceptable.conflictState
        changeState := acceptable.changeState
        significanceClass := acceptable.significanceClass
        notInferred := acceptable.notInferred
        settled := fun conflicting => acceptable.conflictReviewed
          ⟨conflicting, (by decide : "INFORMATIONAL" ∉
            ["REVIEW_REQUIRED", "INSUFFICIENT_INFORMATION"])⟩
        current := fun stale => acceptable.staleExplicit
          ⟨stale, (by decide : "UNCHANGED" ≠ "STALE")⟩
        written := written }
  · intro acceptable
    refine ⟨?_, acceptable.sourceClass, acceptable.artifact,
      acceptable.fingerprint, acceptable.written⟩
    exact
      { identified := acceptable.identified
        sourceClass := acceptable.sourceClass
        freshnessState := acceptable.freshnessState
        conflictState := acceptable.conflictState
        changeState := acceptable.changeState
        significanceClass := acceptable.significanceClass
        evidenced := fun missing => nomatch missing.2
        notInferred := acceptable.notInferred
        conflictReviewed := fun conflicting =>
          acceptable.settled conflicting.1
        staleExplicit := fun stale => acceptable.current stale.1 }

end IntelligenceCandidate

variable {registry : IntelligenceRegistry} {candidate : IntelligenceCandidate}
  {result : CurrentStateBuildResult}

/-- The item of a candidate is the candidate's own. -/
theorem item_of_materialize {item : UnifiedIntelligenceItem}
    (made : materialize registry candidate = .ok item) :
    candidate.Acceptable registry ∧ ∃ refFingerprint itemFingerprint,
        item = candidate.item refFingerprint itemFingerprint := by
  obtain ⟨ref, referred, itemMade⟩ := bind_eq_ok.mp made
  obtain ⟨⟨sourceClass, artifact, fingerprint⟩, refFingerprint, _, rfl⟩ :=
    makeSourceRef_eq_ok.mp referred
  obtain ⟨acceptable, itemFingerprint, hashed, rfl⟩ := makeIntelligenceItem_eq_ok.mp itemMade
  have written := (UnifiedIntelligenceItem.serializable_payload _).mp (serializable_of_hash hashed)
  exact ⟨IntelligenceCandidate.draftItem_acceptable_iff.mp
    ⟨acceptable, sourceClass, artifact, fingerprint, written⟩,
    refFingerprint, itemFingerprint, rfl⟩

theorem exists_materialize_iff : (∃ item, materialize registry candidate = .ok item) ↔
      candidate.Acceptable registry := by
  constructor
  · rintro ⟨item, made⟩
    exact (item_of_materialize made).1
  · intro acceptable
    obtain ⟨refFingerprint, refHashed⟩ :=
      exists_hash_iff.mpr candidate.draftRef.serializable_payload
    have referred : makeSourceRef registry candidate.draftRef =
        .ok (candidate.ref refFingerprint) :=
      makeSourceRef_eq_ok.mpr ⟨⟨acceptable.sourceClass, acceptable.artifact,
        acceptable.fingerprint⟩, refFingerprint, refHashed, rfl⟩
    have accepted := (@IntelligenceCandidate.draftItem_acceptable_iff
      registry candidate (candidate.ref refFingerprint)).mpr acceptable
    obtain ⟨itemFingerprint, made⟩ := exists_makeIntelligenceItem accepted.1 acceptable.written
    exact ⟨_, bind_eq_ok.mpr ⟨_, referred, made⟩⟩

/-! ## Contributions -/

namespace CurrentStateCall

/-- The candidate that a decision promotes. -/
def promotedBy (call : CurrentStateCall) (decision : ApplicabilityDecision) :
    Option IntelligenceCandidate :=
  if decision.applicabilityState = "APPLICABLE" then
    theOnly (call.matching decision.dimension)
  else none

/-- The candidates that become items. -/
def promoted (call : CurrentStateCall) : List IntelligenceCandidate :=
  call.decisions.filterMap call.promotedBy

/-- What a decision contributes depends on its state alone, unless it
promotes a candidate. -/
theorem contribute_eq_ok {call : CurrentStateCall} {decision : ApplicabilityDecision}
    {contribution : Contribution} :
    call.contribute decision = .ok contribution ↔
      (decision.applicabilityState = "UNKNOWN" ∧ .unknown decision = contribution) ∨
        (decision.applicabilityState = "NOT_APPLICABLE" ∧
          .exclusion decision.dimension = contribution) ∨
        ∃ candidate item, call.promotedBy decision = some candidate ∧
          materialize call.registry candidate = .ok item ∧ .item candidate item = contribution := by
  by_cases blocked : decision.applicabilityState = "BLOCKED"
  · simp [contribute, promotedBy, blocked]
  by_cases unknown : decision.applicabilityState = "UNKNOWN"
  · simp [contribute, promotedBy, unknown]
  by_cases excluded : decision.applicabilityState = "NOT_APPLICABLE"
  · simp [contribute, promotedBy, excluded]
  by_cases applicable : decision.applicabilityState = "APPLICABLE"
  · rw [or_iff_right fun chosen => unknown chosen.1,
      or_iff_right fun chosen => excluded chosen.1, contribute, promotedBy,
      if_neg blocked, if_neg unknown, if_neg excluded, if_pos applicable]
    simp only [bind_eq_ok, require_eq_ok, exists_const, orRaise_eq_ok,
      pure_eq_ok, applicable, true_and]
    constructor
    · rintro ⟨candidate, only, item, made, result⟩
      exact ⟨candidate, item, only, made, result⟩
    · rintro ⟨candidate, item, only, made, result⟩
      exact ⟨candidate, only, item, made, result⟩
  · simp [contribute, promotedBy, blocked, unknown, excluded, applicable, bind_eq_ok]

/-- A decision that the build carries out. -/
def Resolvable (call : CurrentStateCall) (decision : ApplicabilityDecision) : Prop :=
  decision.applicabilityState ∈ ["UNKNOWN", "NOT_APPLICABLE"] ∨
    ∃ candidate, call.promotedBy decision = some candidate ∧ candidate.Acceptable call.registry

theorem exists_contribute_iff {call : CurrentStateCall} {decision : ApplicabilityDecision} :
    (∃ contribution, call.contribute decision = .ok contribution) ↔ call.Resolvable decision := by
  simp only [contribute_eq_ok, Resolvable, ← exists_materialize_iff,
    List.mem_cons, List.not_mem_nil, or_false]
  constructor
  · rintro ⟨contribution, ⟨unknown, _⟩ | ⟨excluded, _⟩ | ⟨candidate, item, only, made, _⟩⟩
    · exact .inl (.inl unknown)
    · exact .inl (.inr excluded)
    · exact .inr ⟨candidate, only, item, made⟩
  · rintro ((unknown | excluded) | ⟨candidate, only, item, made⟩)
    · exact ⟨_, .inl ⟨unknown, rfl⟩⟩
    · exact ⟨_, .inr (.inl ⟨excluded, rfl⟩)⟩
    · exact ⟨_, .inr (.inr ⟨candidate, item, only, made, rfl⟩)⟩

/-- The items are those of the promoted candidates. -/
theorem items_of_contributions {call : CurrentStateCall} {contributions : List Contribution}
    (contributed : call.decisions.mapM call.contribute = .ok contributions) :
    List.Forall₂ (fun candidate item =>
        materialize call.registry candidate = .ok item)
      call.promoted (Contribution.items contributions) := by
  rw [promoted]
  have related := mapM_eq_ok.mp contributed
  clear contributed
  generalize call.decisions = decisions at related ⊢
  induction related with
  | nil => exact .nil
  | cons head _ ih =>
      rcases contribute_eq_ok.mp head with ⟨unknown, rfl⟩ | ⟨excluded, rfl⟩ |
        ⟨candidate, item, only, made, rfl⟩
      · have none : call.promotedBy _ = none := if_neg (by
          rw [unknown]
          decide)
        rw [List.filterMap_cons_none none]
        exact ih
      · have none : call.promotedBy _ = none := if_neg (by
          rw [excluded]
          decide)
        rw [List.filterMap_cons_none none]
        exact ih
      · rw [List.filterMap_cons_some only]
        exact .cons made ih

end CurrentStateCall

/-! ## The build -/

theorem theOnly_eq_some_iff {α : Type} {items : List α} {item : α} :
    theOnly items = some item ↔ items = [item] := by
  rcases items with _ | ⟨first, _ | ⟨second, items⟩⟩ <;> simp [theOnly]

/-- The applicability set applies a dimension. -/
def ApplicabilitySet.Applies (applicability : ApplicabilitySet) (dimension : String) : Prop :=
  ∃ decision ∈ applicability.decisions, decision.dimension = dimension ∧
    decision.applicabilityState = "APPLICABLE"

namespace CurrentStateCall

/-- What `build_current_unified_state` asks of its arguments before it looks
at the decisions. -/
structure Bound (call : CurrentStateCall) : Prop where
  ready : call.bundle.bundleStatus = "READY"
  fingerprint : call.applicabilitySet.inputBundleFingerprint = call.bundle.bundleFingerprint
  property : call.applicabilitySet.subjectPropertyId = call.bundle.propertyId
  community : call.applicabilitySet.communityId = call.bundle.communityId
  boundary : call.applicabilitySet.temporalBoundary = call.bundle.temporalBoundary
  decisions : (call.applicabilitySet.decisions.map ApplicabilityDecision.dimension).Nodup
  candidates : (call.candidates.map IntelligenceCandidate.dimension).Nodup
  decided : ∀ candidate ∈ call.candidates, candidate.dimension ∈
    call.applicabilitySet.decisions.map ApplicabilityDecision.dimension

variable {call : CurrentStateCall}

/-- A matching candidate is the only one of its dimension. -/
theorem matching_eq_singleton_iff (bound : call.Bound) {dimension : String} :
    call.matching dimension = [candidate] ↔
      candidate ∈ call.candidates ∧ candidate.dimension = dimension := by
  have mem : ∀ other, other ∈ call.matching dimension ↔
      other ∈ call.candidates ∧ other.dimension = dimension := by
    intro other
    simp [matching]
  rw [← mem]
  constructor
  · intro single
    rw [single]
    exact List.mem_singleton_self candidate
  · intro present
    have all : ∀ other ∈ call.matching dimension, other = candidate := by
      intro other listed
      obtain ⟨otherListed, otherAbout⟩ := (mem other).mp listed
      obtain ⟨listed, about⟩ := (mem candidate).mp present
      exact List.inj_on_of_nodup_map bound.candidates otherListed listed
        (otherAbout.trans about.symm)
    have distinct : (call.matching dimension).Nodup :=
      ((sortedBy_perm _ call.candidates).nodup_iff.mpr bound.candidates.of_map).filter _
    rw [List.eq_replicate_of_mem all, List.nodup_replicate] at distinct
    have positive := List.length_pos_of_mem present
    rw [List.eq_replicate_of_mem all]
    obtain same : (call.matching dimension).length = 1 := by omega
    rw [same]
    rfl

/-- The promoted candidates are those whose dimension applies. -/
theorem mem_promoted_iff (bound : call.Bound) :
    candidate ∈ call.promoted ↔ candidate ∈ call.candidates ∧
        call.applicabilitySet.Applies candidate.dimension := by
  simp only [promoted, List.mem_filterMap, promotedBy, ApplicabilitySet.Applies]
  constructor
  · rintro ⟨decision, listed, chosen⟩
    split_ifs at chosen with applicable
    obtain ⟨present, about⟩ := (matching_eq_singleton_iff bound).mp (theOnly_eq_some_iff.mp chosen)
    exact ⟨present, decision, (mem_sortedBy _ _ _).mp listed, about.symm, applicable⟩
  · rintro ⟨present, decision, listed, about, applicable⟩
    refine ⟨decision, (mem_sortedBy _ _ _).mpr listed, ?_⟩
    rw [if_pos applicable, theOnly_eq_some_iff, matching_eq_singleton_iff bound]
    exact ⟨present, about.symm⟩

end CurrentStateCall

theorem buildCurrentUnifiedState_eq_ok {call : CurrentStateCall} :
    buildCurrentUnifiedState call = .ok result ↔ call.Bound ∧
        ∃ contributions state fingerprint,
          call.decisions.mapM call.contribute = .ok contributions ∧
          buildUnifiedState (call.draftState contributions) = .ok state ∧
          hash (call.draftResult contributions state).payload = .ok fingerprint ∧
          { call.draftResult contributions state with
            resultFingerprint := fingerprint } = result := by
  simp only [buildCurrentUnifiedState, bind_eq_ok, require_eq_ok, exists_const, pure_eq_ok]
  constructor
  · rintro ⟨ready, fingerprint, property, community, boundary, decisions,
      candidates, contributions, contributed, decided, state, built,
      resultFingerprint, hashed, made⟩
    exact ⟨⟨ready, fingerprint, property, community, boundary, decisions,
      candidates, decided⟩, contributions, state, resultFingerprint,
      contributed, built, hashed, made⟩
  · rintro ⟨bound, contributions, state, resultFingerprint, contributed, built, hashed, made⟩
    exact ⟨bound.ready, bound.fingerprint, bound.property, bound.community,
      bound.boundary, bound.decisions, bound.candidates, contributions,
      contributed, bound.decided, state, built, resultFingerprint, hashed, made⟩

/-- The items of a built state are those of the promoted candidates, up to
order. -/
theorem exists_items_of_build {call : CurrentStateCall}
    (built : buildCurrentUnifiedState call = .ok result) :
    ∃ items, List.Forall₂ (fun candidate item =>
        materialize call.registry candidate = .ok item)
      call.promoted items ∧ result.state.items.Perm items := by
  obtain ⟨_, contributions, state, _, contributed, stateBuilt, _, rfl⟩ :=
    buildCurrentUnifiedState_eq_ok.mp built
  obtain ⟨_, _, _, rfl⟩ := buildUnifiedState_eq_ok.mp stateBuilt
  exact ⟨_, CurrentStateCall.items_of_contributions contributed,
    sortedBy_perm UnifiedIntelligenceItem.itemId _⟩

/-- Every item of a built state is that of a promoted candidate. -/
theorem exists_candidate_of_build {call : CurrentStateCall}
    (built : buildCurrentUnifiedState call = .ok result)
    {item : UnifiedIntelligenceItem} (listed : item ∈ result.state.items) :
    ∃ candidate ∈ call.promoted, materialize call.registry candidate = .ok item := by
  obtain ⟨items, related, permuted⟩ := exists_items_of_build built
  exact Traverse.exists_related_of_mem_right related (permuted.mem_iff.mp listed)

/-- Every promoted candidate has its item. -/
theorem exists_item_of_build {call : CurrentStateCall}
    (built : buildCurrentUnifiedState call = .ok result)
    (promoted : candidate ∈ call.promoted) :
    ∃ item ∈ result.state.items, materialize call.registry candidate = .ok item := by
  obtain ⟨items, related, permuted⟩ := exists_items_of_build built
  obtain ⟨item, present, made⟩ := Traverse.exists_related_of_mem_left related promoted
  exact ⟨item, permuted.mem_iff.mpr present, made⟩

namespace CurrentStateCall

/-- What `build_current_unified_state` asks of its arguments. -/
structure Acceptable (call : CurrentStateCall) : Prop where
  bound : call.Bound
  resolvable : ∀ decision ∈ call.decisions, call.Resolvable decision
  identified : ∀ text ∈ [call.intelligenceStateId, call.bundle.propertyId,
    call.bundle.communityId, call.bundle.temporalBoundary,
    call.policyVersion, call.schemaVersion], Text.isBlank text = false
  distinct : (call.promoted.map IntelligenceCandidate.candidateId).Nodup

end CurrentStateCall

/-- The ids of the items are those of the promoted candidates. -/
theorem itemIds_of_materialized {candidates : List IntelligenceCandidate}
    {items : List UnifiedIntelligenceItem}
    (related : List.Forall₂ (fun candidate item =>
      materialize registry candidate = .ok item) candidates items) :
    items.map UnifiedIntelligenceItem.itemId =
      candidates.map IntelligenceCandidate.candidateId := by
  induction related with
  | nil => rfl
  | cons head _ ih =>
      obtain ⟨_, _, _, rfl⟩ := item_of_materialize head
      rw [List.map_cons, List.map_cons, ih]
      rfl

/-- The values of the items can be written. -/
theorem serializable_of_materialized {candidates : List IntelligenceCandidate}
    {items : List UnifiedIntelligenceItem}
    (related : List.Forall₂ (fun candidate item =>
      materialize registry candidate = .ok item) candidates items) :
    ∀ item ∈ items, Serializable item.value := by
  induction related with
  | nil => simp
  | cons head _ ih =>
      obtain ⟨acceptable, _, _, rfl⟩ := item_of_materialize head
      exact List.forall_mem_cons.mpr ⟨acceptable.written, ih⟩

theorem exists_buildCurrentUnifiedState_iff {call : CurrentStateCall} :
    (∃ result, buildCurrentUnifiedState call = .ok result) ↔ call.Acceptable := by
  constructor
  · rintro ⟨result, built⟩
    obtain ⟨bound, contributions, state, _, contributed, stateBuilt, _, _⟩ :=
      buildCurrentUnifiedState_eq_ok.mp built
    have acceptable := (buildUnifiedState_eq_ok.mp stateBuilt).1
    exact
      { bound := bound
        resolvable := fun decision listed => by
          obtain ⟨contribution, _, contributes⟩ := exists_ok_of_mapM contributed listed
          exact CurrentStateCall.exists_contribute_iff.mp ⟨contribution, contributes⟩
        identified := acceptable.identified
        distinct := by
          rw [← itemIds_of_materialized (CurrentStateCall.items_of_contributions contributed)]
          exact acceptable.distinct }
  · intro acceptable
    obtain ⟨contributions, contributed⟩ := exists_mapM_ok fun decision listed =>
      CurrentStateCall.exists_contribute_iff.mpr (acceptable.resolvable decision listed)
    have related := CurrentStateCall.items_of_contributions contributed
    obtain ⟨stateFingerprint, stateBuilt⟩ := @exists_buildUnifiedState
      (call.draftState contributions)
      { identified := acceptable.identified
        prior := fun _ missing => nomatch missing
        distinct := by
          change ((Contribution.items contributions).map UnifiedIntelligenceItem.itemId).Nodup
          rw [itemIds_of_materialized related]
          exact acceptable.distinct }
      (serializable_of_materialized related)
    obtain ⟨fingerprint, hashed⟩ := exists_hash_iff.mpr
      (by simp [CurrentStateBuildResult.payload] :
        Serializable (call.draftResult contributions
          { (call.draftState contributions).tidied with
            stateFingerprint := stateFingerprint }).payload)
    exact ⟨_, buildCurrentUnifiedState_eq_ok.mpr
      ⟨acceptable.bound, contributions, _, fingerprint, contributed, stateBuilt, hashed, rfl⟩⟩

/-! ## One candidate -/

/-- A candidate for the buyer depth. -/
def sampleCandidate (freshnessState conflictState : String) : IntelligenceCandidate where
  candidateId := "I1"
  dimension := "buyer_depth"
  value := .str "DESCRIBED"
  sourceClass := "CERTIFIED_FACT"
  sourceArtifactId := "SRC-1"
  sourceFingerprint := sampleFingerprint
  sourceTime := some "2026-09-18T10:00:00-07:00"
  freshnessState := freshnessState
  conflictState := conflictState
  limitation := none

theorem sampleCandidate_acceptable :
    (sampleCandidate "CURRENT" "NO_CONFLICT").Acceptable intelligenceRegistry where
  sourceClass := by decide
  artifact := by decide
  fingerprint := by decide
  identified := by decide
  freshnessState := by decide
  conflictState := by decide
  changeState := by decide
  significanceClass := by decide
  notInferred := fun unknown =>
    absurd unknown.1 (by decide : "CERTIFIED_FACT" ≠ "UNKNOWN")
  settled := by decide
  current := by decide
  written := serializable_str _

/-- The current state of one candidate. -/
def sampleCurrentCall (bundle : GovernedInputBundle) (applicability : ApplicabilitySet)
    (candidate : IntelligenceCandidate) : CurrentStateCall where
  intelligenceStateId := "S1"
  bundle := bundle
  applicabilitySet := applicability
  candidates := [candidate]
  registry := intelligenceRegistry
  policyVersion := "D-v1"
  schemaVersion := "1.0.0"

/-- An acceptable candidate of the one dimension that applies is built. -/
theorem exists_sampleBuild {bundle : GovernedInputBundle} {decision : ApplicabilityDecision}
    {fingerprint : String} {candidate : IntelligenceCandidate}
    (ready : bundle.bundleStatus = "READY")
    (identified : ∀ text ∈ [bundle.propertyId, bundle.communityId,
      bundle.temporalBoundary], Text.isBlank text = false)
    (about : candidate.dimension = decision.dimension)
    (applicable : decision.applicabilityState = "APPLICABLE")
    (acceptable : candidate.Acceptable intelligenceRegistry) :
    ∃ result, buildCurrentUnifiedState (sampleCurrentCall bundle
      (setOf "AS1" bundle [decision] fingerprint) candidate) = .ok result := by
  have bound : (sampleCurrentCall bundle
      (setOf "AS1" bundle [decision] fingerprint) candidate).Bound :=
    { ready := ready
      fingerprint := rfl
      property := rfl
      community := rfl
      boundary := rfl
      decisions := List.nodup_singleton _
      candidates := List.nodup_singleton _
      decided := by
        intro other listed
        rw [List.mem_singleton.mp listed, about]
        exact List.mem_singleton_self _ }
  have promotes : (sampleCurrentCall bundle
      (setOf "AS1" bundle [decision] fingerprint) candidate).promotedBy
        decision = some candidate := by
    rw [CurrentStateCall.promotedBy, if_pos applicable, theOnly_eq_some_iff,
      CurrentStateCall.matching_eq_singleton_iff bound]
    exact ⟨List.mem_singleton_self candidate, about⟩
  refine exists_buildCurrentUnifiedState_iff.mpr
    { bound := bound
      resolvable := fun other listed => ?_
      identified := ?_
      distinct := ?_ }
  · obtain rfl : other = decision := List.mem_singleton.mp listed
    exact .inr ⟨candidate, promotes, acceptable⟩
  · have others : Text.isBlank "S1" = false ∧
        Text.isBlank "D-v1" = false ∧ Text.isBlank "1.0.0" = false := by
      decide
    simp only [List.forall_mem_cons] at identified
    simp [sampleCurrentCall, others, identified]
  · have single : (sampleCurrentCall bundle
        (setOf "AS1" bundle [decision] fingerprint) candidate).promoted = [candidate] := by
      change List.filterMap _ [decision] = _
      rw [List.filterMap_cons_some promotes, List.filterMap_nil]
    rw [single]
    exact List.nodup_singleton _

end SanTanHeights.Seller
