import SanTanHeights.Seller.Materialization
import SanTanHeights.Seller.Pipeline

/-!
# Stale and conflicting evidence

An unresolved conflict blocks its own dimension, stale evidence sends its own
dimension to review, and every other dimension is assessed as if there were
none.  The current state is built just where there is no such evidence.
-/

namespace SanTanHeights.Seller

open Foundation Foundation.Json Foundation.Sorting Foundation.Outcome
open Foundation.Keyed
open Community.History (sortedSet theOnly)

/-! ## Verdicts on items -/

namespace UnifiedSellerIntelligenceState

/-- The item of a dimension has an unresolved conflict. -/
def ConflictingIn (state : UnifiedSellerIntelligenceState) (dimension : String) : Prop :=
  ∃ item ∈ state.items, item.dimension = dimension ∧ item.conflictState = "UNRESOLVED_CONFLICT"

/-- The item of a dimension is stale. -/
def StaleIn (state : UnifiedSellerIntelligenceState) (dimension : String) : Prop :=
  ∃ item ∈ state.items, item.dimension = dimension ∧ item.freshnessState = "STALE"

end UnifiedSellerIntelligenceState

theorem judgeItem_blocked_iff {item : UnifiedIntelligenceItem} {delta : IntelligenceDelta} :
    (judgeItem usabilityRegistry item delta).state = .blocked ↔
      item.conflictState = "UNRESOLVED_CONFLICT" := by
  rw [judgeItem]
  split_ifs with conflicting <;> simp_all [usabilityRegistry]

/-- Every assessment is that of its dimension. -/
theorem assessDimension_of_mem {registry : UsabilityRegistry} {call : UsabilityCall}
    {framework : IntelligenceUsabilityFramework}
    (assessed : assessIntelligenceUsability registry call = .ok framework) :
    ∀ assessment ∈ framework.assessments,
      assessDimension registry call.currentState call.changeLedger
        assessment.dimension = .ok assessment := by
  obtain ⟨_, assessments, each, _, _, rfl⟩ := assessIntelligenceUsability_eq_ok.mp assessed
  intro assessment listed
  have kept : ∀ assessment ∈ assessments,
      assessDimension registry call.currentState call.changeLedger
        assessment.dimension = .ok assessment :=
    forall_mem_of_mapM each fun dimension _ assessment one => by
      rwa [dimension_of_assessDimension one]
  exact kept assessment ((mem_sortedBy _ _ _).mp listed)

/-- The verdict on a dimension that is not unknown is that on its item. -/
theorem exists_item_of_assessment
    {registry : UsabilityRegistry} {state : UnifiedSellerIntelligenceState}
    {ledger : SellerIntelligenceChangeLedger} {dimension : String}
    {assessment : DimensionUsability}
    (assessed : assessDimension registry state ledger dimension = .ok assessment)
    (known : dimension ∉ state.unknowns) :
    ∃ item delta, state.itemOf dimension = some item ∧
      assessment.usabilityState = (judgeItem registry item delta).state := by
  obtain ⟨delta, verdict, _, _, judged, _, rfl⟩ := assessDimension_eq_ok.mp assessed
  obtain ⟨item, found, rfl⟩ := (judgeDimension_eq_ok known).mp judged
  exact ⟨item, delta, found, rfl⟩

/-- Only an unresolved conflict blocks a dimension. -/
theorem conflictingIn_of_blocked {state : UnifiedSellerIntelligenceState}
    {ledger : SellerIntelligenceChangeLedger} {dimension : String}
    {assessment : DimensionUsability}
    (assessed : assessDimension usabilityRegistry state ledger dimension = .ok assessment)
    (blocked : assessment.usabilityState = .blocked) :
    state.ConflictingIn dimension := by
  by_cases unknown : dimension ∈ state.unknowns
  · obtain ⟨delta, verdict, _, _, judged, _, rfl⟩ := assessDimension_eq_ok.mp assessed
    rw [judgeDimension, if_pos unknown] at judged
    obtain rfl := Except.ok.inj judged
    cases blocked
  · obtain ⟨item, delta, found, judged⟩ := exists_item_of_assessment assessed unknown
    rw [blocked, eq_comm, judgeItem_blocked_iff] at judged
    obtain ⟨listed, about⟩ := mem_of_latest found
    exact ⟨item, listed, about, judged⟩

/-! ## Restated candidates -/

/-- A choice of the freshness and the conflict state of every candidate. -/
structure Restating where
  freshness : IntelligenceCandidate → String
  conflict : IntelligenceCandidate → String

namespace Restating

/-- A candidate in the chosen states. -/
def apply (states : Restating) (candidate : IntelligenceCandidate) : IntelligenceCandidate :=
  { candidate with
    freshnessState := states.freshness candidate
    conflictState := states.conflict candidate }

/-- Stale evidence counted as current, conflicting as free of conflict. -/
def calming : Restating where
  freshness candidate :=
    if candidate.freshnessState = "STALE" then "CURRENT"
    else candidate.freshnessState
  conflict candidate :=
    if candidate.conflictState = "UNRESOLVED_CONFLICT" then "NO_CONFLICT"
    else candidate.conflictState

theorem calming_apply_eq_self {candidate : IntelligenceCandidate}
    (settled : candidate.conflictState ≠ "UNRESOLVED_CONFLICT")
    (current : candidate.freshnessState ≠ "STALE") :
    calming.apply candidate = candidate := by
  simp [apply, calming, settled, current]

/-- The chosen states are registered. -/
def Registered (states : Restating) (call : CurrentStateCall) : Prop :=
  ∀ candidate ∈ call.candidates,
    states.freshness candidate ∈ call.registry.freshnessStates ∧
      states.conflict candidate ∈ call.registry.conflictStates

end Restating

theorem theOnly_map {α β : Type} (f : α → β) (items : List α) :
    theOnly (items.map f) = (theOnly items).map f := by
  rcases items with _ | ⟨item, _ | ⟨other, items⟩⟩ <;> rfl

namespace CurrentStateCall

/-- The call with its candidates in the chosen states. -/
def restated (call : CurrentStateCall) (states : Restating) : CurrentStateCall :=
  { call with candidates := call.candidates.map states.apply }

variable {call : CurrentStateCall} {states : Restating}

theorem matching_restated (dimension : String) :
    (call.restated states).matching dimension = (call.matching dimension).map states.apply := by
  have sorted := map_sortedBy states.apply
    (fun candidate : IntelligenceCandidate =>
      toLex (candidate.dimension, candidate.candidateId)) call.candidates
  rw [matching, matching, restated, ← sorted, List.filter_map]
  rfl

theorem promotedBy_restated (decision : ApplicabilityDecision) :
    (call.restated states).promotedBy decision = (call.promotedBy decision).map states.apply := by
  rw [promotedBy, promotedBy, matching_restated, theOnly_map]
  split_ifs <;> rfl

theorem promoted_restated :
    (call.restated states).promoted = call.promoted.map states.apply := by
  rw [promoted, promoted, List.map_filterMap]
  apply List.filterMap_congr
  intro decision _
  exact promotedBy_restated decision

theorem bound_restated (bound : call.Bound) : (call.restated states).Bound where
  ready := bound.ready
  fingerprint := bound.fingerprint
  property := bound.property
  community := bound.community
  boundary := bound.boundary
  decisions := bound.decisions
  candidates := by
    have same : (call.candidates.map states.apply).map
        IntelligenceCandidate.dimension = call.candidates.map IntelligenceCandidate.dimension := by
      rw [List.map_map]
      rfl
    rw [restated, same]
    exact bound.candidates
  decided := by
    intro candidate listed
    obtain ⟨original, present, rfl⟩ := List.mem_map.mp listed
    exact bound.decided original present

/-- Of a call that was accepted, the restated one is accepted just where no
promoted candidate is stale or in conflict. -/
theorem acceptable_restated_iff
    (accepted : call.Acceptable) (registered : states.Registered call) :
    (call.restated states).Acceptable ↔
      ∀ candidate ∈ (call.restated states).promoted,
        candidate.conflictState ≠ "UNRESOLVED_CONFLICT" ∧ candidate.freshnessState ≠ "STALE" := by
  constructor
  · intro acceptable candidate present
    obtain ⟨decision, listed, chosen⟩ := List.mem_filterMap.mp present
    rcases acceptable.resolvable decision listed with other |
      ⟨same, found, asked⟩
    · rw [promotedBy] at chosen
      split_ifs at chosen with applicable
      rw [applicable] at other
      exact absurd other (by decide)
    · obtain rfl := Option.some.inj (found.symm.trans chosen)
      exact ⟨asked.settled, asked.current⟩
  · intro calm
    exact
      { bound := bound_restated accepted.bound
        resolvable := by
          intro decision listed
          rcases accepted.resolvable decision listed with other |
            ⟨candidate, found, asked⟩
          · exact .inl other
          · have chosen : (call.restated states).promotedBy decision =
                some (states.apply candidate) := by
              rw [promotedBy_restated, found]
              rfl
            have present : candidate ∈ call.promoted :=
              List.mem_filterMap.mpr ⟨decision, listed, found⟩
            have listedCandidate := ((mem_promoted_iff accepted.bound).mp present).1
            obtain ⟨freshness, conflict⟩ := registered candidate listedCandidate
            obtain ⟨settled, current⟩ := calm _ (List.mem_filterMap.mpr ⟨decision, listed, chosen⟩)
            exact .inr ⟨_, chosen, { asked with
                freshnessState := freshness
                conflictState := conflict
                settled := settled
                current := current }⟩
        identified := accepted.identified
        distinct := by
          rw [promoted_restated, List.map_map]
          exact accepted.distinct }

/-- The call as if its stale and conflicting candidates were neither. -/
def calmed (call : CurrentStateCall) : CurrentStateCall :=
  call.restated Restating.calming

/-- Without stale or conflicting promoted candidates there is nothing to
calm. -/
theorem contribute_calmed
    (calm : ∀ candidate ∈ call.promoted,
      candidate.conflictState ≠ "UNRESOLVED_CONFLICT" ∧ candidate.freshnessState ≠ "STALE")
    {decision : ApplicabilityDecision} (listed : decision ∈ call.decisions) :
    call.calmed.contribute decision = call.contribute decision := by
  have same : call.calmed.promotedBy decision = call.promotedBy decision := by
    rw [calmed, promotedBy_restated]
    cases chosen : call.promotedBy decision with
    | none => rfl
    | some candidate =>
        obtain ⟨settled, current⟩ := calm candidate
          (List.mem_filterMap.mpr ⟨decision, listed, chosen⟩)
        rw [Option.map_some, Restating.calming_apply_eq_self settled current]
  by_cases applicable : decision.applicabilityState = "APPLICABLE"
  · rw [promotedBy, promotedBy, if_pos applicable, if_pos applicable] at same
    rw [contribute, contribute, same]
    rfl
  · rw [contribute, contribute, require, if_neg applicable]
    rfl

/-- Without stale or conflicting promoted candidates the calmed call builds
what the call builds. -/
theorem build_calmed {result : CurrentStateBuildResult}
    (calm : ∀ candidate ∈ call.promoted,
      candidate.conflictState ≠ "UNRESOLVED_CONFLICT" ∧ candidate.freshnessState ≠ "STALE")
    (built : buildCurrentUnifiedState call = .ok result) :
    buildCurrentUnifiedState call.calmed = .ok result := by
  obtain ⟨bound, contributions, state, fingerprint, contributed, made⟩ :=
    buildCurrentUnifiedState_eq_ok.mp built
  have same : call.decisions.mapM call.calmed.contribute =
      call.decisions.mapM call.contribute :=
    Traverse.mapM_congr fun _ listed => contribute_calmed calm listed
  exact buildCurrentUnifiedState_eq_ok.mpr ⟨bound_restated bound,
    contributions, state, fingerprint, same.trans contributed, made⟩

end CurrentStateCall

/-! ## The law -/

/-- A state is compared with a prior one and assessed. -/
structure Assesses (fromisoformat : FromIsoformat) (call : LedgerCall) (names : BriefNames)
    (ledger : SellerIntelligenceChangeLedger)
    (framework : IntelligenceUsabilityFramework) : Prop where
  compared : buildChangeLedger fromisoformat call = .ok ledger
  assessed : assessIntelligenceUsability usabilityRegistry
    (call.usabilityCall names ledger) = .ok framework

/-- The comparison of another current state. -/
def LedgerCall.withCurrent (call : LedgerCall) (state : UnifiedSellerIntelligenceState) :
    LedgerCall :=
  { call with currentState := state }

/-- What a framework says of each dimension of a state, next to one of the
calmed state. -/
structure LocalIn (state : UnifiedSellerIntelligenceState)
    (calm : IntelligenceUsabilityFramework) (assessment : DimensionUsability) : Prop where
  blocked : assessment.usabilityState = .blocked ↔ state.ConflictingIn assessment.dimension
  stale : state.StaleIn assessment.dimension →
    ¬ state.ConflictingIn assessment.dimension → assessment.usabilityState = .reviewRequired
  unaffected : ¬ state.StaleIn assessment.dimension →
    ¬ state.ConflictingIn assessment.dimension → assessment ∈ calm.assessments

/-- The current state is built, whatever is stale or in conflict, and its
assessment is local. -/
def CurrentStateCall.Localizes
    (fromisoformat : FromIsoformat) (call : CurrentStateCall) : Prop :=
  ∃ result calm, buildCurrentUnifiedState call = .ok result ∧
    buildCurrentUnifiedState call.calmed = .ok calm ∧
    ∀ (ledgerCall : LedgerCall) names ledger framework calmLedger calmFramework,
      Assesses fromisoformat (ledgerCall.withCurrent result.state) names ledger framework →
      Assesses fromisoformat (ledgerCall.withCurrent calm.state) names calmLedger calmFramework →
      ∀ assessment ∈ framework.assessments, LocalIn result.state calmFramework assessment

/-- Of a call that was accepted, with its candidates restated in registered
states, the law holds just where no candidate whose dimension applies is stale
or in conflict: the build rejects the others. -/
theorem stale_and_conflicting_local_iff
    (fromisoformat : FromIsoformat) {call : CurrentStateCall}
    {accepted : CurrentStateBuildResult} {states : Restating}
    (built : buildCurrentUnifiedState call = .ok accepted)
    (registered : states.Registered call) : (call.restated states).Localizes fromisoformat ↔
      ∀ candidate ∈ (call.restated states).candidates,
        call.applicabilitySet.Applies candidate.dimension →
          candidate.conflictState ≠ "UNRESOLVED_CONFLICT" ∧
            candidate.freshnessState ≠ "STALE" := by
  have acceptable :=
    exists_buildCurrentUnifiedState_iff.mp ⟨accepted, built⟩
  have bound := @CurrentStateCall.bound_restated call states acceptable.bound
  have condition : (∀ candidate ∈ (call.restated states).candidates,
        call.applicabilitySet.Applies candidate.dimension →
          candidate.conflictState ≠ "UNRESOLVED_CONFLICT" ∧
            candidate.freshnessState ≠ "STALE") ↔
      (call.restated states).Acceptable := by
    rw [CurrentStateCall.acceptable_restated_iff acceptable registered]
    simp only [CurrentStateCall.mem_promoted_iff bound, and_imp]
    rfl
  rw [condition]
  constructor
  · rintro ⟨result, calm, localBuilt, _⟩
    exact exists_buildCurrentUnifiedState_iff.mp ⟨result, localBuilt⟩
  · intro localAcceptable
    have calm := (CurrentStateCall.acceptable_restated_iff acceptable
      registered).mp localAcceptable
    obtain ⟨result, localBuilt⟩ :=
      exists_buildCurrentUnifiedState_iff.mpr localAcceptable
    refine ⟨result, result, localBuilt,
      CurrentStateCall.build_calmed calm localBuilt, ?_⟩
    have settled : ∀ item ∈ result.state.items,
        item.conflictState ≠ "UNRESOLVED_CONFLICT" ∧
          item.freshnessState ≠ "STALE" := by
      intro item listed
      obtain ⟨candidate, promoted, made⟩ :=
        exists_candidate_of_build localBuilt listed
      obtain ⟨_, _, _, rfl⟩ := item_of_materialize made
      exact calm candidate promoted
    intro ledgerCall names ledger framework calmLedger calmFramework run
      calmRun assessment listed
    obtain rfl := Except.ok.inj (run.compared.symm.trans calmRun.compared)
    obtain rfl := Except.ok.inj (run.assessed.symm.trans calmRun.assessed)
    have assessed := assessDimension_of_mem run.assessed assessment listed
    have conflictFree :
        ¬ result.state.ConflictingIn assessment.dimension := by
      rintro ⟨item, present, _, conflicting⟩
      exact (settled item present).1 conflicting
    exact
      { blocked := ⟨fun blocked => conflictingIn_of_blocked assessed blocked,
          fun conflicting => absurd conflicting conflictFree⟩
        stale := by
          rintro ⟨item, present, _, stale⟩ _
          exact absurd stale (settled item present).2
        unaffected := fun _ _ => listed }

/-- Every candidate in one state of freshness, free of conflict. -/
def restateFreshness (freshnessState : String) : Restating where
  freshness _ := freshnessState
  conflict _ := "NO_CONFLICT"

theorem restateFreshness_registered
    {bundle : GovernedInputBundle} {applicability : ApplicabilitySet}
    {candidate : IntelligenceCandidate} {freshnessState : String}
    (known : freshnessState ∈ intelligenceRegistry.freshnessStates) :
    (restateFreshness freshnessState).Registered
      (sampleCurrentCall bundle applicability candidate) :=
  fun _ _ => ⟨known, (by decide : "NO_CONFLICT" ∈ intelligenceRegistry.conflictStates)⟩

/-- Superseded evidence is neither stale nor in conflict. -/
theorem stale_and_conflicting_local_sample :
    ∃ dependencies bundle decision applicability accepted,
      bindingRegistry.requiredSystems.mapM (fun system =>
        makeDependency sampleFromisoformat bindingRegistry
          (sampleDependency system)) = .ok dependencies ∧
      resolveInputBundle sampleFromisoformat bindingRegistry
        (sampleBundleCall dependencies) = .ok bundle ∧
      evaluateApplicability applicabilityRegistry (sampleEvaluation bundle) =
        .ok decision ∧
      buildApplicabilitySet "AS1" bundle [decision] = .ok applicability ∧
      buildCurrentUnifiedState (sampleCurrentCall bundle applicability
        (sampleCandidate "CURRENT" "NO_CONFLICT")) = .ok accepted ∧
      ((sampleCurrentCall bundle applicability (sampleCandidate "CURRENT"
        "NO_CONFLICT")).restated (restateFreshness "SUPERSEDED")).Localizes
          sampleFromisoformat := by
  obtain ⟨dependencies, bundle, made, resolved, ready, identified⟩ :=
    exists_readyBundle
  obtain ⟨decision, applicability, evaluated, setBuilt, about, applicable,
    fingerprint, rfl⟩ := exists_sampleSet ready
  obtain ⟨accepted, built⟩ := @exists_sampleBuild bundle decision fingerprint
    _ ready identified about.symm applicable sampleCandidate_acceptable
  refine ⟨dependencies, bundle, decision, _, accepted, made, resolved,
    evaluated, setBuilt, built, ?_⟩
  refine (stale_and_conflicting_local_iff sampleFromisoformat built
    (restateFreshness_registered (by decide))).mpr ?_
  intro candidate listed _
  obtain rfl := List.mem_singleton.mp listed
  exact ⟨(by decide : "NO_CONFLICT" ≠ "UNRESOLVED_CONFLICT"),
    (by decide : "SUPERSEDED" ≠ "STALE")⟩

/-- With stale evidence the current state is not built. -/
theorem stale_not_local :
    ∃ dependencies bundle decision applicability accepted,
      bindingRegistry.requiredSystems.mapM (fun system =>
        makeDependency sampleFromisoformat bindingRegistry
          (sampleDependency system)) = .ok dependencies ∧
      resolveInputBundle sampleFromisoformat bindingRegistry
        (sampleBundleCall dependencies) = .ok bundle ∧
      evaluateApplicability applicabilityRegistry (sampleEvaluation bundle) =
        .ok decision ∧
      buildApplicabilitySet "AS1" bundle [decision] = .ok applicability ∧
      buildCurrentUnifiedState (sampleCurrentCall bundle applicability
        (sampleCandidate "CURRENT" "NO_CONFLICT")) = .ok accepted ∧
      (restateFreshness "STALE").Registered (sampleCurrentCall bundle
        applicability (sampleCandidate "CURRENT" "NO_CONFLICT")) ∧
      ¬ ∃ result, buildCurrentUnifiedState (sampleCurrentCall bundle
        applicability (sampleCandidate "STALE" "NO_CONFLICT")) =
          .ok result := by
  obtain ⟨dependencies, bundle, made, resolved, ready, identified⟩ :=
    exists_readyBundle
  obtain ⟨decision, applicability, evaluated, setBuilt, about, applicable,
    fingerprint, rfl⟩ := exists_sampleSet ready
  obtain ⟨accepted, built⟩ := @exists_sampleBuild bundle decision fingerprint
    _ ready identified about.symm applicable sampleCandidate_acceptable
  refine ⟨dependencies, bundle, decision, _, accepted, made, resolved,
    evaluated, setBuilt, built,
    restateFreshness_registered (by decide), ?_⟩
  rw [exists_buildCurrentUnifiedState_iff]
  intro acceptable
  have applies : (setOf "AS1" bundle [decision] fingerprint).Applies
      "buyer_depth" :=
    ⟨decision, List.mem_singleton_self decision, about, applicable⟩
  have promoted := (CurrentStateCall.mem_promoted_iff acceptable.bound).mpr
    ⟨List.mem_singleton_self _, applies⟩
  obtain ⟨other, listed, chosen⟩ := List.mem_filterMap.mp promoted
  rcases acceptable.resolvable other listed with state | ⟨same, found, asked⟩
  · obtain rfl : other = decision := List.mem_singleton.mp listed
    rw [applicable] at state
    exact absurd state (by decide)
  · obtain rfl := Option.some.inj (found.symm.trans chosen)
    exact asked.current rfl

end SanTanHeights.Seller
