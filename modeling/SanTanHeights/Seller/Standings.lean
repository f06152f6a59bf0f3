import SanTanHeights.Seller.ChangeLedger
import SanTanHeights.Seller.Provenance

/-!
# Standings of dimensions

Where an applicability set leaves a dimension, and what the comparison of two
built states makes of the standings before and after.
-/

namespace SanTanHeights.Seller

open Foundation.Json Foundation.Sorting Foundation.Outcome
open Foundation.Keyed
open Community.History (mem_sortedSet)

/-! ## The table -/

/-- Where an applicability set leaves a dimension. -/
inductive Standing where
  | applicable
  | unknown
  | excluded
  | undecided
  deriving DecidableEq, Repr

namespace Standing

/-- The change that the comparison finds, if it looks at the dimension at all.
A fact is a property fact of the same name that an unknown decision misses. -/
def classify (prior current : Standing) (priorFact currentFact same : Bool) :
    Option ChangeState :=
  if current = unknown ∨ currentFact then some .unknown
  else match prior, current with
  | applicable, applicable =>
      if priorFact then some .resolved
      else if same then some .unchanged
      else some .changed
  | applicable, _ => some .noLongerApplicable
  | unknown, applicable => some .resolved
  | _, applicable => if priorFact then some .resolved else some .new
  | unknown, _ => some .unknown
  | _, _ => if priorFact then some .unknown else none

/-- A change is the one that the standings before and after call for. -/
def Names (prior current : Standing) (same : Prop) (change : ChangeState) : Prop :=
  (change = .unknown ↔ current = unknown) ∧
    (change = .resolved ↔ prior = unknown ∧ current = applicable) ∧
    (change = .new ↔ prior ≠ applicable ∧ prior ≠ unknown ∧ current = applicable) ∧
    (change = .noLongerApplicable ↔ (prior = applicable ∨ prior = unknown) ∧
        ¬ (current = applicable ∨ current = unknown)) ∧
    (change = .unchanged ↔ prior = applicable ∧ current = applicable ∧ same)

/-- A change is found where a decision calls for one. -/
def Exact (prior current : Standing) (same : Prop) (found : Option ChangeState) : Prop :=
  (found.isSome ↔ (prior ≠ undecided ∨ current ≠ undecided) ∧
      ¬ (prior = excluded ∧ current = excluded)) ∧
    ∀ change ∈ found, Names prior current same change

/-- Neither a fact nor a step that has no name of its own hides the change. -/
def Plain (prior current : Standing) (priorFact currentFact : Bool) : Prop :=
  (currentFact → current = unknown) ∧
    (priorFact → prior = unknown ∨ current = unknown ∨ prior = applicable ∧ current ≠ applicable) ∧
    (prior = unknown → current = applicable ∨ current = unknown) ∧
    (prior = excluded → current ≠ undecided) ∧
    (current = excluded → prior ≠ undecided)

/-- The table, case by case. -/
theorem exact_classify_iff (prior current : Standing) (priorFact currentFact : Bool)
    (same : Prop) [Decidable same] :
    Exact prior current same
        (classify prior current priorFact currentFact (decide same)) ↔
      Plain prior current priorFact currentFact := by
  cases prior <;> cases current <;> cases priorFact <;> cases currentFact
  case applicable.applicable.false.false =>
    by_cases same <;> simp [Exact, Names, Plain, classify, *]
  all_goals simp [Exact, Names, Plain, classify]

end Standing

/-! ## Standings of a set -/

namespace ApplicabilitySet

variable {applicability : ApplicabilitySet} {dimension : String}

/-- The set has a decision on a dimension. -/
def Decides (applicability : ApplicabilitySet) (dimension : String) : Prop :=
  dimension ∈ applicability.decisions.map ApplicabilityDecision.dimension

/-- The set leaves a dimension unknown. -/
def LeavesUnknown (applicability : ApplicabilitySet) (dimension : String) : Prop :=
  ∃ decision ∈ applicability.decisions, decision.dimension = dimension ∧
    decision.applicabilityState = "UNKNOWN"

/-- The set excludes a dimension. -/
def Excludes (applicability : ApplicabilitySet) (dimension : String) : Prop :=
  ∃ decision ∈ applicability.decisions, decision.dimension = dimension ∧
    decision.applicabilityState = "NOT_APPLICABLE"

/-- An unknown decision of the set misses a property fact of this name. -/
def MissesFact (applicability : ApplicabilitySet) (fact : String) : Prop :=
  ∃ decision ∈ applicability.decisions,
    decision.applicabilityState = "UNKNOWN" ∧ fact ∈ decision.unknowns

/-- Where the set leaves a dimension. -/
def standing (applicability : ApplicabilitySet) (dimension : String) : Standing :=
  match latest ApplicabilityDecision.dimension applicability.decisions
    dimension with
  | none => .undecided
  | some decision =>
      if decision.applicabilityState = "APPLICABLE" then .applicable
      else if decision.applicabilityState = "UNKNOWN" then .unknown
      else .excluded

/-- A set with one decision for each dimension, in one of the three states
that a build carries out. -/
structure Settled (applicability : ApplicabilitySet) : Prop where
  distinct : (applicability.decisions.map ApplicabilityDecision.dimension).Nodup
  states : ∀ decision ∈ applicability.decisions,
    decision.applicabilityState ∈ ["APPLICABLE", "UNKNOWN", "NOT_APPLICABLE"]

theorem standing_eq_undecided_iff :
    applicability.standing dimension = .undecided ↔ ¬ applicability.Decides dimension := by
  rw [Decides, ← latest_eq_none_iff, standing]
  split
  · exact iff_of_true rfl ‹_›
  · rename_i decision found
    rw [found]
    split_ifs <;> simp

/-- The standing of a dimension with a decision is the state of it. -/
theorem standing_of_mem (settled : applicability.Settled) {decision : ApplicabilityDecision}
    (listed : decision ∈ applicability.decisions) :
    applicability.standing decision.dimension =
      if decision.applicabilityState = "APPLICABLE" then .applicable
      else if decision.applicabilityState = "UNKNOWN" then .unknown
      else .excluded := by
  rw [standing, (latest_eq_some_iff settled.distinct).mpr ⟨listed, rfl⟩]

/-- A state that has a standing of its own is that of the decision. -/
theorem standing_eq_iff (settled : applicability.Settled) {state : String} {place : Standing}
    (own : ∀ given ∈ ["APPLICABLE", "UNKNOWN", "NOT_APPLICABLE"],
      (if given = "APPLICABLE" then Standing.applicable
        else if given = "UNKNOWN" then .unknown else .excluded) = place ↔
        given = state)
    (decided : place ≠ .undecided) :
    applicability.standing dimension = place ↔
      ∃ decision ∈ applicability.decisions, decision.dimension = dimension ∧
        decision.applicabilityState = state := by
  constructor
  · intro stands
    have present : applicability.Decides dimension := by
      by_contra absent
      exact decided (stands.symm.trans (standing_eq_undecided_iff.mpr absent))
    obtain ⟨decision, listed, rfl⟩ := List.mem_map.mp present
    rw [standing_of_mem settled listed] at stands
    exact ⟨decision, listed, rfl, (own _ (settled.states decision listed)).mp stands⟩
  · rintro ⟨decision, listed, rfl, state⟩
    rw [standing_of_mem settled listed]
    exact (own _ (settled.states decision listed)).mpr state

theorem standing_eq_applicable_iff (settled : applicability.Settled) :
    applicability.standing dimension = .applicable ↔ applicability.Applies dimension :=
  standing_eq_iff settled (by decide) (by decide)

theorem standing_eq_unknown_iff (settled : applicability.Settled) :
    applicability.standing dimension = .unknown ↔ applicability.LeavesUnknown dimension :=
  standing_eq_iff settled (by decide) (by decide)

theorem standing_eq_excluded_iff (settled : applicability.Settled) :
    applicability.standing dimension = .excluded ↔ applicability.Excludes dimension :=
  standing_eq_iff settled (by decide) (by decide)

end ApplicabilitySet

/-! ## Built states -/

/-- The fingerprint of a materialized item is that of its payload. -/
theorem hashed_of_materialize
    {registry : IntelligenceRegistry} {candidate : IntelligenceCandidate}
    {item : UnifiedIntelligenceItem} (made : materialize registry candidate = .ok item) :
    hash (.obj item.payload) = .ok item.itemFingerprint := by
  obtain ⟨ref, _, itemMade⟩ := bind_eq_ok.mp made
  obtain ⟨_, fingerprint, hashed, rfl⟩ := makeIntelligenceItem_eq_ok.mp itemMade
  exact hashed

section Built

variable {call : CurrentStateCall} {result : CurrentStateBuildResult}
  {dimension : String}

theorem settled_of_build (built : buildCurrentUnifiedState call = .ok result) :
    call.applicabilitySet.Settled := by
  have acceptable := exists_buildCurrentUnifiedState_iff.mp ⟨result, built⟩
  refine ⟨acceptable.bound.decisions, fun decision listed => ?_⟩
  rcases acceptable.resolvable decision ((mem_sortedBy _ _ _).mpr listed)
    with unresolved | ⟨candidate, promotes, -⟩
  · exact List.mem_cons_of_mem _ unresolved
  · rw [CurrentStateCall.promotedBy] at promotes
    split_ifs at promotes with applicable
    rw [applicable]
    exact List.mem_cons_self

/-- The unknowns of a built state are the dimensions of its unknown decisions
and the facts that they miss. -/
theorem mem_unknowns_of_build (built : buildCurrentUnifiedState call = .ok result) :
    dimension ∈ result.state.unknowns ↔
      call.applicabilitySet.LeavesUnknown dimension ∨
        call.applicabilitySet.MissesFact dimension := by
  obtain ⟨_, contributions, state, _, contributed, stateBuilt, _, rfl⟩ :=
    buildCurrentUnifiedState_eq_ok.mp built
  obtain ⟨_, _, _, rfl⟩ := buildUnifiedState_eq_ok.mp stateBuilt
  have unknown : ∀ decision, .unknown decision ∈ contributions ↔
      decision ∈ call.applicabilitySet.decisions ∧ decision.applicabilityState = "UNKNOWN" := by
    intro decision
    rw [mem_mapM_iff contributed]
    simp only [CurrentStateCall.contribute_eq_ok, CurrentStateCall.decisions, mem_sortedBy]
    grind
  have listed : dimension ∈ Contribution.unknowns contributions ↔
      ∃ decision, .unknown decision ∈ contributions ∧
        dimension ∈ decision.dimension :: decision.unknowns := by
    rw [Contribution.unknowns, List.mem_flatMap]
    constructor
    · rintro ⟨contribution, present, found⟩
      cases contribution with
      | unknown decision => exact ⟨decision, present, found⟩
      | item candidate item => cases found
      | exclusion excluded => cases found
    · rintro ⟨decision, present, found⟩
      exact ⟨_, present, found⟩
  change dimension ∈ Community.History.sortedSet
    (Community.History.sortedSet (Contribution.unknowns contributions)) ↔ _
  rw [mem_sortedSet, mem_sortedSet, listed, ApplicabilitySet.LeavesUnknown,
    ApplicabilitySet.MissesFact, ← exists_or]
  apply exists_congr
  intro decision
  rw [unknown, List.mem_cons]
  grind

/-- A built state has an item in the dimensions that apply. -/
theorem mem_items_of_build (built : buildCurrentUnifiedState call = .ok result) :
    dimension ∈ result.state.items.map UnifiedIntelligenceItem.dimension ↔
      call.applicabilitySet.Applies dimension := by
  have acceptable := exists_buildCurrentUnifiedState_iff.mp ⟨result, built⟩
  rw [List.mem_map]
  constructor
  · rintro ⟨item, listed, rfl⟩
    obtain ⟨candidate, promoted, made⟩ := exists_candidate_of_build built listed
    obtain ⟨_, _, _, rfl⟩ := item_of_materialize made
    exact ((CurrentStateCall.mem_promoted_iff acceptable.bound).mp promoted).2
  · rintro ⟨decision, listed, rfl, applicable⟩
    have sorted : decision ∈ call.decisions := (mem_sortedBy _ _ _).mpr listed
    rcases acceptable.resolvable decision sorted with unresolved |
      ⟨candidate, promotes, -⟩
    · rw [applicable] at unresolved
      exact absurd unresolved (by decide)
    · obtain ⟨item, present, made⟩ := exists_item_of_build built
        (List.mem_filterMap.mpr ⟨decision, sorted, promotes⟩)
      obtain ⟨_, _, _, rfl⟩ := item_of_materialize made
      rw [CurrentStateCall.promotedBy, if_pos applicable, theOnly_eq_some_iff,
        CurrentStateCall.matching_eq_singleton_iff acceptable.bound]
        at promotes
      exact ⟨_, present, promotes.2⟩

/-- What is known of an item of a built state. -/
theorem item_of_build (built : buildCurrentUnifiedState call = .ok result)
    {item : UnifiedIntelligenceItem} (listed : item ∈ result.state.items) :
    item.freshnessState ≠ "STALE" ∧
      hash (.obj item.payload) = .ok item.itemFingerprint ∧
        ∃ candidate ∈ call.candidates, item.value = candidate.value := by
  obtain ⟨bound, -⟩ := buildCurrentUnifiedState_eq_ok.mp built
  obtain ⟨candidate, promoted, made⟩ := exists_candidate_of_build built listed
  have hashed := hashed_of_materialize made
  obtain ⟨acceptable, _, _, rfl⟩ := item_of_materialize made
  exact ⟨acceptable.current, hashed, candidate,
    ((CurrentStateCall.mem_promoted_iff bound).mp promoted).1, rfl⟩

end Built

end SanTanHeights.Seller
