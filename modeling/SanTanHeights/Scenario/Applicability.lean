import SanTanHeights.Scenario.Baseline
import SanTanHeights.Seller.Binding

/-!
# Applicability and knowledge

A definite answer about a pattern, or about a rule on a property, stands when
more becomes known; and no answer depends on the order in which the
requirements of a rule were given.
-/

namespace SanTanHeights.Scenario

open Foundation Foundation.Sorting Foundation.Outcome Shared
open Community.History (sortedSet sortedSet_congr validateFp)
open Community.Patterns (GovernedPatternCandidate validateCandidateReplay)

/-- Everything that is known stays known, with its value. -/
def Extends {α : Type*} (known more : List (String × α)) : Prop :=
  ∀ key value, known.lookup key = some value → more.lookup key = some value

theorem Extends.isNone {α : Type*} {known more : List (String × α)} {key : String}
    (extended : Extends known more) (missing : (more.lookup key).isNone = true) :
    (known.lookup key).isNone = true := by
  cases found : known.lookup key with
  | none => rfl
  | some value => simp [extended key value found] at missing

variable {registry : BaselineRegistry}

/-! ## Patterns -/

section Patterns

variable {F : Type} [PyFloat F]
variable {facts moreFacts assumptions moreAssumptions known more :
  List (String × PyValue F)}

omit [PyFloat F] in
theorem missingKeys_of_extends {keys : List String} (extended : Extends known more)
    (complete : missingKeys known keys = []) :
    missingKeys more keys = [] := by
  unfold missingKeys at complete ⊢
  rw [List.filter_eq_nil_iff] at complete ⊢
  exact fun key listed missing =>
    complete key listed (extended.isNone missing)

/-- A loop that came to its end comes to the same end when more is known. -/
theorem compareEach_of_extends {expected : List (String × PyValue F)}
    (extended : Extends known more) (finished : (compareEach known expected).missing = none) :
    compareEach more expected = compareEach known expected := by
  induction expected with
  | nil => rfl
  | cons entry rest ih =>
      obtain ⟨key, value⟩ := entry
      cases found : known.lookup key with
      | none => simp [compareEach, found] at finished
      | some present =>
          have foundAlso := extended key present found
          have finishedLater : (compareEach known rest).missing = none := by
            simp only [compareEach, found] at finished
            split at finished <;> exact finished
          simp only [compareEach, found, foundAlso, ih finishedLater]

/-- What has to be known for a definite answer. -/
structure PatternApplicabilityRule.Decided (rule : PatternApplicabilityRule F)
    (facts assumptions : List (String × PyValue F)) : Prop where
  factKeys : missingKeys facts rule.requiredFactKeys = []
  assumptionKeys : missingKeys assumptions rule.requiredAssumptionKeys = []
  factValues : (compareEach facts rule.factEquals).missing = none
  assumptionValues : (compareEach assumptions rule.assumptionEquals).missing = none

theorem PatternApplicabilityRule.decided_of_assess {rule : PatternApplicabilityRule F}
    (definite : (rule.assess facts assumptions).state ≠ .unknown) :
    rule.Decided facts assumptions := by
  unfold assess at definite
  by_cases incomplete :
      missingKeys facts rule.requiredFactKeys ≠ [] ∨
        missingKeys assumptions rule.requiredAssumptionKeys ≠ []
  · rw [if_pos incomplete] at definite
    exact absurd rfl definite
  · obtain ⟨knownFacts, knownAssumptions⟩ := not_or.mp incomplete
    rw [if_neg incomplete] at definite
    cases factStop : (compareEach facts rule.factEquals).missing with
    | some key => simp [factStop] at definite
    | none =>
        cases assumptionStop :
            (compareEach assumptions rule.assumptionEquals).missing with
        | some key => simp [factStop, assumptionStop] at definite
        | none =>
            exact ⟨not_not.mp knownFacts, not_not.mp knownAssumptions, factStop, assumptionStop⟩

/-- The assessment of what is decided is the same when more is known. -/
theorem PatternApplicabilityRule.Decided.assess_eq {rule : PatternApplicabilityRule F}
    (decided : rule.Decided facts assumptions) (moreKnown : Extends facts moreFacts)
    (moreAssumed : Extends assumptions moreAssumptions) :
    rule.assess moreFacts moreAssumptions = rule.assess facts assumptions := by
  simp only [assess, decided.factKeys, decided.assumptionKeys,
    missingKeys_of_extends moreKnown decided.factKeys,
    missingKeys_of_extends moreAssumed decided.assumptionKeys,
    compareEach_of_extends moreKnown decided.factValues,
    compareEach_of_extends moreAssumed decided.assumptionValues]

variable {rule : Option (PatternApplicabilityRule F)}
  {pattern : GovernedPatternCandidate F}

theorem assessment_of_extends {domain : String} (moreKnown : Extends facts moreFacts)
    (moreAssumed : Extends assumptions moreAssumptions)
    (definite : (assessment domain rule facts assumptions).state ≠ .unknown) :
    assessment domain rule moreFacts moreAssumptions =
      assessment domain rule facts assumptions := by
  cases rule with
  | none => rfl
  | some rule =>
      simp only [assessment] at definite ⊢
      split_ifs at definite ⊢ with otherDomain
      · rfl
      · exact (PatternApplicabilityRule.decided_of_assess definite).assess_eq moreKnown moreAssumed

/-- The patterns that are assessed at all. -/
structure Assessable (registry : BaselineRegistry)
    (pattern : GovernedPatternCandidate F) : Prop where
  promoted : pattern.state = .promoted ∧ pattern.promotionState = .promoted
  replays : validateCandidateReplay pattern = .ok true
  sourced : Sha256.isHex64 pattern.sourceLedgerFingerprint = true

theorem assessPatternApplicability_eq_ok {answer : PatternApplicability} :
    assessPatternApplicability registry pattern rule facts assumptions =
        .ok answer ↔
      Assessable registry pattern ∧
        (assessment pattern.domain rule facts assumptions).state.code ∈
          registry.applicabilityStates ∧
        ∃ fingerprint,
          (PatternApplicability.payload (F := F) (draftApplicability pattern
            (assessment pattern.domain rule facts assumptions))).sha256 = .ok fingerprint ∧
          { draftApplicability pattern
              (assessment pattern.domain rule facts assumptions) with
            applicabilityFingerprint := fingerprint } = answer := by
  simp only [assessPatternApplicability, validateFp, bind_eq_ok,
    require_eq_ok, exists_const, pure_eq_ok]
  constructor
  · rintro ⟨promoted, _, replays, rfl, sourced, governed, made⟩
    exact ⟨⟨promoted, replays, sourced⟩, governed, made⟩
  · rintro ⟨assessable, governed, made⟩
    exact ⟨assessable.promoted, true, assessable.replays, rfl, assessable.sourced, governed, made⟩

theorem PatternState.code_injective : Function.Injective PatternState.code := by
  intro left right equal
  cases left <;> cases right <;> first | rfl | (revert equal; decide)

omit [PyFloat F] in
/-- Everything in an assessed pattern is text. -/
theorem PatternApplicability.writable_payload [PyFloat F]
    (applicability : PatternApplicability) :
    (PatternApplicability.payload (F := F) applicability).Writable := by
  simp [payload]

/-- A definite answer stands when more is known. -/
theorem assessPatternApplicability_of_extends {answer : PatternApplicability}
    (moreKnown : Extends facts moreFacts) (moreAssumed : Extends assumptions moreAssumptions)
    (assessed : assessPatternApplicability registry pattern rule facts assumptions = .ok answer)
    (definite : answer.state ≠ "UNKNOWN") :
    assessPatternApplicability registry pattern rule moreFacts moreAssumptions = .ok answer := by
  obtain ⟨-, -, fingerprint, -, rfl⟩ := assessPatternApplicability_eq_ok.mp assessed
  have known : (assessment pattern.domain rule facts assumptions).state ≠
      .unknown := fun unknown => definite (congrArg PatternState.code unknown)
  rw [← assessed]
  simp only [assessPatternApplicability, assessment_of_extends moreKnown moreAssumed known]

/-- What is unknown was unknown when less was known. -/
theorem exists_unknown_of_extends {later : PatternApplicability}
    (moreKnown : Extends facts moreFacts) (moreAssumed : Extends assumptions moreAssumptions)
    (assessed : assessPatternApplicability registry pattern rule moreFacts
      moreAssumptions = .ok later)
    (unknown : later.state = "UNKNOWN") :
    ∃ answer, assessPatternApplicability registry pattern rule facts
      assumptions = .ok answer ∧ answer.state = "UNKNOWN" := by
  obtain ⟨assessable, governed, fingerprint, -, rfl⟩ :=
    assessPatternApplicability_eq_ok.mp assessed
  have laterState : (assessment pattern.domain rule moreFacts
      moreAssumptions).state = .unknown :=
    PatternState.code_injective unknown
  have state : (assessment pattern.domain rule facts assumptions).state =
      .unknown := by
    by_contra definite
    rw [assessment_of_extends moreKnown moreAssumed definite] at laterState
    exact definite laterState
  rw [laterState] at governed
  obtain ⟨firstFingerprint, hashed⟩ := PyValue.exists_sha256_iff.mpr
    (PatternApplicability.writable_payload (F := F) (draftApplicability pattern
      (assessment pattern.domain rule facts assumptions)))
  exact ⟨_, assessPatternApplicability_eq_ok.mpr
    ⟨assessable, by rw [state]; exact governed, firstFingerprint, hashed, rfl⟩,
    congrArg PatternState.code state⟩

/-! ### The order of the requirements -/

omit [PyFloat F] in
/-- The same requirements, given in any order. -/
structure RuleCall.Reordered (call other : RuleCall F) : Prop where
  ruleId : call.ruleId = other.ruleId
  patternDomain : call.patternDomain = other.patternDomain
  factKeys : call.requiredFactKeys.Perm other.requiredFactKeys
  assumptionKeys : call.requiredAssumptionKeys.Perm other.requiredAssumptionKeys
  factEquals : call.factEquals.Perm other.factEquals
  assumptionEquals : call.assumptionEquals.Perm other.assumptionEquals

theorem strippedSet_congr {values others : List String} (permuted : values.Perm others) :
    strippedSet values = strippedSet others := by
  refine sortedSet_congr fun text => ?_
  exact ((permuted.filter _).map _).mem_iff

/-- Entries of a dictionary are sorted by their keys. -/
theorem sortedBy_fst_congr {α : Type} {entries others : List (String × α)}
    (permuted : entries.Perm others) (distinct : (entries.map Prod.fst).Nodup) :
    sortedBy Prod.fst entries = sortedBy Prod.fst others :=
  sortedBy_eq_of_perm permuted fun _ listed _ otherListed =>
    List.inj_on_of_nodup_map distinct listed otherListed

/-- Rules do not tell in which order their requirements were given. -/
theorem RuleCall.Reordered.make_eq
    {call other : RuleCall F} (reordered : call.Reordered other) :
    makePatternApplicabilityRule call = makePatternApplicabilityRule other := by
  have drafts : call.draftRule = other.draftRule := by
    simp only [draftRule, reordered.ruleId, reordered.patternDomain,
      strippedSet_congr reordered.factKeys, strippedSet_congr reordered.assumptionKeys,
      sortedBy_fst_congr reordered.factEquals call.distinctFacts,
      sortedBy_fst_congr reordered.assumptionEquals call.distinctAssumptions]
  simp only [makePatternApplicabilityRule, drafts, reordered.ruleId, reordered.patternDomain]

end Patterns

/-! ## Rules on property facts -/

section PropertyFacts

open Seller Foundation.Json

variable {call : EvaluationCall} {more : List (String × Json)}

/-- The same call, when something else is known of the property. -/
def withFacts (call : EvaluationCall) (facts : List (String × Json)) : EvaluationCall :=
  { call with propertyFacts := facts }

theorem unknowns_of_extends (moreKnown : Extends call.propertyFacts more)
    (complete : call.unknowns = []) : (withFacts call more).unknowns = [] := by
  simp only [EvaluationCall.unknowns, List.map_eq_nil_iff, List.filter_eq_nil_iff] at complete ⊢
  exact fun fact required missing =>
    complete fact required (moreKnown.isNone missing)

/-- The differences are the same once every required fact is known. -/
theorem mismatches_of_extends (moreKnown : Extends call.propertyFacts more)
    (complete : call.unknowns = []) : (withFacts call more).mismatches = call.mismatches := by
  unfold EvaluationCall.mismatches
  congr 1
  refine List.filter_congr fun fact required => ?_
  simp only [EvaluationCall.unknowns, List.map_eq_nil_iff, List.filter_eq_nil_iff] at complete
  cases found : call.propertyFacts.lookup fact.1 with
  | none => exact absurd (by rw [found]; rfl) (complete fact required)
  | some value =>
      have foundAlso : (withFacts call more).propertyFacts.lookup fact.1 =
        some value := moreKnown fact.1 value found
      rw [foundAlso]

/-- A finding that says whether the rule applies. -/
theorem complete_of_definite
    (definite : call.finding.state = .applicable ∨ call.finding.state = .notApplicable) :
    call.blockedSystems = [] ∧ call.missing = [] ∧ call.unknowns = [] := by
  unfold EvaluationCall.finding at definite
  split_ifs at definite with blocked missing unknowns mismatches
  · simp at definite
  · simp at definite
  · simp at definite
  · exact ⟨not_not.mp blocked, not_not.mp missing, not_not.mp unknowns⟩
  · exact ⟨not_not.mp blocked, not_not.mp missing, not_not.mp unknowns⟩

theorem draftDecision_of_extends (moreKnown : Extends call.propertyFacts more)
    (definite : call.finding.state = .applicable ∨ call.finding.state = .notApplicable) :
    (withFacts call more).finding = call.finding ∧
      (withFacts call more).draftDecision = call.draftDecision := by
  obtain ⟨-, -, complete⟩ := complete_of_definite definite
  have unknowns := unknowns_of_extends moreKnown complete
  have mismatches := mismatches_of_extends moreKnown complete
  have finding : (withFacts call more).finding = call.finding := by
    unfold EvaluationCall.finding
    rw [unknowns, mismatches, complete]
    rfl
  refine ⟨finding, ?_⟩
  simp only [EvaluationCall.draftDecision, finding, unknowns, mismatches, complete]
  rfl

/-- What is unknown was unknown when less was known. -/
theorem unknown_of_extends (moreKnown : Extends call.propertyFacts more)
    (unknown : (withFacts call more).finding.state = .unknown) :
    call.finding.state = .unknown := by
  cases state : call.finding.state with
  | unknown => rfl
  | applicable =>
      rw [(draftDecision_of_extends moreKnown (.inl state)).1, state] at unknown
      cases unknown
  | notApplicable =>
      rw [(draftDecision_of_extends moreKnown (.inr state)).1, state] at unknown
      cases unknown
  | blocked =>
      have blocked : call.blockedSystems ≠ [] := by
        intro free
        simp only [EvaluationCall.finding, free, ne_eq, not_true_eq_false, if_false] at state
        split_ifs at state
      have blockedAlso : (withFacts call more).blockedSystems ≠ [] := blocked
      simp [EvaluationCall.finding, blockedAlso] at unknown

theorem ApplicabilityState.code_injective : Function.Injective ApplicabilityState.code := by
  intro left right equal
  cases left <;> cases right <;> first | rfl | (revert equal; decide)

/-- A definite decision stands when more is known. -/
theorem evaluateApplicability_of_extends
    {registry : ApplicabilityRegistry} {decision : ApplicabilityDecision}
    (moreKnown : Extends call.propertyFacts more)
    (evaluated : evaluateApplicability registry call = .ok decision)
    (definite : decision.applicabilityState = "APPLICABLE" ∨
      decision.applicabilityState = "NOT_APPLICABLE") :
    evaluateApplicability registry (withFacts call more) = .ok decision := by
  obtain ⟨⟨ready, governed⟩, fingerprint, hashed, rfl⟩ :=
    evaluateApplicability_eq_ok.mp evaluated
  have state : call.finding.state = .applicable ∨
      call.finding.state = .notApplicable :=
    definite.imp (fun code => ApplicabilityState.code_injective code)
      fun code => ApplicabilityState.code_injective code
  obtain ⟨finding, draft⟩ := draftDecision_of_extends moreKnown state
  refine evaluateApplicability_eq_ok.mpr ⟨⟨ready, ?_⟩, fingerprint, ?_, ?_⟩
  · rw [finding]
    exact governed
  · rw [draft]
    exact hashed
  · rw [draft]

theorem exists_unknown_decision_of_extends
    {registry : ApplicabilityRegistry} {later : ApplicabilityDecision}
    (moreKnown : Extends call.propertyFacts more)
    (evaluated : evaluateApplicability registry (withFacts call more) = .ok later)
    (unknown : later.applicabilityState = "UNKNOWN") :
    ∃ decision, evaluateApplicability registry call = .ok decision ∧
      decision.applicabilityState = "UNKNOWN" := by
  obtain ⟨⟨ready, governed, outcomes⟩, laterFingerprint, -, rfl⟩ :=
    evaluateApplicability_eq_ok.mp evaluated
  have laterState : (withFacts call more).finding.state = .unknown :=
    ApplicabilityState.code_injective unknown
  have state := unknown_of_extends moreKnown laterState
  have outcome : ∀ call : EvaluationCall, call.finding.state = .unknown →
      call.finding.outcome = "INSUFFICIENT_EVIDENCE" := by
    intro call
    unfold EvaluationCall.finding
    split_ifs <;> simp
  rw [laterState] at governed
  rw [outcome _ laterState] at outcomes
  obtain ⟨fingerprint, hashed⟩ := exists_hash_iff.mpr call.draftDecision.serializable_payload
  refine ⟨_, evaluateApplicability_eq_ok.mpr ⟨⟨ready, ?_, ?_⟩, fingerprint, hashed, rfl⟩,
    congrArg ApplicabilityState.code state⟩
  · rw [state]
    exact governed
  · rw [outcome call state]
    exact outcomes

/-! ### The order of the requirements -/

/-- The decision with some rule. -/
def withRule (call : EvaluationCall) (rule : ApplicabilityRule) : EvaluationCall :=
  { call with rule := rule }

/-- What a decision reads of a rule. -/
theorem draftDecision_of_perm {rule otherRule : ApplicabilityRule}
    (sameId : rule.ruleId = otherRule.ruleId)
    (sameDimension : rule.dimension = otherRule.dimension)
    (sameSystems : rule.requiredSystems = otherRule.requiredSystems)
    (sameFacts : rule.requiredPropertyFacts.Perm otherRule.requiredPropertyFacts) :
    (withRule call rule).finding = (withRule call otherRule).finding ∧
      (withRule call rule).draftDecision = (withRule call otherRule).draftDecision := by
  have blocked : (withRule call rule).blockedSystems =
      (withRule call otherRule).blockedSystems := by
    simp only [EvaluationCall.blockedSystems, withRule, sameSystems]
    rfl
  have missing : (withRule call rule).missing =
      (withRule call otherRule).missing := by
    simp only [EvaluationCall.missing, withRule, sameSystems]
    rfl
  have unknowns : (withRule call rule).unknowns.Perm
      (withRule call otherRule).unknowns := (sameFacts.filter _).map _
  have mismatches : (withRule call rule).mismatches.Perm
      (withRule call otherRule).mismatches := (sameFacts.filter _).map _
  have finding : (withRule call rule).finding =
      (withRule call otherRule).finding := by
    have noUnknowns : (withRule call rule).unknowns = [] ↔
        (withRule call otherRule).unknowns = [] :=
      ⟨fun empty => (empty ▸ unknowns).nil_eq.symm, fun empty => (empty ▸ unknowns).eq_nil⟩
    have noMismatches : (withRule call rule).mismatches = [] ↔
        (withRule call otherRule).mismatches = [] :=
      ⟨fun empty => (empty ▸ mismatches).nil_eq.symm, fun empty => (empty ▸ mismatches).eq_nil⟩
    simp only [EvaluationCall.finding, blocked, missing, ne_eq, noUnknowns, noMismatches]
  refine ⟨finding, ?_⟩
  have sources : ∀ rule : ApplicabilityRule,
      (withRule call rule).dependencyOf = call.dependencyOf := fun _ => rfl
  have sortedUnknowns : sortedBy id (withRule call rule).unknowns =
      sortedBy id (withRule call otherRule).unknowns :=
    sortedBy_eq_of_perm unknowns fun _ _ _ _ equal => equal
  have sortedMismatches : sortedBy id (withRule call rule).mismatches =
      sortedBy id (withRule call otherRule).mismatches :=
    sortedBy_eq_of_perm mismatches fun _ _ _ _ equal => equal
  simp only [EvaluationCall.draftDecision, finding, sources, sortedUnknowns, sortedMismatches]
  simp only [withRule, sameId, sameDimension, sameSystems]

/-- Rules with the same requirements, given in any order, decide alike. -/
theorem evaluateApplicability_of_perm
    {registry : ApplicabilityRegistry} {ruleId dimension : String}
    {systems otherSystems : List String} {facts otherFacts : List (String × Json)}
    {rule otherRule : ApplicabilityRule} (sameSystems : systems.Perm otherSystems)
    (sameFacts : facts.Perm otherFacts)
    (made : makeRule ruleId dimension systems facts = .ok rule)
    (otherMade : makeRule ruleId dimension otherSystems otherFacts = .ok otherRule) :
    evaluateApplicability registry (withRule call rule) =
      evaluateApplicability registry (withRule call otherRule) := by
  obtain ⟨-, made⟩ := require_bind_eq_ok.mp made
  obtain ⟨fingerprint, -, made⟩ := bind_eq_ok.mp made
  obtain ⟨-, otherMade⟩ := require_bind_eq_ok.mp otherMade
  obtain ⟨otherFingerprint, -, otherMade⟩ := bind_eq_ok.mp otherMade
  cases made
  cases otherMade
  have systemSets := sortedSet_congr fun system =>
    sameSystems.mem_iff (a := system)
  obtain ⟨finding, draft⟩ := @draftDecision_of_perm call
    ⟨ruleId, dimension, sortedSet systems, sortedBy Prod.fst facts, fingerprint⟩
    ⟨ruleId, dimension, sortedSet otherSystems, sortedBy Prod.fst otherFacts,
      otherFingerprint⟩ rfl rfl systemSets
    (((sortedBy_perm _ _).trans sameFacts).trans (sortedBy_perm _ _).symm)
  simp only [evaluateApplicability, finding, draft]
  rfl

end PropertyFacts

/-! ## The law -/

/-- Applicability is monotone in knowledge.  Whatever becomes known in
addition, a definite answer about a pattern or about a rule on a property
stands, and what is then unknown was unknown before.  In which order the
requirements of a rule were given makes no difference. -/
theorem applicability_monotone {F : Type} [PyFloat F] :
    (∀ (registry : BaselineRegistry) (pattern : GovernedPatternCandidate F)
      (rule : Option (PatternApplicabilityRule F))
      (facts moreFacts assumptions moreAssumptions :
        List (String × PyValue F)),
      Extends facts moreFacts → Extends assumptions moreAssumptions →
        (∀ answer, assessPatternApplicability registry pattern rule facts
            assumptions = .ok answer →
          answer.state = "APPLICABLE" ∨ answer.state = "NOT_APPLICABLE" →
            assessPatternApplicability registry pattern rule moreFacts
              moreAssumptions = .ok answer) ∧
        ∀ later, assessPatternApplicability registry pattern rule moreFacts
            moreAssumptions = .ok later →
          later.state = "UNKNOWN" →
            ∃ answer, assessPatternApplicability registry pattern rule facts
              assumptions = .ok answer ∧ answer.state = "UNKNOWN") ∧
    (∀ (registry : Seller.ApplicabilityRegistry) (call : Seller.EvaluationCall)
      (more : List (String × Json)),
      Extends call.propertyFacts more →
        (∀ decision, Seller.evaluateApplicability registry call = .ok decision →
          decision.applicabilityState = "APPLICABLE" ∨
              decision.applicabilityState = "NOT_APPLICABLE" →
            Seller.evaluateApplicability registry (withFacts call more) =
              .ok decision) ∧
        ∀ later, Seller.evaluateApplicability registry (withFacts call more) =
            .ok later →
          later.applicabilityState = "UNKNOWN" →
            ∃ decision, Seller.evaluateApplicability registry call =
              .ok decision ∧ decision.applicabilityState = "UNKNOWN") ∧
    (∀ call other : RuleCall F, call.Reordered other →
      makePatternApplicabilityRule call = makePatternApplicabilityRule other) ∧
    (∀ (registry : Seller.ApplicabilityRegistry) (call : Seller.EvaluationCall)
      (ruleId dimension : String) (systems otherSystems : List String)
      (facts otherFacts : List (String × Json))
      (rule otherRule : Seller.ApplicabilityRule),
      systems.Perm otherSystems → facts.Perm otherFacts →
        Seller.makeRule ruleId dimension systems facts = .ok rule →
          Seller.makeRule ruleId dimension otherSystems otherFacts =
              .ok otherRule →
            Seller.evaluateApplicability registry (withRule call rule) =
              Seller.evaluateApplicability registry
                (withRule call otherRule)) := by
  refine ⟨?_, ?_, fun call other reordered => reordered.make_eq, ?_⟩
  · intro registry pattern rule facts moreFacts assumptions moreAssumptions
      moreKnown moreAssumed
    refine ⟨fun answer assessed definite => ?_, fun later assessed unknown =>
        exists_unknown_of_extends moreKnown moreAssumed assessed unknown⟩
    refine assessPatternApplicability_of_extends moreKnown moreAssumed
      assessed ?_
    rcases definite with state | state
    · rw [state]
      decide
    · rw [state]
      decide
  · intro registry call more moreKnown
    exact ⟨fun decision evaluated definite =>
        evaluateApplicability_of_extends moreKnown evaluated definite,
      fun later evaluated unknown =>
        exists_unknown_decision_of_extends moreKnown evaluated unknown⟩
  · intro registry call ruleId dimension systems otherSystems facts otherFacts
      rule otherRule sameSystems sameFacts made otherMade
    exact evaluateApplicability_of_perm sameSystems sameFacts made otherMade

end SanTanHeights.Scenario
