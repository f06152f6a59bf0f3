import SanTanHeights.Seller.Brief

/-!
# From the change ledger to the brief

A ledger that is built from two states goes through to a brief just where no
dimension of the prior state has left the current one.
-/

namespace SanTanHeights.Seller

open Foundation Foundation.Sorting Foundation.Outcome Shared
open Foundation.Keyed
open Community.History (mem_sortedSet nodup_sortedSet sortedSet sortedSet_congr)

/-- What names a framework and a brief. -/
structure BriefNames where
  frameworkId : String
  frameworkPolicy : String
  briefId : String
  briefPolicy : String

/-- None of the names is blank. -/
structure BriefNames.Given (names : BriefNames) : Prop where
  framework : Text.isBlank names.frameworkId = false ∧ Text.isBlank names.frameworkPolicy = false
  brief : Text.isBlank names.briefId = false ∧ Text.isBlank names.briefPolicy = false

/-- The call that assesses the current state of a ledger. -/
def LedgerCall.usabilityCall (call : LedgerCall) (names : BriefNames)
    (ledger : SellerIntelligenceChangeLedger) : UsabilityCall where
  frameworkId := names.frameworkId
  currentState := call.currentState
  changeLedger := ledger
  policyVersion := names.frameworkPolicy

/-- The call that assembles the brief of an assessed ledger. -/
def BriefNames.briefCall (names : BriefNames) (result : CurrentStateBuildResult)
    (ledger : SellerIntelligenceChangeLedger)
    (framework : IntelligenceUsabilityFramework) : BriefCall where
  briefId := names.briefId
  currentResult := result
  changeLedger := ledger
  usability := framework
  policyVersion := names.briefPolicy

/-- Sorted sets are equal just where their members are the same. -/
theorem sortedSet_eq_iff {values others : List String} :
    sortedSet values = sortedSet others ↔ ∀ text, text ∈ values ↔ text ∈ others := by
  constructor
  · intro equal text
    rw [← mem_sortedSet, equal, mem_sortedSet]
  · exact sortedSet_congr

section Built

variable {fromisoformat : FromIsoformat} {registry : UsabilityRegistry}
  {call : LedgerCall} {ledger : SellerIntelligenceChangeLedger}
  {names : BriefNames}

/-- The ledger covers the current state and nothing else just where the prior
state has no further dimension. -/
theorem covered_iff (built : buildChangeLedger fromisoformat call = .ok ledger) :
    sortedSet call.currentState.dimensions =
        sortedSet (ledger.deltas.map IntelligenceDelta.dimension) ↔
      ∀ dimension ∈ call.priorState.dimensions, dimension ∈ call.currentState.dimensions := by
  rw [deltas_of_buildChangeLedger built, sortedSet_eq_iff]
  constructor
  · intro same dimension prior
    exact (same dimension).mpr (LedgerCall.mem_dimensions.mpr (.inl prior))
  · intro kept dimension
    rw [LedgerCall.mem_dimensions]
    constructor
    · exact .inr
    · rintro (prior | current)
      · exact kept dimension prior
      · exact current

/-- A ledger can be assessed just where the prior state has no dimension that
the current one lacks. -/
theorem usabilityCall_acceptable_iff
    (built : buildChangeLedger fromisoformat call = .ok ledger) (given : names.Given) :
    (call.usabilityCall names ledger).Acceptable ↔
      ∀ dimension ∈ call.priorState.dimensions, dimension ∈ call.currentState.dimensions := by
  rw [← covered_iff built]
  constructor
  · exact UsabilityCall.Acceptable.covered
  · intro covered
    have deltas := deltas_of_buildChangeLedger built
    obtain ⟨acceptable, _, _, _, _, rfl⟩ := buildChangeLedger_eq_ok.mp built
    exact
      { identified := given.framework
        currentState := rfl
        property := rfl
        community := rfl
        items := acceptable.currentDistinct
        deltas := by
          rw [LedgerCall.usabilityCall, deltas]
          exact nodup_sortedSet _
        covered := covered }

/-- A framework that was assessed can be put into a brief. -/
theorem briefCall_acceptable {framework : IntelligenceUsabilityFramework}
    {result : CurrentStateBuildResult} (given : names.Given)
    (same : result.state = call.currentState)
    (assessed : assessIntelligenceUsability registry
      (call.usabilityCall names ledger) = .ok framework) :
    (names.briefCall result ledger framework).Acceptable := by
  have dimensions := mem_assessments_dimension assessed
  obtain ⟨acceptable, _, _, _, _, rfl⟩ := assessIntelligenceUsability_eq_ok.mp assessed
  obtain ⟨state, setFingerprint, bundleFingerprint, excluded, unknown, resultFingerprint⟩ := result
  obtain rfl : state = call.currentState := same
  exact
    { identified := given.brief
      changed := acceptable.currentState
      assessed := rfl
      linked := rfl
      property := ⟨acceptable.property, rfl⟩
      community := ⟨acceptable.community, rfl⟩
      covered := ⟨acceptable.covered,
        sortedSet_congr fun dimension => (dimensions dimension).symm⟩ }

end Built

/-- Every change of a ledger is shown in a brief. -/
def Shows (brief : GovernedSellerDecisionBrief)
    (ledger : SellerIntelligenceChangeLedger) : Prop :=
  ∀ delta ∈ ledger.deltas, ∃ row ∈ brief.dimensions,
    row.dimension = delta.dimension ∧ row.changeState = delta.changeState ∧
      row.deltaFingerprint = delta.deltaFingerprint

/-- A brief shows every change of the ledger it was assembled from. -/
theorem shows_of_assembled {call : BriefCall} {brief : GovernedSellerDecisionBrief}
    (distinct : (call.changeLedger.deltas.map IntelligenceDelta.dimension).Nodup)
    (assembled : assembleSellerDecisionBrief call = .ok brief) :
    Shows brief call.changeLedger := by
  intro delta listed
  obtain ⟨acceptable, rows, made, fingerprint, _, rfl⟩ :=
    assembleSellerDecisionBrief_eq_ok.mp assembled
  have present : delta.dimension ∈ sortedSet call.state.dimensions := by
    rw [acceptable.covered.1, mem_sortedSet]
    exact List.mem_map_of_mem listed
  obtain ⟨row, shown, one⟩ := exists_ok_of_mapM made present
  obtain ⟨other, assessment, fingerprint, found, _, _, rfl⟩ := BriefCall.makeRow_eq_ok.mp one
  have only := (latest_eq_some_iff distinct).mpr ⟨listed, rfl⟩
  obtain rfl := Option.some.inj (only.symm.trans found)
  exact ⟨_, (mem_sortedBy _ _ _).mpr shown, rfl, rfl, rfl⟩

/-- A ledger reaches a brief that shows all its changes and every dimension
of either state just where the current state has every dimension of the prior
one. -/
theorem pipeline_closed_iff {fromisoformat : FromIsoformat} (registry : UsabilityRegistry)
    {call : LedgerCall} {ledger : SellerIntelligenceChangeLedger}
    {names : BriefNames} {result : CurrentStateBuildResult}
    (built : buildChangeLedger fromisoformat call = .ok ledger) (given : names.Given)
    (same : result.state = call.currentState) :
    (∃ framework brief, assessIntelligenceUsability registry
          (call.usabilityCall names ledger) = .ok framework ∧
        assembleSellerDecisionBrief
            (names.briefCall result ledger framework) = .ok brief ∧
          Shows brief ledger ∧ ∀ dimension ∈ call.dimensions, dimension ∈
                  brief.dimensions.map SellerBriefDimension.dimension ∨
                dimension ∈ brief.exclusions) ↔
      ∀ dimension ∈ call.priorState.dimensions,
        dimension ∈ call.currentState.dimensions := by
  rw [← usabilityCall_acceptable_iff built given]
  constructor
  · rintro ⟨framework, brief, assessed, _⟩
    exact (assessIntelligenceUsability_eq_ok.mp assessed).1
  · intro acceptable
    obtain ⟨framework, assessed⟩ :=
      exists_assessIntelligenceUsability_iff.mpr acceptable
    have written : ∀ item ∈ result.state.items, Serializable item.value := by
      rw [same]
      exact serializable_of_buildChangeLedger built
    obtain ⟨brief, assembled⟩ := exists_assembleSellerDecisionBrief
      (briefCall_acceptable given same assessed) written
    refine ⟨framework, brief, assessed, assembled,
      shows_of_assembled acceptable.deltas assembled, ?_⟩
    intro dimension compared
    left
    rw [mem_brief_dimension assembled]
    change dimension ∈ result.state.dimensions
    rw [same]
    rcases LedgerCall.mem_dimensions.mp compared with prior | current
    · exact (usabilityCall_acceptable_iff built given).mp acceptable
        dimension prior
    · exact current

/-! ## A dimension that disappears -/

def sampleNames : BriefNames where
  frameworkId := "F1"
  frameworkPolicy := "F-v1"
  briefId := "G1"
  briefPolicy := "G-v1"

theorem sampleNames_given : sampleNames.Given where
  framework := by decide
  brief := by decide

/-- What is known in a dimension. -/
def sampleItem (dimension : String) : UnifiedIntelligenceItem where
  itemId := "I-" ++ dimension
  dimension := dimension
  value := .str "DESCRIBED"
  sourceClass := "LIMITATION"
  freshnessState := "CURRENT"
  conflictState := "NO_CONFLICT"
  changeState := "UNCHANGED"
  significanceClass := "INFORMATIONAL"
  evidenceRefs := []
  limitation := none
  itemFingerprint := ""

/-- A state of a property at a time. -/
def sampleState (intelligenceStateId temporalBoundary : String)
    (items : List UnifiedIntelligenceItem) (unknowns : List String) :
    UnifiedSellerIntelligenceState where
  intelligenceStateId := intelligenceStateId
  propertyId := "P1"
  communityId := "SAN-TAN-HEIGHTS"
  temporalBoundary := temporalBoundary
  priorStateFingerprint := none
  items := items
  unknowns := unknowns
  limitations := []
  staleDependencies := []
  policyVersion := "D-v1"
  schemaVersion := "1.0.0"
  stateFingerprint := ""

/-- A sample state, built. -/
def builtState (intelligenceStateId temporalBoundary : String)
    (items : List UnifiedIntelligenceItem) (unknowns : List String)
    (fingerprint : String) : UnifiedSellerIntelligenceState :=
  { sampleState intelligenceStateId temporalBoundary items unknowns with
    stateFingerprint := fingerprint }

def sampleRule (dimension changeState : String) : SignificanceRule where
  ruleId := "R0"
  dimension := dimension
  changeState := changeState
  significanceClass := "NOTICEABLE_CHANGE"
  reason := "Governed rule."
  ruleFingerprint := ""

theorem exists_sampleItem :
    ∃ item, makeIntelligenceItem intelligenceRegistry
        (sampleItem "buyer_depth") = .ok item ∧
      item.dimension = "buyer_depth" ∧ item.value = .str "DESCRIBED" := by
  obtain ⟨fingerprint, made⟩ := @exists_makeIntelligenceItem
    intelligenceRegistry (sampleItem "buyer_depth")
    { identified := by decide
      sourceClass := by decide
      freshnessState := by decide
      conflictState := by decide
      changeState := by decide
      significanceClass := by decide
      evidenced := by decide
      notInferred := by simp [sampleItem]
      conflictReviewed := by decide
      staleExplicit := by decide }
    (serializable_str _)
  exact ⟨_, made, rfl, rfl⟩

/-- A sample state with at most one item is built as it is given. -/
theorem exists_sampleState {intelligenceStateId temporalBoundary : String}
    {items : List UnifiedIntelligenceItem} {unknowns : List String}
    (identified : Text.isBlank intelligenceStateId = false ∧ Text.isBlank temporalBoundary = false)
    (few : items.length ≤ 1 ∧ unknowns.length ≤ 1)
    (written : ∀ item ∈ items, Serializable item.value) :
    ∃ fingerprint,
      buildUnifiedState (sampleState intelligenceStateId temporalBoundary items unknowns) =
        .ok (builtState intelligenceStateId temporalBoundary items unknowns fingerprint) := by
  have others : Text.isBlank "P1" = false ∧
      Text.isBlank "SAN-TAN-HEIGHTS" = false ∧
        Text.isBlank "D-v1" = false ∧ Text.isBlank "1.0.0" = false := by
    decide
  obtain ⟨fingerprint, built⟩ := @exists_buildUnifiedState
    (sampleState intelligenceStateId temporalBoundary items unknowns)
    { identified := by simpa [sampleState] using
        ⟨identified.1, others.1, others.2.1, identified.2, others.2.2⟩
      prior := by simp [sampleState]
      distinct := by
        rcases items with _ | ⟨item, _ | ⟨other, items⟩⟩
        · exact List.nodup_nil
        · exact List.nodup_singleton _
        · simp at few }
    written
  have tidied : (sampleState intelligenceStateId temporalBoundary items
      unknowns).tidied = sampleState intelligenceStateId temporalBoundary items unknowns := by
    rcases items with _ | ⟨item, _ | ⟨other, items⟩⟩ <;>
      rcases unknowns with _ | ⟨text, _ | ⟨next, unknowns⟩⟩ <;> first | rfl | simp at few
  rw [tidied] at built
  exact ⟨fingerprint, built⟩

/-- The ledger between two sample states of a dimension. -/
def sampleLedgerCall (prior current : UnifiedSellerIntelligenceState)
    (rule : SignificanceRule) : LedgerCall where
  ledgerId := "L1"
  priorState := prior
  currentState := current
  significanceRules := [rule]
  policyVersion := "E-v1"

/-- Sample states of the two days give a ledger when the rule is about their
one dimension. -/
theorem exists_sampleLedger {priorItems : List UnifiedIntelligenceItem}
    {priorUnknowns currentUnknowns : List String}
    {priorFingerprint currentFingerprint : String} {rule : SignificanceRule} {call : LedgerCall}
    (between : call = sampleLedgerCall
      (builtState "P" "2026-09-18T10:00:00-07:00" priorItems priorUnknowns priorFingerprint)
      (builtState "C" "2026-09-19T10:00:00-07:00" [] currentUnknowns currentFingerprint) rule)
    (few : priorItems.length ≤ 1) (written : ∀ item ∈ priorItems, Serializable item.value)
    (ruled : ∀ dimension ∈ priorItems.map UnifiedIntelligenceItem.dimension ++
          (priorUnknowns ++ currentUnknowns),
      (dimension, (call.changeOf dimension).code) = (rule.dimension, rule.changeState)) :
    ∃ ledger, buildChangeLedger sampleFromisoformat call = .ok ledger := by
  subst between
  refine exists_buildChangeLedger
    { property := rfl
      community := rfl
      ascending := ⟨.aware 1789750800, .aware 1789837200, rfl, rfl, rfl⟩
      identified := (by decide : Text.isBlank "L1" = false ∧ Text.isBlank "E-v1" = false)
      priorDistinct := ?_
      currentDistinct := List.nodup_nil
      rules := List.nodup_singleton _ } ?_ written (by rintro item ⟨⟩)
  · rcases priorItems with _ | ⟨item, _ | ⟨other, items⟩⟩
    · exact List.nodup_nil
    · exact List.nodup_singleton _
    · simp at few
  · intro dimension compared
    have listed : dimension ∈
        priorItems.map UnifiedIntelligenceItem.dimension ++ (priorUnknowns ++ currentUnknowns) := by
      rw [LedgerCall.dimensions, mem_sortedSet] at compared
      simpa [UnifiedSellerIntelligenceState.dimensions, sampleLedgerCall,
        builtState, sampleState] using compared
    rw [LedgerCall.ruleOf, ruled dimension listed]
    apply exists_latest_iff.mpr
    exact List.mem_singleton_self _

/-- A dimension that stays unknown goes through. -/
theorem pipeline_closed_sample :
    ∃ prior current ledger result,
      buildUnifiedState (sampleState "P" "2026-09-18T10:00:00-07:00" []
        ["scarcity"]) = .ok prior ∧
      buildUnifiedState (sampleState "C" "2026-09-19T10:00:00-07:00" []
        ["scarcity"]) = .ok current ∧
      buildChangeLedger sampleFromisoformat
        (sampleLedgerCall prior current (sampleRule "scarcity" "UNKNOWN")) =
          .ok ledger ∧
      ∃ framework brief, assessIntelligenceUsability usabilityRegistry
            ((sampleLedgerCall prior current
              (sampleRule "scarcity" "UNKNOWN")).usabilityCall sampleNames
                ledger) = .ok framework ∧
          assembleSellerDecisionBrief
            (sampleNames.briefCall result ledger framework) = .ok brief := by
  obtain ⟨priorFingerprint, priorBuilt⟩ := @exists_sampleState "P"
    "2026-09-18T10:00:00-07:00" [] ["scarcity"] (by decide) (by decide)
    (by simp)
  obtain ⟨currentFingerprint, currentBuilt⟩ := @exists_sampleState "C"
    "2026-09-19T10:00:00-07:00" [] ["scarcity"] (by decide) (by decide)
    (by simp)
  obtain ⟨ledger, built⟩ := @exists_sampleLedger [] ["scarcity"] ["scarcity"]
    priorFingerprint currentFingerprint (sampleRule "scarcity" "UNKNOWN") _
    rfl (Nat.zero_le 1) (by rintro item ⟨⟩) (by
      intro dimension listed
      obtain rfl : dimension = "scarcity" := by simpa using listed
      rfl)
  let result : CurrentStateBuildResult :=
    ⟨builtState "C" "2026-09-19T10:00:00-07:00" [] ["scarcity"]
      currentFingerprint, "", "", [], ["scarcity"], ""⟩
  obtain ⟨framework, brief, assessed, assembled, _⟩ :=
    (@pipeline_closed_iff _ usabilityRegistry _ _ _ result built
      sampleNames_given rfl).mpr fun dimension present => present
  exact ⟨_, _, ledger, result, priorBuilt, currentBuilt, built, framework,
    brief, assessed, assembled⟩

/-- A dimension that no longer applies stops the ledger it is recorded in. -/
theorem pipeline_not_closed :
    ∃ item prior current ledger,
      makeIntelligenceItem intelligenceRegistry (sampleItem "buyer_depth") =
        .ok item ∧
      buildUnifiedState (sampleState "P" "2026-09-18T10:00:00-07:00" [item]
        []) = .ok prior ∧
      buildUnifiedState (sampleState "C" "2026-09-19T10:00:00-07:00" []
        []) = .ok current ∧
      buildChangeLedger sampleFromisoformat (sampleLedgerCall prior current
          (sampleRule "buyer_depth" "NO_LONGER_APPLICABLE")) = .ok ledger ∧
      ¬ ∃ framework, assessIntelligenceUsability usabilityRegistry
        ((sampleLedgerCall prior current
          (sampleRule "buyer_depth" "NO_LONGER_APPLICABLE")).usabilityCall
            sampleNames ledger) = .ok framework := by
  obtain ⟨item, made, about, value⟩ := exists_sampleItem
  have written : ∀ other ∈ [item], Serializable other.value := by
    intro other listed
    rw [List.mem_singleton.mp listed, value]
    exact serializable_str _
  obtain ⟨priorFingerprint, priorBuilt⟩ := @exists_sampleState "P"
    "2026-09-18T10:00:00-07:00" [item] [] (by decide) (by simp) written
  obtain ⟨currentFingerprint, currentBuilt⟩ := @exists_sampleState "C"
    "2026-09-19T10:00:00-07:00" [] [] (by decide) (by decide)
    (by rintro item ⟨⟩)
  obtain ⟨ledger, built⟩ := @exists_sampleLedger [item] [] []
    priorFingerprint currentFingerprint
    (sampleRule "buyer_depth" "NO_LONGER_APPLICABLE") _ rfl le_rfl written (by
      intro dimension listed
      obtain rfl : dimension = "buyer_depth" := by simpa [about] using listed
      have only : ([item].map UnifiedIntelligenceItem.dimension).Nodup :=
        List.nodup_singleton _
      have found : (builtState "P" "2026-09-18T10:00:00-07:00" [item] []
          priorFingerprint).itemOf "buyer_depth" = some item :=
        (latest_eq_some_iff only).mpr ⟨List.mem_singleton_self item, about⟩
      rw [LedgerCall.changeOf]
      change (_, (classifyDimension (UnifiedSellerIntelligenceState.itemOf
        (builtState _ _ _ _ _) _) _ _ _).code) = _
      rw [found]
      rfl)
  refine ⟨item, _, _, ledger, made, priorBuilt, currentBuilt, built, ?_⟩
  rw [exists_assessIntelligenceUsability_iff,
    usabilityCall_acceptable_iff built sampleNames_given]
  intro kept
  have lost := kept "buyer_depth"
    (UnifiedSellerIntelligenceState.mem_dimensions.mpr
      (.inl (List.mem_map.mpr ⟨item, List.mem_singleton_self item, about⟩)))
  exact absurd lost List.not_mem_nil

end SanTanHeights.Seller
