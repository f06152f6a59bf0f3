import SanTanHeights.Community.Patterns
import SanTanHeights.Scenario.Evidence

/-!
# The certified baseline of a scenario

A scenario contract is reconciled with the certified facts it is about, and
every promoted pattern is assessed against them with the rule of its domain.
The context that is assembled names what stays unknown.
-/

namespace SanTanHeights.Scenario

open Foundation Foundation.Sorting Foundation.Outcome Shared
open Community.History (sortedSet validateFp)
open Community.Patterns (GovernedPatternCandidate validateCandidateReplay)

variable {F : Type}

/-! ## Scenario contracts -/

structure ScenarioFact (F : Type) where
  key : String
  value : PyValue F
  sourceArtifactId : String
  sourceFingerprint : String
  factFingerprint : String

/-- `asdict(fact)`. -/
def ScenarioFact.asdict (fact : ScenarioFact F) : PyValue F :=
  .dict [("key", .str fact.key), ("value", fact.value),
      ("source_artifact_id", .str fact.sourceArtifactId),
      ("source_fingerprint", .str fact.sourceFingerprint),
      ("fact_fingerprint", .str fact.factFingerprint)]

structure ScenarioAssumption (F : Type) where
  key : String
  assumptionType : String
  value : PyValue F
  source : String
  limitation : Option String
  assumptionFingerprint : String

/-- `asdict(assumption)`. -/
def ScenarioAssumption.asdict (assumption : ScenarioAssumption F) : PyValue F :=
  .dict [("key", .str assumption.key), ("assumption_type", .str assumption.assumptionType),
      ("value", assumption.value), ("source", .str assumption.source),
      ("limitation", .ofOptional assumption.limitation),
      ("assumption_fingerprint", .str assumption.assumptionFingerprint)]

/-- A scenario contract; `build_scenario_contract` refuses two assumptions
under one key. -/
structure ScenarioContract (F : Type) where
  scenarioId : String
  contractVersion : Int
  communityId : String
  subjectId : String
  baselineSnapshotId : String
  baselineStatus : String
  baselineFingerprint : String
  facts : List (ScenarioFact F)
  assumptions : List (ScenarioAssumption F)
  state : String
  supersedesScenarioFingerprint : Option String
  policyVersion : String
  contractFingerprint : String
  distinctAssumptions : (assumptions.map ScenarioAssumption.key).Nodup

/-- What the fingerprint of a contract covers. -/
def ScenarioContract.payload (contract : ScenarioContract F) : PyValue F :=
  .dict [("scenario_id", .str contract.scenarioId),
      ("contract_version", .int contract.contractVersion),
      ("community_id", .str contract.communityId), ("subject_id", .str contract.subjectId),
      ("baseline_snapshot_id", .str contract.baselineSnapshotId),
      ("baseline_status", .str contract.baselineStatus),
      ("baseline_fingerprint", .str contract.baselineFingerprint),
      ("facts", .tuple (contract.facts.map ScenarioFact.asdict)),
      ("assumptions", .tuple (contract.assumptions.map ScenarioAssumption.asdict)),
      ("state", .str contract.state),
      ("supersedes_scenario_fingerprint", .ofOptional contract.supersedesScenarioFingerprint),
      ("policy_version", .str contract.policyVersion)]

variable [PyFloat F]

/-- `validate_scenario_contract_replay`. -/
def validateScenarioContractReplay (contract : ScenarioContract F) :
    Except String Bool := do
  let fingerprint ← contract.payload.sha256
  return decide (fingerprint = contract.contractFingerprint)

/-! ## Rules -/

structure PatternApplicabilityRule (F : Type) where
  ruleId : String
  patternDomain : String
  requiredFactKeys : List String
  requiredAssumptionKeys : List String
  factEquals : List (String × PyValue F)
  assumptionEquals : List (String × PyValue F)
  ruleFingerprint : String

omit [PyFloat F] in
/-- What the fingerprint of a rule covers. -/
def PatternApplicabilityRule.payload (rule : PatternApplicabilityRule F) : PyValue F :=
  .dict [("rule_id", .str rule.ruleId), ("pattern_domain", .str rule.patternDomain),
      ("required_fact_keys", .texts rule.requiredFactKeys),
      ("required_assumption_keys", .texts rule.requiredAssumptionKeys),
      ("fact_equals", .pairs rule.factEquals),
      ("assumption_equals", .pairs rule.assumptionEquals)]

/-- The arguments of `make_pattern_applicability_rule`; the expected values
are dictionaries. -/
structure RuleCall (F : Type) where
  ruleId : String
  patternDomain : String
  requiredFactKeys : List String
  requiredAssumptionKeys : List String
  factEquals : List (String × PyValue F)
  assumptionEquals : List (String × PyValue F)
  distinctFacts : (factEquals.map Prod.fst).Nodup
  distinctAssumptions : (assumptionEquals.map Prod.fst).Nodup

/-- The rule that is made, up to its fingerprint. -/
def RuleCall.draftRule (call : RuleCall F) : PatternApplicabilityRule F where
  ruleId := call.ruleId
  patternDomain := call.patternDomain
  requiredFactKeys := strippedSet call.requiredFactKeys
  requiredAssumptionKeys := strippedSet call.requiredAssumptionKeys
  factEquals := sortedBy Prod.fst call.factEquals
  assumptionEquals := sortedBy Prod.fst call.assumptionEquals
  ruleFingerprint := ""

/-- `make_pattern_applicability_rule`. -/
def makePatternApplicabilityRule (call : RuleCall F) :
    Except String (PatternApplicabilityRule F) := do
  require (Text.isBlank call.ruleId = false ∧ Text.isBlank call.patternDomain = false)
    "rule id and pattern domain required"
  let fingerprint ← call.draftRule.payload.sha256
  return { call.draftRule with ruleFingerprint := fingerprint }

/-! ## Assessments -/

/-- What is read of a certified-baseline registry. -/
structure BaselineRegistry where
  applicabilityStates : List String

/-- `m13-006b-certified-baseline-v1.0.yaml`. -/
def baselineRegistry : BaselineRegistry where
  applicabilityStates := ["APPLICABLE", "NOT_APPLICABLE", "UNKNOWN"]

inductive PatternState where
  | applicable
  | notApplicable
  | unknown
  deriving DecidableEq, Repr

def PatternState.code : PatternState → String
  | applicable => "APPLICABLE"
  | notApplicable => "NOT_APPLICABLE"
  | unknown => "UNKNOWN"

/-- How far a loop over expected values came: the key it stopped at, and the
keys before whose values differ and agree. -/
structure Comparison where
  missing : Option String
  mismatched : List String
  matched : List String
  deriving DecidableEq

/-- One of the two loops over expected values. -/
def compareEach (known : List (String × PyValue F)) :
    List (String × PyValue F) → Comparison
  | [] => ⟨none, [], []⟩
  | (key, expected) :: rest =>
      match known.lookup key with
      | none => ⟨some key, [], []⟩
      | some value =>
          let later := compareEach known rest
          if value.pyEq expected then
            { later with matched := key :: later.matched }
          else { later with mismatched := key :: later.mismatched }

/-- What is found out about a pattern. -/
structure Assessment where
  state : PatternState
  reasons : List String
  matchedFacts : List String
  matchedAssumptions : List String
  deriving DecidableEq

omit [PyFloat F] in
/-- The keys of a list that are not known. -/
def missingKeys (known : List (String × PyValue F)) (keys : List String) : List String :=
  keys.filter fun key => (known.lookup key).isNone

/-- The assessment with a rule of the right domain. -/
def PatternApplicabilityRule.assess (rule : PatternApplicabilityRule F)
    (facts assumptions : List (String × PyValue F)) : Assessment :=
  let missingFacts := missingKeys facts rule.requiredFactKeys
  let missingAssumptions := missingKeys assumptions rule.requiredAssumptionKeys
  if missingFacts ≠ [] ∨ missingAssumptions ≠ [] then
    { state := .unknown
      reasons := missingFacts.map (fun key => "MISSING_FACT:" ++ key) ++
        missingAssumptions.map fun key => "MISSING_ASSUMPTION:" ++ key
      matchedFacts := []
      matchedAssumptions := [] }
  else
    let ofFacts := compareEach facts rule.factEquals
    match ofFacts.missing with
    | some key =>
        { state := .unknown
          reasons := ["MISSING_FACT:" ++ key]
          matchedFacts := ofFacts.matched
          matchedAssumptions := [] }
    | none =>
        let ofAssumptions := compareEach assumptions rule.assumptionEquals
        match ofAssumptions.missing with
        | some key =>
            { state := .unknown
              reasons := ["MISSING_ASSUMPTION:" ++ key]
              matchedFacts := ofFacts.matched
              matchedAssumptions := ofAssumptions.matched }
        | none =>
            if ofFacts.mismatched ≠ [] ∨ ofAssumptions.mismatched ≠ [] then
              { state := .notApplicable
                reasons :=
                  ofFacts.mismatched.map (fun key => "FACT_VALUE_MISMATCH:" ++ key) ++
                  ofAssumptions.mismatched.map fun key => "ASSUMPTION_VALUE_MISMATCH:" ++ key
                matchedFacts := ofFacts.matched
                matchedAssumptions := ofAssumptions.matched }
            else
              { state := .applicable
                reasons := ["GOVERNED_RULE_SATISFIED"]
                matchedFacts := ofFacts.matched ++ rule.requiredFactKeys
                matchedAssumptions :=
                  ofAssumptions.matched ++ rule.requiredAssumptionKeys }

/-- The assessment of a pattern of some domain. -/
def assessment (domain : String) (rule : Option (PatternApplicabilityRule F))
    (facts assumptions : List (String × PyValue F)) : Assessment :=
  match rule with
  | none => ⟨.unknown, ["NO_GOVERNED_APPLICABILITY_RULE"], [], []⟩
  | some rule =>
      if rule.patternDomain ≠ domain then
        ⟨.notApplicable, ["PATTERN_DOMAIN_RULE_MISMATCH"], [], []⟩
      else rule.assess facts assumptions

/-- What the fingerprint of an assessed pattern covers. -/
def PatternApplicability.payload (applicability : PatternApplicability) : PyValue F :=
  .dict [("pattern_id", .str applicability.patternId),
      ("pattern_fingerprint", .str applicability.patternFingerprint),
      ("pattern_domain", .str applicability.patternDomain),
      ("pattern_statement", .str applicability.patternStatement),
      ("state", .str applicability.state),
      ("reason_codes", .texts applicability.reasonCodes),
      ("matched_fact_keys", .texts applicability.matchedFactKeys),
      ("matched_assumption_keys", .texts applicability.matchedAssumptionKeys),
      ("source_ledger_fingerprint", .str applicability.sourceLedgerFingerprint),
      ("limitations", .texts applicability.limitations)]

/-- The assessed pattern, up to its fingerprint. -/
def draftApplicability (pattern : GovernedPatternCandidate F) (found : Assessment) :
    PatternApplicability where
  patternId := pattern.patternId
  patternFingerprint := pattern.candidateFingerprint
  patternDomain := pattern.domain
  patternStatement := pattern.statement
  state := found.state.code
  reasonCodes := sortedSet found.reasons
  matchedFactKeys := sortedSet found.matchedFacts
  matchedAssumptionKeys := sortedSet found.matchedAssumptions
  sourceLedgerFingerprint := pattern.sourceLedgerFingerprint
  limitations := pattern.limitations
  applicabilityFingerprint := ""

/-- `assess_pattern_applicability`. -/
def assessPatternApplicability (registry : BaselineRegistry)
    (pattern : GovernedPatternCandidate F) (rule : Option (PatternApplicabilityRule F))
    (facts assumptions : List (String × PyValue F)) :
    Except String PatternApplicability := do
  require (pattern.state = .promoted ∧ pattern.promotionState = .promoted)
    "M13-006B may use promoted patterns only"
  let replays ← validateCandidateReplay pattern
  require (replays = true) "pattern replay failed"
  validateFp pattern.sourceLedgerFingerprint "pattern source ledger fingerprint"
  let found := assessment pattern.domain rule facts assumptions
  require (found.state.code ∈ registry.applicabilityStates)
    "invalid applicability state"
  let applicability := draftApplicability pattern found
  let fingerprint ← (PatternApplicability.payload (F := F) applicability).sha256
  return { applicability with applicabilityFingerprint := fingerprint }

/-! ## Assembly -/

/-- The arguments of `assemble_certified_scenario_baseline`; the facts and
their sources are dictionaries. -/
structure BaselineCall (F : Type) where
  scenarioContract : ScenarioContract F
  baselineSnapshotId : String
  baselineStatus : String
  baselineFingerprint : String
  baselineCommunityId : String
  baselineSubjectId : String
  baselineFacts : List (String × PyValue F)
  baselineFactSourceFingerprints : List (String × String)
  promotedPatterns : List (GovernedPatternCandidate F)
  applicabilityRules : List (PatternApplicabilityRule F)
  registry : BaselineRegistry
  unknowns : List String
  limitations : List String
  distinctFacts : (baselineFacts.map Prod.fst).Nodup
  distinctSources : (baselineFactSourceFingerprints.map Prod.fst).Nodup

namespace BaselineCall

/-- What is asked of one fact of the contract. -/
def reconcileFact (call : BaselineCall F) (fact : ScenarioFact F) :
    Except String Unit := do
  let value ← orRaise (call.baselineFacts.lookup fact.key)
    ("scenario fact missing from certified baseline: " ++ fact.key)
  require (value.pyEq fact.value = true)
    ("scenario fact value mismatch: " ++ fact.key)
  let source ← orRaise (call.baselineFactSourceFingerprints.lookup fact.key)
    ("scenario fact source lineage missing: " ++ fact.key)
  validateFp source "baseline fact source fingerprint"
  require (source = fact.sourceFingerprint)
    ("scenario fact source lineage mismatch: " ++ fact.key)

/-- `_reconcile_contract`. -/
def reconcileContract (call : BaselineCall F) : Except String Unit := do
  let contract := call.scenarioContract
  require (contract.state = "READY") "M13-006B requires READY scenario contract"
  let replays ← validateScenarioContractReplay contract
  require (replays = true) "scenario contract replay failed"
  require (call.baselineStatus = "CERTIFIED") "certified baseline required"
  require (contract.baselineSnapshotId = call.baselineSnapshotId)
    "baseline snapshot identity mismatch"
  validateFp call.baselineFingerprint "baseline fingerprint"
  require (contract.baselineFingerprint = call.baselineFingerprint)
    "baseline fingerprint mismatch"
  contract.facts.forM call.reconcileFact

omit [PyFloat F] in
/-- `rules_by_domain.get(domain)`. -/
def rule (call : BaselineCall F) (domain : String) : Option (PatternApplicabilityRule F) :=
  call.applicabilityRules.find? fun rule => rule.patternDomain = domain

omit [PyFloat F] in
/-- The values that the contract assumes. -/
def assumptions (call : BaselineCall F) : List (String × PyValue F) :=
  call.scenarioContract.assumptions.map fun assumption =>
    (assumption.key, assumption.value)

/-- The assessment of one promoted pattern. -/
def assess (call : BaselineCall F) (pattern : GovernedPatternCandidate F) :
    Except String PatternApplicability :=
  assessPatternApplicability call.registry pattern (call.rule pattern.domain)
    call.baselineFacts call.assumptions

omit [PyFloat F] in
/-- The sources of the facts. -/
def factSources (call : BaselineCall F) : List String :=
  sortedSet (call.baselineFactSourceFingerprints.map Prod.snd)

/-- The assessed patterns, once the contract is reconciled. -/
def applicability (call : BaselineCall F) :
    Except String (List PatternApplicability) := do
  call.reconcileContract
  require (call.baselineCommunityId = call.scenarioContract.communityId)
    "community identity mismatch"
  require (call.baselineSubjectId = call.scenarioContract.subjectId)
    "subject identity mismatch"
  require
    (call.applicabilityRules.map PatternApplicabilityRule.patternDomain).Nodup
    "multiple applicability rules for same pattern domain prohibited"
  let assessed ← call.promotedPatterns.mapM call.assess
  let applicability := sortedBy PatternApplicability.patternId assessed
  require (applicability.map PatternApplicability.patternId).Nodup
    "duplicate promoted pattern ids prohibited"
  call.factSources.forM fun source =>
    validateFp source "baseline fact source fingerprint"
  return applicability

end BaselineCall

/-- What an unknown pattern adds to the unknowns for one reason. -/
def unknownItem (patternId reason : String) : String :=
  patternId ++ ":" ++ reason

/-- What the assessed patterns add to the unknowns. -/
def derivedUnknowns (applicability : List PatternApplicability) : List String :=
  (applicability.filter fun pattern => pattern.state = "UNKNOWN").flatMap
    fun pattern => pattern.reasonCodes.map (unknownItem pattern.patternId)

/-- What the assessed patterns add to the limitations. -/
def patternLimitations (applicability : List PatternApplicability) : List String :=
  (applicability.flatMap PatternApplicability.limitations).filter fun limitation => limitation ≠ ""

omit [PyFloat F] in
/-- The context of the assessed patterns, up to its fingerprint. -/
def BaselineCall.draftContext
    (call : BaselineCall F) (applicability : List PatternApplicability) :
    CertifiedScenarioBaseline F where
  scenarioId := call.scenarioContract.scenarioId
  scenarioContractFingerprint := call.scenarioContract.contractFingerprint
  communityId := call.scenarioContract.communityId
  subjectId := call.scenarioContract.subjectId
  baselineSnapshotId := call.baselineSnapshotId
  baselineFingerprint := call.baselineFingerprint
  facts := sortedBy Prod.fst call.baselineFacts
  factSourceFingerprints := call.factSources
  assumptions := sortedBy Prod.fst call.assumptions
  patternApplicability := applicability
  unknowns := sortedSet (strippedSet call.unknowns ++ derivedUnknowns applicability)
  limitations := sortedSet (strippedSet call.limitations ++ patternLimitations applicability)
  contextFingerprint := ""

/-- `assemble_certified_scenario_baseline`. -/
def assembleCertifiedScenarioBaseline (call : BaselineCall F) :
    Except String (CertifiedScenarioBaseline F) := do
  let applicability ← call.applicability
  let context := call.draftContext applicability
  let fingerprint ← context.payload.sha256
  return { context with contextFingerprint := fingerprint }

end SanTanHeights.Scenario
